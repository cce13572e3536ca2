import DesfireSdk.Foundation.Calm
import DesfireSdk.Managed.AuthenticationSettled
import DesfireSdk.Managed.Keyless

/-! The key of an authentication is resolved once, and before any frame. -/
namespace DesfireSdk.Managed
open Interaction Program Model

/-- The scope of the keys that a method authenticates with. -/
def expectedScope : Option Iso7816.Checked.KeyReference → KeyScope
  | none => .native
  | some reference => if reference.value = 0 then .isoPicc else .isoApplication

/-- The call is the one its caller asked for, and it fits the method. -/
def Matches (profile : AuthenticationProfile) (isoKey : Option Iso7816.Checked.KeyReference) (source : KeySource) :
    KeyCall → Prop
  | .derive masterKey context => source = .derived masterKey context ∧ context.purpose = .authentication ∧
    ∀ reference ∈ isoKey, context.keyNumber.value = selectedKey reference
  | .resolve request => source = .provided request ∧ request.context.purpose = .authentication ∧
    request.authenticationProfile = some profile ∧ request.scope = expectedScope isoKey ∧
    ∀ reference ∈ isoKey, request.context.keyNumber.value = selectedKey reference

/-- The resolution of one key: no call, a call that failed, or a key that no cancellation followed. -/
inductive KeyStage (Match : KeyCall → Prop) (card : Card) :
    Except Fault Aes128Key → Card → Trace Environment → Prop
  | unasked {e es} (he : e.outcome = .notSent) (hes : Untouched es) : KeyStage Match card (.error (.error e)) card es
  | failed {e} (es₀ : Trace Environment) {event call reply es₁} (he : e.outcome = .notSent) (h₀ : Untouched es₀)
      (hcall : keyCallOf event = some (call,reply)) (hmatch : Match call) (h₁ : Untouched es₁) :
      KeyStage Match card (.error (.error e)) card (es₀ ++ event :: es₁)
  | obtained {key} (es₀ : Trace Environment) {event call token} (h₀ : Untouched es₀) (hcall : keyCallOf event = some (call,.ok key))
      (hmatch : Match call) (hvalid : key.valid = true) :
      KeyStage Match card (.ok key) card (es₀ ++ [event,⟨.stopRequested token,false⟩])

section Stages
variable {o : Oracle Environment} {card : Card} {Match : KeyCall → Prop} {r : Except Fault Aes128Key} {card' : Card}
  {es : Trace Environment}

theorem KeyStage.after (h : KeyStage Match card r card' es) {before : Trace Environment} (hbefore : Untouched before) :
    KeyStage Match card r card' (before ++ es) := by
  cases h with
  | unasked he hes => exact .unasked he (untouched_append.mpr ⟨hbefore,hes⟩)
  | failed es₀ he h₀ hcall hmatch h₁ =>
    rw [← List.append_assoc]
    exact .failed _ he (untouched_append.mpr ⟨hbefore,h₀⟩) hcall hmatch h₁
  | obtained es₀ h₀ hcall hmatch hvalid =>
    rw [← List.append_assoc]
    exact .obtained _ (untouched_append.mpr ⟨hbefore,h₀⟩) hcall hmatch hvalid

theorem untouched_stop (token : StopToken) (stop : Bool) : Untouched [⟨.stopRequested token,stop⟩] := by
  simp [external]

/-- One call, the cancellation that may follow it, and the check of its key. -/
theorem called_stage {call : KeyCall} {ask : Op Card Aes128Key} {token : StopToken} {change : Error → Error}
    {threw cancelled inexact : Error}
    (hask : Ensures some o ask card fun r card' es => card' = card ∧ ∃ event, es = [event] ∧
      keyCallOf event = some (call,r))
    (hmatch : Match call) (hchange : ∀ e, (change e).outcome = .notSent) (hthrew : threw.outcome = .notSent)
    (hcancelled : cancelled.outcome = .notSent) (hinexact : inexact.outcome = .notSent) :
    Ensures some o (do
      let key ← Op.mapError change ask
      let stop ← Op.stopRequested token
      Op.refuse stop cancelled
      Op.refuse (key.valid = false) inexact
      pure key) card fun r card' es =>
        KeyStage Match card (Op.afterThrow id threw r card').1 (Op.afterThrow id threw r card').2 es := by
  refine ensures_bind (m := fun r card' es => card' = card ∧ ∃ event reply, es = [event] ∧
    keyCallOf event = some (call,reply) ∧ (∀ key, r = .ok key → reply = .ok key) ∧
      ∀ e, r = .error (.error e) → e.outcome = .notSent) ?_ ?_ ?_
  · refine Op.ensures_mapError (hask.mono ?_)
    rintro ((e | _) | key) _ _ ⟨rfl,event,rfl,hcall⟩
    · exact ⟨rfl,event,_,rfl,hcall,by rintro _ ⟨⟩,by rintro _ ⟨⟩; exact hchange e⟩
    · exact ⟨rfl,event,_,rfl,hcall,by rintro _ ⟨⟩,by rintro _ ⟨⟩⟩
    · exact ⟨rfl,event,_,rfl,hcall,by rintro _ ⟨⟩; rfl,by rintro _ ⟨⟩⟩
  · rintro (e | _) _ _ ⟨rfl,event,reply,rfl,hcall,_,he⟩
    · exact .failed [] (he e rfl) untouched_nil hcall hmatch untouched_nil
    · exact .failed [] hthrew untouched_nil hcall hmatch untouched_nil
  rintro key _ _ ⟨rfl,event,reply,rfl,hcall,hreply,_⟩
  rw [hreply key rfl] at hcall
  refine Op.ensures_stopRequested_bind fun stop => ?_
  have hstop := untouched_stop token stop
  refine Op.ensures_refuse_bind (fun _ => ?_) fun hgoing => ?_
  · exact .failed [] hcancelled untouched_nil hcall hmatch hstop
  refine Op.ensures_refuse_bind (fun _ => ?_) fun hvalid => ensures_pure ?_
  · exact .failed [] hinexact untouched_nil hcall hmatch hstop
  · rw [Bool.eq_false_iff.mpr hgoing]
    exact .obtained [] untouched_nil hcall hmatch (Bool.of_not_eq_false hvalid)

theorem deriveOnce_stage {masterKey : Aes128Key} {context : Aes128DerivationContext}
    (hmatch : Match (.derive masterKey context)) :
    Ensures some o (deriveOnce masterKey context) card (KeyStage Match card) := by
  refine Op.ensures_refuse_bind (fun _ => .unasked rfl untouched_nil) fun _ => ?_
  refine Op.ensures_stopRequested_bind fun stop => ?_
  have hstop := untouched_stop .operation stop
  refine Op.ensures_refuse_bind (fun _ => .unasked rfl hstop) fun _ => ?_
  refine Op.ensures_catchAll ((called_stage ?_ hmatch ?_ ?_ ?_ ?_).mono fun _ _ _ h => h.after hstop)
  · exact Op.ensures_derive fun reply => ⟨rfl,_,rfl,rfl⟩
  · exact fun _ => rfl
  all_goals rfl

/-- The request that the provider sees is the caller's. -/
theorem make_request (request : KeyRequest) :
    KeyRequest.make request.reference request.context request.scope request.authenticationProfile = .ok request := by
  have hconsistent := request.consistent
  have hpurpose : ¬(request.context.purpose = .authentication) ≠ (request.authenticationProfile.isSome = true) :=
    not_not_intro (propext hconsistent.1)
  unfold KeyRequest.make
  rw [if_neg hpurpose,dif_pos hconsistent]

theorem resolveOnce_stage {request : KeyRequest} (hmatch : Match (.resolve request)) :
    Ensures some o (resolveOnce request) card (KeyStage Match card) := by
  have hresolved : Ensures some o (Op.catchAll id
      (localResolutionError .internal "AES-128 key provider threw an exception") (do
        let effective ← Op.mapError
          (fun _ => localResolutionError .internal "Validated key request could not be copied")
          (Op.ofResult (KeyRequest.make request.reference request.context request.scope
            request.authenticationProfile))
        let resolved ← Op.mapError (fun e => localResolutionError e.code "AES-128 key provider failed")
          (Op.resolve effective)
        let stop ← Op.stopRequested .combined
        Op.refuse stop
          (localResolutionError .cancelled "Authentication cancelled after key resolution")
        Op.refuse (resolved.valid = false)
          (localResolutionError .crypto "AES-128 key provider returned no exact key")
        pure resolved) : Op Card Aes128Key) card (KeyStage Match card) := by
    rw [make_request]
    refine Op.ensures_catchAll (ensures_bind_known (fun _ => ⟨rfl,rfl,rfl⟩) (called_stage ?_ hmatch ?_ ?_ ?_ ?_))
    · exact Op.ensures_resolve fun reply => ⟨rfl,_,rfl,rfl⟩
    · exact fun _ => rfl
    all_goals rfl
  refine Op.ensures_stopRequested_bind fun requestStop => ?_
  have hrequest := untouched_stop .request requestStop
  by_cases hstopped : requestStop = true
  · rw [if_pos hstopped]
    refine ensures_pure_bind ?_
    refine Op.ensures_refuse_bind (fun _ => .unasked rfl hrequest) fun _ => ?_
    exact hresolved.mono fun _ _ _ h => h.after hrequest
  · rw [if_neg hstopped]
    refine Op.ensures_stopRequested_bind fun stop => ?_
    have hboth : Untouched [⟨.stopRequested .request,requestStop⟩,⟨.stopRequested .operation,stop⟩] := by
      simp [external]
    refine Op.ensures_refuse_bind (fun _ => .unasked rfl hboth) fun _ => ?_
    exact hresolved.mono fun _ _ _ h => h.after hboth

theorem purpose_of_validated {context : Aes128DerivationContext} (h : validateDerivationContext context = .ok ()) :
    context.purpose = .authentication := by
  unfold validateDerivationContext at h
  by_cases hpurpose : context.purpose = .authentication
  · exact hpurpose
  · rw [if_pos hpurpose] at h
    cases h

theorem number_of_validated {context : Aes128DerivationContext} {reference : Iso7816.Checked.KeyReference}
    (h : validateIsoContextKey context reference = .ok ()) : context.keyNumber.value = selectedKey reference := by
  unfold validateIsoContextKey at h
  by_cases hnumber : context.keyNumber.value = selectedKey reference
  · exact hnumber
  · rw [if_pos hnumber] at h
    cases h

theorem matches_of_validated {request : KeyRequest} {profile : AuthenticationProfile}
    {isoKey : Option Iso7816.Checked.KeyReference} (h : validateProviderRequest request profile isoKey = .ok ()) :
    Matches profile isoKey (.provided request) (.resolve request) := by
  unfold validateProviderRequest at h
  cases hcontext : validateDerivationContext request.context with
  | error e =>
    rw [hcontext] at h
    cases h
  | ok _ =>
    rw [hcontext] at h
    change (if request.authenticationProfile ≠ some profile then _ else _) = _ at h
    by_cases hprofile : request.authenticationProfile = some profile
    · rw [if_neg (not_not_intro hprofile)] at h
      refine ⟨rfl,purpose_of_validated hcontext,hprofile,?_⟩
      cases isoKey with
      | none =>
        by_cases hscope : request.scope = .native
        · exact ⟨hscope,by simp⟩
        · simp only [if_pos hscope] at h
          cases h
      | some reference =>
        by_cases hscope : request.scope = expectedScope (some reference)
        · simp only [expectedScope] at hscope
          simp only [if_neg (not_not_intro hscope)] at h
          by_cases hnumber : request.context.keyNumber.value = selectedKey reference
          · exact ⟨hscope,by rintro _ ⟨⟩; exact hnumber⟩
          · rw [if_pos hnumber] at h
            cases h
        · simp only [expectedScope] at hscope
          simp only [if_pos hscope] at h
          cases h
    · rw [if_pos hprofile] at h
      cases h

/-- A derived or provided key. -/
def KeySource.External : KeySource → Prop
  | .direct _ => False
  | _ => True

theorem obtainKey_stage (profile : AuthenticationProfile) (isoKey : Option Iso7816.Checked.KeyReference)
    {source : KeySource} (hsource : source.External) :
    Ensures some o (obtainKey profile isoKey source) card (KeyStage (Matches profile isoKey source) card) := by
  cases source with
  | direct key => exact hsource.elim
  | derived masterKey context =>
    refine Op.ensures_ofResult_bind (fun e he => ?_) fun _ hcontext => ?_
    · exact .unasked (validateDerivationContext_error he) untouched_nil
    have hpurpose := purpose_of_validated hcontext
    cases isoKey with
    | none => exact deriveOnce_stage ⟨rfl,hpurpose,by simp⟩
    | some reference =>
      refine Op.ensures_ofResult_bind (fun e he => ?_) fun _ hreference => ?_
      · exact .unasked (validateIsoContextKey_error he) untouched_nil
      · exact deriveOnce_stage ⟨rfl,hpurpose,by rintro _ ⟨⟩; exact number_of_validated hreference⟩
  | provided request =>
    refine Op.ensures_ofResult_bind (fun e he => ?_) fun _ hrequest => ?_
    · exact .unasked (validateProviderRequest_error he) untouched_nil
    · exact resolveOnce_stage (matches_of_validated hrequest)

end Stages

/-- What a card that was exchanged before an authentication is told. -/
def removedBefore : Error := ⟨.cardRemoved,"Card state changed before authentication",.notSent,0⟩

/-- The whole of an authentication: no call, a call that failed, or a key before everything else. -/
inductive KeyedRun {α : Type} (Match : KeyCall → Prop) (card : Card) :
    Except Fault α → Card → Trace Environment → Prop
  | unasked {e es} (he : e.outcome = .notSent) (hes : Untouched es) :
      KeyedRun Match card (.error (.error e)) card es
  | removed {es} (hes : Untouched es) : KeyedRun Match card (.error (.error removedBefore)) card.invalidate es
  | failed {e} (es₀ : Trace Environment) {event call reply es₁} (he : e.outcome = .notSent) (h₀ : Untouched es₀)
      (hcall : keyCallOf event = some (call,reply)) (hmatch : Match call) (h₁ : Untouched es₁) :
      KeyedRun Match card (.error (.error e)) card (es₀ ++ event :: es₁)
  | keyed (es₀ : Trace Environment) {event call key token es₁ r card'} (h₀ : Untouched es₀)
      (hcall : keyCallOf event = some (call,.ok key)) (hmatch : Match call) (hvalid : key.valid = true)
      (h₁ : keyCalls es₁ = []) : KeyedRun Match card r card' (es₀ ++ event :: ⟨.stopRequested token,false⟩ :: es₁)

/-- What an authentication without a key comes to. -/
inductive Unkeyed {α : Type} (card : Card) : Except Fault α → Card → Trace Environment → Prop
  | unlocked : Unkeyed card (.error .thrown) card [⟨.admission .card,Admission.failed⟩]
  | refused {e es} (he : e.outcome = .notSent) : Unkeyed card (.error (.error e)) card es
  | removed {es} (hes : Untouched es) : Unkeyed card (.error (.error removedBefore)) card.invalidate es

/-- A key is resolved at most once, for a request that fits the method, and before any frame; without
one nothing is sent and the state stays. -/
structure KeyFirst {α : Type} (profile : AuthenticationProfile) (isoKey : Option Iso7816.Checked.KeyReference)
    (source : KeySource) (card : Card) (r : Except Fault α) (card' : Card) (es : Trace Environment) : Prop where
  once : (keyCalls es).length ≤ 1
  matching : ∀ call ∈ keyCalls es, Matches profile isoKey source call.1
  keyed : ∀ before event after, es = before ++ event :: after → (deliveryOf event).isSome → Resolved before
  unresolved : ¬Resolved es → deliveries es = [] ∧ Unkeyed card r card' es

section Runs
variable {α β : Type} {o : Oracle Environment} {card card' : Card} {Match : KeyCall → Prop} {es : Trace Environment}
  {profile : AuthenticationProfile} {isoKey : Option Iso7816.Checked.KeyReference} {source : KeySource}

theorem deliveryOf_call {event : Event Environment} {call : KeyCall} {reply : Except Fault Aes128Key}
    (h : keyCallOf event = some (call,reply)) : deliveryOf event = none := by
  obtain ⟨query,answer⟩ := event
  cases query <;> first | rfl | cases h

/-- A key call among questions that are for nobody outside. -/
theorem keyCalls_around {es₀ es₁ : Trace Environment} {event : Event Environment} {call : KeyCall}
    {reply : Except Fault Aes128Key} (h₀ : Untouched es₀) (hcall : keyCallOf event = some (call,reply))
    (h₁ : keyCalls es₁ = []) : keyCalls (es₀ ++ event :: es₁) = [(call,reply)] := by
  have hshown : keyCalls (event :: es₁) = (call,reply) :: keyCalls es₁ := List.filterMap_cons_some hcall
  have hsplit : keyCalls (es₀ ++ event :: es₁) = keyCalls es₀ ++ keyCalls (event :: es₁) := shown_append _ _
  rw [hsplit,h₀.keyCalls,hshown,h₁]
  rfl

/-- What stands beyond a list comes after all of it. -/
theorem split_beyond {γ : Type} {xs ys before after : List γ} {b : γ} (h : xs ++ ys = before ++ b :: after)
    (hb : b ∉ xs) : ∃ rest, before = xs ++ rest := by
  rcases List.append_eq_append_iff.mp h with ⟨rest,hbefore,_⟩ | ⟨rest,hxs,hrest⟩
  · exact ⟨rest,hbefore⟩
  cases rest with
  | nil => exact ⟨[],by simpa using hxs.symm⟩
  | cons b' rest =>
    have hhead : b = b' := (List.cons.inj hrest).1
    rw [hxs,hhead] at hb
    simp at hb

theorem KeyedRun.after {r : Except Fault α} (h : KeyedRun Match card r card' es) {before : Trace Environment}
    (hbefore : Untouched before) : KeyedRun Match card r card' (before ++ es) := by
  cases h with
  | unasked he hes => exact .unasked he (untouched_append.mpr ⟨hbefore,hes⟩)
  | removed hes => exact .removed (untouched_append.mpr ⟨hbefore,hes⟩)
  | failed es₀ he h₀ hcall hmatch h₁ =>
    rw [← List.append_assoc]
    exact .failed _ he (untouched_append.mpr ⟨hbefore,h₀⟩) hcall hmatch h₁
  | keyed es₀ h₀ hcall hmatch hvalid h₁ =>
    rw [← List.append_assoc]
    exact .keyed _ (untouched_append.mpr ⟨hbefore,h₀⟩) hcall hmatch hvalid h₁

/-- No frame follows where none is handed over. -/
theorem keyed_of_silent (h : deliveries es = []) (before : Trace Environment) (event : Event Environment)
    (after : Trace Environment) (hes : es = before ++ event :: after) (hevent : (deliveryOf event).isSome) :
    Resolved before := by
  have hmem : event ∈ es := by simp [hes]
  rw [List.filterMap_eq_nil_iff.mp h event hmem] at hevent
  cases hevent

theorem KeyedRun.keyFirst {r : Except Fault α} (h : KeyedRun (Matches profile isoKey source) card r card' es) :
    KeyFirst profile isoKey source card r card' es := by
  cases h with
  | unasked he hes =>
    have hcalls := hes.keyCalls
    refine ⟨?_,?_,keyed_of_silent hes.deliveries,fun _ => ⟨hes.deliveries,.refused he⟩⟩
    · simp [hcalls]
    · simp [hcalls]
  | removed hes =>
    have hcalls := hes.keyCalls
    refine ⟨?_,?_,keyed_of_silent hes.deliveries,fun _ => ⟨hes.deliveries,.removed hes⟩⟩
    · simp [hcalls]
    · simp [hcalls]
  | failed es₀ he h₀ hcall hmatch h₁ =>
    rename_i e event call reply es₁
    have hcalls := keyCalls_around h₀ hcall h₁.keyCalls
    have hsilent : deliveries (es₀ ++ event :: es₁) = [] := by
      rw [deliveries_append,h₀.deliveries]
      exact (List.filterMap_cons_none (deliveryOf_call hcall)).trans h₁.deliveries
    refine ⟨?_,?_,keyed_of_silent hsilent,fun _ => ⟨hsilent,.refused he⟩⟩
    · simp [hcalls]
    · simpa [hcalls] using hmatch
  | keyed es₀ h₀ hcall hmatch hvalid h₁ =>
    rename_i event call key token es₁
    have hrest : keyCalls (⟨.stopRequested token,false⟩ :: es₁) = [] := h₁
    have hcalls := keyCalls_around h₀ hcall hrest
    refine ⟨?_,?_,?_,?_⟩
    · simp [hcalls]
    · simpa [hcalls] using hmatch
    · intro before d after hsplit hdelivery
      -- a frame is neither before the call, nor the call, nor the check that follows it
      have hbeyond : d ∉ es₀ ++ [event,⟨.stopRequested token,false⟩] := by
        intro hmem
        rcases List.mem_append.mp hmem with hmem | hmem
        · rw [h₀.deliveryOf_eq hmem] at hdelivery
          cases hdelivery
        · rcases List.mem_cons.mp hmem with rfl | hmem
          · rw [deliveryOf_call hcall] at hdelivery
            cases hdelivery
          · rw [List.mem_singleton.mp hmem] at hdelivery
            cases hdelivery
      have hshape : (es₀ ++ [event,⟨.stopRequested token,false⟩]) ++ es₁ = before ++ d :: after := by
        rw [← hsplit]
        simp
      obtain ⟨rest,rfl⟩ := split_beyond hshape hbeyond
      exact ⟨es₀,event,call,key,token,rest,by simp,hcall,hvalid⟩
    · intro hunresolved
      exact (hunresolved ⟨es₀,event,call,key,token,es₁,rfl,hcall,hvalid⟩).elim

theorem preflight_error (requireEv2Session : Bool) (options : ExchangeOptions) :
    Ensures some o (authenticationPreflightLocked requireEv2Session options) card fun r card' _ =>
      ∀ e, r = .error (.error e) → card' = card ∨ e = removedBefore := by
  refine Op.ensures_refuse_bind (fun _ _ _ => .inl rfl) fun _ => ?_
  refine Op.ensures_stopRequested_bind fun _ => ?_
  refine Op.ensures_refuse_bind (fun _ _ _ => .inl rfl) fun _ => ?_
  refine ensures_get_bind ?_
  refine Op.ensures_refuse_bind (fun _ _ _ => .inl rfl) fun _ => ?_
  refine Op.ensures_refuse_bind (fun _ _ _ => .inl rfl) fun _ => ?_
  refine checkGeneration_cases.mono ?_
  rintro _ _ _ (⟨_,rfl,rfl,_⟩ | ⟨rfl,_,_⟩) e he
  · cases he
    exact .inr rfl
  · cases he

/-- The lifecycle checks come before the key. -/
theorem preflight_keyed {requireEv2Session : Bool} {options : ExchangeOptions} {f : Unit → Op Card β}
    (hf : Ensures some o (f ()) card (KeyedRun Match card)) :
    Ensures some o (authenticationPreflightLocked requireEv2Session options >>= f) card (KeyedRun Match card) := by
  refine ensures_bind ((preflight_runs _ _).and (preflight_error _ _)) ?_ ?_
  · rintro _ _ es ⟨⟨he,hes⟩ | ⟨husable,hes⟩,herror⟩
    · exact .unasked he hes
    · rcases herror _ rfl with hsame | rfl
      · have hunusable : false = card.usable := congrArg Card.usable hsame
        rw [husable] at hunusable
        cases hunusable
      · exact .removed hes
  · rintro _ _ es ⟨_ | _ | ⟨_,_,hes⟩,_⟩
    exact hf.mono fun _ _ _ h => h.after hes

/-- The capabilities are checked before the key. -/
theorem capable_keyed {pcdCapabilities : Bytes} {f : Unit → Op Card β}
    (hf : Ensures some o (f ()) card (KeyedRun Match card)) :
    Ensures some o (checkCapabilities pcdCapabilities source >>= f) card (KeyedRun Match card) := by
  cases source with
  | direct key => exact ensures_pure_bind hf
  | derived | provided => exact Op.ensures_refuse_bind (fun _ => .unasked rfl untouched_nil) fun _ => hf

/-- Nothing that follows the key calls a key service. -/
theorem obtained_keyed {profile : AuthenticationProfile} {f : Aes128Key → Op Card β} (hsource : source.External)
    (hf : ∀ key, Keyless (f key)) :
    Ensures some o (obtainKey profile isoKey source >>= f) card (KeyedRun (Matches profile isoKey source) card) := by
  refine ensures_bind (obtainKey_stage profile isoKey hsource) ?_ ?_
  · rintro _ _ es (⟨he,hes⟩ | ⟨es₀,he,h₀,hcall,hmatch,h₁⟩ | _)
    · exact .unasked he hes
    · exact .failed es₀ he h₀ hcall hmatch h₁
  · rintro key _ es (_ | _ | ⟨es₀,h₀,hcall,hmatch,hvalid⟩) h
    rw [shown_some,List.append_assoc]
    exact .keyed es₀ h₀ hcall hmatch hvalid (keyCalls_of_avoided (hf key o h card))

theorem admitted_keyFirst {refusal : Error} {p : Op Card α} (hrefusal : refusal.outcome = .notSent)
    (hp : Ensures some o p card (KeyedRun (Matches profile isoKey source) card)) :
    Ensures some o (admitted refusal p) card (KeyFirst profile isoKey source card) := by
  refine (admitted_runs hp).mono ?_
  rintro _ _ _ (_ | _ | h)
  · have hsilent : deliveries [⟨.admission .card,Admission.failed⟩] = [] := rfl
    exact ⟨by decide,by rintro _ ⟨⟩,keyed_of_silent hsilent,fun _ => ⟨hsilent,.unlocked⟩⟩
  · exact (KeyedRun.unasked hrefusal (by simp [external])).keyFirst
  · exact (h.after (by simp [external])).keyFirst

end Runs

/-- The four methods with a derived or provided key, for every answer of the key services. -/
theorem keys_resolved_first (o : Oracle Environment) (card : Card) (source : KeySource) (hsource : source.External)
    (keyNumber : KeyNumber) (pcdCapabilities : Bytes) (reference : Iso7816.Checked.KeyReference)
    (options : ExchangeOptions) :
    Ensures some o (authenticateStandardAes keyNumber source options) card
      (KeyFirst .standardAes none source card) ∧
    Ensures some o (authenticateEv2FirstAes keyNumber source pcdCapabilities options) card
      (KeyFirst .ev2First none source card) ∧
    Ensures some o (authenticateEv2NonFirstAes keyNumber source options) card
      (KeyFirst .ev2NonFirst none source card) ∧
    Ensures some o (authenticateIsoAes reference source options) card
      (KeyFirst .isoAes (some reference) source card) := by
  refine ⟨?_,?_,?_,?_⟩
  · apply admitted_keyFirst rfl
    apply preflight_keyed
    apply obtained_keyed hsource
    intro key
    exact authenticateStandardAesLocked_keyless _ _ _
  · apply admitted_keyFirst rfl
    apply preflight_keyed
    apply capable_keyed
    apply obtained_keyed hsource
    intro key
    exact authenticateEv2Locked_keyless _ _ _ _ _
  · apply admitted_keyFirst rfl
    apply preflight_keyed
    apply obtained_keyed hsource
    intro key
    exact authenticateEv2Locked_keyless _ _ _ _ _
  · apply admitted_keyFirst rfl
    apply preflight_keyed
    apply obtained_keyed hsource
    intro key
    exact authenticateIsoAesLocked_keyless _ _ _

/-- A request for the key of an EV2 First authentication. -/
def ev2KeyRequest : KeyRequest where
  reference := ⟨[0x41],by decide⟩
  context := ⟨.authentication,⟨0,by decide⟩,none,none,[],[],by simp,by decide⟩
  scope := .native
  authenticationProfile := some .ev2First
  consistent := by decide

/-- A provider that claims to know nothing of the outcome. -/
theorem keys_resolved_first_failing :
    Ensures some (scripted {key := .error (.error ⟨.transport,"unreachable",.unknown,7⟩)})
      (authenticateEv2FirstAes ⟨0,by decide⟩ (.provided ev2KeyRequest) [] {}) {raw := ⟨.isoWrapped⟩,generation := 0}
      (KeyFirst .ev2First none (.provided ev2KeyRequest) {raw := ⟨.isoWrapped⟩,generation := 0}) :=
  (keys_resolved_first _ _ (.provided ev2KeyRequest) trivial _ _ .piccMaster _).2.1

end DesfireSdk.Managed
