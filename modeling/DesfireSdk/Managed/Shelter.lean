import DesfireSdk.Managed.Execution
import DesfireSdk.Native.Raw.Chaining

/-! The bytes behind the frames of one managed command. -/
namespace DesfireSdk.Managed
open Interaction Program Native.Secure
open Native.Raw (Carried)
open Native.Checked (Command)

/-- Some run of an operation from a state returns this result. -/
def Returned {τ α : Type} (o : Oracle Environment) (p : Op τ α) (s : τ) (r : Except Fault α) : Prop :=
  ∃ h, (p o h s).result = r

theorem ensures_returned {τ α : Type} {o : Oracle Environment} {p : Op τ α} {s : τ}
    {post : Except Fault α → τ → Trace Environment → Prop} (hp : Ensures some o p s post) :
    Ensures some o p s fun r s' es => Returned o p s r ∧ post r s' es :=
  fun h => ⟨⟨h,rfl⟩,hp h⟩

/-- The frames carry what a ready native session of the card prepared for the request. -/
inductive Sheltered (o : Oracle Environment) (card : Card) (request : Request) (ds : List Delivery) : Prop
  | ev2 (session : Security.Ev2.Session) (hsession : card.ev2Session = some session)
      (hready : session.phase = .ready) (wire : Bytes)
      (hprepared : Returned o (prepare request) session (.ok wire))
      (hcarried : Carried card.raw.framing request.command wire ds)
  | standardAes (session : Security.StandardAes.Session) (hsession : card.standardAesSession = some session)
      (hready : session.phase = .ready) (wire : Bytes)
      (hprepared : Returned o (prepare request) session (.ok wire))
      (hcarried : Carried card.raw.framing request.command wire ds)

/-- Where the frames of a command come from: there are none, a session prepared them, or the
card had no session and the command needs none. -/
inductive Conveyed (o : Oracle Environment) (card : Card) (request : Request) (ds : List Delivery) : Prop
  | withheld (h : ds = [])
  | sheltered (h : Sheltered o card request ds)
  | clear (hnative : card.hasNativeSession = false)
      (hcarried : Carried card.raw.framing request.command (clearPayload request) ds)

section Frames
variable {o : Oracle Environment} {card : Card} {request : Request} {options : ExchangeOptions}

/-- The frames of a protected exchange carry what its session prepared. -/
theorem exchangeProtected_carried {σ : Type} [SecureSession σ] {channel : Native.Raw.RawNativeChannel}
    {s : σ} (hprepare : Ensures some o (prepare request) s fun _ _ es => deliveries es = [])
    (haccept : ∀ (s : σ) response, Ensures some o (accept request response) s fun _ _ es =>
      deliveries es = []) :
    Ensures some o (exchangeProtected channel request options) s fun _ _ es =>
      deliveries es = [] ∨ ∃ wire, Returned o (prepare request) s (.ok wire) ∧
        Carried channel.framing request.command wire (deliveries es) := by
  refine (exchangeProtected_runs (ensures_returned hprepare) haccept).mono ?_
  intro r s' es hrun
  have hcarry {es₀ es₁ es₂ : Trace Environment} {wire : Bytes} {t t' : Native.Raw.Transaction}
      {r' : Except Fault Native.Raw.Response} (h₀ : deliveries es₀ = [])
      (hprep : Returned o (prepare request) s (.ok wire) ∧ deliveries es₁ = [])
      (hframing : t.framing = channel.framing)
      (hexchange : t.ExchangeRun o (rawRequest request wire) r' t' (deliveries es₂)) :
      deliveries (es₀ ++ (es₁ ++ es₂)) = [] ∨ ∃ wire, Returned o (prepare request) s (.ok wire) ∧
        Carried channel.framing request.command wire (deliveries (es₀ ++ (es₁ ++ es₂))) := by
    have hcarried := hexchange.carried
    rw [hframing] at hcarried
    simp only [deliveries_append,h₀,hprep.2,List.nil_append]
    exact .inr ⟨wire,hprep.1,hcarried⟩
  have hread {es₀ es₁ es₂ es₃ : Trace Environment} (h₃ : deliveries es₃ = [])
      (h : deliveries (es₀ ++ (es₁ ++ es₂)) = [] ∨ ∃ wire, Returned o (prepare request) s (.ok wire) ∧
        Carried channel.framing request.command wire (deliveries (es₀ ++ (es₁ ++ es₂)))) :
      deliveries (es₀ ++ (es₁ ++ (es₂ ++ es₃))) = [] ∨ ∃ wire, Returned o (prepare request) s (.ok wire) ∧
        Carried channel.framing request.command wire (deliveries (es₀ ++ (es₁ ++ (es₂ ++ es₃)))) := by
    have hsame : deliveries (es₀ ++ (es₁ ++ (es₂ ++ es₃))) = deliveries (es₀ ++ (es₁ ++ es₂)) := by
      simp only [deliveries_append,h₃,List.append_nil]
    rwa [hsame]
  cases hrun with
  | refused e he hcode es hes => exact .inl hes
  | unprepared h₀ hprep =>
    left
    rw [deliveries_append,h₀,hprep.2]
    rfl
  | failed h₀ hprep hframing _ hexchange => exact hcarry h₀ hprep hframing hexchange
  | rejected h₀ hprep hframing _ hexchange => exact hcarry h₀ hprep hframing hexchange
  | unaccepted h₀ hprep hframing _ hexchange _ hacc =>
    exact hread hacc (hcarry h₀ hprep hframing hexchange)
  | outsized h₀ hprep hframing _ hexchange _ hacc =>
    exact hread hacc (hcarry h₀ hprep hframing hexchange)
  | done h₀ hprep hframing _ hexchange _ hacc =>
    exact hread hacc (hcarry h₀ hprep hframing hexchange)

/-- Only a ready session prepares anything. -/
theorem ready_of_ev2Prepared {session : Security.Ev2.Session} {wire : Bytes}
    (h : Returned o (prepare request) session (.ok wire)) : session.phase = .ready := by
  obtain ⟨h,hresult⟩ := h
  have hcases : Ensures some o (prepare request) session (Ev2Prepare request session) := prepare_ev2Cases
  have hcase := hcases h
  rw [hresult] at hcase
  exact hcase.opened.ready

theorem ready_of_aesPrepared {session : Security.StandardAes.Session} {wire : Bytes}
    (h : Returned o (prepare request) session (.ok wire)) : session.phase = .ready := by
  obtain ⟨h,hresult⟩ := h
  have hcases : Ensures some o (prepare request) session
      (Security.StandardAes.Session.PrepareCase session (aesProtectedLength request)) := prepare_aesCases
  have hcase := hcases h
  generalize prepare request o h session = run at hresult hcase
  obtain ⟨r,s',es⟩ := run
  cases hresult
  cases hcase with
  | prepared hready => exact hready

/-- An unprotected exchange carries the command in clear. -/
theorem UnprotectedRun.carried {channel : Native.Raw.RawNativeChannel} {r : Except Fault Bytes}
    {ds : List Delivery} (h : UnprotectedRun o channel request r ds) :
    Carried channel.framing request.command (clearPayload request) ds := by
  have hcarry {t t' : Native.Raw.Transaction} {r' : Except Fault Native.Raw.Response}
      (hframing : t.framing = channel.framing)
      (hexchange : t.ExchangeRun o (rawRequest request (clearPayload request)) r' t' ds) :
      Carried channel.framing request.command (clearPayload request) ds := by
    have hcarried := hexchange.carried
    rwa [hframing] at hcarried
  cases h with
  | refused => exact Native.Raw.carried_nil _ _ _
  | failed hframing _ hexchange => exact hcarry hframing hexchange
  | rejected hframing _ hexchange => exact hcarry hframing hexchange
  | outsized hframing _ hexchange => exact hcarry hframing hexchange
  | done hframing _ hexchange => exact hcarry hframing hexchange

/-- The session that is active decides what the frames carry. -/
theorem exchangeSecure_conveyed (o : Oracle Environment) (request : Request) (options : ExchangeOptions)
    (card : Card) : Delivers o (exchangeSecure request options) card fun _ _ ds =>
      Conveyed o card request ds := by
  refine ensures_get_bind ?_
  cases hev2 : card.ev2Session with
  | some session =>
    have hprepare : Ensures some o (prepare request) session fun _ _ es => deliveries es = [] :=
      prepare_ev2Cases.mono fun _ _ _ h => h.cryptographic.deliveries
    have hprotected : Ensures some o (exchangeProtected card.raw request options) session _ :=
      exchangeProtected_carried hprepare fun s response =>
        (accept_ev2Cases response).mono fun _ _ _ h => h.cryptographic.deliveries
    refine ensures_focus (hprotected.through ?_)
    rintro r session' es (h | ⟨wire,hprepared,hcarried⟩)
    · exact .withheld h
    · exact .sheltered (.ev2 session hev2 (ready_of_ev2Prepared hprepared) wire hprepared hcarried)
  | none =>
    cases haes : card.standardAesSession with
    | some session =>
      have hprepare : Ensures some o (prepare request) session fun _ _ es => deliveries es = [] :=
        prepare_aesCases.mono fun _ _ _ h => h.cryptographic.deliveries
      have hprotected : Ensures some o (exchangeProtected card.raw request options) session _ :=
        exchangeProtected_carried hprepare fun s response =>
          (accept_aesCases response).mono fun _ _ _ h => h.cryptographic.deliveries
      refine ensures_focus (hprotected.through ?_)
      rintro r session' es (h | ⟨wire,hprepared,hcarried⟩)
      · exact .withheld h
      · exact .sheltered
          (.standardAes session haes (ready_of_aesPrepared hprepared) wire hprepared hcarried)
    | none =>
      refine (exchangeUnprotected_runs o card.raw request options card).mono ?_
      rintro r _ ds ⟨_,hrun⟩
      exact .clear (by simp [Card.hasNativeSession,hev2,haes]) (UnprotectedRun.carried hrun)

theorem checkGeneration_withholds (message : String) (outcome : Outcome) (card : Card) :
    Ensures some o (checkGeneration message outcome) card fun _ _ es => deliveries es = [] := by
  refine checkGeneration_cases.mono ?_
  rintro _ _ _ (⟨_,_,_,rfl⟩ | ⟨_,_,rfl⟩) <;> rfl

/-- What follows the exchange of a command hands nothing over. -/
theorem executeTail_withholds (command : Command) (payload : Bytes) (card : Card) :
    Ensures some o (do
      checkGeneration "Card changed during managed command" .unknown
      Op.onError (fun _ => Card.invalidate)
        (Op.ofResult (Native.Checked.checkParsed command.opcode command.header payload))
      Program.modify fun card =>
        if command.invalidatesSession then {card.clearNativeSession with authenticatedKey := none} else card
      pure payload : Op Card Bytes) card fun _ _ es => deliveries es = [] := by
  refine ensures_bind (checkGeneration_withholds _ _ card) (fun _ _ _ h => h) ?_
  intro _ card' es h
  refine ensures_bind (m := fun _ _ es => es = []) (Op.ensures_onError (Op.ensures_ofResult ?_)) ?_ ?_
  · cases Native.Checked.checkParsed command.opcode command.header payload <;> rfl
  · rintro _ _ _ rfl
    rwa [List.append_nil]
  · rintro _ _ _ rfl
    refine ensures_modify_bind (ensures_pure ?_)
    simpa using h

/-- The frames of a command that passed the context checks. -/
theorem executeLocked_conveyed (o : Oracle Environment) (command : Command) (options : ExchangeOptions)
    (card : Card) : Ensures some o (executeLocked command options) card fun _ _ es =>
      deliveries es = [] ∨ (requireContext card command = .ok () ∧
        Conveyed o card (secureRequest command) (deliveries es)) := by
  refine Op.ensures_catchAll (ensures_get_bind ?_)
  refine Op.ensures_refuse_bind (fun _ => .inl rfl) fun _ => ?_
  refine Op.ensures_refuse_bind (fun _ => .inl rfl) fun _ => ?_
  refine Op.ensures_refuse_bind (fun _ => .inl rfl) fun _ => ?_
  refine Op.ensures_refuse_bind (fun _ => .inl rfl) fun _ => ?_
  refine checkGeneration_bind (fun _ => .inl rfl) ?_
  refine Op.ensures_ofResult_bind (fun _ _ => .inl rfl) fun _ hcontext => ?_
  have hexchange := (exchangeSecure_conveyed o (secureRequest command) options card).full
  refine ensures_bind (Op.ensures_onError (hexchange.mono ?_)) ?_ ?_
    (m := fun _ _ es => Conveyed o card (secureRequest command) (deliveries es))
  · rintro (_ | _) _ _ h <;> exact h
  · intro _ _ _ h
    exact .inr ⟨hcontext,h⟩
  · intro payload card' es h
    refine (executeTail_withholds command payload card').mono ?_
    intro _ _ es' h'
    refine .inr ⟨hcontext,?_⟩
    have hsame : deliveries (⟨.generation,card.generation⟩ :: (es ++ es')) = deliveries es := by
      change deliveries (es ++ es') = deliveries es
      rw [deliveries_append,h',List.append_nil]
    rwa [hsame]

/-- A command that requires authentication is sheltered by a session or withheld. -/
theorem executeLocked_sheltered {command : Command} (hrequires : command.requiresAuthentication = true)
    (o : Oracle Environment) (options : ExchangeOptions) (card : Card) :
    Ensures some o (executeLocked command options) card fun _ _ es =>
      deliveries es = [] ∨ Sheltered o card (secureRequest command) (deliveries es) := by
  refine (executeLocked_conveyed o command options card).mono ?_
  rintro _ _ es (h | ⟨hcontext,h⟩)
  · exact .inl h
  · cases h with
    | withheld h => exact .inl h
    | sheltered h => exact .inr h
    | clear hnative _ =>
      unfold requireContext at hcontext
      rw [if_pos (show card.hasNativeSession = false ∧ command.requiresAuthentication = true from
        ⟨hnative,hrequires⟩)] at hcontext
      split at hcontext <;> cases hcontext

end Frames
end DesfireSdk.Managed
