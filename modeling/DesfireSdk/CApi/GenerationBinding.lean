import DesfireSdk.CApi.RawLifecycle
import DesfireSdk.Native.Secure.Anchored

/-!
# The generation a raw session is bound to

A login records the generation that it reads after its last frame, and a protected exchange compares the
recorded one with a reading before it begins. Nothing compares either of them with a reading of the frames.
-/
namespace DesfireSdk.CApi
open Interaction Program
open Native (Exchanges)

section Calls
variable {α β : Type} {o : Oracle Environment} {entry : RawEntry}

section Looks
variable {post : Except Fault α → RawEntry → List Glance → Prop}

theorem ensures_invokeRaw {standing : Standing} {timeout : UInt32} {function : ExchangeOptions → Op RawEntry α}
    (hrefused : ∀ f, post (.error f) entry []) (hf : ∀ options, Ensures glanceOf o (function options) entry post) :
    Ensures glanceOf o (invokeRaw standing timeout function) entry post := by
  have hrefuse : ∀ {c : Prop} [Decidable c] {e : Error} {f : Unit → Op RawEntry α},
      Ensures glanceOf o (f ()) entry post → Ensures glanceOf o (Op.refuse c e >>= f) entry post :=
    fun hf => Op.ensures_refuse_bind (fun _ => hrefused _) fun _ => hf
  exact hrefuse (hrefuse (hrefuse (hrefuse (hrefuse (hf _)))))

/-- A call under a session reads the generation of the session first. -/
theorem ensures_current_bind {f : Unit → Op RawEntry α}
    (hstale : ∀ f gs, framesOf gs = [] → post (.error f) entry.clearSessions gs)
    (hf : entry.sessionGeneration ≠ 0 → Ensures glanceOf o (f ()) entry fun r entry' gs =>
      post r entry' (.reading entry.sessionGeneration :: gs)) :
    Ensures glanceOf o (requireCurrentSession >>= f) entry post := by
  refine ensures_bind (m := fun r entry' gs =>
    (∃ f, r = .error f ∧ entry' = entry.clearSessions ∧ framesOf gs = []) ∨
      r = .ok () ∧ entry' = entry ∧ entry.sessionGeneration ≠ 0 ∧ gs = [.reading entry.sessionGeneration]) ?_ ?_ ?_
  · refine ensures_get_bind (Op.ensures_refuseAfter_bind (fun _ => .inl ⟨_,rfl,rfl,rfl⟩) fun hsession => ?_)
    refine Op.ensures_generation_bind fun reading => ?_
    unfold Op.refuseAfter
    refine ensures_ite (fun _ => ensures_modify_bind (Op.ensures_reject ?_)) fun hsame => ensures_pure ?_
    · exact .inl ⟨_,rfl,rfl,rfl⟩
    · rw [Decidable.not_not.mp hsame] at hsession ⊢
      exact .inr ⟨rfl,rfl,hsession,rfl⟩
  · rintro f _ gs (⟨_,hf,rfl,hgs⟩ | ⟨hf,_⟩)
    · cases hf
      exact hstale f gs hgs
    · cases hf
  · rintro _ _ _ (⟨_,hf,_⟩ | ⟨_,rfl,hsession,rfl⟩)
    · cases hf
    · exact hf hsession

end Looks
section Logins

/-- The two frames of a login stand between readings of one generation; the last reading is the recorded one. -/
def Enrolled (entry : RawEntry) (gs : List Glance) : Prop :=
  ∃ before begun rest, framesOf before = [] ∧ Flanked begun 2 rest ∧
    gs = before ++ .reading begun :: (rest ++ [.reading entry.sessionGeneration])

theorem Enrolled.after {gs gs' : List Glance} (h : Enrolled entry gs') (hgs : framesOf gs = []) :
    Enrolled entry (gs ++ gs') := by
  obtain ⟨before,begun,rest,hbefore,hflanked,rfl⟩ := h
  refine ⟨gs ++ before,begun,rest,?_,hflanked,(List.append_assoc ..).symm⟩
  rw [framesOf,List.filterMap_append] at *
  exact List.append_eq_nil_iff.mpr ⟨hgs,hbefore⟩

/-- A call that returns has logged in. -/
def Enrols (o : Oracle Environment) (p : Op RawEntry α) : Prop :=
  ∀ entry, Ensures glanceOf o p entry fun r entry' gs => (∃ a, r = .ok a) → Enrolled entry' gs

/-- The proof of a login: its two frames. -/
def Proves (o : Oracle Environment) (p : Op RawEntry α) : Prop :=
  ∀ entry, Ensures glanceOf o p entry fun r _ gs => (∃ a, r = .ok a) →
    ∃ begun rest, gs = .reading begun :: rest ∧ Flanked begun 2 rest

/-- The end of a login: the generation is read and recorded. -/
def Records (o : Oracle Environment) (p : Op RawEntry α) : Prop :=
  ∀ entry, Ensures glanceOf o p entry fun r entry' gs => (∃ a, r = .ok a) →
    gs = [.reading entry'.sessionGeneration]

theorem no_value {f : Fault} (h : ∃ a : α, (.error f : Except Fault α) = .ok a) : False := by
  obtain ⟨a,ha⟩ := h
  cases ha

namespace Enrols
variable {p : Op RawEntry α} {f : α → Op RawEntry β}

theorem of_proof (hp : Proves o p) (hf : ∀ a, Records o (f a)) : Enrols o (p >>= f) := by
  intro entry
  refine ensures_bind (hp entry) (fun _ _ _ _ h => (no_value h).elim) fun a entry' gs h => ?_
  obtain ⟨begun,rest,rfl,hflanked⟩ := h ⟨a,rfl⟩
  refine (hf a entry').mono fun r entry'' gs' h' hr => ?_
  rw [h' hr]
  exact ⟨[],begun,rest,rfl,hflanked,rfl⟩

/-- What comes before the proof. -/
theorem bind {property : α → Prop} (hp : ∀ entry, Ensures glanceOf o p entry fun r _ gs =>
      framesOf gs = [] ∧ ∀ a, r = .ok a → property a) (hf : ∀ a, property a → Enrols o (f a)) :
    Enrols o (p >>= f) := by
  intro entry
  refine ensures_bind (hp entry) (fun _ _ _ _ h => (no_value h).elim) fun a entry' gs h => ?_
  exact (hf a (h.2 a rfl) entry').mono fun r entry'' gs' h' hr => (h' hr).after h.1

theorem aside_bind (hp : Aside o p) (hf : ∀ a, Enrols o (f a)) : Enrols o (p >>= f) := by
  have hunseen : ∀ entry, Ensures glanceOf o p entry fun r _ gs => framesOf gs = [] ∧ ∀ a, r = .ok a → True := by
    refine fun entry => (hp entry).mono ?_
    rintro _ _ _ ⟨_,rfl⟩
    exact ⟨rfl,fun _ _ => trivial⟩
  exact bind hunseen fun a _ => hf a

theorem modify_bind {g : RawEntry → RawEntry} {f : Unit → Op RawEntry β} (hf : Enrols o (f ())) :
    Enrols o (Program.modify g >>= f) :=
  fun entry => ensures_modify_bind (hf (g entry))

theorem get_bind {f : RawEntry → Op RawEntry β} (hf : ∀ entry, Enrols o (f entry)) : Enrols o (Program.get >>= f) :=
  fun entry => ensures_get_bind (hf entry entry)

theorem current_bind {f : Unit → Op RawEntry β} (hf : Enrols o (f ())) : Enrols o (requireCurrentSession >>= f) := by
  refine fun entry => ensures_current_bind (fun _ _ _ h => (no_value h).elim) fun _ => ?_
  refine (hf entry).mono fun _ _ _ h hr => ?_
  have hread : framesOf [.reading entry.sessionGeneration] = [] := rfl
  have henrolled := (h hr).after hread
  exact henrolled

theorem invokeRaw {standing : Standing} {timeout : UInt32} {function : ExchangeOptions → Op RawEntry α}
    (hf : ∀ options, Enrols o (function options)) : Enrols o (invokeRaw standing timeout function) :=
  fun entry => ensures_invokeRaw (fun _ h => (no_value h).elim) fun options => hf options entry

theorem returning (g : α → β) (hp : Enrols o p) : Enrols o (Op.returning g p) := by
  refine fun entry => Op.ensures_returning ((hp entry).mono fun r entry' gs h hr => h ?_)
  cases r with
  | error f => exact (no_value hr).elim
  | ok a => exact ⟨a,rfl⟩

end Enrols

theorem proves_frames {options : ExchangeOptions} {authenticate : Security.AuthenticationExchange
      Native.Raw.Transaction → Op Native.Raw.Transaction α}
    (hauthenticate : Exchanges o 2 (authenticate Native.Raw.Transaction.exchangeFrame)) :
    Proves o (authenticationFrames options authenticate) := by
  intro entry
  refine ensures_get_bind (ensures_bind (entry.native.begin_glances options entry) ?_ ?_)
  · exact fun _ _ _ _ h => (no_value h).elim
  rintro t _ _ ⟨rfl,⟨⟨e,he⟩,_⟩ | ⟨_,ht,rfl⟩⟩
  · cases he
  cases ht
  refine ensures_within ((hauthenticate t).mono fun r _ gs h hr => ?_)
  obtain ⟨a,rfl⟩ := hr
  exact ⟨t.generation,gs,rfl,(h a rfl).2⟩

theorem Proves.bind_result {p : Op RawEntry α} (hp : Proves o p) (f : α → Result β) :
    Proves o (p >>= fun a => Op.ofResult (f a)) := by
  intro entry
  refine ensures_bind (hp entry) (fun _ _ _ _ h => (no_value h).elim) fun a entry' gs h => ?_
  refine Op.ensures_ofResult fun _ => ?_
  rw [List.append_nil]
  exact h ⟨a,rfl⟩

theorem Proves.aside_bind {p : Op RawEntry α} {f : α → Op RawEntry β} (hp : Aside o p) (hf : ∀ a, Proves o (f a)) :
    Proves o (p >>= f) := by
  intro entry
  refine ensures_bind (hp entry) (fun _ _ _ _ h => (no_value h).elim) ?_
  rintro a _ _ ⟨rfl,rfl⟩
  exact hf a _

theorem Proves.settle {p : Op RawEntry α} {change : Except Fault α → RawEntry → Except Fault β × RawEntry}
    (hsuccess : ∀ r entry b, (change r entry).1 = .ok b → ∃ a, r = .ok a) (hp : Proves o p) :
    Proves o (Program.settle change p) := by
  refine fun entry => ensures_settle ((hp entry).mono fun r entry' gs h hr => h ?_)
  obtain ⟨b,hb⟩ := hr
  exact hsuccess r entry' b hb

theorem Records.after_result {created : Result α} {f : α → Op RawEntry β} (hf : ∀ a, Records o (f a)) :
    Records o (Op.ofResult created >>= f) :=
  fun entry => Op.ensures_ofResult_bind (fun _ _ h => (no_value h).elim) fun a _ => hf a entry

theorem records_modify (record : UInt64 → RawEntry → RawEntry)
    (hrecord : ∀ generation entry, (record generation entry).sessionGeneration = generation) :
    Records o (do
      let generation ← Op.generation
      Program.modify (record generation)) := by
  refine fun entry => Op.ensures_generation_bind fun generation => ensures_modify fun _ => ?_
  rw [hrecord]
  rfl

theorem records_modify_pure (record : UInt64 → RawEntry → RawEntry) (a : α)
    (hrecord : ∀ generation entry, (record generation entry).sessionGeneration = generation) :
    Records o (do
      let generation ← Op.generation
      Program.modify (record generation)
      pure a) := by
  refine fun entry => Op.ensures_generation_bind fun generation => ensures_modify_bind (ensures_pure fun _ => ?_)
  rw [hrecord]
  rfl

theorem checkCancelled_aside (request : KeyRequest) : Aside o (checkCancelled request : Op RawEntry Unit) := by
  unfold checkCancelled
  split
  · refine .bind (fun _ => ?_) fun stop => .refuse _ _
    exact ensures_ask_bind fun _ => ensures_ofExcept ⟨rfl,rfl⟩
  · exact .pure ()

theorem resolve_aside (adapter : KeyProviderAdapter) (checked : Model.KeyRequest) :
    Aside o (adapter.resolve checked : Op RawEntry Model.Aes128Key) := by
  refine .bind (checkCancelled_aside _) fun _ => .bind (.mapError (fun _ => ?_) _) fun key => ?_
  · exact ensures_ask_bind fun _ => ensures_ofExcept ⟨rfl,rfl⟩
  · exact .bind (.refuse _ _) fun _ => .pure key

/-- A key that a provider gives takes no frame. -/
theorem Enrols.keyProvider_bind {provider : Option KeyProvider} {request : Option KeyRequest}
    {profile : Model.AuthenticationProfile} {scope : Model.KeyScope} {keyNumber : UInt32}
    {f : Op RawEntry Model.Aes128Key → Op RawEntry β} (hf : ∀ key, Aside o key → Enrols o (f key)) :
    Enrols o (keyProvider provider request profile scope keyNumber >>= f) := by
  have hrequest : Aside o (makeKeyRequest request profile scope keyNumber : Op RawEntry _) := by
    cases request with
    | none => exact .fail _
    | some request =>
      refine .bind (.refuse _ _) fun _ => .bind (.refuse _ _) fun _ => .bind (checkCancelled_aside request) fun _ => ?_
      exact .bind (.ofResult _) fun _ => .pure _
  refine .bind (fun entry => ensures_bind (hrequest entry) ?_ ?_) hf
  · rintro f _ _ ⟨_,rfl⟩
    exact ⟨rfl,nofun⟩
  rintro made _ _ ⟨rfl,rfl⟩
  refine Op.ensures_ofResult_bind (fun _ _ => ⟨rfl,nofun⟩) fun adapter _ => ensures_pure ⟨rfl,?_⟩
  rintro _ ⟨⟩
  exact resolve_aside adapter made.2

theorem installStandardAes_enrols {key : Op RawEntry Model.Aes128Key} (hkey : Aside o key) (keyNumber : Byte)
    (options : ExchangeOptions) : Enrols o (installStandardAes key keyNumber options) := by
  refine .modify_bind (.aside_bind hkey fun key => .of_proof (proves_frames Native.Secure.authenticate_exchanges) ?_)
  refine fun material => .after_result fun session => records_modify
    (fun generation entry => {entry with standardSession := some session,sessionGeneration := generation}) ?_
  exact fun _ _ => rfl

theorem installEv2_enrols {key : Op RawEntry Model.Aes128Key} (hkey : Aside o key) (keyNumber : Byte)
    (pcdCapabilities : Bytes) (options : ExchangeOptions) :
    Enrols o (installEv2 key keyNumber pcdCapabilities options) := by
  refine .modify_bind (.aside_bind hkey fun key => .of_proof
    (proves_frames (Native.Secure.authenticateFirst_exchanges pcdCapabilities)) ?_)
  refine fun material => .after_result fun session => records_modify_pure
    (fun generation entry => {entry with ev2Session := some session,sessionGeneration := generation}) _ ?_
  exact fun _ _ => rfl

/-- A renewal reads the generation of the session it renews first. -/
theorem renewEv2_enrols {key : Op RawEntry Model.Aes128Key} (hkey : Aside o key) (keyNumber : Byte)
    (options : ExchangeOptions) : Enrols o (renewEv2 key keyNumber options) := by
  refine .current_bind (.get_bind fun entry => ?_)
  cases entry.ev2Session with
  | none => exact fun _ => Op.ensures_reject fun h => (no_value h).elim
  | some previous =>
    have hproof : Proves o (Op.onError (fun _ => RawEntry.clearSessions) do
        let key ← key
        let material ← authenticationFrames options
          (Security.Ev2.authenticateNonfirst keyNumber key.view previous.authentication)
        Op.ofResult (Security.Ev2.Session.create material previous.counter)) := by
      refine .settle Op.afterError_success (.aside_bind hkey fun key => ?_)
      exact (proves_frames (Native.Secure.authenticateNonfirst_exchanges _)).bind_result _
    refine .modify_bind (.of_proof hproof fun session => records_modify_pure
      (fun generation entry => {entry with ev2Session := some session,sessionGeneration := generation}) _ ?_)
    exact fun _ _ => rfl

end Logins
end Calls

/-- A login or a renewal of a native session. -/
def Manner.authenticates : Manner → Bool
  | .login .standardAes | .login .ev2 | .renewal => true
  | _ => false

/-- An exchange under a native session. -/
def Manner.protects : Manner → Bool
  | .secured .standardAes _ | .secured .ev2 _ => true
  | _ => false

section Calls
variable {o : Oracle Environment}

theorem perform_enrols (call : RawCall) (hcall : call.manner.authenticates = true) : Enrols o call.perform := by
  cases call with
  | authenticateStandardAes =>
    refine .returning _ (.aside_bind (.ofResult _) fun selector => .aside_bind (.ofResult _) fun key => ?_)
    exact .invokeRaw fun options => installStandardAes_enrols (.pure key) _ options
  | authenticateStandardAesProvider =>
    refine .returning _ (.keyProvider_bind fun key hkey => .invokeRaw fun options => ?_)
    exact installStandardAes_enrols hkey _ options
  | authenticateEv2FirstAes =>
    refine .returning _ (.aside_bind (.ofResult _) fun _ => .aside_bind (.ofResult _) fun selector => ?_)
    refine .aside_bind (.ofResult _) fun key => .aside_bind (.ofResult _) fun capabilities => ?_
    refine .aside_bind (.refuse _ _) fun _ => .invokeRaw fun options => ?_
    exact installEv2_enrols (.pure key) _ capabilities options
  | authenticateEv2FirstAesProvider =>
    refine .returning _ (.aside_bind (.ofResult _) fun _ => .aside_bind (.ofResult _) fun capabilities => ?_)
    refine .aside_bind (.refuse _ _) fun _ => .keyProvider_bind fun key hkey => .invokeRaw fun options => ?_
    exact installEv2_enrols hkey _ capabilities options
  | authenticateEv2NonFirstAes =>
    refine .returning _ (.aside_bind (.ofResult _) fun _ => .aside_bind (.ofResult _) fun selector => ?_)
    refine .aside_bind (.ofResult _) fun key => .invokeRaw fun options => ?_
    exact renewEv2_enrols (.pure key) _ options
  | authenticateEv2NonFirstAesProvider =>
    refine .returning _ (.aside_bind (.ofResult _) fun _ => .keyProvider_bind fun key hkey => ?_)
    exact .invokeRaw fun options => renewEv2_enrols hkey _ options
  | nativeSecureExchange standing request =>
    cases request with
    | none => cases hcall
    | some request => cases hcall
  | _ => cases hcall

section Protected

/-- Frames go out under a native session, after a reading of its generation and the one that backs them. -/
def Shielded (entry : RawEntry) (gs : List Glance) : Prop :=
  framesOf gs = [] ∨ entry.sessionGeneration ≠ 0 ∧ (entry.holds .standardAes = true ∨ entry.holds .ev2 = true) ∧
    ∃ begun rest, gs = .reading entry.sessionGeneration :: .reading begun :: rest ∧ Backed begun (some begun) rest

theorem exchangeEnding_shielded {σ : Type} [Native.Secure.SecureSession σ] {session : σ}
    {put : σ → RawEntry → RawEntry} {ended : RawEntry → RawEntry} {request : Native.Secure.Request}
    {options : ExchangeOptions} {entry : RawEntry} (hsession : entry.sessionGeneration ≠ 0)
    (hheld : entry.holds .standardAes = true ∨ entry.holds .ev2 = true)
    (hexchange : Ensures glanceOf o (Native.Secure.exchangeProtected entry.native request options) session
      fun _ _ gs => gs = [] ∨ ∃ begun rest, gs = .reading begun :: rest ∧ Backed begun (some begun) rest) :
    Ensures glanceOf o (exchangeEnding session put ended request options) entry fun _ _ gs =>
      Shielded entry (.reading entry.sessionGeneration :: gs) := by
  refine ensures_get_bind (ensures_bind (m := fun _ _ gs => Shielded entry (.reading entry.sessionGeneration :: gs))
    (Op.ensures_onError (ensures_focus (hexchange.mono ?_))) (fun _ _ _ h => h) ?_)
  · rintro _ _ _ (rfl | ⟨begun,rest,rfl,hbacked⟩)
    · exact .inl rfl
    · exact .inr ⟨hsession,hheld,begun,rest,rfl,hbacked⟩
  · intro response _ gs h
    refine ensures_modify_bind (ensures_pure ?_)
    rw [List.append_nil]
    exact h

theorem rawNativeSecureExchange_shielded (standing : Standing) (request : Option NativeSecureRequest)
    (timeout : UInt32) (output : Bool) (entry : RawEntry) :
    Ensures glanceOf o (rawNativeSecureExchange standing request timeout output) entry fun _ _ gs =>
      Shielded entry gs := by
  refine Op.ensures_ofResult_bind (fun _ _ => .inl rfl) fun made _ => ?_
  obtain ⟨request,coreRequest⟩ := made
  refine Op.ensures_refuse_bind (fun _ => .inl rfl) fun _ => ensures_invokeRaw (fun _ => .inl rfl) fun options => ?_
  refine ensures_current_bind (fun _ _ hgs => .inl hgs) fun hsession => ensures_get_bind ?_
  refine ensures_ite (fun _ => ?_) fun _ => ?_
  · cases hstandard : entry.standardSession with
    | none => exact Op.ensures_reject (.inl rfl)
    | some session =>
      refine exchangeEnding_shielded hsession (.inl ?_) (Native.Secure.standardAes_exchangeProtected_glances _ _ _ _)
      simp only [RawEntry.holds,hstandard,Option.isSome_some]
  · cases hev2 : entry.ev2Session with
    | none => exact Op.ensures_reject (.inl rfl)
    | some session =>
      refine exchangeEnding_shielded hsession (.inr ?_) (Native.Secure.ev2_exchangeProtected_glances _ _ _ _)
      simp only [RawEntry.holds,hev2,Option.isSome_some]

theorem perform_shielded (call : RawCall) (hcall : call.manner.protects = true) (entry : RawEntry) :
    Ensures glanceOf o call.perform entry fun _ _ gs => Shielded entry gs := by
  cases call with
  | nativeSecureExchange standing request timeout output =>
    exact Op.ensures_returning (rawNativeSecureExchange_shielded standing request timeout output entry)
  | _ => cases hcall

end Protected
end Calls

/-- The changes of the generation during one call fall where the call compares its readings. -/
def Watched (entry : RawEntry) (step : Step Environment RawCall) : Prop :=
  (step.operation.manner.authenticates = true →
    Reliable none (glances (step.run RawCall.perform entry).events) ∧
      (readingsOf (afterFrames 2 (glances (step.run RawCall.perform entry).events))).Pairwise (· = ·)) ∧
  (step.operation.manner.protects = true →
    Attended none (glances (step.run RawCall.perform entry).events) ∧
      ((readingsOf (glances (step.run RawCall.perform entry).events)).take 2).Pairwise (· = ·))

instance (entry : RawEntry) (step : Step Environment RawCall) : Decidable (Watched entry step) :=
  inferInstanceAs (Decidable (_ ∧ _))

/-- The generations under which the last native login handed its frames over. -/
def originAfter (origin : List UInt64) (entry : RawEntry) (step : Step Environment RawCall) : List UInt64 :=
  match step.operation.manner.authenticates,(step.run RawCall.perform entry).result with
  | true,.ok _ => (deliveries (step.run RawCall.perform entry).events).map fun d => d.handover.generation
  | _,_ => origin

/-- Protected frames are handed over under a native session and under the generation of all frames of its login. -/
def Tied (origin : List UInt64) (entry : RawEntry) (step : Step Environment RawCall) : Prop :=
  step.operation.manner.protects = true → ∀ d ∈ deliveries (step.run RawCall.perform entry).events,
    (entry.holds .standardAes = true ∨ entry.holds .ev2 = true) ∧ origin ≠ [] ∧
      ∀ generation ∈ origin, d.handover.generation = generation

/-- Every protected exchange of a run stays with the generation of its login. -/
def AlwaysTied : List UInt64 → RawEntry → List (Step Environment RawCall) → Prop
  | _,_,[] => True
  | origin,entry,step :: rest => Tied origin entry step ∧
      AlwaysTied (originAfter origin entry step) (step.run RawCall.perform entry).state rest

/-- The recorded generation of a native session is the one of its login. -/
def Rooted (origin : List UInt64) (entry : RawEntry) : Prop :=
  entry.sessionGeneration ≠ 0 → (entry.holds .standardAes = true ∨ entry.holds .ev2 = true) →
    origin ≠ [] ∧ ∀ generation ∈ origin, generation = entry.sessionGeneration

section Runs
variable {origin : List UInt64} {entry entry' : RawEntry} {step : Step Environment RawCall}

theorem step_ensures {post : Except Fault RawAnswer → RawEntry → List Glance → Prop}
    (h : Ensures glanceOf step.oracle step.operation.perform entry post) :
    post (step.run RawCall.perform entry).result (step.run RawCall.perform entry).state
      (glances (step.run RawCall.perform entry).events) :=
  h step.history

/-- A login that was watched records the generation of its frames. -/
theorem Enrolled.rooted {gs : List Glance} (h : Enrolled entry gs) (hreliable : Reliable none gs)
    (hrecorded : (readingsOf (afterFrames 2 gs)).Pairwise (· = ·)) :
    framesOf gs ≠ [] ∧ ∀ generation ∈ framesOf gs, generation = entry.sessionGeneration := by
  obtain ⟨before,begun,rest,hbefore,hflanked,rfl⟩ := h
  have hframes : framesOf (before ++ .reading begun :: (rest ++ [.reading entry.sessionGeneration])) =
      framesOf rest := by
    rw [framesOf,List.filterMap_append,← framesOf,hbefore]
    change framesOf (rest ++ [.reading entry.sessionGeneration]) = _
    rw [framesOf,List.filterMap_append]
    exact List.append_nil _
  rw [afterFrames_readings hbefore] at hrecorded
  change (readingsOf (afterFrames 2 (rest ++ [.reading entry.sessionGeneration]))).Pairwise (· = ·) at hrecorded
  rw [hflanked.afterFrames_append] at hrecorded
  have hsame : begun = entry.sessionGeneration := List.rel_of_pairwise_cons hrecorded List.mem_cons_self
  obtain ⟨last,hlater⟩ := hreliable.later hbefore
  rw [hframes,← hsame]
  refine ⟨fun hnone => ?_,hflanked.reliable hlater⟩
  have hlength := hflanked.length
  rw [hnone] at hlength
  cases hlength

/-- A protected exchange that was watched stays with the recorded generation. -/
theorem Shielded.tied {gs : List Glance} (h : Shielded entry gs) (hrooted : Rooted origin entry)
    (hattended : Attended none gs) (hbegun : ((readingsOf gs).take 2).Pairwise (· = ·)) {generation : UInt64}
    (hframe : generation ∈ framesOf gs) : (entry.holds .standardAes = true ∨ entry.holds .ev2 = true) ∧ origin ≠ [] ∧
      ∀ other ∈ origin, generation = other := by
  obtain hnone | ⟨hsession,hheld,begun,rest,rfl,hbacked⟩ := h
  · rw [hnone] at hframe
    cases hframe
  have hsame : entry.sessionGeneration = begun := List.rel_of_pairwise_cons hbegun List.mem_cons_self
  have hgeneration : generation = begun := hbacked.attended hattended generation hframe
  obtain ⟨horigin,hall⟩ := hrooted hsession hheld
  refine ⟨hheld,horigin,fun other hother => ?_⟩
  rw [hgeneration,hall other hother,hsame]

/-- A call that does not log in leaves the session with its generation, or without one. -/
theorem Fate.rooted {α : Type} {o : Oracle Environment} {manner : Manner} {r : Except Fault α}
    {es : Trace Environment} (h : Fate o entry manner r entry' es) (hrooted : Rooted origin entry)
    (hother : manner.authenticates = true → ∀ a, r ≠ .ok a) : Rooted origin entry' := by
  cases h with
  | refused | signalled => exact hrooted
  | cleared | failed | stale | unrenewed => exact fun hsession => absurd rfl hsession
  | opened session =>
    cases session with
    | standardAes | ev2 => exact absurd rfl (hother rfl _)
    | iso => exact fun _ hheld => by rcases hheld with hheld | hheld <;> cases hheld
  | lost =>
    intro hsession hheld
    obtain hheld | hheld := hheld
    · exact hrooted hsession (.inl hheld)
    · cases hheld
  | renewed => exact absurd rfl (hother rfl _)
  | carried session _ hheld =>
    intro hsession hnative
    rw [RawEntry.holds_put hheld,RawEntry.holds_put hheld] at hnative
    have hkept : (entry.put session).sessionGeneration = entry.sessionGeneration := by
      cases session <;> rfl
    rw [hkept] at hsession ⊢
    exact hrooted hsession hnative
  | @ended family =>
    intro hsession
    cases family <;> exact absurd rfl hsession

theorem rooted_step (hrooted : Rooted origin entry) (hwatched : Watched entry step) :
    Rooted (originAfter origin entry step) (step.run RawCall.perform entry).state := by
  unfold originAfter
  split
  · rename_i a hmanner hresult
    have henrolled := step_ensures (perform_enrols step.operation hmanner entry) ⟨a,hresult⟩
    obtain ⟨hreliable,hrecorded⟩ := hwatched.1 hmanner
    rw [← framesOf_glances]
    exact fun _ _ => henrolled.rooted hreliable hrecorded
  · rename_i hother
    exact (step_fate entry step).rooted hrooted fun hmanner a => hother a hmanner

theorem tied_step (hrooted : Rooted origin entry) (hwatched : Watched entry step) : Tied origin entry step := by
  intro hmanner d hd
  obtain ⟨hattended,hbegun⟩ := hwatched.2 hmanner
  have hshielded := step_ensures (perform_shielded step.operation hmanner entry)
  refine hshielded.tied hrooted hattended hbegun ?_
  rw [framesOf_glances]
  exact List.mem_map_of_mem hd

/-- A protected frame under another generation than one frame of the login. -/
theorem untied (hmanner : step.operation.manner.protects = true) {first other : UInt64} (horigin : first ∈ origin)
    (hframe : other ∈ (deliveries (step.run RawCall.perform entry).events).map fun d => d.handover.generation)
    (hother : other ≠ first) : ¬Tied origin entry step := by
  intro htied
  obtain ⟨d,hd,rfl⟩ := List.mem_map.mp hframe
  obtain ⟨_,_,hall⟩ := htied hmanner d hd
  exact hother (hall first horigin)

/-- On an opened raw channel, in every run whose changes of the generation fall where a call compares its
readings, a protected frame is handed over only under the generation of the frames of the session's login. -/
theorem protected_frames_tied {τ : Type} {o : Oracle Environment} {h : Trace Environment} {s : τ}
    (hopened : (rawOpen o h s).result = .ok entry) (steps : List (Step Environment RawCall))
    (hwatched : Along RawCall.perform Watched entry steps) : AlwaysTied [] entry steps := by
  have hrun : ∀ (steps : List (Step Environment RawCall)) (origin : List UInt64) (entry : RawEntry),
      Along RawCall.perform Watched entry steps → Rooted origin entry → AlwaysTied origin entry steps := by
    intro steps
    induction steps with
    | nil => exact fun _ _ _ _ => trivial
    | cons step rest ih =>
      intro origin entry hwatched hrooted
      exact ⟨tied_step hrooted hwatched.1,ih _ _ hwatched.2 (rooted_step hrooted hwatched.1)⟩
  have hfresh : entry.Vacant ∧ entry.sessionGeneration = 0 := rawOpen_fresh o h s entry hopened
  exact hrun steps [] entry hwatched fun hsession => absurd hfresh.2 hsession

/-- The generation is 1 for so many readings and 2 from then on. -/
def renumbered (readingsBefore : Nat) (script : Script) : Oracle Environment
  | h,.generation => if (readings h).length < readingsBefore then 1 else 2
  | h,.exchange frame options =>
    ⟨if (readings h).length < readingsBefore then 1 else 2,(scripted script h (.exchange frame options)).answer⟩
  | h,query => scripted script h query

/-- A card that answers one Standard AES login, and then a command without data. -/
def secureReader : Script :=
  {nativeReader with
    replies := [.ok (0xAF :: zeros 16),.ok (0x00 :: zeros 16),.ok [0x00,0x00,0x80,0x00,0x00,0x00,0x00,0x00,0x00]]}

/-- A command without data under a Standard AES session. -/
def plainSecureRequest : NativeSecureRequest where
  structSize := nativeSecureRequestSize
  abiVersion := abiVersion
  profile := secureProfileStandardAes
  command := 0x60
  header := none
  headerSize := 0
  data := none
  dataSize := 0
  requestCommunication := 1
  responseCommunication := 1
  minimumResponse := 0
  maximumResponse := 0
  firstFrameDataSize := sizeMax
  flags := 0
  invalidatesSession := 0
  reserved := []

def renumberedLogin (readingsBefore : Nat) : Step Environment RawCall :=
  ⟨.authenticateStandardAes .free 0 (some (zeros 16)) 16 1000,renumbered readingsBefore secureReader,[]⟩

/-- The protected command after these calls. -/
def renumberedExchange (readingsBefore : Nat) (before : List (Step Environment RawCall)) : Step Environment RawCall :=
  ⟨.nativeSecureExchange .free (some plainSecureRequest) 1000 true,renumbered readingsBefore secureReader,
    log RawCall.perform nativeEntry before⟩

def renumberedCalls (readingsBefore : Nat) : List (Step Environment RawCall) :=
  [renumberedLogin readingsBefore,renumberedExchange readingsBefore [renumberedLogin readingsBefore]]

/-- The login reads the generation six times and the exchange four times. A change that comes then ends the session
before another frame. -/
theorem protected_frames_tied_renumbered :
    let steps := renumberedCalls 10 ++ [renumberedExchange 10 (renumberedCalls 10)]
    AlwaysTied [] nativeEntry steps ∧ (final RawCall.perform nativeEntry (renumberedCalls 10)).sessionGeneration = 1 ∧
      (final RawCall.perform nativeEntry steps).sessionGeneration = 0 ∧
      (deliveries (log RawCall.perform nativeEntry steps)).length = 3 := by
  intro steps
  have hopened : (rawOpen (renumbered 10 secureReader) [] ()).result = .ok nativeEntry := rfl
  have hwatched : Along RawCall.perform Watched nativeEntry steps := by
    change Watched _ _ ∧ Watched _ _ ∧ Watched _ _ ∧ True
    decide +kernel
  exact ⟨protected_frames_tied hopened steps hwatched,by decide +kernel⟩

/-- A change between the reading after the last frame of a login and the one that is recorded, or between the
comparison of a protected exchange and the reading it begins with, goes unnoticed: the protected frame goes out
under the new generation, and the exchange returns. -/
theorem protected_frames_untied :
    (rawOpen (renumbered 5 secureReader) [] ()).result = .ok nativeEntry ∧
      ¬AlwaysTied [] nativeEntry (renumberedCalls 5) ∧ ¬AlwaysTied [] nativeEntry (renumberedCalls 7) ∧
      ((renumberedExchange 5 [renumberedLogin 5]).run RawCall.perform
        (final RawCall.perform nativeEntry [renumberedLogin 5])).result = .ok (.payload []) := by
  have huntied : ∀ n, 1 ∈ originAfter [] nativeEntry (renumberedLogin n) →
      2 ∈ (deliveries ((renumberedExchange n [renumberedLogin n]).run RawCall.perform
        (final RawCall.perform nativeEntry [renumberedLogin n])).events).map (fun d => d.handover.generation) →
      ¬AlwaysTied [] nativeEntry (renumberedCalls n) :=
    fun n hlogin hexchange htied => untied rfl hlogin hexchange (by decide) htied.2.1
  refine ⟨rfl,huntied 5 ?_ ?_,huntied 7 ?_ ?_,?_⟩
  all_goals decide +kernel

end Runs
end DesfireSdk.CApi
