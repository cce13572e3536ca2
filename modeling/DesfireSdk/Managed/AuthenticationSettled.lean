import DesfireSdk.Iso7816.Steps
import DesfireSdk.Managed.Authentication
import DesfireSdk.Managed.NativeSettled

/-! The effect of authentication on the managed state. -/
namespace DesfireSdk.Managed
open Interaction Program Model

/-- A step that talks to no card: the state stays, and an error says that nothing was sent. -/
structure LocalRun {α : Type} (card : Card) (throwing : Prop) (r : Except Fault α) (card' : Card)
    (es : Trace Environment) : Prop where
  state : card' = card
  silent : deliveries es = []
  refused : ∀ e, r = .error (.error e) → e.outcome = .notSent
  thrown : r = .error .thrown → throwing

section Keys
variable {o : Oracle Environment} {card : Card} {throwing : Prop} {α β : Type}

theorem LocalRun.ok {a : α} {es : Trace Environment} (hes : deliveries es = []) :
    LocalRun card throwing (.ok a) card es :=
  ⟨rfl,hes,by simp,by simp⟩

theorem LocalRun.error {e : Error} {es : Trace Environment} (he : e.outcome = .notSent)
    (hes : deliveries es = []) :
    LocalRun card throwing (.error (.error e) : Except Fault α) card es :=
  ⟨rfl,hes,by rintro _ ⟨⟩; exact he,by simp⟩

theorem local_bind {p : Op Card α} {f : α → Op Card β}
    (hp : Ensures some o p card (LocalRun card throwing))
    (hf : ∀ a, Ensures some o (f a) card (LocalRun card throwing)) :
    Ensures some o (p >>= f) card (LocalRun card throwing) := by
  refine ensures_bind hp ?_ ?_
  · rintro f _ es ⟨rfl,hes,hrefused,hthrown⟩
    exact ⟨rfl,hes,by rintro _ ⟨⟩; exact hrefused _ rfl,by rintro ⟨⟩; exact hthrown rfl⟩
  · rintro a _ es ⟨rfl,hes,_,_⟩
    refine (hf a).mono ?_
    rintro r _ es' ⟨rfl,hes',hrefused,hthrown⟩
    exact ⟨rfl,by rw [deliveries_append,hes,hes']; rfl,hrefused,hthrown⟩

theorem local_stopRequested {token : StopToken} :
    Ensures some o (Op.stopRequested token) card (LocalRun card throwing) :=
  fun _ => .ok rfl

theorem local_refuse {c : Prop} [Decidable c] {e : Error} (he : e.outcome = .notSent) :
    Ensures some o (Op.refuse c e) card (LocalRun card throwing) := by
  unfold Op.refuse Program.refuse
  refine ensures_ite (fun _ => ensures_fail ?_) fun _ => ensures_pure ?_
  · exact .error he rfl
  · exact .ok rfl

theorem local_ofResult {r : Result α} (hr : ∀ e, r = .error e → e.outcome = .notSent) :
    Ensures some o (Op.ofResult r) card (LocalRun card throwing) := by
  refine Op.ensures_ofResult ?_
  cases r with
  | error e => exact .error (hr e rfl) rfl
  | ok a => exact .ok rfl

/-- An outside answer, whose own error is replaced. -/
theorem LocalRun.answer {r : Except Fault α} {change : Error → Error} {es : Trace Environment}
    (hchange : ∀ e, (change e).outcome = .notSent) (hes : deliveries es = []) :
    LocalRun card True (Op.changeError change r card).1 (Op.changeError change r card).2 es := by
  rcases r with (e | _) | a
  · exact .error (hchange e) hes
  · exact ⟨rfl,hes,by simp,fun _ => trivial⟩
  · exact .ok hes

theorem local_catchAll {p : Op Card α} {e : Error} (he : e.outcome = .notSent)
    (hp : Ensures some o p card (LocalRun card True)) :
    Ensures some o (Op.catchAll id e p) card (LocalRun card throwing) := by
  refine Op.ensures_catchAll (hp.mono ?_)
  rintro ((e' | _) | a) _ es ⟨rfl,hes,hrefused,_⟩
  · exact .error (hrefused e' rfl) hes
  · exact .error he hes
  · exact .ok hes

theorem deriveOnce_local (masterKey : Aes128Key) (context : Aes128DerivationContext) :
    Ensures some o (deriveOnce masterKey context) card (LocalRun card False) := by
  refine local_bind (local_refuse (by rfl)) fun _ => ?_
  refine local_bind local_stopRequested fun _ => local_bind (local_refuse (by rfl)) fun _ => ?_
  refine local_catchAll (by rfl) (local_bind (Op.ensures_mapError (Op.ensures_derive fun _ => ?_))
    fun _ => ?_)
  · exact .answer (fun _ => rfl) rfl
  refine local_bind local_stopRequested fun _ => local_bind (local_refuse (by rfl)) fun _ => ?_
  exact local_bind (local_refuse (by rfl)) fun _ => ensures_pure (.ok rfl)

theorem resolveOnce_local (request : KeyRequest) :
    Ensures some o (resolveOnce request) card (LocalRun card False) := by
  refine local_bind local_stopRequested fun _ => ?_
  refine ensures_ite (fun _ => local_bind (ensures_pure (.ok rfl)) fun _ => ?_)
    fun _ => local_bind local_stopRequested fun _ => ?_
  all_goals
    refine local_bind (local_refuse (by rfl)) fun _ => ?_
    refine local_catchAll (by rfl) (local_bind (Op.ensures_mapError (Op.ensures_ofResult ?_))
      fun _ => local_bind (Op.ensures_mapError (Op.ensures_resolve fun _ => ?_)) fun _ => ?_)
    · exact .answer (fun _ => rfl) rfl
    · exact .answer (fun _ => rfl) rfl
    refine local_bind local_stopRequested fun _ => local_bind (local_refuse (by rfl)) fun _ => ?_
    exact local_bind (local_refuse (by rfl)) fun _ => ensures_pure (.ok rfl)

theorem validateDerivationContext_error {context : Aes128DerivationContext} {e : Error}
    (h : validateDerivationContext context = .error e) : e.outcome = .notSent := by
  unfold validateDerivationContext at h
  split at h <;> cases h
  rfl

theorem validateIsoContextKey_error {context : Aes128DerivationContext}
    {reference : Iso7816.Checked.KeyReference} {e : Error}
    (h : validateIsoContextKey context reference = .error e) : e.outcome = .notSent := by
  unfold validateIsoContextKey at h
  split at h <;> cases h
  rfl

theorem validateProviderRequest_error {request : KeyRequest} {profile : AuthenticationProfile}
    {isoKey : Option Iso7816.Checked.KeyReference} {e : Error}
    (h : validateProviderRequest request profile isoKey = .error e) : e.outcome = .notSent := by
  unfold validateProviderRequest at h
  cases hcontext : validateDerivationContext request.context with
  | error e' =>
    rw [hcontext] at h
    cases h
    exact validateDerivationContext_error hcontext
  | ok _ =>
    rw [hcontext] at h
    change (if request.authenticationProfile ≠ some profile then _ else _) = _ at h
    cases isoKey <;> repeat' split at h
    all_goals cases h
    all_goals rfl

/-- A key is obtained without the card; every failure says so and none escapes. -/
theorem obtainKey_local (profile : AuthenticationProfile)
    (isoKey : Option Iso7816.Checked.KeyReference) (source : KeySource) :
    Ensures some o (obtainKey profile isoKey source) card (LocalRun card False) := by
  cases source with
  | direct key => exact ensures_pure (.ok rfl)
  | derived masterKey context =>
    refine local_bind (local_ofResult fun _ => validateDerivationContext_error) fun _ => ?_
    cases isoKey with
    | none => exact deriveOnce_local _ _
    | some reference =>
      exact local_bind (local_ofResult fun _ => validateIsoContextKey_error)
        fun _ => deriveOnce_local _ _
  | provided request =>
    exact local_bind (local_ofResult fun _ => validateProviderRequest_error)
      fun _ => resolveOnce_local _

variable {releasing : Prop} {Released : β → Prop}

/-- A step that talks to no card, behind the check that the state is usable. -/
theorem local_settled {p : Op Card α} {f : α → Op Card β} (hinv : card.Inv)
    (husable : card.usable = true) (hp : Ensures some o p card (LocalRun card False))
    (hf : ∀ a, Ensures some o (f a) card (Settled card releasing Released)) :
    Ensures some o (p >>= f) card (Settled card releasing Released) := by
  refine ensures_bind hp ?_ ?_
  · rintro (e | _) _ es ⟨rfl,hes,hrefused,hthrown⟩
    · exact .unmoved hinv (by simp [hrefused e rfl]) (.failed husable hes)
    · exact (hthrown rfl).elim
  · rintro a _ es ⟨rfl,hes,_,_⟩
    exact (hf a).mono fun _ _ _ h => h.after hinv husable hes

/-- The checks before an authentication leave a usable state, or refuse or end it. -/
inductive PreflightRun (card : Card) (requireEv2Session : Bool) :
    Except Fault Unit → Card → Trace Environment → Prop
  | refused {e es} (he : e.outcome = .notSent) (hes : Untouched es) :
      PreflightRun card requireEv2Session (.error (.error e)) card es
  | removed {e es} (husable : card.usable = true) (hes : Untouched es) :
      PreflightRun card requireEv2Session (.error (.error e)) card.invalidate es
  | passed {es} (husable : card.usable = true)
      (hev2 : requireEv2Session = true → card.ev2Session ≠ none) (hes : Untouched es) :
      PreflightRun card requireEv2Session (.ok ()) card es

theorem preflight_runs (requireEv2Session : Bool) (options : ExchangeOptions) :
    Ensures some o (authenticationPreflightLocked requireEv2Session options) card
      (PreflightRun card requireEv2Session) := by
  refine Op.ensures_refuse_bind (fun _ => .refused rfl (by simp)) fun _ => ?_
  refine Op.ensures_stopRequested_bind fun _ => ?_
  refine Op.ensures_refuse_bind (fun _ => .refused rfl (by simp [external])) fun _ => ?_
  refine ensures_get_bind ?_
  refine Op.ensures_refuse_bind (fun _ => .refused rfl (by simp [external])) fun husable => ?_
  refine Op.ensures_refuse_bind (fun _ => .refused rfl (by simp [external])) fun hev2 => ?_
  refine checkGeneration_cases.mono ?_
  rintro _ _ _ (⟨_,rfl,rfl,rfl⟩ | ⟨rfl,rfl,rfl⟩)
  · exact .removed (by simpa using husable) (by simp [external])
  · exact .passed (by simpa using husable) (by simpa using hev2) (by simp [external])

theorem preflight_settled {requireEv2Session : Bool} {options : ExchangeOptions} {f : Unit → Op Card β}
    (hf : card.usable = true → (requireEv2Session = true → card.ev2Session ≠ none) →
      Ensures some o (f ()) card (Settled card releasing Released)) :
    Ensures some o (authenticationPreflightLocked requireEv2Session options >>= f) card
      (Settled card releasing Released) := by
  refine ensures_bind (preflight_runs _ _) ?_ ?_
  · rintro _ _ es (⟨he,hes⟩ | ⟨husable,hes⟩)
    · exact .refused he hes
    · exact .wiped (.failed husable hes.deliveries)
  · rintro _ _ es (_ | _ | ⟨husable,hev2,hes⟩)
    exact (hf husable hev2).mono fun _ _ _ h => h.quietly es hes

end Keys
/-- An authentication leaves the state, ends it, or replaces its session. -/
inductive AuthenticationRun {α : Type} (card : Card) (Fresh : α → Card → Prop) :
    Except Fault α → Card → Prop
  | kept {e} (he : e.outcome = .notSent) : AuthenticationRun card Fresh (.error (.error e)) card
  | wiped {e} : AuthenticationRun card Fresh (.error (.error e)) card.invalidate
  | renewed {a card'} (h : Fresh a card') : AuthenticationRun card Fresh (.ok a) card'

section Native
variable {o : Oracle Environment} {card : Card} {options : ExchangeOptions} {α β : Type}

theorem AuthenticationRun.settled {Fresh : α → Card → Prop} {r : Except Fault α} {card' : Card}
    {es : Trace Environment} (h : AuthenticationRun card Fresh r card') (hinv : card.Inv)
    (husable : card.usable = true) (hfresh : ∀ a card', Fresh a card' → Successor card card') :
    Settled card True (fun _ => True) r card' es := by
  cases h with
  | kept he => exact .unmoved hinv (by simp [he]) (.released husable trivial)
  | wiped => exact .wiped (.released husable trivial)
  | renewed h =>
    exact .kept (.released husable trivial) (.ok _) (hfresh _ _ h) fun _ => .inr ⟨_,rfl,trivial⟩

/-- The proof and the checks that follow it, on a state that has set its ISO session aside. -/
theorem proof_runs {M N : Type} (Material : M → Prop) {proof : Op Card M} {create : M → Result N}
    {message : String} {f : N → Op Card α} {e₀ : Error} {Fresh : α → Card → Prop}
    (hkeeps : Keeps proof) (hmaterial : Returns proof Material)
    (hf : ∀ material session, Material material → create material = .ok session →
      Ensures some o (f session) {card with isoSession := none} fun r card' _ =>
        ∃ a, r = .ok a ∧ Fresh a card') :
    Ensures some o (Op.onError (afterProof card.isoSession) proof >>= fun material => do
      checkGeneration message .unknown
      let session ← Op.onError (fun _ => Card.invalidate) (Op.mapError Error.asUnknown
        (Op.ofResult (create material)))
      f session) {card with isoSession := none} fun r card' _ =>
        AuthenticationRun card Fresh (Op.afterThrow Card.invalidate e₀ r card').1
          (Op.afterThrow Card.invalidate e₀ r card').2 := by
  refine ensures_bind (m := fun r card' _ =>
    (∃ material, r = .ok material ∧ Material material ∧ card' = {card with isoSession := none}) ∨
    (r = .error .thrown ∧ card' = {card with isoSession := none}) ∨
    ∃ e, r = .error (.error e) ∧ card' = afterProof card.isoSession e {card with isoSession := none})
    ?_ ?_ ?_
  · refine Op.ensures_onError fun h => ?_
    have hstate := hkeeps o h {card with isoSession := none}
    have hmaterial' := hmaterial o h {card with isoSession := none}
    generalize (proof o h {card with isoSession := none}).result = r at hmaterial'
    rw [hstate]
    rcases r with (e | _) | material
    · exact .inr (.inr ⟨e,rfl,rfl⟩)
    · exact .inr (.inl ⟨rfl,rfl⟩)
    · exact .inl ⟨material,rfl,hmaterial' material rfl,rfl⟩
  · rintro _ _ _ (⟨_,⟨⟩,_⟩ | ⟨⟨⟩,rfl⟩ | ⟨e,⟨⟩,rfl⟩)
    · exact .wiped
    · change AuthenticationRun card Fresh (.error (.error e))
        (afterProof card.isoSession e {card with isoSession := none})
      unfold afterProof
      by_cases he : e.outcome = .notSent
      · rw [if_pos he]
        exact .kept he
      · rw [if_neg he]
        exact .wiped
  rintro material _ _ (⟨_,⟨⟩,hmat,rfl⟩ | ⟨⟨⟩,_⟩ | ⟨_,⟨⟩,_⟩)
  refine checkGeneration_bind (fun _ => .wiped) ?_
  cases hcreate : create material with
  | error e =>
    refine ensures_bind (m := fun r card' _ => r = .error (.error e.asUnknown) ∧
      card' = Card.invalidate {card with isoSession := none}) (fun _ => ⟨rfl,rfl⟩) ?_ ?_
    · rintro _ _ _ ⟨⟨⟩,rfl⟩
      exact .wiped
    · rintro _ _ _ ⟨⟨⟩,_⟩
  | ok session =>
    refine ensures_bind_known (fun _ => ⟨rfl,rfl,rfl⟩) ((hf material session hmat hcreate).mono ?_)
    rintro _ card' _ ⟨a,rfl,h⟩
    exact .renewed h

/-- What an EV2 authentication leaves: a new ready session, which NonFirst binds to the
transaction and the counter of the previous one. -/
structure Ev2Renewed (card : Card) (first : Bool) (selector : Byte) (information : AuthenticationInfo)
    (card' : Card) : Prop where
  renewed : ∃ session : Security.Ev2.Session, session.phase = .ready ∧
    session.authentication = information ∧
    session.counter = (if first then 0 else (card.ev2Session.map (·.counter)).getD 0) ∧
    (first = false → information = (card.ev2Session.map (·.authentication)).getD {}) ∧
    card' = {card with
      isoSession := none
      standardAesSession := none
      ev2Session := some session
      authenticatedKey := some selector
      authenticationResetPending := false }

theorem nonfirst_information {τ : Type} (selector : Byte) (key : Bytes) (previous : AuthenticationInfo)
    (exchange : Security.AuthenticationExchange τ) :
    Returns (Security.Ev2.authenticateNonfirst selector key previous exchange) fun material =>
      material.information = previous := by
  refine returns_bind fun _ => Op.returns_catchAll (returns_bind fun _ => returns_bind fun _ => ?_)
  refine Op.returns_mapError (returns_bind fun _ => returns_bind fun _ => ?_)
  exact returns_pure rfl

theorem create_standardAes {material : Security.StandardAes.AuthenticationMaterial}
    {session : Security.StandardAes.Session}
    (h : Security.StandardAes.Session.create material = .ok session) : session.phase = .ready := by
  unfold Security.StandardAes.Session.create at h
  split at h <;> cases h
  rfl

theorem authenticateEv2Locked_runs {first : Bool} {keyNumber : KeyNumber} {key : Aes128Key}
    {pcdCapabilities : Bytes} :
    Ensures some o (authenticateEv2Locked first keyNumber key pcdCapabilities options) card
      fun r card' _ =>
        AuthenticationRun card (Ev2Renewed card first (UInt8.ofNat keyNumber.value)) r card' := by
  refine Op.ensures_catchAll ?_
  refine Op.ensures_refuse_bind (fun _ => .kept rfl) fun _ => ?_
  refine Op.ensures_refuse_bind (fun _ => .kept rfl) fun _ => ?_
  refine ensures_get_bind ?_
  refine begin_bind (fun _ _ he _ => .kept he) fun transaction es _ => ?_
  refine ensures_modify_bind ?_
  refine proof_runs (fun material => first = false →
      material.information = (card.ev2Session.map (·.authentication)).getD {}) (keeps_within _) ?_ ?_
  · intro o h s material hmaterial hfirst
    simp only [hfirst] at hmaterial
    exact nonfirst_information _ _ _ Native.Raw.Transaction.exchangeFrame o h transaction material
      hmaterial
  · intro material session hmaterial hcreate
    obtain ⟨hphase,hinformation,hcounter⟩ := Security.Ev2.Session.create_ok hcreate
    refine ensures_modify_bind (ensures_pure ⟨_,rfl,⟨session,hphase,rfl,hcounter,?_,rfl⟩⟩)
    exact fun hfirst => hinformation.trans (hmaterial hfirst)

theorem authenticateStandardAesLocked_runs {keyNumber : KeyNumber} {key : Aes128Key} :
    Ensures some o (authenticateStandardAesLocked keyNumber key options) card
      fun r card' _ => AuthenticationRun card (fun _ card' =>
        ∃ session : Security.StandardAes.Session, session.phase = .ready ∧ card' = {card with
          isoSession := none
          ev2Session := none
          standardAesSession := some session
          authenticatedKey := some (UInt8.ofNat keyNumber.value)
          authenticationResetPending := false }) r card' := by
  refine Op.ensures_catchAll ?_
  refine Op.ensures_refuse_bind (fun _ => .kept rfl) fun _ => ?_
  refine ensures_get_bind ?_
  refine begin_bind (fun _ _ he _ => .kept he) fun transaction es _ => ?_
  refine ensures_modify_bind ?_
  refine proof_runs (fun _ => True) (keeps_within _) (fun _ _ _ _ _ => trivial) ?_
  intro material session _ hcreate
  exact ensures_modify ⟨(),rfl,session,create_standardAes hcreate,rfl⟩

theorem Ev2Renewed.successor {first : Bool} {selector : Byte} {information : AuthenticationInfo}
    {card' : Card} (h : Ev2Renewed card first selector information card') (husable : card.usable = true) :
    Successor card card' := by
  obtain ⟨session,hphase,_,_,_,rfl⟩ := h.renewed
  refine ⟨?_,husable,⟨rfl,rfl⟩,fun _ => rfl⟩
  exact {
    native := .inl rfl
    separate := fun _ => rfl
    key := rfl
    standardReady := by simp
    ev2Ready := by rintro _ ⟨⟩; exact hphase
    isoValid := by simp
    pending := by simp
    unusable := fun h => by simp [husable] at h }

theorem standardAes_successor {session : Security.StandardAes.Session} {selector : Byte}
    (hphase : session.phase = .ready) (husable : card.usable = true) :
    Successor card {card with
      isoSession := none
      ev2Session := none
      standardAesSession := some session
      authenticatedKey := some selector
      authenticationResetPending := false } := by
  refine ⟨?_,husable,⟨rfl,rfl⟩,fun _ => rfl⟩
  exact {
    native := .inr rfl
    separate := fun _ => rfl
    key := rfl
    standardReady := by rintro _ ⟨⟩; exact hphase
    ev2Ready := by simp
    isoValid := by simp
    pending := by simp
    unusable := fun h => by simp [husable] at h }

theorem authenticateEv2Locked_settled {first : Bool} {keyNumber : KeyNumber} {key : Aes128Key}
    {pcdCapabilities : Bytes} (hinv : card.Inv) (husable : card.usable = true) :
    Ensures some o (authenticateEv2Locked first keyNumber key pcdCapabilities options) card
      (Settled card True fun _ => True) :=
  authenticateEv2Locked_runs.mono fun _ _ _ h =>
    h.settled hinv husable fun _ _ hrenewed => hrenewed.successor husable

theorem authenticateStandardAes_operated {keyNumber : KeyNumber} {source : KeySource}
    (hinv : card.Inv) : Ensures some o (authenticateStandardAes keyNumber source options) card
      (Operated card True fun _ => True) := by
  refine admitted_operated rfl (preflight_settled fun husable _ => ?_)
  refine local_settled hinv husable (obtainKey_local _ _ _) fun key => ?_
  refine authenticateStandardAesLocked_runs.mono fun _ _ _ h => h.settled hinv husable ?_
  rintro _ _ ⟨session,hphase,rfl⟩
  exact standardAes_successor hphase husable

theorem authenticateEv2FirstAes_operated {keyNumber : KeyNumber} {source : KeySource}
    {pcdCapabilities : Bytes} (hinv : card.Inv) :
    Ensures some o (authenticateEv2FirstAes keyNumber source pcdCapabilities options) card
      (Operated card True fun _ => True) := by
  refine admitted_operated rfl (preflight_settled fun husable _ => ?_)
  refine local_settled hinv husable ?_ fun _ => ?_
  · cases source with
    | direct => exact ensures_pure (.ok rfl)
    | derived | provided => exact local_refuse rfl
  refine local_settled hinv husable (obtainKey_local _ _ _) fun key => ?_
  exact authenticateEv2Locked_settled hinv husable

theorem authenticateEv2NonFirstAes_operated {keyNumber : KeyNumber} {source : KeySource}
    (hinv : card.Inv) : Ensures some o (authenticateEv2NonFirstAes keyNumber source options) card
      (Operated card True fun _ => True) := by
  refine admitted_operated rfl (preflight_settled fun husable _ => ?_)
  refine local_settled hinv husable (obtainKey_local _ _ _) fun key => ?_
  exact authenticateEv2Locked_settled hinv husable

end Native

section Iso
variable {o : Oracle Environment} {card : Card} {options : ExchangeOptions}

/-- An ISO authentication never answers a pending reset. -/
theorem authenticateIsoAesLocked_settled {reference : Iso7816.Checked.KeyReference} {key : Aes128Key}
    (hinv : card.Inv) (husable : card.usable = true) :
    Ensures some o (authenticateIsoAesLocked reference key options) card
      (Settled card False fun _ => False) := by
  refine ensures_get_bind ?_
  refine Op.ensures_refuse_bind (fun _ => .refused rfl (by simp)) fun hsettled => ?_
  have hopen : card.Open := ⟨husable,by simpa using hsettled⟩
  refine Op.ensures_refuse_bind (fun _ => .refused rfl (by simp)) fun _ => ?_
  refine ensures_modify_bind (Op.ensures_catchAll ?_)
  refine ensures_bind (m := fun r card' _ =>
    (∃ session : Iso7816.Aes.Session, r = .ok session ∧ session.valid = true ∧
      card' = card.clearAuthentication) ∨
    (r = .error .thrown ∧ card' = card.clearAuthentication) ∨
    ∃ e, r = .error (.error e) ∧ card' = afterIsoProof card e card.clearAuthentication) ?_ ?_ ?_
  · refine Op.ensures_onError ((Iso7816.Aes.authenticate_valid o reference key.view options _ _).mono ?_)
    rintro ((e | _) | session) _ es ⟨rfl,hvalid⟩
    · exact .inr (.inr ⟨e,rfl,rfl⟩)
    · exact .inr (.inl ⟨rfl,rfl⟩)
    · exact .inl ⟨session,rfl,hvalid session rfl,rfl⟩
  · rintro _ _ es (⟨_,⟨⟩,_⟩ | ⟨⟨⟩,rfl⟩ | ⟨e,⟨⟩,rfl⟩)
    · exact .wiped hopen.admits
    · change Settled card False (fun _ => False) (.error (.error e) : Except Fault Unit)
        (afterIsoProof card e card.clearAuthentication) es
      unfold afterIsoProof
      by_cases he : e.outcome = .notSent
      · rw [if_pos he]
        exact .unmoved hinv (by simp [he]) hopen.admits
      · rw [if_neg he]
        exact .wiped hopen.admits
  rintro session _ es (⟨_,⟨⟩,hvalid,rfl⟩ | ⟨⟨⟩,_⟩ | ⟨_,⟨⟩,_⟩)
  refine checkGeneration_bind (fun _ => .wiped hopen.admits) (ensures_modify ?_)
  refine .moved hopen (.ok ()) ⟨?_,husable,⟨rfl,rfl⟩,fun _ => rfl⟩
  exact {
    native := .inl rfl
    separate := by simp [Card.hasNativeSession,Card.clearAuthentication,Card.clearNativeSession]
    key := rfl
    standardReady := by simp [Card.clearAuthentication,Card.clearNativeSession]
    ev2Ready := by simp [Card.clearAuthentication,Card.clearNativeSession]
    isoValid := by rintro _ ⟨⟩; exact hvalid
    pending := by simp
    unusable := fun h => by simp [Card.clearAuthentication,Card.clearNativeSession,husable] at h }

theorem authenticateIsoAes_operated {reference : Iso7816.Checked.KeyReference} {source : KeySource}
    (hinv : card.Inv) : Ensures some o (authenticateIsoAes reference source options) card
      (Operated card False fun _ => False) := by
  refine admitted_operated rfl (preflight_settled fun husable _ => ?_)
  refine local_settled hinv husable (obtainKey_local _ _ _) fun key => ?_
  exact authenticateIsoAesLocked_settled hinv husable

end Iso
end DesfireSdk.Managed
