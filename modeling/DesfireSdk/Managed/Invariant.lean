import DesfireSdk.Managed.Execution

/-! The state invariant of a managed card, and what one operation may do to the state. -/
namespace DesfireSdk.Managed
open Interaction Program Native.Secure

namespace Card

/-- The coupled fields of a card between two operations. -/
structure Inv (card : Card) : Prop where
  native : card.standardAesSession = none ∨ card.ev2Session = none
  separate : card.hasNativeSession = true → card.isoSession = none
  key : card.authenticatedKey.isSome = card.hasNativeSession
  standardReady : ∀ session ∈ card.standardAesSession, session.phase = .ready
  ev2Ready : ∀ session ∈ card.ev2Session, session.phase = .ready
  isoValid : ∀ session ∈ card.isoSession, session.valid = true
  pending : card.authenticationResetPending = true → card.authenticated = false
  unusable : card.usable = false → card.authenticated = false ∧ card.authenticatedKey = none ∧
    card.authenticationResetPending = false ∧ card.selectedApplication = none

theorem authenticated_eq_false {card : Card} : card.authenticated = false ↔
    card.standardAesSession = none ∧ card.ev2Session = none ∧ card.isoSession = none := by
  simp [authenticated,hasNativeSession,and_assoc]

theorem invalidate_inv (card : Card) : card.invalidate.Inv where
  native := .inl rfl
  separate _ := rfl
  key := rfl
  standardReady := by simp [invalidate,clearAuthentication,clearNativeSession]
  ev2Ready := by simp [invalidate,clearAuthentication,clearNativeSession]
  isoValid := by simp [invalidate,clearAuthentication]
  pending := by simp [invalidate]
  unusable _ := ⟨rfl,rfl,rfl,rfl⟩

/-- A card without sessions is clean when its other fields fit. -/
theorem inv_of_unauthenticated {card : Card} (h : card.authenticated = false)
    (hkey : card.authenticatedKey = none) (husable : card.usable = true) : card.Inv := by
  obtain ⟨haes,hev2,hiso⟩ := authenticated_eq_false.mp h
  exact {
    native := .inl haes
    separate := fun _ => hiso
    key := by simp [hkey,hasNativeSession,haes,hev2]
    standardReady := by simp [haes]
    ev2Ready := by simp [hev2]
    isoValid := by simp [hiso]
    pending := fun _ => h
    unusable := by simp [husable] }

variable {card : Card}

/-- Clearing an authentication that is absent changes nothing. -/
theorem Inv.clearAuthentication_eq (hinv : card.Inv) (h : card.authenticated = false) :
    card.clearAuthentication = card := by
  obtain ⟨haes,hev2,hiso⟩ := authenticated_eq_false.mp h
  have hkey := hinv.key
  simp only [hasNativeSession,haes,hev2,Option.isSome_none,Bool.or_self,Option.isSome_eq_false_iff,
    Option.isNone_iff_eq_none] at hkey
  cases card
  simp_all [clearAuthentication,clearNativeSession]

end Card

/-- The state a completed operation may leave behind a card that may be used. -/
structure Successor (card card' : Card) : Prop where
  inv : card'.Inv
  usable : card'.usable = true
  bound : card.Bound card'
  settled : card.authenticationResetPending = false → card'.authenticationResetPending = false

theorem Successor.rfl {card : Card} (hinv : card.Inv) (husable : card.usable = true) :
    Successor card card :=
  ⟨hinv,husable,.rfl,id⟩

theorem Successor.trans {a b c : Card} (h : Successor a b) (h' : Successor b c) : Successor a c :=
  ⟨h'.inv,h'.usable,h.bound.trans h'.bound,fun hsettled => h'.settled (h.settled hsettled)⟩

theorem Successor.opens {card card' : Card} (h : Successor card card') (hopen : card.Open) :
    card'.Open :=
  ⟨h.usable,h.settled hopen.settled⟩

section Relations
variable {α : Type}

/-- The result is an error of a known outcome, or a value. -/
def Certain (r : Except Fault α) : Prop :=
  r ≠ .error .thrown ∧ ∀ e, r = .error (.error e) → e.outcome ≠ .unknown

theorem Certain.ok (a : α) : Certain (.ok a) := by simp [Certain]

theorem Certain.error {e : Error} (he : e.outcome ≠ .unknown) :
    Certain (.error (.error e) : Except Fault α) := by
  simp [Certain,he]

/-- A pending reset lets only a releasing operation talk to the card; any other fails. -/
structure Admits (card : Card) (releasing : Prop) (r : Except Fault α) (es : Trace Environment) : Prop where
  usable : card.usable = true
  gate : card.authenticationResetPending = true →
    releasing ∨ (deliveries es = [] ∧ ∃ e, r = .error (.error e))

/-- What one operation may do: refuse at once, end the state, or leave a successor. -/
inductive Settled (card : Card) (releasing : Prop) (Released : α → Prop) :
    Except Fault α → Card → Trace Environment → Prop
  | refused {e es} (he : e.outcome = .notSent) (hes : Untouched es) :
      Settled card releasing Released (.error (.error e)) card es
  | wiped {e es} (hadmits : Admits card releasing (.error (.error e) : Except Fault α) es) :
      Settled card releasing Released (.error (.error e)) card.invalidate es
  | kept {r card' es} (hadmits : Admits card releasing r es) (hr : Certain r)
      (hs : Successor card card')
      (hgate : card.authenticationResetPending = true →
        card'.authenticationResetPending = true ∨ ∃ a, r = .ok a ∧ Released a) :
      Settled card releasing Released r card' es

variable {card card' : Card} {releasing : Prop} {Released : α → Prop} {r : Except Fault α}
  {es : Trace Environment}

theorem Card.Open.admits (hopen : card.Open) : Admits card releasing r es :=
  ⟨hopen.usable,by simp [hopen.settled]⟩

/-- A failure without a frame is admitted whatever is pending. -/
theorem Admits.failed {e : Error} (husable : card.usable = true) (hes : deliveries es = []) :
    Admits card releasing (.error (.error e) : Except Fault α) es :=
  ⟨husable,fun _ => .inr ⟨hes,e,rfl⟩⟩

theorem Admits.released (husable : card.usable = true) (hreleasing : releasing) :
    Admits card releasing r es :=
  ⟨husable,fun _ => .inl hreleasing⟩

theorem Settled.moved (hopen : card.Open) (hr : Certain r) (hs : Successor card card') :
    Settled card releasing Released r card' es :=
  .kept hopen.admits hr hs (by simp [hopen.settled])

/-- A failure that leaves the state as it was. -/
theorem Settled.unmoved {e : Error} (hinv : card.Inv) (he : e.outcome ≠ .unknown)
    (hadmits : Admits card releasing (.error (.error e) : Except Fault α) es) :
    Settled card releasing Released (.error (.error e)) card es :=
  .kept hadmits (.error he) (.rfl hinv hadmits.usable) .inl

theorem Settled.not_thrown (h : Settled card releasing Released (.error .thrown) card' es) : False := by
  cases h with
  | kept _ hr => exact hr.1 rfl

theorem Settled.inv (h : Settled card releasing Released r card' es) (hinv : card.Inv) :
    card'.Inv := by
  cases h with
  | refused => exact hinv
  | wiped => exact card.invalidate_inv
  | kept _ _ hs => exact hs.inv

/-- After an unknown outcome the state is not used again. -/
theorem Settled.unknown {e : Error} (h : Settled card releasing Released (.error (.error e)) card' es)
    (he : e.outcome = .unknown) : card'.usable = false := by
  cases h with
  | refused hsent => rw [hsent] at he; cases he
  | wiped => rfl
  | kept _ hr => exact absurd he (hr.2 e rfl)

/-- Without a usable state the operation is refused before it asks for anything. -/
theorem Settled.unusable (h : Settled card releasing Released r card' es)
    (husable : card.usable = false) :
    card' = card ∧ Untouched es ∧ ∃ e, r = .error (.error e) := by
  cases h with
  | refused he hes => exact ⟨rfl,hes,_,rfl⟩
  | wiped hadmits => rw [hadmits.usable] at husable; cases husable
  | kept hadmits => rw [hadmits.usable] at husable; cases husable

end Relations

/-- A reset is pending, or the state is uncertain. -/
def Card.Gated (card : Card) : Prop := card.authenticationResetPending = true ∨ card.usable = false

section Gate
variable {α : Type} {card card' : Card} {releasing : Prop} {Released : α → Prop} {r : Except Fault α}
  {es : Trace Environment}

theorem Settled.gated (h : Settled card releasing Released r card' es) (hgated : card.Gated) :
    card'.Gated ∨ ∃ a, r = .ok a ∧ Released a := by
  cases h with
  | refused => exact .inl hgated
  | wiped => exact .inl (.inr rfl)
  | kept hadmits _ _ hgate =>
    rcases hgated with hpending | husable
    · exact (hgate hpending).imp .inl id
    · rw [hadmits.usable] at husable
      cases husable

/-- Behind the gate an operation that does not release it fails without a frame. -/
theorem Settled.withheld (h : Settled card releasing Released r card' es) (hgated : card.Gated)
    (hordinary : ¬releasing) : deliveries es = [] ∧ ∃ e, r = .error (.error e) := by
  have hadmitted (hadmits : Admits card releasing r es) :
      deliveries es = [] ∧ ∃ e, r = .error (.error e) := by
    rcases hgated with hpending | husable
    · exact (hadmits.gate hpending).resolve_left hordinary
    · rw [hadmits.usable] at husable
      cases husable
  cases h with
  | refused he hes => exact ⟨hes.deliveries,_,rfl⟩
  | wiped hadmits => exact hadmitted hadmits
  | kept hadmits => exact hadmitted hadmits

end Gate

section Execute
variable {o : Oracle Environment} {card card' : Card} {command : Native.Checked.Command}

theorem requireContext_iso (h : requireContext card command = .ok ()) : card.isoSession = none := by
  unfold requireContext at h
  split at h
  · cases h
  · simpa using ‹¬card.isoSession.isSome = true›

/-- A verified answer leaves a session that is ready, or none when the command ends it. -/
theorem SecureRun.ended {payload : Bytes} {es : Trace Environment}
    (hrun : SecureRun o card (secureRequest command) (.ok payload) card' es) (hinv : card.Inv)
    (hopen : card.Open) (hiso : card.isoSession = none) :
    Successor card (endSession command card') := by
  have hkey := hinv.key
  have hended : card'.isoSession = none → card'.usable = true → command.invalidatesSession = true →
      (endSession command card').Inv := by
    intro hiso' husable hends
    rw [endSession,if_pos hends]
    exact Card.inv_of_unauthenticated
      (by simp [Card.authenticated,Card.hasNativeSession,Card.clearNativeSession,hiso']) rfl husable
  have hbound : card.Bound (endSession command card') := by
    have hb := hrun.bound
    unfold endSession
    split
    · exact ⟨hb.raw,hb.generation⟩
    · exact hb
  cases hrun with
  | @ev2 session session' _ _ h hrun =>
    refine ⟨?_,by unfold endSession; split <;> exact hopen.usable,hbound,
      fun h => by unfold endSession; split <;> exact h⟩
    by_cases hends : command.invalidatesSession = true
    · exact hended hiso hopen.usable hends
    rw [endSession,if_neg hends]
    have haes : card.standardAesSession = none := hinv.native.resolve_right (by simp [h])
    have hready : session'.phase = .ready := by
      cases hrun with
      | done _ _ _ _ _ _ hacc =>
        rw [if_neg (show ¬(secureRequest command).invalidatesSession = true from hends)]
        exact hacc.ready fun hunread => hends hunread.2
    exact {
      native := .inl haes
      separate := fun _ => hiso
      key := by simpa [Card.hasNativeSession,h] using hkey
      standardReady := by simp [haes]
      ev2Ready := by rintro _ ⟨⟩; exact hready
      isoValid := by simp [hiso]
      pending := fun hpending => by simp [hopen.settled] at hpending
      unusable := fun husable => by simp [hopen.usable] at husable }
  | @standardAes session session' _ _ hev2 h hrun =>
    refine ⟨?_,by unfold endSession; split <;> exact hopen.usable,hbound,
      fun h => by unfold endSession; split <;> exact h⟩
    by_cases hends : command.invalidatesSession = true
    · exact hended hiso hopen.usable hends
    rw [endSession,if_neg hends]
    have hready : session'.phase = .ready := by
      cases hrun with
      | done _ _ _ _ _ _ hacc =>
        rw [if_neg (show ¬(secureRequest command).invalidatesSession = true from hends)]
        exact hacc.ready fun hunread => hends hunread.2
    exact {
      native := .inr hev2
      separate := fun _ => hiso
      key := by simpa [Card.hasNativeSession,h] using hkey
      standardReady := by rintro _ ⟨⟩; exact hready
      ev2Ready := by simp [hev2]
      isoValid := by simp [hiso]
      pending := fun hpending => by simp [hopen.settled] at hpending
      unusable := fun husable => by simp [hopen.usable] at husable }
  | unprotected h =>
    refine ⟨?_,by unfold endSession; split <;> exact hopen.usable,hbound,
      fun h => by unfold endSession; split <;> exact h⟩
    by_cases hends : command.invalidatesSession = true
    · exact hended hiso hopen.usable hends
    · rwa [endSession,if_neg hends]

theorem ExecuteRun.settled {r : Except Fault Bytes} {es : Trace Environment}
    (h : ExecuteRun o command card r card' es) (hinv : card.Inv) :
    Settled card False (fun _ => False) r card' es := by
  cases h with
  | refused he hes => exact .refused he hes
  | removed hopen => exact .wiped hopen.admits
  | @failed e _ _ _ hopen _ _ hrun =>
    unfold afterExchange
    by_cases hends : card.hasNativeSession = true ∨ e.outcome = .unknown
    · rw [if_pos hends,hrun.bound.invalidate]
      exact .wiped hopen.admits
    rw [if_neg hends]
    obtain ⟨hnone,he⟩ := not_or.mp hends
    cases hrun with
    | ev2 h => simp [Card.hasNativeSession,h] at hnone
    | standardAes _ h => simp [Card.hasNativeSession,h] at hnone
    | unprotected => exact .moved hopen (.error he) (.rfl hinv hopen.usable)
  | threw hopen => exact .wiped hopen.admits
  | changed hopen => exact .wiped hopen.admits
  | unparsed hopen => exact .wiped hopen.admits
  | done hopen hcontext _ hrun =>
    exact .moved hopen (.ok _) (hrun.ended hinv hopen (requireContext_iso hcontext))

theorem executeLocked_settled {options : ExchangeOptions} (hinv : card.Inv) :
    Ensures some o (executeLocked command options) card (Settled card False fun _ => False) :=
  (executeLocked_runs o command options card).mono fun _ _ _ h => h.settled hinv

end Execute
end DesfireSdk.Managed
