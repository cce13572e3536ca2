import DesfireSdk.Foundation.Calm
import DesfireSdk.Interaction.Runs
import DesfireSdk.Managed.IsoSettled
import DesfireSdk.Managed.Operation
import DesfireSdk.Managed.TransactionSettled

/-! Runs of managed operations: the state invariant and the absorbing uncertain state. -/
namespace DesfireSdk.Managed
open Interaction Program Model

/-- The operations that may talk to the card behind a pending reset. -/
def Operation.releasing : Operation → Prop
  | .selectApplication _ | .authenticateStandardAes .. | .authenticateEv2FirstAes ..
  | .authenticateEv2NonFirstAes .. => True
  | .isoCommand command => command.resetsAuthentication = true
  | _ => False

/-- The replies that release a pending reset. -/
def Operation.Released : Operation → Reply → Prop
  | .isoCommand command,.response response => IsoReleased command response
  | .isoCommand _,_ => False
  | operation,_ => operation.releasing

/-- The operations that talk to the card without a transport reset. -/
def Operation.ordinary : Operation → Prop
  | .resetAuthentication | .reset => False
  | _ => True

theorem Operation.kinds (operation : Operation) :
    operation = .reset ∨ operation = .resetAuthentication ∨ operation.ordinary := by
  cases operation <;> simp [ordinary]

section Effect
variable {o : Oracle Environment} {card : Card} {options : ExchangeOptions} {operation : Operation}

theorem Operated.mapped {α β : Type} {releasing : Prop} {Released : α → Prop} {Released' : β → Prop}
    {r : Except Fault α} {card' : Card} {es : Trace Environment} (f : α → β)
    (h : Operated card releasing Released r card' es) (hreleased : ∀ a, Released a → Released' (f a)) :
    Operated card releasing Released' (r.map f) card' es := by
  cases h with
  | unlocked => exact .unlocked
  | settled h => exact .settled (h.mapped fun a _ => hreleased a)

theorem operated_returning {α : Type} {releasing : Prop} {Released : α → Prop} {p : Op Card α}
    (f : α → Reply) (hp : Ensures some o p card (Operated card releasing Released))
    {Released' : Reply → Prop} (hreleased : ∀ a, Released a → Released' (f a)) :
    Ensures some o (Op.returning f p) card (Operated card releasing Released') :=
  ensures_settle (hp.mono fun _ _ _ h => h.mapped f hreleased)

/-- Every ordinary operation settles under the card lock. -/
theorem perform_operated (options : ExchangeOptions) (hinv : card.Inv) (hordinary : operation.ordinary) :
    Ensures some o (perform operation options) card
      (Operated card operation.releasing operation.Released) := by
  cases operation with
  | selectApplication id => exact operated_returning _ (selectApplication_operated hinv) fun _ _ => trivial
  | authenticateStandardAes keyNumber source =>
    exact operated_returning _ (authenticateStandardAes_operated hinv) fun _ _ => trivial
  | authenticateEv2FirstAes keyNumber source pcdCapabilities =>
    exact operated_returning _ (authenticateEv2FirstAes_operated hinv) fun _ _ => trivial
  | authenticateEv2NonFirstAes keyNumber source =>
    exact operated_returning _ (authenticateEv2NonFirstAes_operated hinv) fun _ _ => trivial
  | authenticateIsoAes reference source =>
    exact operated_returning _ (authenticateIsoAes_operated hinv) fun _ h => h
  | isoCommand command => exact operated_returning _ (isoCommand_operated hinv) fun _ h => h
  | execute command => exact operated_returning _ (execute_operated hinv) fun _ h => h
  | executeTransaction plan returnMac =>
    exact operated_returning _ (executeTransaction_operated hinv) fun _ h => h
  | getVersion => exact operated_returning _ (getVersion_operated hinv) fun _ h => h
  | freeMemory => exact operated_returning _ (freeMemory_operated hinv) fun _ h => h
  | fileIds => exact operated_returning _ (fileIds_operated hinv) fun _ h => h
  | dfNames => exact operated_returning _ (dfNames_operated hinv) fun _ h => h
  | resetAuthentication | reset => exact hordinary.elim

/-- A local reset is refused, or erases the sessions and asks for a resynchronization. -/
inductive EraseRun (card : Card) : Except Fault Unit → Card → Trace Environment → Prop
  | unlocked : EraseRun card (.error .thrown) card [⟨.admission .card,.failed⟩]
  | refused : EraseRun card (.error (.error busy)) card [⟨.admission .card,.busy⟩]
  | erased : EraseRun card (.ok ()) {card.clearAuthentication with
      authenticationResetPending := card.authenticationResetPending || card.authenticated}
      [⟨.admission .card,.entered⟩]

theorem resetAuthentication_runs (card : Card) :
    Ensures some o resetAuthentication card (EraseRun card) := by
  refine Op.ensures_admission_bind fun admission => ?_
  cases admission with
  | failed => exact Program.ensures_refuse_bind (fun _ => .unlocked) fun h => absurd rfl h
  | busy =>
    refine Program.ensures_refuse_bind (fun h => by cases h) fun _ => ?_
    exact Op.ensures_refuse_bind (fun _ => .refused) fun h => absurd rfl h
  | entered =>
    refine Program.ensures_refuse_bind (fun h => by cases h) fun _ => ?_
    refine Op.ensures_refuse_bind (fun h => by cases h) fun _ => ?_
    exact ensures_modify .erased

theorem EraseRun.inv {r : Except Fault Unit} {card' : Card} {es : Trace Environment}
    (h : EraseRun card r card' es) (hinv : card.Inv) : card'.Inv := by
  cases h with
  | unlocked | refused => exact hinv
  | erased =>
    cases husable : card.usable with
    | true => exact Card.inv_of_unauthenticated rfl rfl husable
    | false =>
      obtain ⟨hauth,_,hpending,hselected⟩ := hinv.unusable husable
      rw [hinv.clearAuthentication_eq hauth,hauth,Bool.or_false]
      exact hinv

theorem ResetRun.inv {r : Except Fault Unit} {card' : Card} {es : Trace Environment}
    (h : ResetRun card r card' es) (hinv : card.Inv) : card'.Inv := by
  cases h with
  | unlocked | refused => exact hinv
  | failed => exact card.invalidate_inv
  | fresh generation => exact Card.inv_of_unauthenticated rfl rfl rfl

end Effect

/-- An operation with its controls. -/
abbrev Call := Operation × ExchangeOptions

def performCall (call : Call) : Op Card Reply := perform call.1 call.2

/-- A card that was just connected. -/
def Connected (card : Card) : Prop :=
  ∃ (o : Oracle Environment) (h : Trace Environment),
    ((connect : Op Unit Card) o h ()).result = .ok card

/-- A card that some sequence of operations leaves. -/
abbrev ReachableCard : Card → Prop := Reachable (S := Environment) performCall Connected

section Runs
variable {card : Card}

theorem connected_inv (h : Connected card) : card.Inv ∧ card.usable = true := by
  obtain ⟨o,h,hresult⟩ := h
  have hconnect : Ensures some o (connect : Op Unit Card) () fun r _ _ =>
      ∀ card, r = .ok card → card.Inv ∧ card.usable = true := by
    refine Op.ensures_capabilities_bind (by simp) fun _ _ _ => ?_
    refine Op.ensures_generation_bind fun generation => ensures_pure ?_
    rintro _ ⟨⟩
    exact ⟨Card.inv_of_unauthenticated rfl rfl rfl,rfl⟩
  exact hconnect h card hresult

/-- Every way one step can go. -/
inductive StepRun (card : Card) (operation : Operation) : Run Environment Card Fault Reply → Prop
  | operated {r card' es} (hordinary : operation.ordinary)
      (h : Operated card operation.releasing operation.Released r card' es) :
      StepRun card operation ⟨r,card',es⟩
  | reset {r card' es} (hreset : operation = .reset) (h : ResetRun card r card' es) :
      StepRun card operation ⟨r.map fun _ => .done,card',es⟩
  | erase {r card' es} (herase : operation = .resetAuthentication) (h : EraseRun card r card' es) :
      StepRun card operation ⟨r.map fun _ => .done,card',es⟩

theorem step_runs (hinv : card.Inv) (step : Step Environment Call) :
    StepRun card step.operation.1 (step.run performCall card) := by
  obtain ⟨⟨operation,options⟩,o,h⟩ := step
  obtain rfl | rfl | hordinary := operation.kinds
  · have hrun := reset_runs (o := o) card h
    rw [shown_some] at hrun
    exact .reset rfl hrun
  · have hrun := resetAuthentication_runs (o := o) card h
    rw [shown_some] at hrun
    exact .erase rfl hrun
  · have hrun := perform_operated (o := o) options hinv hordinary h
    rw [shown_some] at hrun
    exact .operated hordinary hrun

theorem StepRun.inv {operation : Operation} {run : Run Environment Card Fault Reply}
    (h : StepRun card operation run) (hinv : card.Inv) : run.state.Inv := by
  cases h with
  | operated _ h =>
    cases h with
    | unlocked => exact hinv
    | settled h => exact h.inv hinv
  | reset _ h => exact h.inv hinv
  | erase _ h => exact h.inv hinv

theorem inv_of_reachable (h : ReachableCard card) : card.Inv := by
  refine h.inv ?_ ?_
  · intro card hconnected
    exact (connected_inv hconnected).1
  · intro card step hinv
    exact (step_runs hinv step).inv hinv

/-- At every boundary the coupled fields of the card fit together. -/
theorem reachable_inv (h : ReachableCard card) : card.Inv := inv_of_reachable h

/-- A connected card, and one exchange that the transport loses. -/
def freshCard : Card := {raw := ⟨.isoWrapped⟩,generation := 0}
def lostExchange : Step Environment Call := ⟨(.freeMemory,{}),scripted {},[]⟩

theorem connected_freshCard : Connected freshCard := ⟨scripted {},[],rfl⟩

/-- An operation over a reader that answers its frames in turn. -/
def answered (operation : Operation) (replies : List Bytes) : Step Environment Call :=
  ⟨(operation,{}),scripted {replies := replies.map .ok},[]⟩

theorem key_zero_bounded : 0 ≤ 63 := Nat.zero_le 63

def masterKey : Model.KeyNumber := ⟨0,key_zero_bounded⟩

/-- An authentication in which both sides draw zeros. -/
def login : Step Environment Call :=
  answered (.authenticateStandardAes masterKey (.direct zeroKey))
    [zeros 16 ++ [0x91,0xAF],zeros 16 ++ [0x91,0x00]]

theorem login_reachable : ReachableCard (login.run performCall freshCard).state :=
  .next (.initial connected_freshCard) login

/-- A login leaves a session, and an exchange that the transport loses leaves none. -/
theorem reachable_inv_login :
    (login.run performCall freshCard).state.hasNativeSession = true ∧
      (login.run performCall freshCard).state.Inv ∧
      (lostExchange.run performCall (login.run performCall freshCard).state).state.usable = false ∧
      (lostExchange.run performCall (login.run performCall freshCard).state).state.Inv :=
  ⟨rfl,reachable_inv login_reachable,rfl,reachable_inv (.next login_reachable lostExchange)⟩

/-- An unknown outcome is never followed by a usable state. -/
theorem StepRun.unknown {operation : Operation} {run : Run Environment Card Fault Reply} {e : Error}
    (h : StepRun card operation run) (hresult : run.result = .error (.error e))
    (he : e.outcome = .unknown) : run.state.usable = false := by
  cases h with
  | operated _ h =>
    cases h with
    | unlocked => cases hresult
    | settled h =>
      cases hresult
      exact h.unknown he
  | reset _ h =>
    cases h with
    | unlocked | fresh => cases hresult
    | refused => cases hresult; cases he
    | failed => rfl
  | erase _ h =>
    cases h <;> cases hresult
    cases he

/-- The step is a transport reset that succeeds. -/
def ResetSucceeds (card : Card) (step : Step Environment Call) : Prop :=
  step.operation.1 = .reset ∧ ∃ reply, (step.run performCall card).result = .ok reply

/-- The step changes nothing, asks neither the card nor a key service for anything, and returns
an error, unless the lock of the card itself threw. -/
structure TurnedAway (card : Card) (step : Step Environment Call) : Prop where
  state : (step.run performCall card).state = card
  untouched : Untouched (step.run performCall card).events
  refused : (∃ e, (step.run performCall card).result = .error (.error e)) ∨
    (step.run performCall card).events = [⟨.admission .card,.failed⟩]

theorem step_turnedAway (hinv : card.Inv) (husable : card.usable = false)
    {step : Step Environment Call} (hordinary : step.operation.1.ordinary) : TurnedAway card step := by
  have hrun := step_runs hinv step
  generalize hstep : step.run performCall card = run at hrun
  cases hrun with
  | operated _ h =>
    cases h with
    | unlocked => exact ⟨by rw [hstep],by rw [hstep]; simp [external],.inr (by rw [hstep])⟩
    | settled h =>
      obtain ⟨rfl,huntouched,e,rfl⟩ := h.unusable husable
      exact ⟨by rw [hstep],by rwa [hstep],.inl ⟨e,by rw [hstep]⟩⟩
  | reset hreset => rw [hreset] at hordinary; exact hordinary.elim
  | erase herase => rw [herase] at hordinary; exact hordinary.elim

/-- Only a successful transport reset makes an uncertain card usable again. -/
theorem step_unusable (hinv : card.Inv) (husable : card.usable = false)
    {step : Step Environment Call} (hreset : ¬ResetSucceeds card step) :
    (step.run performCall card).state.usable = false := by
  have hrun := step_runs hinv step
  generalize hstep : step.run performCall card = run at hrun
  cases hrun with
  | operated hordinary =>
    have hstate := (step_turnedAway hinv husable hordinary).state
    rw [hstep] at hstate
    rwa [hstate]
  | reset hoperation h =>
    cases h with
    | unlocked | refused => exact husable
    | failed => rfl
    | fresh => exact absurd ⟨hoperation,_,by rw [hstep]; rfl⟩ hreset
  | erase _ h => cases h <;> exact husable

/-- An unknown outcome leaves an uncertain card, which turns every operation away until a
transport reset succeeds. -/
theorem uncertain_absorbing (hcard : ReachableCard card) (step : Step Environment Call) :
    (∀ e, (step.run performCall card).result = .error (.error e) → e.outcome = .unknown →
      (step.run performCall card).state.usable = false) ∧
    (card.usable = false → ∀ steps,
      Along performCall (fun card step => ¬ResetSucceeds card step) card steps →
      (final performCall card steps).usable = false ∧
      ∀ next : Step Environment Call, next.operation.1.ordinary →
        TurnedAway (final performCall card steps) next) := by
  have hinv := inv_of_reachable hcard
  refine ⟨fun e hresult he => (step_runs hinv step).unknown hresult he,fun husable steps hsteps => ?_⟩
  obtain ⟨hinv',husable'⟩ := hsteps.final (I := fun card => card.Inv ∧ card.usable = false)
    (fun card step h hreset => ⟨(step_runs h.1 step).inv h.1,step_unusable h.1 h.2 hreset⟩) ⟨hinv,husable⟩
  exact ⟨husable',fun next hordinary => step_turnedAway hinv' husable' hordinary⟩

theorem uncertain_absorbing_lost :
    TurnedAway (lostExchange.run performCall freshCard).state lostExchange :=
  ((uncertain_absorbing (.next (.initial connected_freshCard) lostExchange) lostExchange).2 rfl []
    trivial).2 lostExchange trivial

end Runs
end DesfireSdk.Managed
