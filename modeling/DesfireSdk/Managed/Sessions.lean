import DesfireSdk.Managed.Execution
import DesfireSdk.Native.Secure.Authentications

/-!
# Managed sessions at an honest card

A managed card that is logged in executes its commands as calls of what is on the card, under
either session family.
-/
namespace DesfireSdk.Managed
open Interaction Program Native.Secure

inductive Family
  | ev2 | standardAes
  deriving DecidableEq

/-- What the checks of a command look at. -/
structure Situation where
  family : Option Family
  iso : Bool
  authenticatedKey : Option Byte
  selectedApplication : Option Nat

def Card.situation (card : Card) : Situation where
  family := if card.ev2Session.isSome then some .ev2
    else if card.standardAesSession.isSome then some .standardAes else none
  iso := card.isoSession.isSome
  authenticatedKey := card.authenticatedKey
  selectedApplication := card.selectedApplication

/-- The same card in the same situation. -/
structure Card.Alike (card card' : Card) : Prop extends card.Bound card' where
  usable : card'.usable = card.usable
  settled : card'.authenticationResetPending = card.authenticationResetPending
  situation : card'.situation = card.situation

/-- The place of one session family in a managed card. -/
structure Slot (σ : Type) [SecureSession σ] where
  holds : Card → σ → Prop
  put : σ → Card → Card
  native : ∀ {card s}, holds card s → card.hasNativeSession = true
  put_holds : ∀ {card s}, holds card s → ∀ s', holds (put s' card) s'
  put_alike : ∀ {card s}, holds card s → ∀ s', card.Alike (put s' card)
  exchanges : ∀ {κ : Type} {observe : κ → Event Environment → κ} {start k o card s request options}
    {post : Except Fault Bytes → Card → κ → Prop}, holds card s →
    Facing observe start o k (exchangeProtected card.raw request options) s (fun r s' l => post r (put s' card) l) →
    Facing observe start o k (exchangeSecure request options) card post

def ev2Slot : Slot Security.Ev2.Session where
  holds card s := card.ev2Session = some s
  put s card := {card with ev2Session := some s}
  native := by
    intro card s h
    simp [Card.hasNativeSession,h]
  put_holds _ _ := rfl
  put_alike := by
    intro card s h s'
    exact ⟨⟨rfl,rfl⟩,rfl,rfl,by simp [Card.situation,h]⟩
  exchanges := by
    intro κ observe start k o card s request options post h hexchange
    refine Facing.get_bind ?_
    rw [h]
    exact Facing.focus hexchange

def standardAesSlot : Slot Security.StandardAes.Session where
  holds card s := card.ev2Session = none ∧ card.standardAesSession = some s
  put s card := {card with standardAesSession := some s}
  native := by
    intro card s h
    simp [Card.hasNativeSession,h.2]
  put_holds h _ := ⟨h.1,rfl⟩
  put_alike := by
    intro card s h s'
    exact ⟨⟨rfl,rfl⟩,rfl,rfl,by simp [Card.situation,h]⟩
  exchanges := by
    intro κ observe start k o card s request options post h hexchange
    refine Facing.get_bind ?_
    rw [h.1,h.2]
    exact Facing.focus hexchange

/-- A command the managed checks let through in this situation. -/
structure Admissible (situation : Situation) (command : Native.Checked.Command) : Prop where
  valid : command.valid = true
  framed : command.opcode ≠ 0x6D
  kept : command.invalidatesSession = false
  context : ∀ card : Card, card.situation = situation → requireContext card command = .ok ()

/-- The card is in use, and the transport is at its generation. -/
structure Attached (o : Oracle Environment) (card : Card) : Prop extends card.Open where
  generation : ∀ h, o h .generation = card.generation

theorem Attached.alike {o : Oracle Environment} {card card' : Card} (h : Attached o card)
    (halike : card.Alike card') : Attached o card' :=
  ⟨⟨halike.usable.trans h.usable,halike.settled.trans h.settled⟩,
    fun history => (h.generation history).trans halike.generation.symm⟩

section Sessions
variable {o : Oracle Environment} {κ : Type} {chip : Native.Raw.Responder κ} {framing : Native.Framing} {start k : κ}
  {limits : TransportCapabilities} {card : Card} {options : ExchangeOptions}

theorem checkGeneration_connected (hgeneration : ∀ h, o h .generation = card.generation) (message : String) (outcome : Outcome) :
    Facing (chip.observe framing) start o k (checkGeneration message outcome) card fun r card' k' =>
      r = .ok () ∧ card' = card ∧ k' = k := by
  have hidle := Native.Raw.Responder.observe_idle chip framing
  refine Facing.get_bind (Facing.quiet_bind hidle id fun h => ?_)
  have hsame : ¬o h .generation ≠ card.generation := not_not_intro (hgeneration h)
  unfold Op.refuseAfter
  rw [if_neg hsame]
  exact Facing.pure ⟨rfl,rfl,rfl⟩

theorem admitted_connected {α : Type} {refusal : Error} {p : Op Card α} {post : Except Fault α → Card → κ → Prop}
    (hcard : Native.Raw.Connected o limits framing chip start)
    (hp : Facing (chip.observe framing) start o k p card post) :
    Facing (chip.observe framing) start o k (admitted refusal p) card post := by
  have hidle := Native.Raw.Responder.observe_idle chip framing
  refine Facing.quiet_bind hidle id fun h => ?_
  rw [hcard.free h]
  exact Facing.refuse_bind (by decide) (Facing.refuse_bind (by decide) hp)

variable {σ : Type} [SecureSession σ] {slot : Slot σ} {s : σ} {command : Native.Checked.Command}

/-- A command goes to the card as its exchange does, if the exchange returns an answer that can be
parsed or is refused. -/
theorem executeLocked_connected (hholds : slot.holds card s) (hattached : Attached o card) (hadmissible : Admissible card.situation command)
    (answered : Bytes → σ → κ → Prop) (refused : Error → κ → Prop)
    (hexchange : Facing (chip.observe framing) start o k
      (exchangeProtected card.raw (secureRequest command) options) s fun r s' k' =>
        (∃ answer, r = .ok answer ∧ Native.Checked.checkParsed command.opcode command.header answer = .ok () ∧
          answered answer s' k') ∨ ∃ e, r = .error (.error e) ∧ refused e k') :
    Facing (chip.observe framing) start o k (executeLocked command options) card fun r card' k' =>
      (∃ answer s', r = .ok answer ∧ card' = slot.put s' card ∧ answered answer s' k') ∨
      ∃ e, r = .error (.error e) ∧ card' = card.invalidate ∧ refused e k' := by
  have hnative := slot.native hholds
  unfold executeLocked
  refine Facing.settle (Facing.get_bind ?_)
  refine Facing.refuse_bind (by simp [hattached.usable]) ?_
  refine Facing.refuse_bind (by simp [hattached.settled]) ?_
  refine Facing.refuse_bind (by simp [hadmissible.valid]) (Facing.refuse_bind hadmissible.framed ?_)
  refine Facing.known_bind (checkGeneration_connected hattached.generation _ _) ?_
  rw [hadmissible.context card rfl,hnative]
  refine Facing.known_bind (a := ()) (fun _ _ => ⟨rfl,rfl,rfl⟩) ?_
  refine Facing.bind (Facing.settle (slot.exchanges hholds (hexchange.mono fun r s' k' h => ?_))) ?_ ?_
    (m := fun r card' k' => (∃ answer s', r = .ok answer ∧ card' = slot.put s' card ∧
      Native.Checked.checkParsed command.opcode command.header answer = .ok () ∧ answered answer s' k') ∨
      ∃ e, r = .error (.error e) ∧ card' = card.invalidate ∧ refused e k')
  · rcases h with ⟨answer,rfl,hparsed,hanswered⟩ | ⟨e,rfl,hrefused⟩
    · exact .inl ⟨answer,s',rfl,rfl,hparsed,hanswered⟩
    · have hended : afterExchange true e (slot.put s' card) = card.invalidate := by
        rw [afterExchange,if_pos (.inl rfl)]
        exact (slot.put_alike hholds s').toBound.invalidate
      exact .inr ⟨e,rfl,hended,hrefused⟩
  · intro e card' k' h
    rcases h with ⟨_,_,hresult,_⟩ | ⟨e',hresult,hrest⟩
    · cases hresult
    · cases hresult
      exact .inr ⟨e',rfl,hrest⟩
  intro answer card' k' h
  rcases h with ⟨_,s',hresult,rfl,hparsed,hanswered⟩ | ⟨_,hresult,_⟩
  · cases hresult
    have halike := slot.put_alike hholds s'
    refine Facing.known_bind (checkGeneration_connected (hattached.alike halike).generation _ _) ?_
    rw [hparsed]
    refine Facing.known_bind (a := ()) (t := slot.put s' card) (l := k') (fun _ _ => ⟨rfl,rfl,rfl⟩) ?_
    refine Facing.modify_bind (Facing.pure ?_)
    rw [hadmissible.kept]
    exact .inl ⟨answer,s',rfl,rfl,hanswered⟩
  · cases hresult

end Sessions
end DesfireSdk.Managed
