import DesfireSdk.Foundation.Environment

/-! What an environment saw of the frames handed to the transport. -/
namespace DesfireSdk
open Interaction

/-- One frame handed to the transport and what came of it. -/
structure Delivery where
  frame : Bytes
  options : ExchangeOptions
  handover : Handover
  deriving DecidableEq

namespace Delivery

/-- The transport returned a reply. -/
def Answered (d : Delivery) : Prop := ∃ bytes, d.handover.answer = .ok bytes

/-- The transport denies that the frame reached the card. -/
def Withheld (d : Delivery) : Prop := ∃ e : Error, d.handover.answer = .error (.error e) ∧ e.outcome = .notSent

end Delivery

def deliveryOf : Event Environment → Option Delivery
  | ⟨.exchange frame options,handover⟩ => some ⟨frame,options,handover⟩
  | _ => none

/-- The frames of a run in the order they were handed over. -/
abbrev deliveries (es : Trace Environment) : List Delivery := Program.shown deliveryOf es

theorem deliveries_append (es es' : Trace Environment) :
    deliveries (es ++ es') = deliveries es ++ deliveries es' :=
  Program.shown_append es es'

/-- A question for the cryptographic provider. -/
def primitive : Query → Prop
  | .cbc .. | .cmac .. => True
  | _ => False

/-- Only cryptographic primitives were asked for. -/
def Cryptographic (es : Trace Environment) : Prop := ∀ event ∈ es, primitive event.query

@[simp] theorem cryptographic_nil : Cryptographic [] := by simp [Cryptographic]

@[simp] theorem cryptographic_cbc {key iv input : Bytes} {encrypt : Bool} {reply : Except Fault Bytes}
    {es : Trace Environment} :
    Cryptographic (⟨.cbc key iv input encrypt,reply⟩ :: es) ↔ Cryptographic es := by
  simp [Cryptographic,primitive]

@[simp] theorem cryptographic_cmac {key input : Bytes} {reply : Except Fault Bytes}
    {es : Trace Environment} : Cryptographic (⟨.cmac key input,reply⟩ :: es) ↔ Cryptographic es := by
  simp [Cryptographic,primitive]

@[simp] theorem cryptographic_append {es es' : Trace Environment} :
    Cryptographic (es ++ es') ↔ Cryptographic es ∧ Cryptographic es' := by
  simp only [Cryptographic,List.forall_mem_append]

theorem Cryptographic.deliveries {es : Trace Environment} (h : Cryptographic es) :
    deliveries es = [] := by
  refine List.filterMap_eq_nil_iff.mpr fun ⟨query,reply⟩ hevent => ?_
  have hquery := h _ hevent
  cases query <;> first | rfl | cases hquery

/-- A question for the card or for a key service. -/
def external : Query → Prop
  | .exchange .. | .resetCard | .derive .. | .resolve _ => True
  | _ => False

/-- Neither the card nor a key service was asked for anything. -/
def Untouched (es : Trace Environment) : Prop := ∀ event ∈ es, ¬external event.query

@[simp] theorem untouched_nil : Untouched [] := by simp [Untouched]

@[simp] theorem untouched_cons {event : Event Environment} {es : Trace Environment} :
    Untouched (event :: es) ↔ ¬external event.query ∧ Untouched es := by
  simp only [Untouched,List.forall_mem_cons]

@[simp] theorem untouched_append {es es' : Trace Environment} :
    Untouched (es ++ es') ↔ Untouched es ∧ Untouched es' := by
  simp only [Untouched,List.forall_mem_append]

theorem Untouched.deliveries {es : Trace Environment} (h : Untouched es) : deliveries es = [] := by
  refine List.filterMap_eq_nil_iff.mpr fun ⟨query,reply⟩ hevent => ?_
  have hquery := h _ hevent
  cases query <;> first | rfl | exact absurd trivial hquery

/-- Every run meets the postcondition on the frames it hands over. -/
abbrev Delivers {τ α : Type} (o : Oracle Environment) (p : Op τ α) (s : τ)
    (post : Except Fault α → τ → List Delivery → Prop) : Prop :=
  Program.Ensures deliveryOf o p s post

end DesfireSdk
