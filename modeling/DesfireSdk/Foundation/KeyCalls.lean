import DesfireSdk.Foundation.Delivery
import DesfireSdk.Interaction.Avoidance

/-! Calls of key services, and operations that make none. -/
namespace DesfireSdk
open Interaction Program

/-- What a deriver or a provider is called with. -/
inductive KeyCall
  | derive (masterKey : Model.Aes128Key) (context : Model.Aes128DerivationContext)
  | resolve (request : Model.KeyRequest)

/-- A call of a key service with its answer. -/
def keyCallOf : Event Environment → Option (KeyCall × Except Fault Model.Aes128Key)
  | ⟨.derive masterKey context,reply⟩ => some (.derive masterKey context,reply)
  | ⟨.resolve request,reply⟩ => some (.resolve request,reply)
  | _ => none

/-- The calls of a run in order. -/
abbrev keyCalls (es : Trace Environment) : List (KeyCall × Except Fault Model.Aes128Key) := shown keyCallOf es

/-- A key service returned an exact key, and no cancellation was seen after that. -/
def Resolved (es : Trace Environment) : Prop :=
  ∃ before event call key token after, es = before ++ event :: ⟨.stopRequested token,false⟩ :: after ∧
    keyCallOf event = some (call,.ok key) ∧ key.valid = true

/-- A question for a key service. -/
def keyQuestion : Query → Prop
  | .derive .. | .resolve _ => True
  | _ => False

/-- No key service is called. -/
abbrev Keyless {τ α : Type} (p : Op τ α) : Prop := Avoids keyQuestion p

theorem keyCalls_of_avoided {es : Trace Environment} (h : ∀ event ∈ es, ¬keyQuestion event.query) :
    keyCalls es = [] := by
  refine List.filterMap_eq_nil_iff.mpr fun ⟨query,reply⟩ hevent => ?_
  have hquery := h _ hevent
  cases query <;> first | rfl | exact absurd trivial hquery

theorem Untouched.keyCalls {es : Trace Environment} (h : Untouched es) : keyCalls es = [] := by
  apply keyCalls_of_avoided
  intro ⟨query,reply⟩ hevent hquestion
  have hquery := h _ hevent
  cases query <;> first | exact hquestion | exact hquery trivial

theorem Untouched.deliveryOf_eq {es : Trace Environment} (h : Untouched es) {event : Event Environment}
    (hevent : event ∈ es) : deliveryOf event = none := by
  have hquery := h event hevent
  obtain ⟨query,reply⟩ := event
  cases query <;> first | rfl | exact absurd trivial hquery

namespace Op
variable {τ α : Type} {p : Op τ α}

theorem keyless_ofResult (r : Result α) : Keyless (ofResult r : Op τ α) := avoids_ofExcept _

theorem keyless_value (r : Result α) : Keyless (value r : Op τ α) := by
  cases r with
  | ok a => exact avoids_pure a
  | error e => exact avoids_fail _

theorem keyless_refuseAfter (cleanup : τ → τ) (c : Prop) [Decidable c] (e : Error) :
    Keyless (refuseAfter cleanup c e) :=
  avoids_ite (avoids_bind (avoids_modify cleanup) fun _ => avoids_fail _) (avoids_pure ())

theorem keyless_generation : Keyless (generation : Op τ UInt64) := avoids_ask id

theorem keyless_now : Keyless (now : Op τ Int) := avoids_ask id

theorem keyless_stopRequested (token : StopToken) : Keyless (stopRequested token : Op τ Bool) := avoids_ask id

theorem keyless_admission (gate : Gate) : Keyless (admission gate : Op τ Admission) := avoids_ask id

theorem keyless_capabilities : Keyless (capabilities : Op τ TransportCapabilities) := by
  refine avoids_bind (avoids_ask id) fun limits => ?_
  cases limits with
  | none => exact avoids_fail _
  | some limits => exact avoids_pure limits

theorem keyless_transportExchange (frame : Bytes) (options : ExchangeOptions) :
    Keyless (transportExchange frame options : Op τ Bytes) :=
  avoids_bind (avoids_ask id) fun _ => avoids_ofExcept _

theorem keyless_random (size : Nat) : Keyless (random size : Op τ Bytes) :=
  avoids_bind (avoids_ask id) fun _ => avoids_ofExcept _

theorem keyless_cbc (key iv input : Bytes) (encrypt : Bool) : Keyless (cbc key iv input encrypt : Op τ Bytes) :=
  avoids_bind (avoids_ask id) fun _ => avoids_ofExcept _

theorem keyless_cmac (key input : Bytes) : Keyless (cmac key input : Op τ Bytes) :=
  avoids_bind (avoids_ask id) fun _ => avoids_ofExcept _

end Op
end DesfireSdk
