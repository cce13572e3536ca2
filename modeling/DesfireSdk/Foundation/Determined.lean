import DesfireSdk.Foundation.Delivery
import DesfireSdk.Interaction.Determined

/-! Calls of the environment are determined by its answers. -/
namespace DesfireSdk.Op
open Interaction
variable {τ α β : Type} {p : Op τ α}

instance reject_determined (e : Error) : Determined (reject e : Op τ α) :=
  inferInstanceAs (Determined (Program.fail _))

instance refuse_determined (c : Prop) {hc : Decidable c} (e : Error) : Determined (refuse c e : Op τ Unit) :=
  inferInstanceAs (Determined (Program.refuse c _))

instance refuseAfter_determined (cleanup : τ → τ) (c : Prop) {hc : Decidable c} (e : Error) :
    Determined (refuseAfter cleanup c e) := by
  unfold refuseAfter
  infer_instance

instance ofResult_determined (r : Result α) : Determined (ofResult r : Op τ α) :=
  inferInstanceAs (Determined (Program.ofExcept _))

instance onError_determined (cleanup : Error → τ → τ) [Determined p] : Determined (onError cleanup p) :=
  inferInstanceAs (Determined (Program.settle _ p))

instance mapError_determined (f : Error → Error) [Determined p] : Determined (mapError f p) :=
  inferInstanceAs (Determined (Program.settle _ p))

instance catchAll_determined (cleanup : τ → τ) (e : Error) [Determined p] : Determined (catchAll cleanup e p) :=
  inferInstanceAs (Determined (Program.settle _ p))

instance recover_determined (error : τ → Error) [Determined p] : Determined (recover error p) :=
  inferInstanceAs (Determined (Program.settle _ p))

instance returning_determined (f : α → β) [Determined p] : Determined (returning f p) :=
  inferInstanceAs (Determined (Program.settle _ p))

instance secretOutput_determined (message : String) {p : Op τ Bytes} (expected : Nat) [Determined p] :
    Determined (secretOutput message p expected) :=
  inferInstanceAs (Determined (Program.settle _ p))

instance value_determined (r : Result α) : Determined (value r : Op τ α) := by
  cases r
  · exact Determined.fail _
  · exact Determined.pure _

instance now_determined : Determined (now : Op τ Int) := Determined.ask (S := Environment) _

instance generation_determined : Determined (generation : Op τ UInt64) := Determined.ask (S := Environment) _

instance stopRequested_determined (token : StopToken) : Determined (stopRequested token : Op τ Bool) :=
  Determined.ask (S := Environment) _

instance admission_determined (gate : Gate) : Determined (admission gate : Op τ Admission) :=
  Determined.ask (S := Environment) _

instance capabilities_determined : Determined (capabilities : Op τ TransportCapabilities) := by
  have hrest : ∀ limits : Option TransportCapabilities, Determined
      (match limits with
        | some limits => pure limits
        | none => Program.fail .thrown : Op τ TransportCapabilities) := by
    intro limits
    cases limits <;> infer_instance
  exact Determined.sequence (Determined.ask _) hrest

/-- A question whose answer is the result. -/
theorem asked_determined {ρ : Type} (query : Query) (view : Query.Reply query → Except Fault ρ) :
    Determined (do Program.ofExcept (view (← Program.ask (S := Environment) query)) : Op τ ρ) :=
  Determined.sequence (Determined.ask _) fun reply => Determined.ofExcept (view reply)

instance transportExchange_determined (frame : Bytes) (options : ExchangeOptions) :
    Determined (transportExchange frame options : Op τ Bytes) :=
  asked_determined (.exchange frame options) Handover.answer

instance resetCard_determined : Determined (resetCard : Op τ Unit) := asked_determined .resetCard id

instance random_determined (size : Nat) : Determined (random size : Op τ Bytes) :=
  asked_determined (.random size) id

instance cbc_determined (key iv input : Bytes) (encrypt : Bool) : Determined (cbc key iv input encrypt : Op τ Bytes) :=
  asked_determined (.cbc key iv input encrypt) id

instance cmac_determined (key input : Bytes) : Determined (cmac key input : Op τ Bytes) :=
  asked_determined (.cmac key input) id

instance derive_determined (masterKey : Model.Aes128Key) (context : Model.Aes128DerivationContext) :
    Determined (derive masterKey context : Op τ Model.Aes128Key) :=
  asked_determined (.derive masterKey context) id

instance resolve_determined (request : Model.KeyRequest) : Determined (resolve request : Op τ Model.Aes128Key) :=
  asked_determined (.resolve request) id

end DesfireSdk.Op
