import DesfireSdk.Foundation.Delivery
import DesfireSdk.Foundation.Primitives

/-! An environment without surprises, for runs that are followed to their end. -/
namespace DesfireSdk
open Interaction Program

theorem zeros_four : (zeros 4).length = 4 := length_zeros 4
theorem zeros_six : (zeros 6).length = 6 := length_zeros 6
theorem zeros_sixteen : (zeros 16).length = 16 := length_zeros 16
theorem zeros_key : (zeros 16).length = 16 ∨ zeros 16 = [] := .inl zeros_sixteen

def zeroKey : Model.Aes128Key := ⟨zeros 16,zeros_key⟩

/-- The clock stands still, nothing is cancelled, every lock is free, the
generation is constant and the transport answers its frames from a list. -/
structure Script where
  limits : TransportCapabilities := {}
  generation : UInt64 := 0
  replies : List (Except Fault Bytes) := []
  random : Nat → Except Fault Bytes := fun n => .ok (zeros n)
  cbc : Bytes → Bytes → Bytes → Bool → Except Fault Bytes := fun _ _ input _ => .ok input
  cmac : Bytes → Bytes → Except Fault Bytes := fun _ _ => .ok (zeros 16)
  key : Except Fault Model.Aes128Key := .ok zeroKey

def scripted (script : Script) : Oracle Environment
  | _,.now => (0 : Int)
  | _,.generation => script.generation
  | _,.capabilities => some script.limits
  | _,.stopRequested _ => false
  | _,.admission _ => Admission.entered
  | h,.exchange _ _ =>
    ⟨script.generation,(script.replies[(deliveries h).length]?).getD (.error .thrown)⟩
  | _,.resetCard => (.ok () : Except Fault Unit)
  | _,.random size => script.random size
  | _,.cbc key iv input encrypt => script.cbc key iv input encrypt
  | _,.cmac key input => script.cmac key input
  | _,.derive _ _ => script.key
  | _,.resolve _ => script.key
  | _,.requestCancelled => (.ok false : Except Fault Bool)

/-- Blocks pass unchanged and every MAC is zero. -/
def Primitives.echo : Primitives where
  encrypt _ _ input := input
  decrypt _ _ input := input
  mac _ _ := zeros 16
  length_encrypt _ _ _ := rfl
  length_decrypt _ _ _ := rfl
  length_mac _ _ := length_zeros 16
  decrypt_encrypt _ _ _ _ := rfl

theorem scripted_computes (script : Script) (hcbc : script.cbc = fun _ _ input _ => .ok input)
    (hcmac : script.cmac = fun _ _ => .ok (zeros 16)) : Computes (scripted script) .echo where
  encrypt _ {key iv input} _ _ _ := congrFun (congrFun (congrFun (congrFun hcbc key) iv) input) true
  decrypt _ {key iv input} _ _ _ := congrFun (congrFun (congrFun (congrFun hcbc key) iv) input) false
  mac _ {key} input _ := congrFun (congrFun hcmac key) input

namespace Op
variable {script : Script} {τ β : Type} {s s' : τ} {r : Except Fault β} {seen ds : List Delivery}

theorem calm_now_bind {f : Int → Op τ β} (hf : Reaches deliveryOf (scripted script) seen (f 0) s r s' ds) :
    Reaches deliveryOf (scripted script) seen (now >>= f) s r s' ds :=
  Reaches.ask_bind (fun _ _ => rfl) rfl hf

theorem calm_generation_bind {f : UInt64 → Op τ β}
    (hf : Reaches deliveryOf (scripted script) seen (f script.generation) s r s' ds) :
    Reaches deliveryOf (scripted script) seen (generation >>= f) s r s' ds :=
  Reaches.ask_bind (fun _ _ => rfl) rfl hf

theorem calm_stopRequested_bind {token : StopToken} {f : Bool → Op τ β}
    (hf : Reaches deliveryOf (scripted script) seen (f false) s r s' ds) :
    Reaches deliveryOf (scripted script) seen (stopRequested token >>= f) s r s' ds :=
  Reaches.ask_bind (fun _ _ => rfl) rfl hf

theorem calm_admission_bind {gate : Gate} {f : Admission → Op τ β}
    (hf : Reaches deliveryOf (scripted script) seen (f .entered) s r s' ds) :
    Reaches deliveryOf (scripted script) seen (admission gate >>= f) s r s' ds :=
  Reaches.ask_bind (fun _ _ => rfl) rfl hf

theorem calm_capabilities_bind {f : TransportCapabilities → Op τ β}
    (hf : Reaches deliveryOf (scripted script) seen (f script.limits) s r s' ds) :
    Reaches deliveryOf (scripted script) seen (capabilities >>= f) s r s' ds :=
  Reaches.quiet_bind (Reaches.ask_bind (a := some script.limits) (fun _ _ => rfl) rfl Reaches.pure) hf

/-- The next frame gets the next reply of the list. -/
theorem calm_transportExchange {frame bytes : Bytes} {options : ExchangeOptions}
    (hreply : script.replies[seen.length]? = some (.ok bytes)) :
    Reaches deliveryOf (scripted script) seen (transportExchange frame options : Op τ Bytes) s (.ok bytes) s
      [⟨frame,options,⟨script.generation,.ok bytes⟩⟩] := by
  have hanswer : ∀ h, shown deliveryOf h = seen →
      scripted script h (.exchange frame options) = ⟨script.generation,.ok bytes⟩ := by
    intro h hh
    simp only [scripted,deliveries,hh,hreply,Option.getD_some]
  exact Reaches.bind (Reaches.ask (S := Environment) (q := .exchange frame options) hanswer) Reaches.pure

end Op
end DesfireSdk
