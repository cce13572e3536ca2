import DesfireSdk.Foundation.Environment
import DesfireSdk.Interaction.Cmac

/-! Two-block diversification of AES-128 keys. -/
namespace DesfireSdk.Security.KeyDerivation
open Interaction

/-- Copies exactly sixteen bytes into a key. -/
def importKey (bytes : Bytes) : Result Model.Aes128Key :=
  if h : bytes.length = 16 then .ok ⟨bytes,.inl h⟩
  else .error (invalid "AES-128 key must contain exactly 16 bytes")

/-- Each byte shifted by one bit with the highest bit of the next, and the reduction mixed into the last. -/
def shiftForward (reduction : Byte) : Bytes → Bytes
  | [] => []
  | [last] => [last <<< 1 ^^^ reduction]
  | current :: next :: rest => (current <<< 1 ||| next >>> 7) :: shiftForward reduction (next :: rest)

/-- The next subkey. -/
def doubleSubkey (subkey : Bytes) : Bytes := shiftForward ((0x87 : Byte) &&& ((0 : Byte) - (subkey.headD 0 >>> 7))) subkey

/-- The two blocks that are encrypted, with the subkey over the second. -/
def derivationInput (subkey diversificationInput : Bytes) : Bytes :=
  let input := 0x01 :: (diversificationInput ++ zeros (31 - diversificationInput.length))
  if diversificationInput.length < 31 then
    Cmac.mixAt 16 (doubleSubkey subkey) (input.set (diversificationInput.length + 1) 0x80)
  else Cmac.mixAt 16 subkey input

def derive {τ : Type} (masterKey : Model.Aes128Key) (context : Model.Aes128DerivationContext) :
    Op τ Model.Aes128Key := do
  Op.refuse (masterKey.valid = false ∨ context.diversificationInput = [] ∨ 31 < context.diversificationInput.length)
    (invalid "NXP AES-128 requires an exact key and 1 through 31 diversification bytes")
  Op.catchAll id ⟨.internal,"NXP AES-128 dependency failed",.notSent,0⟩ do
    let encryptedZero ← Op.secretOutput "NXP AES-128 primitive returned an invalid length"
      (Op.cbc masterKey.view (zeros 16) (zeros 16) true) 16
    let input := derivationInput (doubleSubkey encryptedZero) context.diversificationInput
    let output ← Op.secretOutput "NXP AES-128 primitive returned an invalid length"
      (Op.cbc masterKey.view (zeros 16) input true) input.length
    Op.ofResult (importKey (output.drop (output.length - 16)))

end DesfireSdk.Security.KeyDerivation
