import DesfireSdk.Foundation.Environment
import DesfireSdk.Interaction.Cmac

/-! An abstract AES block function, and providers that chain it. -/
namespace DesfireSdk
open Interaction Program

structure BlockCipher where
  encrypt : Bytes → Bytes → Bytes
  length_encrypt : ∀ key block, (encrypt key block).length = 16

/-- CBC encryption of whole blocks. -/
def BlockCipher.cbc (E : BlockCipher) (key iv input : Bytes) : Bytes :=
  Cmac.cbc (E.encrypt key) (input.length / 16) iv input

theorem BlockCipher.length_cbc (E : BlockCipher) (key iv : Bytes) {input : Bytes} (h : input.length % 16 = 0) :
    (E.cbc key iv input).length = input.length := by
  rw [cbc,Cmac.length_cbc (E.length_encrypt key)]
  unfold Cmac.blockSize
  omega

/-- The provider encrypts whole blocks under exact keys and vectors with this block function. -/
def Enciphers (o : Oracle Environment) (E : BlockCipher) : Prop :=
  ∀ h key iv input, key.length = 16 → iv.length = 16 → input.length % 16 = 0 →
    o h (.cbc key iv input true) = .ok (E.cbc key iv input)

namespace Enciphers
variable {o : Oracle Environment} {E : BlockCipher} {τ : Type} {s : τ} {key iv input : Bytes}

theorem yields_secret (hE : Enciphers o E) {message : String} {n : Nat} (hn : input.length = n)
    (hkey : key.length = 16) (hiv : iv.length = 16) (hinput : input.length % 16 = 0) :
    Yields o (Op.secretOutput message (Op.cbc key iv input true) n) s (E.cbc key iv input) s := by
  refine Yields.of_ensures (Op.ensures_secretOutput (Op.ensures_cbc fun h => ?_))
  rw [hE h key iv input hkey hiv hinput,Op.sized_of_length ((E.length_cbc key iv hinput).trans hn)]
  exact ⟨rfl,rfl⟩

end Enciphers
end DesfireSdk
