import DesfireSdk.Interaction.Cmac
import DesfireSdk.Security.StandardAes.Steps

/-! The subkeys and blocks of the retained ISO response CMAC. -/
namespace DesfireSdk.Iso7816.Aes
open Interaction

/-- The bytes shifted by one bit from the last to the first, with the bit that leaves them. -/
def carried (input : Bytes) : Bytes × Byte :=
  input.foldr (fun (byte : Byte) (shifted : Bytes × Byte) => ((byte <<< 1 ||| shifted.2) :: shifted.1,byte >>> 7)) ([],0)

/-- Doubles one subkey. -/
def doubleSubkey (input : Bytes) : Bytes :=
  let result := (carried input).1
  if (carried input).2 ≠ 0 then result.modify (result.length - 1) (· ^^^ 0x87) else result

/-- The zero-filled buffer with the message, its marker and the subkey over the last block. -/
def cmacInput (base input : Bytes) : Bytes :=
  let complete := input ≠ [] ∧ input.length % 16 = 0
  let subkey := if complete then doubleSubkey base else doubleSubkey (doubleSubkey base)
  let paddedSize := (input.length / 16 + if complete then 0 else 1) * 16
  let bytes := input ++ zeros (paddedSize - input.length)
  Cmac.mixAt (paddedSize - 16) subkey (if complete then bytes else bytes.set input.length 0x80)

section Agreement
open Security.StandardAes

theorem carried_eq (input : Bytes) : carried input = shiftLeft input := by
  induction input with
  | nil => rfl
  | cons byte rest ih =>
    rw [carried,List.foldr_cons,shiftLeft]
    rw [carried] at ih
    rw [ih]

/-- The bit that leaves a block is the highest bit of its first byte. -/
theorem leaving_iff (byte : Byte) : byte >>> 7 ≠ 0 ↔ byte &&& 0x80 ≠ 0 := by
  have hall : ∀ bits : BitVec 8, UInt8.ofBitVec bits >>> 7 ≠ 0 ↔ UInt8.ofBitVec bits &&& 0x80 ≠ 0 := by decide
  exact hall byte.toBitVec

/-- The two doublings that shift from the last byte agree on every block. -/
theorem doubleSubkey_eq {input : Bytes} (hne : input ≠ []) : doubleSubkey input = doubleCmacSubkey input := by
  match input,hne with
  | byte :: rest,_ =>
    have hshifted : (shiftLeft (byte :: rest)).1 ≠ [] := List.cons_ne_nil _ _
    unfold doubleSubkey doubleCmacSubkey
    rw [carried_eq]
    change (if byte >>> 7 ≠ 0 then _ else _) = (if byte &&& 0x80 ≠ 0 then _ else _)
    simp only [leaving_iff]
    rw [Cmac.modify_last _ 0 hshifted]

/-- Both sessions encrypt the same blocks for a CMAC. -/
theorem cmacInput_eq {base : Bytes} (hbase : base.length = 16) (input : Bytes) :
    cmacInput base input = cmacBlocks base input := by
  have hne : base ≠ [] := List.ne_nil_of_length_pos (by omega)
  have hfirst : (doubleCmacSubkey base).length = 16 := by rw [length_doubleCmacSubkey hne,hbase]
  have hne' : doubleCmacSubkey base ≠ [] := List.ne_nil_of_length_pos (by omega)
  have hsecond : (doubleCmacSubkey (doubleCmacSubkey base)).length = 16 := by
    rw [length_doubleCmacSubkey hne',hfirst]
  by_cases hcomplete : input ≠ [] ∧ input.length % 16 = 0
  · have hlength : 16 ≤ input.length := by
      have hpos := List.length_pos_iff.mpr hcomplete.1
      omega
    have hpadded : (input.length / 16 + 0) * 16 = input.length := by omega
    have hused : ((input.length + 16 - 1) / 16 - 1) * 16 = input.length - 16 := by omega
    have hfront : (input.take (input.length - 16)).length = input.length - 16 := by
      rw [List.length_take]
      omega
    have hblock : (input.drop (input.length - 16)).length = (doubleCmacSubkey base).length := by
      rw [List.length_drop]
      omega
    have hmixed := Cmac.mixAt_append (input.take (input.length - 16)) (doubleCmacSubkey base)
      (input.drop (input.length - 16)) hblock
    rw [hfront,List.take_append_drop] at hmixed
    simp only [cmacInput,cmacBlocks,aesBlockSize,if_pos hcomplete,if_neg hcomplete.1,hpadded,hused]
    rw [Nat.sub_self,zeros,List.replicate_zero,List.append_nil,doubleSubkey_eq hne,hmixed]
    rfl
  · have hused : ((if input = [] then 1 else (input.length + 16 - 1) / 16) - 1) * 16 = input.length / 16 * 16 := by
      by_cases hempty : input = []
      · subst hempty
        rfl
      · have haligned : input.length % 16 ≠ 0 := fun h => hcomplete ⟨hempty,h⟩
        rw [if_neg hempty]
        omega
    have hoffset : (input.length / 16 + 1) * 16 - 16 = input.length / 16 * 16 := by omega
    have hfill : (input.length / 16 + 1) * 16 - input.length = 15 - input.length % 16 + 1 := by omega
    have hmarked : (input ++ zeros (15 - input.length % 16 + 1)).set input.length 0x80 =
        input ++ 0x80 :: zeros (15 - input.length % 16) := by
      rw [zeros,List.replicate_succ,List.set_append_right _ _ (Nat.le_refl _),Nat.sub_self]
      rfl
    have hfront : (input.take (input.length / 16 * 16)).length = input.length / 16 * 16 := by
      rw [List.length_take]
      omega
    have hblock : (input.drop (input.length / 16 * 16) ++ 0x80 :: zeros (15 - input.length % 16)).length =
        (doubleCmacSubkey (doubleCmacSubkey base)).length := by
      rw [List.length_append,List.length_drop,List.length_cons,length_zeros,hsecond]
      omega
    have hmixed := Cmac.mixAt_append (input.take (input.length / 16 * 16)) (doubleCmacSubkey (doubleCmacSubkey base))
      (input.drop (input.length / 16 * 16) ++ 0x80 :: zeros (15 - input.length % 16)) hblock
    rw [hfront,← List.append_assoc,List.take_append_drop] at hmixed
    simp only [cmacInput,cmacBlocks,aesBlockSize,if_neg hcomplete,hused,hoffset,hfill]
    rw [hmarked,doubleSubkey_eq hne,doubleSubkey_eq hne',hmixed]
    rfl

end Agreement
end DesfireSdk.Iso7816.Aes
