import Mathlib.Algebra.Group.Int.Defs
import Mathlib.Algebra.Group.Nat.Defs
import Mathlib.Tactic.Common

/-!
# CMAC over an abstract block function

CBC of whole blocks, subkeys doubled as elements of the field of 2^128, and the CMAC of a message
whose chain starts at any block. The chain of AES-CMAC starts at the zero block.
-/
namespace Interaction.Cmac

abbrev Bytes := List UInt8

def blockSize : Nat := 16

def zeroBlock : Bytes := List.replicate blockSize 0

def xor (left right : Bytes) : Bytes := List.zipWith (fun a b => a ^^^ b) left right

section Numbers

/-- The number that bytes stand for, most significant first. -/
def bigEndian : Bytes → Nat
  | [] => 0
  | byte :: rest => byte.toNat * 256^rest.length + bigEndian rest

/-- The bytes of a number, most significant first. -/
def ofBigEndian : Nat → Nat → Bytes
  | 0,_ => []
  | count+1,value => UInt8.ofNat (value / 256^count) :: ofBigEndian count (value % 256^count)

theorem bigEndian_lt (bytes : Bytes) : bigEndian bytes < 256^bytes.length := by
  induction bytes with
  | nil => decide
  | cons byte rest ih =>
    have hbyte : (byte.toNat + 1) * 256^rest.length ≤ 256 * 256^rest.length :=
      Nat.mul_le_mul_right _ byte.toNat_lt
    rw [Nat.add_mul,Nat.one_mul] at hbyte
    rw [bigEndian,List.length_cons,Nat.pow_succ']
    omega

theorem ofBigEndian_bigEndian (bytes : Bytes) : ofBigEndian bytes.length (bigEndian bytes) = bytes := by
  induction bytes with
  | nil => rfl
  | cons byte rest ih =>
    have hrest := bigEndian_lt rest
    have hpos : 0 < 256^rest.length := Nat.pow_pos (by decide)
    have hhead : bigEndian (byte :: rest) / 256^rest.length = byte.toNat := by
      rw [bigEndian,Nat.mul_comm,Nat.mul_add_div hpos,Nat.div_eq_of_lt hrest,Nat.add_zero]
    have htail : bigEndian (byte :: rest) % 256^rest.length = bigEndian rest := by
      rw [bigEndian,Nat.mul_comm,Nat.mul_add_mod,Nat.mod_eq_of_lt hrest]
    rw [List.length_cons,ofBigEndian,hhead,htail,ih,UInt8.ofNat_toNat]

theorem bigEndian_concat (bytes : Bytes) (last : UInt8) :
    bigEndian (bytes ++ [last]) = 256 * bigEndian bytes + last.toNat := by
  induction bytes with
  | nil => simp [bigEndian]
  | cons byte rest ih =>
    rw [List.cons_append,bigEndian,bigEndian,ih,List.length_append,List.length_singleton,Nat.pow_succ,
      Nat.mul_add,Nat.mul_left_comm 256,Nat.mul_comm 256 (256^rest.length),Nat.add_assoc]

/-- A byte-sized mask changes the last byte alone. -/
theorem bigEndian_concat_xor (bytes : Bytes) (last mask : UInt8) :
    bigEndian (bytes ++ [last ^^^ mask]) = bigEndian (bytes ++ [last]) ^^^ mask.toNat := by
  have hlast : last.toNat < 2^8 := last.toNat_lt
  have hmask : mask.toNat < 2^8 := mask.toNat_lt
  have hmixed : last.toNat ^^^ mask.toNat < 2^8 := Nat.xor_lt_two_pow hlast hmask
  rw [bigEndian_concat,bigEndian_concat,UInt8.toNat_xor]
  apply Nat.eq_of_testBit_eq
  intro index
  change (2^8 * bigEndian bytes + (last.toNat ^^^ mask.toNat)).testBit index =
    ((2^8 * bigEndian bytes + last.toNat) ^^^ mask.toNat).testBit index
  rw [Nat.testBit_xor,Nat.testBit_two_pow_mul_add _ hmixed,Nat.testBit_two_pow_mul_add _ hlast]
  split
  · rw [Nat.testBit_xor]
  next hhigh =>
    have hzero : mask.toNat.testBit index = false :=
      Nat.testBit_lt_two_pow (Nat.lt_of_lt_of_le hmask (Nat.pow_le_pow_right (by decide) (Nat.le_of_not_lt hhigh)))
    rw [hzero,Bool.xor_false]

/-- A block doubled in the field: shifted by one bit, and reduced when a bit leaves it. -/
def double (block : Bytes) : Bytes :=
  let doubled := 2 * bigEndian block
  ofBigEndian block.length (doubled % 256^block.length ^^^ (if 256^block.length ≤ doubled then 0x87 else 0))

end Numbers

section Chaining
variable (encipher : Bytes → Bytes)

/-- The chaining value after some blocks. -/
def chain : Nat → Bytes → Bytes → Bytes
  | 0,start,_ => start
  | count+1,start,input => chain count (encipher (xor start (input.take blockSize))) (input.drop blockSize)

/-- CBC encryption of some blocks. -/
def cbc : Nat → Bytes → Bytes → Bytes
  | 0,_,_ => []
  | count+1,start,input =>
    let block := encipher (xor start (input.take blockSize))
    block ++ cbc count block (input.drop blockSize)

/-- The CMAC of a message whose chain starts at a block. -/
def cmac (start message : Bytes) : Bytes :=
  let count := if message = [] then 1 else (message.length + blockSize - 1) / blockSize
  let complete := message ≠ [] ∧ message.length % blockSize = 0
  let last := message.drop ((count - 1) * blockSize)
  let firstSubkey := double (encipher zeroBlock)
  let masked := if complete then xor last firstSubkey
    else xor (last ++ 0x80 :: List.replicate (blockSize - 1 - last.length) 0) (double firstSubkey)
  encipher (xor (chain encipher (count - 1) start message) masked)

/-- AES-CMAC, whose chain starts at the zero block. -/
def aesCmac (message : Bytes) : Bytes := cmac encipher zeroBlock message

variable {encipher}

theorem length_cbc (hencipher : ∀ block, (encipher block).length = blockSize) (count : Nat) (start input : Bytes) :
    (cbc encipher count start input).length = count * blockSize := by
  induction count generalizing start input with
  | zero => simp [cbc]
  | succ count ih =>
    rw [cbc,List.length_append,hencipher,ih,Nat.succ_mul,Nat.add_comm]

/-- The last block of a ciphertext is the chaining value after all blocks. -/
theorem cbc_last (hencipher : ∀ block, (encipher block).length = blockSize) (count : Nat) (start input : Bytes) :
    (cbc encipher (count + 1) start input).drop (count * blockSize) =
      encipher (xor (chain encipher count start input) ((input.drop (count * blockSize)).take blockSize)) := by
  induction count generalizing start input with
  | zero => simp [cbc,chain]
  | succ count ih =>
    have hsize : (count + 1) * blockSize = blockSize + count * blockSize := by
      rw [Nat.succ_mul,Nat.add_comm]
    rw [cbc,chain,hsize,← List.drop_drop,List.drop_left' (hencipher _),ih,List.drop_drop]

/-- The chaining value depends on the blocks before it alone. -/
theorem chain_take {count : Nat} {start input rest : Bytes} (h : count * blockSize ≤ input.length) :
    chain encipher count start (input.take (count * blockSize) ++ rest) = chain encipher count start input := by
  induction count generalizing start input with
  | zero => rfl
  | succ count ih =>
    rw [Nat.succ_mul] at h
    have hblock : blockSize ≤ (input.take ((count + 1) * blockSize)).length := by
      rw [List.length_take,Nat.succ_mul]
      omega
    have hrest : count * blockSize ≤ (input.drop blockSize).length := by
      rw [List.length_drop]
      omega
    have hhead : (input.take ((count + 1) * blockSize) ++ rest).take blockSize = input.take blockSize := by
      rw [List.take_append_of_le_length hblock,List.take_take,Nat.min_eq_left]
      rw [Nat.succ_mul]
      omega
    have htail : (input.take ((count + 1) * blockSize) ++ rest).drop blockSize =
        (input.drop blockSize).take (count * blockSize) ++ rest := by
      rw [List.drop_append_of_le_length hblock,List.drop_take,Nat.succ_mul,Nat.add_sub_cancel]
    rw [chain,chain,hhead,htail,ih hrest]

end Chaining

section Mixing

/-- Mixes bytes one after the other into a sequence, from a position on. -/
def mixAt : Nat → Bytes → Bytes → Bytes
  | _,[],bytes => bytes
  | offset,byte :: rest,bytes => mixAt (offset + 1) rest (bytes.modify offset (· ^^^ byte))

theorem mixAt_append (front mask block : Bytes) (h : block.length = mask.length) :
    mixAt front.length mask (front ++ block) = front ++ xor block mask := by
  induction mask generalizing front block with
  | nil =>
    rw [List.length_nil,List.length_eq_zero_iff] at h
    rw [h]
    rfl
  | cons byte rest ih =>
    match block,h with
    | first :: block,h =>
      have hmodified : (front ++ first :: block).modify front.length (· ^^^ byte) =
          (front ++ [first ^^^ byte]) ++ block := by
        rw [List.modify_eq_take_cons_drop (by simp)]
        simp
      have hlength : (front ++ [first ^^^ byte]).length = front.length + 1 := by simp
      have hrest := ih (front ++ [first ^^^ byte]) block (by simpa using h)
      rw [mixAt,hmodified,← hlength,hrest,List.append_assoc]
      rfl

theorem modify_last {α : Type} (values : List α) (default : α) (hne : values ≠ []) (f : α → α) :
    values.modify (values.length - 1) f = values.take (values.length - 1) ++ [f (values.getLastD default)] := by
  have hpos := List.length_pos_iff.mpr hne
  have hlast : values.length - 1 + 1 = values.length := by omega
  rw [List.modify_eq_take_cons_drop (by omega),hlast,List.drop_length,List.getLastD_eq_getLast?,
    List.getLast?_eq_getElem?,List.getElem?_eq_getElem (by omega),Option.getD_some]

end Mixing
end Interaction.Cmac
