import DesfireSdk.Foundation.Error

/-! Owned byte sequences, wire integers, checksums and comparison. -/
namespace DesfireSdk

abbrev Byte := UInt8
abbrev Bytes := List Byte

/-- The largest value of `std::size_t`. -/
def sizeMax : Nat := 2^64 - 1

/-- Subtraction of `std::size_t` values, which wraps below zero. -/
def sizeSub (a b : Nat) : Nat := if b ≤ a then a - b else a + 2^64 - b

theorem sizeSub_of_le {a b : Nat} (h : b ≤ a) : sizeSub a b = a - b := if_pos h

def zeros (n : Nat) : Bytes := List.replicate n 0

@[simp] theorem length_zeros (n : Nat) : (zeros n).length = n := List.length_replicate

/-- The requested low-order bytes in little-endian wire order. -/
def putLe (value : Nat) : Nat → Bytes
  | 0 => []
  | count+1 => UInt8.ofNat value :: putLe (value / 256) count

@[simp] theorem length_putLe (value count : Nat) : (putLe value count).length = count := by
  induction count generalizing value with
  | zero => rfl
  | succ count ih => simp [putLe,ih]

/-- At most four little-endian bytes. -/
def getLe (input : Bytes) : Nat :=
  (input.take 4).foldr (fun byte value => byte.toNat + 256 * value) 0

theorem getLe_of_short {input : Bytes} (h : input.length ≤ 4) :
    getLe input = input.foldr (fun byte value => byte.toNat + 256 * value) 0 := by
  rw [getLe,List.take_of_length_le h]

private theorem foldr_putLe (value count : Nat) :
    (putLe value count).foldr (fun byte value => byte.toNat + 256 * value) 0 = value % 256^count := by
  induction count generalizing value with
  | zero => simp [putLe,Nat.mod_one]
  | succ count ih =>
    have hsplit := Nat.mod_mul (x := value) (a := 256) (b := 256^count)
    simp only [putLe,List.foldr_cons,ih,Nat.pow_succ']
    rw [hsplit]
    simp

theorem getLe_putLe {value count : Nat} (h : count ≤ 4) (hvalue : value < 256^count) :
    getLe (putLe value count) = value := by
  rw [getLe_of_short (by simpa using h),foldr_putLe,Nat.mod_eq_of_lt hvalue]

theorem putLe_getLe (input : Bytes) (h : input.length ≤ 4) : putLe (getLe input) input.length = input := by
  rw [getLe_of_short h]
  clear h
  induction input with
  | nil => rfl
  | cons byte input ih =>
    have hbyte := byte.toNat_lt
    have hdiv : (byte.toNat + 256 * input.foldr (fun byte value => byte.toNat + 256 * value) 0) / 256 =
        input.foldr (fun byte value => byte.toNat + 256 * value) 0 := by omega
    simp only [List.foldr_cons,List.length_cons,putLe,hdiv,ih]
    congr 1
    apply UInt8.toNat.inj
    simp only [UInt8.toNat_ofNat']
    omega

theorem getLe_lt_pow (input : Bytes) (h : input.length ≤ 4) : getLe input < 256^input.length := by
  rw [getLe_of_short h]
  clear h
  induction input with
  | nil => simp
  | cons byte input ih =>
    have hbyte := byte.toNat_lt
    simp only [List.foldr_cons,List.length_cons,Nat.pow_succ]
    omega

/-- One reduction of a reflected checksum register. -/
def crcBit (polynomial checksum : Nat) : Nat :=
  if checksum % 2 ≠ 0 then (checksum / 2) ^^^ polynomial else checksum / 2

def crcByte (polynomial checksum : Nat) (byte : Byte) : Nat :=
  Nat.repeat (crcBit polynomial) 8 (checksum ^^^ byte.toNat)

/-- The uncomplemented CRC-32 accumulator. -/
def crc32 (data : Bytes) : Nat := data.foldl (crcByte 0xEDB88320) 0xFFFFFFFF

/-- Compares every byte of two sequences of one length. -/
def constantTimeEqual (left right : Bytes) : Bool :=
  left.length == right.length &&
    (List.zipWith (fun a b => a ^^^ b) left right).foldl (fun differences byte => differences ||| byte) 0 == 0

private theorem foldl_or_eq_zero (bytes : Bytes) (start : Byte) :
    bytes.foldl (fun differences byte => differences ||| byte) start = 0 ↔
      start = 0 ∧ ∀ byte ∈ bytes, byte = 0 := by
  induction bytes generalizing start with
  | nil => simp
  | cons byte bytes ih =>
    simp only [List.foldl_cons,ih,UInt8.or_eq_zero_iff,List.forall_mem_cons,and_assoc]

theorem constantTimeEqual_eq (left right : Bytes) : constantTimeEqual left right = (left == right) := by
  rw [Bool.eq_iff_iff]
  simp only [constantTimeEqual,Bool.and_eq_true,beq_iff_eq,foldl_or_eq_zero,true_and]
  induction left generalizing right with
  | nil => cases right <;> simp
  | cons a left ih =>
    cases right with
    | nil => simp
    | cons b right =>
      have := ih right
      simp only [List.length_cons,Nat.add_right_cancel_iff,List.zipWith_cons_cons,
        List.forall_mem_cons,UInt8.xor_eq_zero_iff,List.cons.injEq]
      tauto

end DesfireSdk
