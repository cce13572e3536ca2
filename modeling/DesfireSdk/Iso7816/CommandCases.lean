import DesfireSdk.Iso7816.Raw

/-!
# The command cases

A card reads a command from its bytes alone: their number and the first of them behind the header tell
whether there is data, whether a response is expected, and in which form both lengths are given.
-/
namespace DesfireSdk.Iso7816.Raw

/-- Without data and response, or with either or both of them, in short or extended form. -/
inductive CommandCase
  | case1 | case2S | case3S | case4S | case2E | case3E | case4E
  deriving DecidableEq, Repr

def bigEndian (high low : Byte) : Nat := high.toNat * 256 + low.toNat

/-- The case of what follows an extended marker and the two bytes behind it. -/
def extendedCase (field : Nat) : Nat → Option CommandCase
  | 0 => some .case2E
  | rest =>
    if field = 0 then none
    else if rest = field then some .case3E
    else if rest = field + 2 then some .case4E
    else none

/-- The case of the bytes behind the header. -/
def commandCase : Bytes → Option CommandCase
  | [] => some .case1
  | [_] => some .case2S
  | first :: rest =>
    if first ≠ 0 then
      if rest.length = first.toNat then some .case3S
      else if rest.length = first.toNat + 1 then some .case4S
      else none
    else match rest with
      | high :: low :: rest => extendedCase (bigEndian high low) rest.length
      | _ => none

/-- What a command asks of a card. -/
structure CommandFields where
  cla : Byte
  ins : Byte
  p1 : Byte
  p2 : Byte
  data : Bytes
  le : Option Nat
  deriving DecidableEq, Repr

/-- A short expected length, whose zero stands for 256. -/
def shortLe (byte : Byte) : Nat := if byte = 0 then 256 else byte.toNat

/-- An extended expected length, whose zero stands for 65536. -/
def extendedLe (high low : Byte) : Nat := if bigEndian high low = 0 then 65536 else bigEndian high low

/-- The byte so many places before the end. -/
def byteBefore (places : Nat) (body : Bytes) : Byte := body.getD (body.length - places) 0

/-- The data and the expected length behind the header. -/
def parseBody (body : Bytes) : Option (Bytes × Option Nat) :=
  (commandCase body).map fun
    | .case1 => ([],none)
    | .case2S => ([],some (shortLe (byteBefore 1 body)))
    | .case3S => (body.drop 1,none)
    | .case4S => ((body.drop 1).take (body.length - 2),some (shortLe (byteBefore 1 body)))
    | .case2E => ([],some (extendedLe (byteBefore 2 body) (byteBefore 1 body)))
    | .case3E => (body.drop 3,none)
    | .case4E => ((body.drop 3).take (body.length - 5),some (extendedLe (byteBefore 2 body) (byteBefore 1 body)))

/-- The decoder of a card. -/
def parseCommand : Bytes → Option CommandFields
  | cla :: ins :: p1 :: p2 :: body => (parseBody body).map fun (data,le) => ⟨cla,ins,p1,p2,data,le⟩
  | _ => none

def Apdu.fields (apdu : Apdu) : CommandFields := ⟨apdu.cla,apdu.ins,apdu.p1,apdu.p2,apdu.data,apdu.le⟩

/-- The longest data and the largest expected length of each documented policy. -/
def LengthEncoding.capacity : LengthEncoding → Option (Nat × Nat)
  | automatic | extended => some (65535,65536)
  | shortApdu => some (255,256)
  | other _ => none

/-- The data and a positive expected length are within the capacity of the policy. -/
def Apdu.InRange (apdu : Apdu) : Prop :=
  ∃ maximumData maximumLe, apdu.encoding.capacity = some (maximumData,maximumLe) ∧
    apdu.data.length ≤ maximumData ∧ ∀ le ∈ apdu.le, 0 < le ∧ le ≤ maximumLe

section Bodies

theorem bigEndian_ofNat {n : Nat} (h : n < 65536) : bigEndian (UInt8.ofNat (n / 256)) (UInt8.ofNat n) = n := by
  simp only [bigEndian,UInt8.toNat_ofNat']
  omega

theorem shortLe_ofNat {le : Nat} (hpositive : 0 < le) (h : le ≤ 256) : shortLe (UInt8.ofNat le) = le := by
  have hvalue : (UInt8.ofNat le).toNat = le % 256 := UInt8.toNat_ofNat'
  unfold shortLe
  by_cases hmaximum : le = 256
  · rw [hmaximum]
    rfl
  · have hnonzero : UInt8.ofNat le ≠ 0 := by
      intro hzero
      rw [hzero] at hvalue
      change 0 = le % 256 at hvalue
      omega
    rw [if_neg hnonzero,hvalue]
    omega

theorem extendedLe_ofNat {le : Nat} (hpositive : 0 < le) (h : le ≤ 65536) :
    extendedLe (UInt8.ofNat (le / 256)) (UInt8.ofNat le) = le := by
  unfold extendedLe
  by_cases hmaximum : le = 65536
  · have hzero : bigEndian (UInt8.ofNat (65536 / 256)) (UInt8.ofNat 65536) = 0 := by decide
    rw [hmaximum,if_pos hzero]
  · have hvalue : bigEndian (UInt8.ofNat (le / 256)) (UInt8.ofNat le) = le := bigEndian_ofNat (by omega)
    have hnonzero : bigEndian (UInt8.ofNat (le / 256)) (UInt8.ofNat le) ≠ 0 := by omega
    rw [if_neg hnonzero,hvalue]

theorem byteBefore_append (places : Nat) (front back : Bytes) (h : back.length = places) :
    byteBefore places (front ++ back) = back.headD 0 := by
  have hindex : (front ++ back).length - places = front.length := by
    rw [List.length_append]
    omega
  unfold byteBefore
  rw [hindex,List.getD_eq_getElem?_getD,List.getElem?_append_right (Nat.le_refl _),Nat.sub_self]
  cases back with
  | nil => rfl
  | cons byte back => rfl

theorem toNat_ofNat_of_le {n : Nat} (h : n ≤ 255) : (UInt8.ofNat n).toNat = n := by
  rw [UInt8.toNat_ofNat']
  omega

theorem ofNat_ne_zero {n : Nat} (hpositive : 0 < n) (h : n ≤ 255) : UInt8.ofNat n ≠ 0 := by
  intro hzero
  have hvalue := toNat_ofNat_of_le h
  rw [hzero] at hvalue
  change 0 = n at hvalue
  omega

/-- The case of a body whose first byte counts the data. -/
theorem commandCase_short {data : Bytes} (back : Bytes) (hdata : data ≠ []) (h : data.length ≤ 255) :
    commandCase (UInt8.ofNat data.length :: (data ++ back)) =
      if back.length = 0 then some .case3S else if back.length = 1 then some .case4S else none := by
  have hpositive := List.length_pos_iff.mpr hdata
  obtain ⟨byte,rest,hrest⟩ := List.exists_cons_of_ne_nil (List.append_ne_nil_of_left_ne_nil hdata back)
  have hlength : (byte :: rest).length = data.length + back.length := by rw [← hrest,List.length_append]
  rw [hrest]
  change (if _ then if (byte :: rest).length = _ then _ else if (byte :: rest).length = _ then _ else _ else _) = _
  rw [if_pos (ofNat_ne_zero hpositive h),toNat_ofNat_of_le h,hlength]
  simp only [Nat.add_eq_left,Nat.add_left_cancel_iff]

/-- The case of a body with the extended marker and the length of the data. -/
theorem commandCase_extended {data : Bytes} (back : Bytes) (hdata : data ≠ []) (h : data.length < 65536) :
    commandCase (0x00 :: UInt8.ofNat (data.length / 256) :: UInt8.ofNat data.length :: (data ++ back)) =
      if back.length = 0 then some .case3E else if back.length = 2 then some .case4E else none := by
  have hpositive := List.length_pos_iff.mpr hdata
  obtain ⟨n,hn⟩ := Nat.exists_eq_succ_of_ne_zero (by rw [List.length_append]; omega : (data ++ back).length ≠ 0)
  have hlength : n + 1 = data.length + back.length := by rw [← List.length_append,hn]
  change extendedCase (bigEndian _ _) (data ++ back).length = _
  rw [bigEndian_ofNat h,hn]
  change (if data.length = 0 then none else if n + 1 = data.length then _ else if n + 1 = data.length + 2 then _ else _) = _
  rw [if_neg (by omega),hlength]
  simp only [Nat.add_eq_left,Nat.add_left_cancel_iff]

/-- What the encoder writes behind the header. -/
def Apdu.body (apdu : Apdu) (extended : Prop) [Decidable extended] : Bytes :=
  (if apdu.data = [] then []
    else (if extended then [0x00,UInt8.ofNat (apdu.data.length / 256)] else []) ++
      UInt8.ofNat apdu.data.length :: apdu.data) ++
  (match apdu.le with
    | none => []
    | some le =>
      (if extended then (if apdu.data = [] then [0x00] else []) ++ [UInt8.ofNat (le / 256)] else []) ++
        [UInt8.ofNat le])

theorem Apdu.length_body (apdu : Apdu) (extended : Prop) [Decidable extended] :
    (apdu.body extended).length = (if apdu.data = [] then 0 else (if extended then 3 else 1) + apdu.data.length) +
      (if apdu.le = none then 0 else if extended then (if apdu.data = [] then 3 else 2) else 1) := by
  unfold Apdu.body
  by_cases hempty : apdu.data = [] <;> by_cases hextended : extended <;> cases apdu.le <;>
    simp [hempty,hextended] <;> omega

/-- The lengths have a form of this kind. -/
structure Apdu.Fits (apdu : Apdu) (maximumData maximumLe : Nat) : Prop where
  data : apdu.data.length ≤ maximumData
  le : ∀ le ∈ apdu.le, 0 < le ∧ le ≤ maximumLe

theorem parseBody_short {apdu : Apdu} (h : apdu.Fits 255 256) :
    parseBody (apdu.body False) = some (apdu.data,apdu.le) := by
  obtain ⟨hdata,hle⟩ := h
  unfold Apdu.body
  by_cases hempty : apdu.data = []
  · cases hexpected : apdu.le with
    | none => simp [hempty,parseBody,commandCase]
    | some le =>
      obtain ⟨hpositive,hmaximum⟩ := hle le hexpected
      simp [hempty,parseBody,commandCase,byteBefore,shortLe_ofNat hpositive hmaximum]
  · rw [if_neg hempty]
    cases hexpected : apdu.le with
    | none =>
      have hcase := commandCase_short [] hempty hdata
      rw [List.append_nil] at hcase
      simp [parseBody,hcase]
    | some le =>
      obtain ⟨hpositive,hmaximum⟩ := hle le hexpected
      have hcase := commandCase_short [UInt8.ofNat le] hempty hdata
      have hlast : byteBefore 1 (UInt8.ofNat apdu.data.length :: (apdu.data ++ [UInt8.ofNat le])) = UInt8.ofNat le :=
        byteBefore_append 1 (UInt8.ofNat apdu.data.length :: apdu.data) [UInt8.ofNat le] rfl
      simp [parseBody,hcase,hlast,shortLe_ofNat hpositive hmaximum]

theorem parseBody_extended {apdu : Apdu} (h : apdu.Fits 65535 65536) :
    parseBody (apdu.body True) = some (apdu.data,apdu.le) := by
  obtain ⟨hdata,hle⟩ := h
  have hbound : apdu.data.length < 65536 := by omega
  unfold Apdu.body
  by_cases hempty : apdu.data = []
  · cases hexpected : apdu.le with
    | none => simp [hempty,parseBody,commandCase]
    | some le =>
      obtain ⟨hpositive,hmaximum⟩ := hle le hexpected
      simp [hempty,parseBody,commandCase,extendedCase,byteBefore,extendedLe_ofNat hpositive hmaximum]
  · rw [if_neg hempty]
    cases hexpected : apdu.le with
    | none =>
      have hcase := commandCase_extended [] hempty hbound
      rw [List.append_nil] at hcase
      simp [parseBody,hcase]
    | some le =>
      obtain ⟨hpositive,hmaximum⟩ := hle le hexpected
      let front := 0x00 :: UInt8.ofNat (apdu.data.length / 256) :: UInt8.ofNat apdu.data.length :: apdu.data
      have hcase := commandCase_extended [UInt8.ofNat (le / 256),UInt8.ofNat le] hempty hbound
      have hlow : byteBefore 1 (front ++ [UInt8.ofNat (le / 256),UInt8.ofNat le]) = UInt8.ofNat le := by
        rw [List.append_cons]
        exact byteBefore_append 1 (front ++ [UInt8.ofNat (le / 256)]) [UInt8.ofNat le] rfl
      have hhigh : byteBefore 2 (front ++ [UInt8.ofNat (le / 256),UInt8.ofNat le]) = UInt8.ofNat (le / 256) :=
        byteBefore_append 2 front [UInt8.ofNat (le / 256),UInt8.ofNat le] rfl
      simp only [front,List.cons_append] at hlow hhigh
      simp [parseBody,hcase,hlow,hhigh,hempty,extendedLe_ofNat hpositive hmaximum]

end Bodies

section Encoding
variable {apdu : Apdu}

def Apdu.header (apdu : Apdu) : Bytes := [apdu.cla,apdu.ins,apdu.p1,apdu.p2]

/-- Every way the encoder can decide. -/
inductive EncodeRun (apdu : Apdu) : Result Bytes → Prop
  | short (hrange : apdu.InRange) (hfits : apdu.Fits 255 256) : EncodeRun apdu (.ok (apdu.header ++ apdu.body False))
  | extended (hrange : apdu.InRange) (hfits : apdu.Fits 65535 65536) :
      EncodeRun apdu (.ok (apdu.header ++ apdu.body True))
  | refused {e} (hrange : ¬apdu.InRange) : EncodeRun apdu (.error e)

/-- The lengths that the encoder admits under any policy. -/
theorem fits_of_admitted (h : ¬(apdu.encoding.known = false ∨ maximumCommandData < apdu.data.length ∨
    ∃ le ∈ apdu.le, le = 0 ∨ maximumExpectedData < le)) :
    apdu.encoding.known = true ∧ apdu.Fits 65535 65536 := by
  simp only [not_or,not_exists,not_and,Bool.not_eq_false] at h
  obtain ⟨hknown,hdata,hle⟩ := h
  refine ⟨hknown,Nat.not_lt.mp hdata,?_⟩
  intro le hexpected
  obtain ⟨hzero,hmaximum⟩ := hle le hexpected
  exact ⟨Nat.pos_of_ne_zero hzero,Nat.not_lt.mp hmaximum⟩

theorem Apdu.InRange.fits (h : apdu.InRange) : apdu.encoding.known = true ∧ apdu.Fits 65535 65536 ∧
    (apdu.encoding = .shortApdu → apdu.Fits 255 256) := by
  obtain ⟨maximumData,maximumLe,hcapacity,hdata,hle⟩ := h
  cases hencoding : apdu.encoding with
  | automatic | extended =>
    rw [hencoding] at hcapacity
    cases hcapacity
    exact ⟨rfl,⟨hdata,hle⟩,by simp⟩
  | shortApdu =>
    rw [hencoding] at hcapacity
    cases hcapacity
    refine ⟨rfl,⟨by omega,fun le hexpected => ?_⟩,fun _ => ⟨hdata,hle⟩⟩
    have hbounds := hle le hexpected
    omega
  | other value =>
    rw [hencoding] at hcapacity
    cases hcapacity

theorem Apdu.Fits.inRange (h : apdu.Fits 65535 65536) (hknown : apdu.encoding.known = true)
    (hshort : apdu.encoding = .shortApdu → apdu.Fits 255 256) : apdu.InRange := by
  unfold Apdu.InRange
  cases hencoding : apdu.encoding with
  | automatic | extended => exact ⟨_,_,rfl,h.data,h.le⟩
  | shortApdu => exact ⟨_,_,rfl,(hshort hencoding).data,(hshort hencoding).le⟩
  | other value =>
    rw [hencoding] at hknown
    cases hknown

/-- Without the need of the extended form, the lengths fit the short one. -/
theorem Apdu.Fits.short (h : apdu.Fits 65535 65536)
    (hneeds : ¬(255 < apdu.data.length ∨ ∃ le ∈ apdu.le, 256 < le)) : apdu.Fits 255 256 := by
  simp only [not_or,not_exists,not_and] at hneeds
  refine ⟨Nat.not_lt.mp hneeds.1,fun le hexpected => ?_⟩
  exact ⟨(h.le le hexpected).1,Nat.not_lt.mp (hneeds.2 le hexpected)⟩

theorem Apdu.Fits.needs (h : apdu.Fits 255 256) : ¬(255 < apdu.data.length ∨ ∃ le ∈ apdu.le, 256 < le) := by
  rintro (hdata | ⟨le,hexpected,hle⟩)
  · have hbound := h.data
    omega
  · have hbound := h.le le hexpected
    omega

theorem Apdu.body_congr {p q : Prop} [Decidable p] [Decidable q] (h : p ↔ q) : apdu.body p = apdu.body q := by
  unfold Apdu.body
  simp only [h]

/-- The bytes of an admitted command. -/
theorem encode_admitted (hadmitted : ¬(apdu.encoding.known = false ∨ maximumCommandData < apdu.data.length ∨
      ∃ le ∈ apdu.le, le = 0 ∨ maximumExpectedData < le))
    (hshort : ¬(apdu.encoding = .shortApdu ∧ (255 < apdu.data.length ∨ ∃ le ∈ apdu.le, 256 < le))) :
    encode apdu = .ok (apdu.header ++ apdu.body
      (apdu.encoding = .extended ∨ 255 < apdu.data.length ∨ ∃ le ∈ apdu.le, 256 < le)) := by
  refine (if_neg hadmitted).trans ((if_neg hshort).trans ?_)
  rw [Apdu.body,← List.append_assoc]
  rfl

/-- A short command takes the extended form only where it is asked for. -/
theorem encode_small (hknown : apdu.encoding.known = true) (hfits : apdu.Fits 255 256) :
    encode apdu = .ok (apdu.header ++ apdu.body (apdu.encoding = .extended)) := by
  have hadmitted : ¬(apdu.encoding.known = false ∨ maximumCommandData < apdu.data.length ∨
      ∃ le ∈ apdu.le, le = 0 ∨ maximumExpectedData < le) := by
    rintro (hunknown | hdata | ⟨le,hexpected,hle⟩)
    · rw [hknown] at hunknown
      cases hunknown
    · have hbound := hfits.data
      simp only [maximumCommandData] at hdata
      omega
    · have hbounds := hfits.le le hexpected
      simp only [maximumExpectedData] at hle
      omega
  rw [encode_admitted hadmitted fun hrefused => hfits.needs hrefused.2,Apdu.body_congr (or_iff_left hfits.needs)]

theorem encode_runs (apdu : Apdu) : EncodeRun apdu (encode apdu) := by
  by_cases hadmitted : apdu.encoding.known = false ∨ maximumCommandData < apdu.data.length ∨
      ∃ le ∈ apdu.le, le = 0 ∨ maximumExpectedData < le
  · have hencode : encode apdu = .error (invalid "ISO command has an invalid data or expected length") :=
      if_pos hadmitted
    rw [hencode]
    refine .refused fun hrange => ?_
    obtain ⟨hknown,hfits,_⟩ := hrange.fits
    rcases hadmitted with hother | hdata | ⟨le,hexpected,hle⟩
    · rw [hknown] at hother
      cases hother
    · exact absurd hfits.data (Nat.not_le.mpr hdata)
    · have hbounds := hfits.le le hexpected
      change le = 0 ∨ 65536 < le at hle
      omega
  obtain ⟨hknown,hfits⟩ := fits_of_admitted hadmitted
  by_cases hrefused : apdu.encoding = .shortApdu ∧ (255 < apdu.data.length ∨ ∃ le ∈ apdu.le, 256 < le)
  · have hencode : encode apdu = .error (invalid "ISO command exceeds short APDU length capacity") :=
      (if_neg hadmitted).trans (if_pos hrefused)
    rw [hencode]
    refine .refused fun hrange => ?_
    exact (hrange.fits.2.2 hrefused.1).needs hrefused.2
  rw [encode_admitted hadmitted hrefused]
  have hrange : apdu.InRange := by
    apply hfits.inRange hknown
    intro hshort
    exact hfits.short fun hneeds => hrefused ⟨hshort,hneeds⟩
  by_cases hextended : apdu.encoding = .extended ∨ 255 < apdu.data.length ∨ ∃ le ∈ apdu.le, 256 < le
  · rw [Apdu.body_congr (iff_of_true hextended trivial)]
    exact .extended hrange hfits
  · rw [Apdu.body_congr (iff_of_false hextended not_false)]
    exact .short hrange (hfits.short fun hneeds => hextended (.inr hneeds))

/-- A card reads an encoded command as it was given. -/
theorem parseCommand_encode {bytes : Bytes} (h : encode apdu = .ok bytes) : parseCommand bytes = some apdu.fields := by
  have hrun := encode_runs apdu
  rw [h] at hrun
  cases hrun with
  | short hrange hfits =>
    change (parseBody (apdu.body False)).map _ = _
    rw [parseBody_short hfits]
    rfl
  | extended hrange hfits =>
    change (parseBody (apdu.body True)).map _ = _
    rw [parseBody_extended hfits]
    rfl

/-- Every command that the encoder accepts is read back from its bytes as it was given, and it accepts
exactly the lengths within the capacity of the policy. -/
theorem encode_decodable (apdu : Apdu) :
    (∀ bytes, encode apdu = .ok bytes → parseCommand bytes = some apdu.fields) ∧
      ((∃ e, encode apdu = .error e) ↔ ¬apdu.InRange) := by
  refine ⟨fun _ => parseCommand_encode,?_⟩
  have hrun := encode_runs apdu
  generalize encode apdu = encoded at hrun
  cases hrun with
  | short hrange => exact iff_of_false (by simp) (not_not_intro hrange)
  | extended hrange => exact iff_of_false (by simp) (not_not_intro hrange)
  | refused hrange => exact iff_of_true ⟨_,rfl⟩ hrange

end Encoding
end DesfireSdk.Iso7816.Raw
