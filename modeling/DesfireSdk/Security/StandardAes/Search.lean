import Mathlib.Data.List.Nodup
import DesfireSdk.Foundation.Calm
import DesfireSdk.Foundation.Fields
import DesfireSdk.Security.StandardAes.Evaluation

/-! The search for the end of the clear data in a Full response of unknown size. -/
namespace DesfireSdk.Security.StandardAes
open Interaction Program

section Splits
variable {clear data : Bytes} {status : Byte}

/-- The checksum field of clear data under a status. -/
def checksum (data : Bytes) (status : Byte) : Bytes := putLe (crc32 (data ++ [status])) crcSize

@[simp] theorem length_checksum (data : Bytes) (status : Byte) : (checksum data status).length = crcSize :=
  length_putLe _ _

/-- A plaintext is this data, its checksum and less than a block of zeros. -/
def Split (clear : Bytes) (status : Byte) (data : Bytes) : Prop :=
  ∃ n < aesBlockSize, clear = data ++ (checksum data status ++ zeros n)

theorem Split.length (h : Split clear status data) :
    data.length + crcSize ≤ clear.length ∧ clear.length < data.length + crcSize + aesBlockSize := by
  obtain ⟨n,hn,rfl⟩ := h
  simp only [List.length_append,length_checksum,length_zeros]
  omega

theorem Split.take (h : Split clear status data) : clear.take data.length = data := by
  obtain ⟨n,_,rfl⟩ := h
  exact List.take_left

/-- A boundary is accepted exactly where it splits the plaintext. -/
theorem verifies_iff (h : crcSize ≤ clear.length) (size : Nat) :
    verifies clear status size = true ↔ Split clear status (clear.take size) ∧ size ≤ clear.length := by
  constructor
  · intro hverifies
    unfold verifies at hverifies
    split at hverifies
    · cases hverifies
    next hsize =>
    split at hverifies
    · cases hverifies
    next hpadding =>
    rw [Bool.and_eq_true] at hverifies
    obtain ⟨hzeros,hcrc⟩ := hverifies
    refine ⟨⟨clear.length - size - crcSize,Nat.lt_of_not_le hpadding,?_⟩,by omega⟩
    have hstored : (clear.drop size).take crcSize = checksum (clear.take size) status := by
      unfold crcMatches at hcrc
      split at hcrc
      · cases hcrc
      rw [constantTimeEqual_eq,beq_iff_eq] at hcrc
      exact hcrc
    have hblank : clear.drop (size + crcSize) = zeros (clear.length - size - crcSize) := by
      rw [zeros,List.eq_replicate_iff]
      refine ⟨by rw [List.length_drop]; omega,fun byte hbyte => ?_⟩
      exact beq_iff_eq.mp (List.all_eq_true.mp hzeros byte hbyte)
    calc clear = clear.take size ++ clear.drop size := (List.take_append_drop _ _).symm
      _ = clear.take size ++ ((clear.drop size).take crcSize ++ (clear.drop size).drop crcSize) := by
        rw [List.take_append_drop crcSize (clear.drop size)]
      _ = _ := by rw [hstored,List.drop_drop,hblank]
  · rintro ⟨⟨n,hn,hclear⟩,hsize⟩
    let data := clear.take size
    have hdata : data.length = size := List.length_take_of_le hsize
    have hlength : clear.length = size + (crcSize + n) := by
      have htotal := congrArg List.length hclear
      rw [List.length_append,List.length_append,length_checksum,length_zeros,hdata] at htotal
      exact htotal
    have hrest : clear.drop size = checksum data status ++ zeros n := by
      rw [hclear]
      exact List.drop_left' hdata
    have hstored : (clear.drop size).take crcSize = checksum data status := by
      rw [hrest]
      exact List.take_left' (length_checksum _ _)
    have hblank : clear.drop (size + crcSize) = zeros n := by
      rw [← List.drop_drop,hrest]
      exact List.drop_left' (length_checksum _ _)
    unfold verifies
    rw [if_neg (by omega),if_neg (by omega),hstored,hblank]
    simp [zeros,crcMatches,constantTimeEqual_eq,checksum,data]

/-- Every padding of less than a block that fits is considered, and none else. -/
theorem mem_candidates (h : crcSize ≤ clear.length) (size : Nat) :
    size ∈ candidates clear ↔ ∃ padding < aesBlockSize, size + crcSize + padding = clear.length := by
  unfold candidates
  rw [List.mem_map]
  constructor
  · rintro ⟨padding,hpadding,rfl⟩
    rw [List.mem_range] at hpadding
    unfold aesBlockSize at *
    exact ⟨padding,by omega,by omega⟩
  · rintro ⟨padding,hpadding,hsize⟩
    refine ⟨padding,List.mem_range.mpr ?_,?_⟩
    · unfold aesBlockSize at *
      omega
    · omega

theorem candidates_nodup (h : crcSize ≤ clear.length) : (candidates clear).Nodup := by
  unfold candidates
  refine List.Nodup.map_on ?_ List.nodup_range
  intro padding hpadding other hother hequal
  rw [List.mem_range] at hpadding hother
  omega

/-- The boundaries that are found. -/
def boundaries (clear : Bytes) (status : Byte) : List Nat := (candidates clear).filter (verifies clear status)

theorem mem_boundaries (h : crcSize ≤ clear.length) (size : Nat) :
    size ∈ boundaries clear status ↔ Split clear status (clear.take size) ∧ size ≤ clear.length := by
  rw [boundaries,List.mem_filter,verifies_iff h,mem_candidates h]
  constructor
  · exact fun hfound => hfound.2
  · intro hsplit
    refine ⟨?_,hsplit⟩
    have hlength := hsplit.1.length
    rw [List.length_take_of_le hsplit.2] at hlength
    exact ⟨clear.length - size - crcSize,by omega,by omega⟩

theorem Split.mem_boundaries (h : Split clear status data) : data.length ∈ boundaries clear status := by
  have hlength := h.length
  rw [StandardAes.mem_boundaries (by omega),h.take]
  exact ⟨h,by omega⟩

/-- One boundary means one split. -/
theorem unique_of_boundaries (h : crcSize ≤ clear.length) {size : Nat} (hfound : boundaries clear status = [size]) :
    Split clear status (clear.take size) ∧ ∀ other, Split clear status other → other = clear.take size := by
  have hsize : size ∈ boundaries clear status := hfound ▸ List.mem_singleton_self size
  refine ⟨((mem_boundaries h size).mp hsize).1,fun other hother => ?_⟩
  have hmember := hother.mem_boundaries
  rw [hfound,List.mem_singleton] at hmember
  rw [← hmember]
  exact hother.take.symm

/-- Two boundaries mean that no split is the only one. -/
theorem ambiguous_of_boundaries (h : crcSize ≤ clear.length) (hfound : 1 < (boundaries clear status).length)
    (data : Bytes) : ∃ other, Split clear status other ∧ other ≠ data := by
  have hnodup : (boundaries clear status).Nodup := (candidates_nodup h).filter _
  match hlist : boundaries clear status,hfound with
  | first :: second :: rest,_ =>
    have hdiffer : first ≠ second := by
      rw [hlist] at hnodup
      exact fun hequal => (List.nodup_cons.mp hnodup).1 (hequal ▸ List.mem_cons_self)
    have hfound : ∀ size ∈ boundaries clear status, Split clear status (clear.take size) ∧ size ≤ clear.length :=
      fun size => (mem_boundaries h size).mp
    rw [hlist] at hfound
    obtain ⟨hfirst,hfirstSize⟩ := hfound first List.mem_cons_self
    obtain ⟨hsecond,hsecondSize⟩ := hfound second (List.mem_cons_of_mem _ List.mem_cons_self)
    by_cases hdata : clear.take first = data
    · refine ⟨clear.take second,hsecond,fun hequal => hdiffer ?_⟩
      have hlengths := congrArg List.length (hdata.trans hequal.symm)
      rw [List.length_take_of_le hfirstSize,List.length_take_of_le hsecondSize] at hlengths
      exact hlengths
    · exact ⟨clear.take first,hfirst,hdata⟩

end Splits

section Bounds
variable (clear : Bytes) (status : Byte)

/-- The test of one boundary, every read and every difference of sizes checked. -/
def verifiesWithin (dataSize : Nat) : Reading Error Bool := do
  let limit ← Reading.difference clear.length crcSize
  if limit < dataSize then return false
  else
    let left ← Reading.difference clear.length dataSize
    let paddingSize ← Reading.difference left crcSize
    if aesBlockSize ≤ paddingSize then return false
    else
      let padding ← Reading.span clear (dataSize + crcSize) paddingSize
      if padding.all (· == 0) = false then return false
      else
        let data ← Reading.span clear 0 dataSize
        let stored ← Reading.span clear dataSize crcSize
        return crcMatches stored (crc32 (data ++ [status]))

def ambiguous : Error := ⟨.integrity,"Standard AES response has ambiguous CRC boundary",.unknown,0⟩

/-- The loop over growing paddings, which stops at a second boundary. -/
def searchWithin : List Nat → Option Nat → Reading Error (Option Nat)
  | [],verified => return verified
  | padding :: rest,verified => do
    let limit ← Reading.difference clear.length crcSize
    let candidate ← Reading.difference limit padding
    let accepted ← verifiesWithin clear status candidate
    if accepted then
      if verified.isSome then throw ambiguous
      else searchWithin rest (some candidate)
    else searchWithin rest verified

/-- The search from the shortest padding on. -/
def unknownSizeWithin : Reading Error (Option Nat) := do
  let limit ← Reading.difference clear.length crcSize
  searchWithin clear status (List.range (min (aesBlockSize - 1) limit + 1)) none

/-- What a search reports for the boundaries it found. -/
def reported : List Nat → Except Error (Option Nat)
  | [] => .ok none
  | [size] => .ok (some size)
  | _ => .error ambiguous

variable {clear status}

theorem verifiesWithin_eq (h : crcSize ≤ clear.length) (dataSize : Nat) :
    verifiesWithin clear status dataSize = Reading.within (.ok (verifies clear status dataSize)) := by
  unfold verifiesWithin verifies
  rw [Reading.difference_within h,Reading.within_ok_bind]
  split
  · rfl
  rw [Reading.difference_within (by omega),Reading.within_ok_bind,Reading.difference_within (by omega),
    Reading.within_ok_bind]
  split
  · rfl
  rw [Reading.span_within (by omega),Reading.within_ok_bind,
    List.take_of_length_le (by rw [List.length_drop]; omega)]
  cases hzeros : (clear.drop (dataSize + crcSize)).all (· == 0) with
  | false => rfl
  | true =>
    rw [if_neg (by simp),Reading.span_within (by omega),Reading.within_ok_bind,
      Reading.span_within (by omega)]
    rfl

theorem searchWithin_eq (h : crcSize ≤ clear.length) (paddings : List Nat) (verified : Option Nat)
    (hpaddings : ∀ padding ∈ paddings, crcSize + padding ≤ clear.length) :
    searchWithin clear status paddings verified = Reading.within (reported (verified.toList ++
      (paddings.map fun padding => clear.length - crcSize - padding).filter (verifies clear status))) := by
  induction paddings generalizing verified with
  | nil => cases verified <;> rfl
  | cons padding rest ih =>
    have hpadding := hpaddings padding List.mem_cons_self
    have hrest : ∀ other ∈ rest, crcSize + other ≤ clear.length :=
      fun other hother => hpaddings other (List.mem_cons_of_mem _ hother)
    rw [searchWithin,Reading.difference_within h,Reading.within_ok_bind,Reading.difference_within (by omega),
      Reading.within_ok_bind,verifiesWithin_eq h,Reading.within_ok_bind,List.map_cons,List.filter_cons]
    cases verifies clear status (clear.length - crcSize - padding) with
    | false => exact ih verified hrest
    | true =>
      cases verified with
      | none => exact ih (some (clear.length - crcSize - padding)) hrest
      | some size => rfl

/-- The search stays within the plaintext and reports the boundaries of every padding. -/
theorem unknownSizeWithin_eq (h : crcSize ≤ clear.length) :
    unknownSizeWithin clear status = Reading.within (reported (boundaries clear status)) := by
  have hpaddings : ∀ padding ∈ List.range (min (aesBlockSize - 1) (clear.length - crcSize) + 1),
      crcSize + padding ≤ clear.length := by
    intro padding hpadding
    rw [List.mem_range] at hpadding
    omega
  unfold unknownSizeWithin
  rw [Reading.difference_within h,Reading.within_ok_bind,searchWithin_eq h _ none hpaddings]
  rfl

end Bounds

namespace Session
variable {o : Oracle Environment} {P : Primitives} {s : Session} {response : Native.Raw.Response}

/-- A response of whole blocks, at least one. -/
def WholeBlocks (response : Native.Raw.Response) : Prop :=
  response.data ≠ [] ∧ response.data.length % aesBlockSize = 0

/-- The plaintext of a Full response. -/
def plaintext (P : Primitives) (s : Session) (response : Native.Raw.Response) : Bytes :=
  P.decrypt s.sessionKey s.iv response.data

/-- The three ends of a decryption of unknown size. -/
inductive SearchCase (P : Primitives) (s : Session) (response : Native.Raw.Response) :
    Except Fault Bytes → Session → Prop
  | found (hblocks : WholeBlocks response) {size : Nat}
      (hfound : boundaries (s.plaintext P response) response.status = [size]) :
      SearchCase P s response (.ok ((s.plaintext P response).take size))
        (s.chain (response.data.drop (response.data.length - aesBlockSize)) .ready)
  | ambiguous (hblocks : WholeBlocks response)
      (hfound : 1 < (boundaries (s.plaintext P response) response.status).length) :
      SearchCase P s response (.error (.error ambiguous)) s.invalidate
  | none (hblocks : WholeBlocks response) (hfound : boundaries (s.plaintext P response) response.status = []) :
      SearchCase P s response (.error (.error
        ⟨.integrity,"Standard AES response CRC or zero padding is invalid",.unknown,0⟩)) s.invalidate
  | unaligned (hblocks : ¬WholeBlocks response) :
      SearchCase P s response (.error (.error
        ⟨.integrity,"Standard AES encrypted response has invalid length",.unknown,0⟩)) s.invalidate

theorem verifyAndDecryptFullResponse_search (hP : Computes o P) (hphase : s.phase = .awaitingResponse)
    (hstatus : response.status = 0x00) :
    Ensures blind o (verifyAndDecryptFullResponse response none) s fun r s' _ => SearchCase P s response r s' := by
  refine ensures_get_bind ?_
  refine Op.ensures_refuse_bind (fun h => absurd hphase h) fun _ => ?_
  refine Op.ensures_refuseAfter_bind (fun h => absurd (h.symm.trans hstatus) (by decide)) fun _ => ?_
  refine Op.ensures_refuseAfter_bind (fun h => absurd hstatus h) fun _ => ?_
  refine Op.ensures_refuseAfter_bind (fun h => ?_) fun hblocks => ?_
  · refine .unaligned fun hwhole => ?_
    rcases h with h | h
    · exact hwhole.1 h
    · exact h hwhole.2
  rw [not_or,not_not] at hblocks
  refine Op.ensures_catchAll ?_
  refine ensures_bind_known (Yields.ensures (Op.reaches_mapError (hP.yields_decrypt s.sessionKeySize s.ivSize
    hblocks.2 rfl))) ?_
  refine Op.ensures_refuseAfter_bind (fun hfound => .ambiguous hblocks hfound) fun hsingle => ?_
  change ¬1 < (boundaries (s.plaintext P response) response.status).length at hsingle
  split
  next hfound =>
    refine ensures_modify_bind (Op.ensures_reject ?_)
    exact .none hblocks hfound
  next size rest hfound =>
    change boundaries (s.plaintext P response) response.status = size :: rest at hfound
    cases rest with
    | nil =>
      refine ensures_modify_bind (ensures_pure ?_)
      exact .found hblocks hfound
    | cons _ _ =>
      rw [hfound] at hsingle
      exact absurd (by simp) hsingle

/-- How a response of unknown size is decrypted. -/
structure SearchedExactly (P : Primitives) (s : Session) (response : Native.Raw.Response)
    (r : Except Fault Bytes) (s' : Session) : Prop where
  honest : ∀ data n, n < aesBlockSize →
    let clear := data ++ (checksum data response.status ++ zeros n)
    clear.length % aesBlockSize = 0 → response.data = P.encrypt s.sessionKey s.iv clear →
      r = .ok data ∨ r = .error (.error ambiguous) ∧ ∃ other, Split clear response.status other ∧ other ≠ data
  returned : ∀ data, r = .ok data ↔ WholeBlocks response ∧ Split (s.plaintext P response) response.status data ∧
    ∀ other, Split (s.plaintext P response) response.status other → other = data
  refused : (∃ data, r = .ok data) ∨
    ∃ e, r = .error (.error e) ∧ e.code = .integrity ∧ e.outcome = .unknown ∧ s' = s.invalidate
  considered : WholeBlocks response → ∀ padding < aesBlockSize, ∀ size,
    size + crcSize + padding = (s.plaintext P response).length → size ∈ candidates (s.plaintext P response)
  bounded : WholeBlocks response → unknownSizeWithin (s.plaintext P response) response.status =
    Reading.within (reported (boundaries (s.plaintext P response) response.status))

theorem crcSize_le_plaintext (P : Primitives) (s : Session) (hblocks : WholeBlocks response) :
    crcSize ≤ (s.plaintext P response).length := by
  have hpositive := List.length_pos_iff.mpr hblocks.1
  have haligned := hblocks.2
  rw [plaintext,P.length_decrypt]
  unfold aesBlockSize at haligned
  unfold crcSize
  omega

theorem SearchCase.returned {r : Except Fault Bytes} {s' : Session} (h : SearchCase P s response r s') (data : Bytes) :
    r = .ok data ↔ WholeBlocks response ∧ Split (s.plaintext P response) response.status data ∧
      ∀ other, Split (s.plaintext P response) response.status other → other = data := by
  cases h with
  | found hblocks hfound =>
    obtain ⟨hsplit,hunique⟩ := unique_of_boundaries (crcSize_le_plaintext P s hblocks) hfound
    constructor
    · intro hok
      cases hok
      exact ⟨hblocks,hsplit,hunique⟩
    · intro hdata
      rw [hunique data hdata.2.1]
  | ambiguous hblocks hfound =>
    obtain ⟨other,hother,hdiffers⟩ := ambiguous_of_boundaries (crcSize_le_plaintext P s hblocks) hfound data
    constructor
    · intro hok
      cases hok
    · intro hdata
      exact absurd (hdata.2.2 other hother) hdiffers
  | none hblocks hfound =>
    constructor
    · intro hok
      cases hok
    · intro hdata
      have hmember := hdata.2.1.mem_boundaries
      rw [hfound] at hmember
      cases hmember
  | unaligned hblocks =>
    constructor
    · intro hok
      cases hok
    · intro hdata
      exact absurd hdata.1 hblocks

theorem SearchCase.honest {r : Except Fault Bytes} {s' : Session} (h : SearchCase P s response r s') {data : Bytes}
    {n : Nat} (hn : n < aesBlockSize)
    (haligned : (data ++ (checksum data response.status ++ zeros n)).length % aesBlockSize = 0)
    (hsent : response.data = P.encrypt s.sessionKey s.iv (data ++ (checksum data response.status ++ zeros n))) :
    r = .ok data ∨ r = .error (.error StandardAes.ambiguous) ∧
      ∃ other, Split (data ++ (checksum data response.status ++ zeros n)) response.status other ∧ other ≠ data := by
  have hclear : s.plaintext P response = data ++ (checksum data response.status ++ zeros n) := by
    rw [plaintext,hsent]
    exact P.decrypt_encrypt _ _ _ haligned
  have hsplit : Split (s.plaintext P response) response.status data := ⟨n,hn,hclear⟩
  have hlength : response.data.length = (data ++ (checksum data response.status ++ zeros n)).length := by
    rw [hsent,P.length_encrypt]
  have hwhole : WholeBlocks response := by
    refine ⟨fun hnil => ?_,by rw [hlength]; exact haligned⟩
    rw [hnil] at hlength
    simp only [List.length_nil,List.length_append,length_checksum,crcSize] at hlength
    omega
  cases h with
  | found hblocks hfound =>
    have hunique := (unique_of_boundaries (crcSize_le_plaintext P s hblocks) hfound).2
    rw [hunique data hsplit]
    exact .inl rfl
  | ambiguous hblocks hfound =>
    have hother := ambiguous_of_boundaries (crcSize_le_plaintext P s hblocks) hfound data
    rw [hclear] at hother
    exact .inr ⟨rfl,hother⟩
  | none hblocks hfound =>
    have hmember := hsplit.mem_boundaries
    rw [hfound] at hmember
    cases hmember
  | unaligned hblocks => exact absurd hwhole hblocks

/-- Full responses of unknown size are never split wrongly. -/
theorem unknown_size_exact (hP : Computes o P) (h : Trace Environment) (s : Session)
    (response : Native.Raw.Response) (hphase : s.phase = .awaitingResponse) (hstatus : response.status = 0x00) :
    let run := verifyAndDecryptFullResponse response none o h s
    SearchedExactly P s response run.result run.state := by
  intro run
  have hcase : SearchCase P s response run.result run.state :=
    verifyAndDecryptFullResponse_search hP hphase hstatus h
  refine ⟨?_,hcase.returned,?_,?_,?_⟩
  · intro data n hn clear haligned hsent
    exact hcase.honest hn haligned hsent
  · generalize run.result = r, run.state = s' at hcase
    cases hcase with
    | found => exact .inl ⟨_,rfl⟩
    | ambiguous | none | unaligned => exact .inr ⟨_,rfl,rfl,rfl,rfl⟩
  · intro hblocks padding hpadding size hsize
    exact (mem_candidates (crcSize_le_plaintext P s hblocks) size).mpr ⟨padding,hpadding,hsize⟩
  · intro hblocks
    exact unknownSizeWithin_eq (crcSize_le_plaintext P s hblocks)

/-- One data byte behind primitives that copy their input. -/
theorem unknown_size_exact_byte :
    let s : Session := ⟨zeros 16,zeros 16,.awaitingResponse,rfl,rfl⟩
    let clear : Bytes := [7] ++ (checksum [7] 0x00 ++ zeros 11)
    (verifyAndDecryptFullResponse ⟨0x00,clear⟩ none (scripted {}) [] s).result = .ok [7] ∨
      ∃ other, Split clear 0x00 other ∧ other ≠ [7] := by
  intro s clear
  have hexact := unknown_size_exact (scripted_computes {} rfl rfl) [] s ⟨0x00,clear⟩ rfl rfl
  rcases hexact.honest [7] 11 (by decide) (by decide) rfl with hok | hambiguous
  · exact .inl hok
  · exact .inr hambiguous.2

end Session
end DesfireSdk.Security.StandardAes
