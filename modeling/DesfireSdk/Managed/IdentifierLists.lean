import DesfireSdk.Foundation.Gathering
import DesfireSdk.Managed.Discovery

/-! The loops that decode lists of identifiers. -/
namespace DesfireSdk.Native.Checked
open Model Gathering

/-- One field of the application list; the values seen so far stand beside the result. -/
def applicationIdStep (s : List ApplicationId × List Nat) (field : Bytes) : Result (List ApplicationId × List Nat) :=
  let id := applicationId field
  if id.value = 0 ∨ id.value ∈ s.2 then
    .error (malformed "EV3 application list contains a PICC or duplicate identifier")
  else .ok (s.1 ++ [id],id.value :: s.2)

/-- `parse_application_ids` field by field. -/
def applicationIdLoop (payload : Bytes) : Result (List ApplicationId) :=
  if payload.length % 3 ≠ 0 ∨ maximumLogicalResponse < payload.length then
    .error (malformed "EV3 application identifiers require complete three-byte fields")
  else ((fields 3 payload).foldlM applicationIdStep ([],[])).map Prod.fst

/-- One field of the ISO file list. -/
def isoFileIdStep (s : List Nat × List Nat) (field : Bytes) : Result (List Nat × List Nat) :=
  let value := getLe field
  if value ∈ s.2 then .error (malformed "EV3 ISO file list contains duplicate identifiers")
  else .ok (s.1 ++ [value],value :: s.2)

/-- `parse_iso_file_ids` field by field. -/
def isoFileIdLoop (payload : Bytes) : Result (List Nat) :=
  if payload.length % 2 ≠ 0 ∨ 64 < payload.length then
    .error (malformed "EV3 ISO file identifiers require up to 32 complete two-byte fields")
  else ((fields 2 payload).foldlM isoFileIdStep ([],[])).map Prod.fst

section Fields

theorem fields_append {size : Nat} (hsize : 0 < size) {field : Bytes} (hfield : field.length = size) (rest : Bytes) :
    fields size (field ++ rest) = field :: fields size rest := by
  have hcount : (field ++ rest).length / size = rest.length / size + 1 := by
    rw [List.length_append,hfield,Nat.add_comm,Nat.add_div_right _ hsize]
  unfold fields
  rw [hcount,List.range_succ_eq_map,List.map_cons,List.map_map,Nat.zero_mul,List.drop_zero,← hfield,List.take_left]
  congr 1
  apply List.map_congr_left
  intro index _
  have hposition : index.succ * field.length = field.length + index * field.length := by
    rw [Nat.succ_mul,Nat.add_comm]
  simp only [Function.comp_apply]
  rw [hposition,← List.drop_drop,List.drop_left]

theorem fields_nil (size : Nat) : fields size [] = [] := by simp [fields]

/-- The fields of a concatenation of encodings of one size. -/
theorem fields_flatMap {size : Nat} (hsize : 0 < size) {β : Type} {encode : β → Bytes}
    (hencode : ∀ value, (encode value).length = size) (values : List β) :
    fields size (values.flatMap encode) = values.map encode := by
  induction values with
  | nil => exact fields_nil size
  | cons value values ih => rw [List.flatMap_cons,fields_append hsize (hencode value),ih,List.map_cons]

/-- A payload of whole fields is the concatenation of its fields, which all have the size. -/
theorem fields_flatten {size : Nat} (hsize : 0 < size) (count : Nat) {payload : Bytes}
    (hpayload : payload.length = count * size) :
    (fields size payload).flatten = payload ∧ ∀ field ∈ fields size payload, field.length = size := by
  induction count generalizing payload with
  | zero =>
    have hempty : payload = [] := by simpa using hpayload
    rw [hempty,fields_nil]
    exact ⟨rfl,by simp⟩
  | succ count ih =>
    rw [Nat.succ_mul] at hpayload
    have hfield : (payload.take size).length = size := by
      rw [List.length_take]
      omega
    have hrest : (payload.drop size).length = count * size := by
      rw [List.length_drop]
      omega
    obtain ⟨hflatten,hlengths⟩ := ih hrest
    have hsplit := fields_append hsize hfield (payload.drop size)
    rw [List.take_append_drop] at hsplit
    rw [hsplit,List.flatten_cons,hflatten]
    refine ⟨List.take_append_drop size payload,?_⟩
    intro field hmem
    rcases List.mem_cons.mp hmem with rfl | hmem
    · exact hfield
    · exact hlengths field hmem

/-- The fields of a payload have these values exactly when it is the concatenation of their encodings. -/
theorem fields_read {size : Nat} (hsize : 0 < size) {β : Type} {encode : β → Bytes} {read : Bytes → Option β}
    {Valid : β → Prop} (hencode : ∀ value, (encode value).length = size)
    (hread : ∀ field value, field.length = size → (read field = some value ↔ Valid value ∧ field = encode value))
    {payload : Bytes} (hwhole : payload.length % size = 0) (values : List β) :
    (fields size payload).map read = values.map some ↔
      payload = values.flatMap encode ∧ ∀ value ∈ values, Valid value := by
  constructor
  · intro hvalues
    have hcount : payload.length = payload.length / size * size := (Nat.div_mul_cancel (Nat.dvd_of_mod_eq_zero hwhole)).symm
    obtain ⟨hflatten,hlengths⟩ := fields_flatten hsize _ hcount
    rw [← hflatten]
    clear hflatten
    generalize fields size payload = elements at hvalues hlengths
    induction elements generalizing values with
    | nil =>
      have hnone : values = [] := by simpa using hvalues.symm
      rw [hnone]
      exact ⟨rfl,by simp⟩
    | cons field elements ih =>
      cases values with
      | nil => cases hvalues
      | cons value values =>
        obtain ⟨hfirst,hvalues⟩ := List.cons.inj hvalues
        obtain ⟨hvalid,hfield⟩ := (hread field value (hlengths field (by simp))).mp hfirst
        obtain ⟨hrest,hvalids⟩ := ih values hvalues fun field hmem => hlengths field (List.mem_cons_of_mem _ hmem)
        refine ⟨by rw [List.flatten_cons,List.flatMap_cons,hfield,hrest],?_⟩
        intro other hmem
        rcases List.mem_cons.mp hmem with rfl | hmem
        · exact hvalid
        · exact hvalids other hmem
  · rintro ⟨hpayload,hvalids⟩
    rw [hpayload,fields_flatMap hsize hencode,List.map_map]
    apply List.map_congr_left
    intro value hmem
    exact (hread (encode value) value (hencode value)).mpr ⟨hvalids value hmem,rfl⟩

end Fields

section Loops

/-- The values seen so far are those of the result. -/
def Seen {β : Type} (value : β → Nat) (s : List β × List Nat) : Prop := s.2 = (s.1.map value).reverse

def readApplicationId (field : Bytes) : Option ApplicationId :=
  if (applicationId field).value = 0 then none else some (applicationId field)

theorem Seen.mem_iff {maximum : Nat} {s : List (Number maximum) × List Nat} (h : Seen (·.value) s) (b : Number maximum) :
    b.value ∈ s.2 ↔ b ∈ s.1 := by
  rw [h,List.mem_reverse,List.mem_map]
  constructor
  · rintro ⟨a,ha,hsame⟩
    rwa [← Number.ext hsame]
  · intro hb
    exact ⟨b,hb,rfl⟩

theorem Seen.push {β : Type} {value : β → Nat} {s : List β × List Nat} (h : Seen value s) (b : β) :
    Seen value (s.1 ++ [b],value b :: s.2) := by
  unfold Seen at h ⊢
  rw [h,List.map_append,List.reverse_append]
  rfl

theorem applicationIdStep_gathers (s : List ApplicationId × List Nat) (field : Bytes) (h : Seen (·.value) s) :
    Gathered readApplicationId Prod.fst (Seen (·.value)) s field (applicationIdStep s field) := by
  unfold applicationIdStep
  by_cases hzero : (applicationId field).value = 0
  · rw [if_pos (.inl hzero)]
    exact .unreadable (if_pos hzero)
  · have hread : readApplicationId field = some (applicationId field) := if_neg hzero
    by_cases hseen : (applicationId field).value ∈ s.2
    · rw [if_pos (.inr hseen)]
      exact .repeated hread ((h.mem_iff _).mp hseen)
    · have hnew : applicationId field ∉ s.1 := fun hmem => hseen ((h.mem_iff _).mpr hmem)
      rw [if_neg (not_or.mpr ⟨hzero,hseen⟩)]
      exact .kept hread hnew (h.push _) rfl

theorem isoFileIdStep_gathers (s : List Nat × List Nat) (field : Bytes) (h : Seen id s) :
    Gathered (fun field => some (getLe field)) Prod.fst (Seen id) s field (isoFileIdStep s field) := by
  have hmem : getLe field ∈ s.2 ↔ getLe field ∈ s.1 := by rw [h,List.mem_reverse,List.map_id]
  unfold isoFileIdStep
  by_cases hseen : getLe field ∈ s.2
  · rw [if_pos hseen]
    exact .repeated rfl (hmem.mp hseen)
  · rw [if_neg hseen]
    exact .kept rfl (fun hold => hseen (hmem.mpr hold)) (h.push _) rfl

/-- The payload is the concatenation of the encodings of distinct valid values, within a bound. -/
structure Lists {β : Type} (encode : β → Bytes) (Valid : β → Prop) (bound : Nat) (payload : Bytes) (values : List β) :
    Prop where
  concatenation : payload = values.flatMap encode
  valid : ∀ value ∈ values, Valid value
  distinct : values.Nodup
  bounded : payload.length ≤ bound

theorem length_flatMap {size : Nat} {β : Type} {encode : β → Bytes} (hencode : ∀ value, (encode value).length = size)
    (values : List β) : (values.flatMap encode).length = values.length * size := by
  induction values with
  | nil => simp
  | cons value values ih =>
    rw [List.flatMap_cons,List.length_append,ih,hencode,List.length_cons,Nat.succ_mul,Nat.add_comm]

/-- A decoder that checks for whole fields within a bound and gathers them accepts exactly such lists. -/
theorem gathered_exact {size bound : Nat} (hsize : 0 < size) {β σ : Type} {encode : β → Bytes} {Valid : β → Prop}
    {read : Bytes → Option β} {kept : σ → List β} {Inv : σ → Prop} {step : σ → Bytes → Result σ} {start : σ}
    {e : Error} (hencode : ∀ value, (encode value).length = size)
    (hread : ∀ field value, field.length = size → (read field = some value ↔ Valid value ∧ field = encode value))
    (hstep : ∀ s field, Inv s → Gathered read kept Inv s field (step s field)) (hstart : Inv start)
    (hempty : kept start = []) (payload : Bytes) (values : List β) :
    (if payload.length % size ≠ 0 ∨ bound < payload.length then .error e
      else ((fields size payload).foldlM step start).map kept) = .ok values ↔
      Lists encode Valid bound payload values := by
  by_cases hmalformed : payload.length % size ≠ 0 ∨ bound < payload.length
  · rw [if_pos hmalformed]
    refine iff_of_false (by simp) fun h => ?_
    rcases hmalformed with hpartial | hlong
    · rw [h.concatenation,length_flatMap hencode,Nat.mul_mod_left] at hpartial
      exact hpartial rfl
    · exact absurd h.bounded (Nat.not_le.mpr hlong)
  · rw [if_neg hmalformed]
    obtain ⟨hwhole,hbound⟩ := not_or.mp hmalformed
    have hwhole := Decidable.not_not.mp hwhole
    rw [foldlM_gathers hstep hstart hempty,fields_read hsize hencode hread hwhole]
    constructor
    · rintro ⟨⟨hpayload,hvalid⟩,hdistinct⟩
      exact ⟨hpayload,hvalid,hdistinct,Nat.not_lt.mp hbound⟩
    · intro h
      exact ⟨⟨h.concatenation,h.valid⟩,h.distinct⟩

theorem applicationId_value {field : Bytes} (h : field.length = 3) : (applicationId field).value = getLe field := by
  change getLe (field.take 3) = getLe field
  rw [List.take_of_length_le (Nat.le_of_eq h)]

theorem readApplicationId_eq (field : Bytes) (id : ApplicationId) (h : field.length = 3) :
    readApplicationId field = some id ↔ id.value ≠ 0 ∧ field = putLe id.value 3 := by
  have hvalue := applicationId_value h
  unfold readApplicationId
  constructor
  · intro hread
    split at hread
    · cases hread
    · next hzero =>
      cases hread
      have hencoded := putLe_getLe field (by omega)
      rw [h] at hencoded
      exact ⟨hzero,by rw [hvalue,hencoded]⟩
  · rintro ⟨hzero,hfield⟩
    have hsame : (applicationId field).value = id.value := by
      rw [hvalue,hfield]
      exact getLe_putLe (by decide) (by have hbound := id.bounded; omega)
    rw [hsame,if_neg hzero]
    exact congrArg some (Number.ext hsame)

theorem readIsoFileId_eq (field : Bytes) (value : Nat) (h : field.length = 2) :
    some (getLe field) = some value ↔ value < 65536 ∧ field = putLe value 2 := by
  constructor
  · intro hread
    cases hread
    have hbound := getLe_lt_pow field (by omega)
    have hencoded := putLe_getLe field (by omega)
    rw [h] at hbound hencoded
    exact ⟨hbound,hencoded.symm⟩
  · rintro ⟨hbound,hfield⟩
    rw [hfield,getLe_putLe (by decide) hbound]

theorem applicationIdLoop_exact (payload : Bytes) (ids : List ApplicationId) : applicationIdLoop payload = .ok ids ↔
    Lists (fun id => putLe id.value 3) (fun id => id.value ≠ 0) maximumLogicalResponse payload ids := by
  have hstart : Seen (fun id : ApplicationId => id.value) ([],[]) := rfl
  exact gathered_exact (by decide) (fun _ => length_putLe _ _) readApplicationId_eq applicationIdStep_gathers hstart rfl
    payload ids

theorem isoFileIdLoop_exact (payload : Bytes) (ids : List Nat) : isoFileIdLoop payload = .ok ids ↔
    Lists (fun id => putLe id 2) (· < 65536) 64 payload ids := by
  have hstart : Seen id (([],[]) : List Nat × List Nat) := rfl
  exact gathered_exact (by decide) (fun _ => length_putLe _ _) readIsoFileId_eq isoFileIdStep_gathers hstart rfl
    payload ids

theorem applicationIdStep_error (s : List ApplicationId × List Nat) (field : Bytes) (e : Error)
    (h : applicationIdStep s field = .error e) :
    e = malformed "EV3 application list contains a PICC or duplicate identifier" := by
  unfold applicationIdStep at h
  dsimp only at h
  split at h <;> cases h
  rfl

theorem isoFileIdStep_error (s : List Nat × List Nat) (field : Bytes) (e : Error) (h : isoFileIdStep s field = .error e) :
    e = malformed "EV3 ISO file list contains duplicate identifiers" := by
  unfold isoFileIdStep at h
  dsimp only at h
  split at h <;> cases h
  rfl

/-- The closed form and the loop agree, errors included. -/
theorem parseApplicationIds_loop (payload : Bytes) : parseApplicationIds payload = applicationIdLoop payload := by
  have hstart : Seen (fun id : ApplicationId => id.value) ([],[]) := rfl
  have hread (field : Bytes) : readApplicationId field =
      if (applicationId field).value ≠ 0 then some (applicationId field) else none := by
    unfold readApplicationId
    by_cases hzero : (applicationId field).value = 0
    · rw [if_pos hzero,if_neg (not_not_intro hzero)]
    · rw [if_neg hzero,if_pos hzero]
  have hclosed := closed_form applicationId (·.value ≠ 0) applicationIdStep_gathers hstart rfl hread applicationIdStep_error (fields 3 payload)
  exact if_congr Iff.rfl rfl hclosed

theorem parseIsoFileIds_loop (payload : Bytes) : parseIsoFileIds payload = isoFileIdLoop payload := by
  have hstart : Seen id (([],[]) : List Nat × List Nat) := rfl
  have hclosed := closed_form getLe (fun _ => True) isoFileIdStep_gathers hstart rfl (fun _ => (if_pos trivial).symm)
    isoFileIdStep_error (fields 2 payload)
  simp only [implies_true,true_and] at hclosed
  exact if_congr Iff.rfl rfl hclosed

end Loops
end DesfireSdk.Native.Checked

namespace DesfireSdk.Managed
open Interaction Program Model Gathering
open Native.Checked (Lists)

/-- One byte of the file list. -/
def fileIdStep (files : List FileNumber) (byte : Byte) : Result (List FileNumber) :=
  match (Number.make byte.toNat : Result FileNumber) with
  | .error _ => .error parseFileIds.duplicate
  | .ok file => if file ∈ files then .error parseFileIds.duplicate else .ok (files ++ [file])

/-- The file list of `Card::file_ids` byte by byte. -/
def fileIdLoop (payload : Bytes) : Result (List FileNumber) := payload.foldlM fileIdStep []

/-- What `Card::file_ids` does with the payload of the card. -/
def acceptFileIds (payload : Bytes) : Op Card (List FileNumber) := do
  Op.refuseAfter Card.invalidate (32 < payload.length)
    ⟨.malformedResponse,"GetFileIDs exceeds DESFire file capacity",.unknown,0⟩
  Op.onError (fun _ => Card.invalidate) (Op.ofResult (fileIdLoop payload))

section Files

def readFile (byte : Byte) : Option FileNumber := if h : byte.toNat ≤ 31 then some ⟨byte.toNat,h⟩ else none

theorem make_file (byte : Byte) : (Number.make byte.toNat : Result FileNumber) = match readFile byte with
    | some file => .ok file
    | none => .error (invalid "Value exceeds the EV3 field range") := by
  unfold Number.make readFile
  split <;> rfl

theorem fileIdStep_gathers (files : List FileNumber) (byte : Byte) :
    Gathered readFile id (fun _ => True) files byte (fileIdStep files byte) := by
  unfold fileIdStep
  rw [make_file]
  cases hread : readFile byte with
  | none => exact .unreadable hread
  | some file =>
    change Gathered readFile id _ files byte (if file ∈ files then _ else _)
    by_cases hseen : file ∈ files
    · rw [if_pos hseen]
      exact .repeated hread hseen
    · rw [if_neg hseen]
      exact .kept hread hseen trivial rfl

theorem fileIdStep_error (files : List FileNumber) (byte : Byte) (e : Error) (h : fileIdStep files byte = .error e) :
    e = parseFileIds.duplicate := by
  unfold fileIdStep at h
  split at h
  · cases h
    rfl
  · split at h <;> cases h
    rfl

/-- The file numbers of all bytes, if every byte is one. -/
theorem mapM_make (payload : Bytes) (files : List FileNumber) :
    (payload.mapM fun byte => (Number.make byte.toNat : Result FileNumber)) = .ok files ↔
      payload.map readFile = files.map some := by
  induction payload generalizing files with
  | nil =>
    constructor
    · rintro ⟨⟩
      rfl
    · intro h
      have hnone : files = [] := by simpa using h.symm
      rw [hnone]
      rfl
  | cons byte payload ih =>
    rw [List.mapM_cons,make_file]
    cases hread : readFile byte with
    | none =>
      refine iff_of_false (by rintro ⟨⟩) ?_
      rw [List.map_cons,hread]
      cases files with
      | nil => simp
      | cons file files => simp
    | some file =>
      rw [List.map_cons,hread]
      cases hrest : payload.mapM fun byte => (Number.make byte.toNat : Result FileNumber) with
      | error e =>
        refine iff_of_false (by rintro ⟨⟩) fun hreads => ?_
        cases files with
        | nil => cases hreads
        | cons first files =>
          rw [(ih files).mpr (List.cons.inj hreads).2] at hrest
          cases hrest
      | ok rest =>
        have hreads := (ih rest).mp hrest
        constructor
        · rintro ⟨⟩
          rw [hreads]
          rfl
        · intro hall
          rw [hreads] at hall
          have hsame : file :: rest = files := (List.map_inj_right fun _ _ h => Option.some.inj h).mp hall
          rw [← hsame]
          rfl

theorem fileIdLoop_iff (payload : Bytes) (files : List FileNumber) :
    fileIdLoop payload = .ok files ↔ payload.map readFile = files.map some ∧ files.Nodup := by
  have hgathers := foldlM_gathers (fun s a _ => fileIdStep_gathers s a) (s := []) trivial rfl payload files
  have hid (r : Result (List FileNumber)) : r.map id = r := by cases r <;> rfl
  rwa [hid] at hgathers

theorem parseFileIds_loop (payload : Bytes) : parseFileIds payload = fileIdLoop payload := by
  unfold parseFileIds
  cases hnumbers : payload.mapM fun byte => (Number.make byte.toNat : Result FileNumber) with
  | ok files =>
    have hreads := (mapM_make payload files).mp hnumbers
    by_cases hdistinct : files.Nodup
    · rw [(fileIdLoop_iff payload files).mpr ⟨hreads,hdistinct⟩]
      exact if_pos hdistinct
    · refine (if_neg hdistinct).trans ?_
      cases hloop : fileIdLoop payload with
      | error e => rw [foldlM_error fileIdStep_error hloop]
      | ok files' =>
        obtain ⟨hreads',hdistinct'⟩ := (fileIdLoop_iff payload files').mp hloop
        have hsame := (List.map_inj_right fun _ _ h => Option.some.inj h).mp (hreads.symm.trans hreads')
        exact absurd (hsame ▸ hdistinct') hdistinct
  | error e =>
    cases hloop : fileIdLoop payload with
    | error e' => rw [foldlM_error fileIdStep_error hloop]
    | ok files =>
      rw [(mapM_make payload files).mpr ((fileIdLoop_iff payload files).mp hloop).1] at hnumbers
      cases hnumbers

theorem readFile_eq (byte : Byte) (file : FileNumber) : readFile byte = some file ↔ [byte] = [UInt8.ofNat file.value] := by
  unfold readFile
  constructor
  · intro hread
    split at hread
    · cases hread
      simp
    · cases hread
  · intro hbyte
    have hvalue : byte.toNat = file.value := by
      rw [List.cons.inj hbyte |>.1,UInt8.toNat_ofNat']
      have hbound := file.bounded
      omega
    have hbound : byte.toNat ≤ 31 := hvalue ▸ file.bounded
    rw [dif_pos hbound]
    exact congrArg some (Number.ext hvalue)

theorem reads_iff (payload : Bytes) (files : List FileNumber) : payload.map readFile = files.map some ↔
    payload = files.flatMap fun file => [UInt8.ofNat file.value] := by
  induction payload generalizing files with
  | nil => cases files <;> simp
  | cons byte payload ih =>
    cases files with
    | nil => simp
    | cons file files =>
      have hfirst := readFile_eq byte file
      simp only [List.cons.injEq,and_true] at hfirst
      simp only [List.map_cons,List.flatMap_cons,List.singleton_append,List.cons.injEq,hfirst,ih]

variable {o : Oracle Environment} {card : Card}

/-- What the file list does to the state and to its caller. -/
structure FileListing (payload : Bytes) (card : Card) (r : Except Fault (List FileNumber)) (card' : Card) : Prop where
  exact : ∀ files, r = .ok files ↔ Lists (fun file : FileNumber => [UInt8.ofNat file.value]) (fun _ => True) 32 payload files
  kept : r.isOk = true → card' = card
  ended : r.isOk = false → card' = card.invalidate

theorem acceptFileIds_exact (payload : Bytes) :
    Ensures some o (acceptFileIds payload) card fun r card' _ => FileListing payload card r card' := by
  refine Op.ensures_refuseAfter_bind ?_ ?_
  · intro hlong
    refine ⟨fun files => iff_of_false (by simp) fun h => ?_,by simp [Except.isOk,Except.toBool],fun _ => rfl⟩
    exact absurd h.bounded (Nat.not_le.mpr hlong)
  · intro hbound
    refine Op.ensures_onError (Op.ensures_ofResult ?_)
    have hloop (files : List FileNumber) : fileIdLoop payload = .ok files ↔
        Lists (fun file : FileNumber => [UInt8.ofNat file.value]) (fun _ => True) 32 payload files := by
      rw [fileIdLoop_iff,reads_iff]
      constructor
      · rintro ⟨hpayload,hdistinct⟩
        exact ⟨hpayload,by simp,hdistinct,Nat.not_lt.mp hbound⟩
      · intro h
        exact ⟨h.concatenation,h.distinct⟩
    cases hresult : fileIdLoop payload with
    | error e =>
      refine ⟨fun files => ?_,by rintro ⟨⟩,fun _ => rfl⟩
      rw [← hloop files,hresult]
      exact iff_of_false (by rintro ⟨⟩) (by rintro ⟨⟩)
    | ok files =>
      refine ⟨fun files' => ?_,fun _ => rfl,by rintro ⟨⟩⟩
      rw [← hloop files',hresult]
      change (Except.ok files : Except Fault _) = .ok files' ↔ _
      rw [Except.ok.injEq,Except.ok.injEq]

/-- The managed operation takes the payload of the card to the list. -/
theorem fileIds_eq (options : ExchangeOptions) :
    fileIds options = admitted busy (executePlainLocked 0x6F [] options "GetFileIDs" >>= acceptFileIds) := by
  unfold fileIds acceptFileIds
  simp only [parseFileIds_loop]

/-- Every payload: the three lists succeed exactly for distinct valid identifiers of whole fields within the
bound, in order and with nothing left out, and a file list that fails ends the state. -/
theorem identifier_lists_exact (payload : Bytes) :
    (∀ ids, Native.Checked.parseApplicationIds payload = .ok ids ↔ Lists (fun id : ApplicationId => putLe id.value 3)
      (fun id => id.value ≠ 0) Native.Checked.maximumLogicalResponse payload ids) ∧
    (∀ ids, Native.Checked.parseIsoFileIds payload = .ok ids ↔
      Lists (fun id => putLe id 2) (· < 65536) 64 payload ids) ∧
    Native.Checked.parseApplicationIds payload = Native.Checked.applicationIdLoop payload ∧
    Native.Checked.parseIsoFileIds payload = Native.Checked.isoFileIdLoop payload ∧
    (∀ (o : Oracle Environment) (card : Card),
      Ensures some o (acceptFileIds payload) card fun r card' _ => FileListing payload card r card') ∧
    ∀ options, fileIds options =
      admitted busy (executePlainLocked 0x6F [] options "GetFileIDs" >>= acceptFileIds) := by
  have hids := Native.Checked.parseApplicationIds_loop payload
  have hiso := Native.Checked.parseIsoFileIds_loop payload
  refine ⟨fun ids => ?_,fun ids => ?_,hids,hiso,fun o card => acceptFileIds_exact payload,fileIds_eq⟩
  · rw [hids]
    exact Native.Checked.applicationIdLoop_exact payload ids
  · rw [hiso]
    exact Native.Checked.isoFileIdLoop_exact payload ids

end Files

end DesfireSdk.Managed
