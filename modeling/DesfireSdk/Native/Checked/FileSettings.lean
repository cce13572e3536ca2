import DesfireSdk.Foundation.Fields
import DesfireSdk.Native.Checked.Builders

/-!
# The wire form of file settings

The fields of a settings payload and the settings they stand for. A field parser consumes exactly the
bytes that the field encodes to; the parser of whole payloads is the chain of these.
-/
namespace DesfireSdk.Native.Checked
open Model

section Access

theorem toNat_nibbles {high low : Byte} (hhigh : high ≤ 15) (hlow : low ≤ 15) :
    (high <<< 4 ||| low).toNat = 16 * high.toNat + low.toNat := by
  have hhigh' : high.toNat ≤ 15 := hhigh
  have hlow' : low.toNat ≤ 15 := hlow
  have hor := Nat.shiftLeft_add_eq_or_of_lt (a := high.toNat) (b := low.toNat) (i := 4) (by omega)
  have hshift : high.toNat <<< 4 % 2^8 = high.toNat <<< 4 := by
    rw [Nat.shiftLeft_eq]
    exact Nat.mod_eq_of_lt (by omega)
  rw [UInt8.toNat_or,UInt8.toNat_shiftLeft]
  change high.toNat <<< 4 % 2^8 ||| low.toNat = _
  rw [hshift,← hor,Nat.shiftLeft_eq]
  omega

theorem high_nibble {high low : Byte} (hhigh : high ≤ 15) (hlow : low ≤ 15) :
    (high <<< 4 ||| low) >>> 4 = high := by
  have hlow' : low.toNat ≤ 15 := hlow
  apply UInt8.toNat.inj
  rw [UInt8.toNat_shiftRight,toNat_nibbles hhigh hlow]
  change (16 * high.toNat + low.toNat) >>> 4 = _
  rw [Nat.shiftRight_eq_div_pow]
  omega

theorem low_nibble {high low : Byte} (hhigh : high ≤ 15) (hlow : low ≤ 15) :
    (high <<< 4 ||| low) &&& 15 = low := by
  have hlow' : low.toNat ≤ 15 := hlow
  apply UInt8.toNat.inj
  rw [UInt8.toNat_and,toNat_nibbles hhigh hlow]
  change (16 * high.toNat + low.toNat) &&& (2^4 - 1) = _
  rw [Nat.and_two_pow_sub_one_eq_mod]
  omega

theorem nibbles_join (byte : Byte) : (byte >>> 4) <<< 4 ||| (byte &&& 15) = byte := by
  have hall : ∀ bits : BitVec 8, (UInt8.ofBitVec bits >>> 4) <<< 4 ||| (UInt8.ofBitVec bits &&& 15) =
      UInt8.ofBitVec bits := by decide
  exact hall byte.toBitVec

theorem high_nibble_le (byte : Byte) : byte >>> 4 ≤ 15 := by
  have hbyte := byte.toNat_lt
  change (byte >>> 4).toNat ≤ 15
  rw [UInt8.toNat_shiftRight]
  change byte.toNat >>> 4 ≤ 15
  rw [Nat.shiftRight_eq_div_pow]
  omega

theorem low_nibble_le (byte : Byte) : byte &&& 15 ≤ 15 := by
  change (byte &&& 15).toNat ≤ 15
  rw [UInt8.toNat_and]
  exact Nat.and_le_right

@[simp] theorem length_accessBytes (access : AccessRights) : (accessBytes access).length = 2 := rfl

theorem readAccess_accessBytes {access : AccessRights} (h : validAccess access) (rest : Bytes) :
    readAccess (accessBytes access ++ rest) = access := by
  obtain ⟨⟨⟨hrw,hchange⟩,hread⟩,hwrite⟩ :
      ((access.readWrite ≤ 15 ∧ access.change ≤ 15) ∧ access.read ≤ 15) ∧ access.write ≤ 15 := by
    simpa [validAccess] using h
  simp only [readAccess,accessBytes,byteAt,List.cons_append,List.getD_cons_zero,List.getD_cons_succ,
    high_nibble hrw hchange,low_nibble hrw hchange,high_nibble hread hwrite,low_nibble hread hwrite]

theorem validAccess_readAccess (input : Bytes) : validAccess (readAccess input) := by
  simp [validAccess,readAccess,high_nibble_le,low_nibble_le]

theorem accessBytes_readAccess {input : Bytes} (h : 2 ≤ input.length) :
    accessBytes (readAccess input) = input.take 2 := by
  match input,h with
  | first :: second :: rest,_ =>
    simp only [accessBytes,readAccess,byteAt,List.getD_cons_zero,List.getD_cons_succ,nibbles_join]
    rfl

end Access

/-- What a card may report in the fields of each file type. -/
def Fits : FileType → FileDetails → Prop
  | .standardData,.data size | .backupData,.data size => size < 2^24
  | .value,.value .. => True
  | .linearRecord,.record recordSize maximumRecords currentRecords
  | .cyclicRecord,.record recordSize maximumRecords currentRecords =>
    recordSize < 2^24 ∧ maximumRecords < 2^24 ∧ currentRecords < 2^24
  | .transactionMac,.transactionMac .. => True
  | _,_ => False

/-- The four little-endian bytes of a signed value. -/
def signedBytes (value : Int32) : Bytes := putLe value.toUInt32.toNat 4

def detailBytes : FileDetails → Bytes
  | .data size => putLe size 3
  | .value lower upper limited enabled free =>
    signedBytes lower ++ signedBytes upper ++ signedBytes limited ++
      [(if enabled then 1 else 0) ||| (if free then 2 else 0)]
  | .record recordSize maximumRecords currentRecords =>
    putLe recordSize 3 ++ putLe maximumRecords 3 ++ putLe currentRecords 3
  | .transactionMac keyOption keyVersion => [keyOption,keyVersion]

def additionalBytes (options : Byte) (rights : List AccessRights) : Bytes :=
  if options &&& 0x80 = 0 then [] else UInt8.ofNat rights.length :: rights.flatMap accessBytes

def limitBytes (limit : Option Nat) : Bytes :=
  match limit with
  | none => []
  | some value => putLe value 4

/-- The payload that stands for settings. -/
def encodeFileSettings (settings : FileSettings) : Bytes :=
  [settings.type.byte,settings.options] ++ accessBytes settings.access ++
    (detailBytes settings.details ++ (additionalBytes settings.options settings.additionalAccess ++
      limitBytes settings.transactionCounterLimit))

section Numbers

theorem span_number (payload : Bytes) (start count : Nat) (hcount : count ≤ 4)
    (h : start + count ≤ payload.length) :
    Consumes payload start (putLe (getLe ((payload.drop start).take count)) count) (start + count) := by
  have hspan := Consumes.span payload start count h
  have hlength : ((payload.drop start).take count).length = count := by
    rw [List.length_take,List.length_drop]
    omega
  have hencoded := putLe_getLe ((payload.drop start).take count) (by omega)
  rw [hlength] at hencoded
  rw [hencoded]
  exact hspan

theorem span_number_lt (payload : Bytes) (start : Nat) {count : Nat} (hcount : count ≤ 4) :
    getLe ((payload.drop start).take count) < 256^count := by
  have hlength := List.length_take_le count (payload.drop start)
  refine Nat.lt_of_lt_of_le (getLe_lt_pow _ (by omega)) ?_
  exact Nat.pow_le_pow_right (by decide) hlength

theorem number_of_consumes {payload : Bytes} {start stop value : Nat} {count : Nat} (hcount : count ≤ 4)
    (hvalue : value < 256^count) (h : Consumes payload start (putLe value count) stop) :
    getLe ((payload.drop start).take count) = value := by
  have htake := h.take
  rw [length_putLe] at htake
  rw [htake,getLe_putLe hcount hvalue]

@[simp] theorem length_signedBytes (value : Int32) : (signedBytes value).length = 4 := length_putLe _ _

theorem signedBytes_signed {input : Bytes} (h : input.length = 4) : signedBytes (signed input) = input := by
  have hlt : getLe input < 2^32 := by
    have hbound := getLe_lt_pow input (by omega)
    rw [h] at hbound
    exact hbound
  rw [signedBytes,signed,UInt32.toUInt32_toInt32,UInt32.toNat_ofNat',Nat.mod_eq_of_lt hlt,← h]
  exact putLe_getLe input (by omega)

theorem signed_signedBytes (value : Int32) : signed (signedBytes value) = value := by
  rw [signed,signedBytes,getLe_putLe (by decide) (UInt32.toNat_lt _),UInt32.ofNat_toNat,Int32.toInt32_toUInt32]

end Numbers

theorem flags_joined {flags : Byte} (h : flags &&& 0xFC = 0) :
    ((if flags &&& 1 != 0 then 1 else 0) ||| (if flags &&& 2 != 0 then 2 else 0) : Byte) = flags := by
  have hall : ∀ bits : BitVec 8, UInt8.ofBitVec bits &&& 0xFC = 0 →
      ((if UInt8.ofBitVec bits &&& 1 != 0 then 1 else 0) |||
        (if UInt8.ofBitVec bits &&& 2 != 0 then 2 else 0) : Byte) = UInt8.ofBitVec bits := by decide
  exact hall flags.toBitVec h

section Details
variable {payload : Bytes} {type : FileType} {details : FileDetails} {stop : Nat}

theorem span_signed (payload : Bytes) (start : Nat) (h : start + 4 ≤ payload.length) :
    Consumes payload start (signedBytes (signed ((payload.drop start).take 4))) (start + 4) := by
  have hlength : ((payload.drop start).take 4).length = 4 := by
    rw [List.length_take,List.length_drop]
    omega
  rw [signedBytes_signed hlength]
  exact Consumes.span payload start 4 h

theorem span_byte (payload : Bytes) (start : Nat) (h : start < payload.length) :
    Consumes payload start [byteAt payload start] (start + 1) := by
  have hspan := Consumes.span payload start 1 h
  have htake : (payload.drop start).take 1 = [byteAt payload start] := by
    rw [List.drop_eq_getElem_cons h,List.take_succ_cons,List.take_zero,byteAt,List.getD_eq_getElem?_getD,
      List.getElem?_eq_getElem h,Option.getD_some]
  rw [htake] at hspan
  exact hspan

/-- The parser of the type-specific fields takes what its result encodes to. -/
theorem parseDetails_consumes (hparsed : parseDetails payload type = .ok (details,stop)) :
    Fits type details ∧ Consumes payload 4 (detailBytes details) stop := by
  cases type with
  | standardData | backupData =>
    simp only [parseDetails] at hparsed
    split at hparsed
    · cases hparsed
    next hlength =>
    cases hparsed
    exact ⟨span_number_lt payload 4 (by decide),span_number payload 4 3 (by decide) (by omega)⟩
  | value =>
    simp only [parseDetails] at hparsed
    split at hparsed
    · cases hparsed
    next hvalid =>
    cases hparsed
    rw [not_or,Nat.not_lt,not_not] at hvalid
    obtain ⟨hlength,hflags⟩ := hvalid
    have hlimits := ((span_signed payload 4 (by omega)).append
      (span_signed payload 8 (by omega))).append (span_signed payload 12 (by omega))
    have hfield := hlimits.append (span_byte payload 16 (by omega))
    rw [← flags_joined hflags] at hfield
    exact ⟨trivial,hfield⟩
  | linearRecord | cyclicRecord =>
    simp only [parseDetails] at hparsed
    split at hparsed
    · cases hparsed
    next hlength =>
    cases hparsed
    have hsize := span_number payload 4 3 (by decide) (by omega)
    have hmaximum := span_number payload 7 3 (by decide) (by omega)
    have hcurrent := span_number payload 10 3 (by decide) (by omega)
    exact ⟨⟨span_number_lt payload 4 (by decide),span_number_lt payload 7 (by decide),
      span_number_lt payload 10 (by decide)⟩,(hsize.append hmaximum).append hcurrent⟩
  | transactionMac =>
    simp only [parseDetails] at hparsed
    split at hparsed
    · cases hparsed
    next hlength =>
    cases hparsed
    exact ⟨trivial,(span_byte payload 4 (by omega)).append (span_byte payload 5 (by omega))⟩

theorem byteAt_of_consumes {start : Nat} {byte : Byte} (h : Consumes payload start [byte] stop) :
    byteAt payload start = byte := by
  have hget := h.getElem? 0 (by simp)
  rw [Nat.add_zero] at hget
  rw [byteAt,List.getD_eq_getElem?_getD,hget]
  rfl

theorem signed_of_consumes {start : Nat} {value : Int32} (h : Consumes payload start (signedBytes value) stop) :
    signed ((payload.drop start).take 4) = value := by
  have htake := h.take
  rw [length_signedBytes] at htake
  rw [htake,signed_signedBytes]

theorem valueFlags_split (enabled free : Bool) :
    let flags : Byte := (if enabled then 1 else 0) ||| (if free then 2 else 0)
    flags &&& 0xFC = 0 ∧ (flags &&& 1 != 0) = enabled ∧ (flags &&& 2 != 0) = free := by
  cases enabled <;> cases free <;> decide

/-- The parser reads type-specific fields that stand in the payload. -/
theorem parseDetails_of_consumes (hfits : Fits type details)
    (h : Consumes payload 4 (detailBytes details) stop) : parseDetails payload type = .ok (details,stop) := by
  have hstop := h.stops
  have hwithin := h.within
  match type,details,hfits with
  | .standardData,.data size,hsize | .backupData,.data size,hsize =>
    simp only [detailBytes,length_putLe] at h hstop
    subst hstop
    rw [parseDetails,if_neg (by omega),number_of_consumes (by decide) hsize h]
  | .value,.value lower upper limited enabled free,_ =>
    simp only [detailBytes,List.length_append,length_signedBytes,List.length_singleton] at h hstop
    subst hstop
    obtain ⟨hlimits,hflags⟩ := Consumes.split _ _ h
    obtain ⟨hbounds,hlimited⟩ := Consumes.split _ _ hlimits
    obtain ⟨hlower,hupper⟩ := Consumes.split _ _ hbounds
    simp only [List.length_append,length_signedBytes] at hflags hlimited hupper
    obtain ⟨hreserved,henabled,hfree⟩ := valueFlags_split enabled free
    rw [parseDetails,byteAt_of_consumes hflags,signed_of_consumes hlower,signed_of_consumes hupper,
      signed_of_consumes hlimited,henabled,hfree,if_neg]
    rw [not_or,not_not]
    exact ⟨by omega,hreserved⟩
  | .linearRecord,.record recordSize maximumRecords currentRecords,hsizes
  | .cyclicRecord,.record recordSize maximumRecords currentRecords,hsizes =>
    simp only [detailBytes,List.length_append,length_putLe] at h hstop
    subst hstop
    obtain ⟨hpair,hcurrent⟩ := Consumes.split _ _ h
    obtain ⟨hsize,hmaximum⟩ := Consumes.split _ _ hpair
    simp only [List.length_append,length_putLe] at hcurrent hmaximum
    rw [parseDetails,if_neg (by omega),number_of_consumes (by decide) hsizes.1 hsize,
      number_of_consumes (by decide) hsizes.2.1 hmaximum,number_of_consumes (by decide) hsizes.2.2 hcurrent]
  | .transactionMac,.transactionMac keyOption keyVersion,_ =>
    simp only [detailBytes,List.length_cons,List.length_nil] at hstop
    subst hstop
    obtain ⟨hoption,hversion⟩ := Consumes.split [keyOption] [keyVersion] h
    rw [parseDetails,if_neg (by omega),byteAt_of_consumes hoption]
    rw [show byteAt payload 5 = keyVersion from byteAt_of_consumes hversion]

end Details

section Additional
variable {payload : Bytes} {options : Byte} {rights : List AccessRights} {start stop : Nat}

/-- The access rights at every second position of a payload. -/
def decodedRights (payload : Bytes) (count : Nat) : List AccessRights :=
  (List.range count).map fun index => readAccess (payload.drop (index * 2))

theorem decodedRights_succ (payload : Bytes) (count : Nat) :
    decodedRights payload (count + 1) = readAccess payload :: decodedRights (payload.drop 2) count := by
  rw [decodedRights,List.range_succ_eq_map,List.map_cons,List.map_map,Nat.zero_mul,List.drop_zero]
  congr 1
  apply List.map_congr_left
  intro index _
  rw [Function.comp_apply,List.drop_drop,Nat.succ_mul,Nat.add_comm]

theorem decodedRights_bytes {bytes : Bytes} {count : Nat} (h : count * 2 ≤ bytes.length) :
    (decodedRights bytes count).flatMap accessBytes = bytes.take (count * 2) := by
  induction count generalizing bytes with
  | zero => rfl
  | succ count ih =>
    have hrest : count * 2 ≤ (bytes.drop 2).length := by
      rw [List.length_drop]
      omega
    rw [decodedRights_succ,List.flatMap_cons,ih hrest,accessBytes_readAccess (by omega),Nat.succ_mul,
      Nat.add_comm,List.take_add]

theorem bytes_decodedRights (rest : Bytes) (h : ∀ access ∈ rights, validAccess access) :
    decodedRights (rights.flatMap accessBytes ++ rest) rights.length = rights := by
  induction rights with
  | nil => rfl
  | cons access rights ih =>
    have hrest := ih fun other hother => h other (List.mem_cons_of_mem _ hother)
    rw [List.length_cons,decodedRights_succ,List.flatMap_cons,List.append_assoc,
      readAccess_accessBytes (h access List.mem_cons_self)]
    congr 1

@[simp] theorem length_rightsBytes (rights : List AccessRights) :
    (rights.flatMap accessBytes).length = rights.length * 2 := by
  induction rights with
  | nil => rfl
  | cons access rights ih =>
    rw [List.flatMap_cons,List.length_append,ih,length_accessBytes,List.length_cons]
    omega

/-- Additional rights that the options announce, in the number and range that a card may report. -/
structure Announced (options : Byte) (rights : List AccessRights) : Prop where
  absent : options &&& 0x80 = 0 → rights = []
  bounded : rights.length ≤ 7
  valid : ∀ access ∈ rights, validAccess access

theorem parseAdditional_consumes (hstart : start ≤ payload.length)
    (hparsed : parseAdditional payload options start = .ok (rights,stop)) :
    Announced options rights ∧ Consumes payload start (additionalBytes options rights) stop := by
  unfold parseAdditional at hparsed
  split at hparsed
  next hbit =>
    cases hparsed
    rw [additionalBytes,if_pos hbit]
    exact ⟨⟨fun _ => rfl,by simp,by simp⟩,.nil hstart⟩
  next hbit =>
    split at hparsed
    · cases hparsed
    next hpresent =>
    dsimp only at hparsed
    split at hparsed
    · cases hparsed
    next hcount =>
    cases hparsed
    rw [not_or,Nat.not_lt,Nat.not_lt] at hcount
    obtain ⟨hseven,hfits⟩ := hcount
    let count := (byteAt payload start).toNat
    let bytes := payload.drop (start + 1)
    have hrights : ((List.range count).map fun index => readAccess (payload.drop (start + 1 + index * 2))) =
        decodedRights bytes count := by
      apply List.map_congr_left
      intro index _
      rw [List.drop_drop]
    have hlength : (decodedRights bytes count).length = count := by
      rw [decodedRights,List.length_map,List.length_range]
    have hbytes : count * 2 ≤ bytes.length := by
      rw [List.length_drop]
      exact hfits
    have hfield := (span_byte payload start (by omega)).append
      (Consumes.span payload (start + 1) (count * 2) (by omega))
    rw [← decodedRights_bytes hbytes] at hfield
    change Announced options ((List.range count).map _) ∧ Consumes payload start (additionalBytes options
      ((List.range count).map _)) (start + 1 + count * 2)
    rw [hrights,additionalBytes,if_neg hbit,hlength,UInt8.ofNat_toNat]
    refine ⟨⟨fun h => absurd h hbit,by rw [hlength]; exact hseven,?_⟩,hfield⟩
    intro access haccess
    obtain ⟨index,_,rfl⟩ := List.mem_map.mp haccess
    exact validAccess_readAccess _

theorem parseAdditional_of_consumes (h : Announced options rights)
    (hfield : Consumes payload start (additionalBytes options rights) stop) :
    parseAdditional payload options start = .ok (rights,stop) := by
  have hstops := hfield.stops
  have hwithin := hfield.within
  unfold parseAdditional
  by_cases hbit : options &&& 0x80 = 0
  · rw [if_pos hbit,h.absent hbit]
    rw [additionalBytes,if_pos hbit] at hstops
    rw [hstops]
    rfl
  · have hbound := h.bounded
    rw [additionalBytes,if_neg hbit] at hfield hstops
    rw [List.length_cons,length_rightsBytes] at hstops
    obtain ⟨hcount,hrights⟩ := Consumes.split [UInt8.ofNat rights.length] (rights.flatMap accessBytes) hfield
    rw [List.length_singleton] at hrights
    have hread : (byteAt payload start).toNat = rights.length := by
      rw [byteAt_of_consumes hcount,UInt8.toNat_ofNat']
      omega
    have hdecoded : ((List.range rights.length).map fun index =>
        readAccess (payload.drop (start + 1 + index * 2))) = rights := by
      have hall := bytes_decodedRights (payload.drop stop) h.valid
      rw [← hrights.taken] at hall
      refine Eq.trans ?_ hall
      apply List.map_congr_left
      intro index _
      rw [List.drop_drop]
    rw [if_neg hbit,if_neg (by omega),hread,if_neg (by omega),hdecoded,hstops,Nat.add_assoc,
      Nat.add_comm 1]

end Additional

section CounterLimit
variable {payload : Bytes} {type : FileType} {options : Byte} {limit : Option Nat} {start stop : Nat}

/-- A counter limit that the options announce, on the one file type that has it. -/
structure Limited (type : FileType) (options : Byte) (limit : Option Nat) : Prop where
  announced : limit.isSome ↔ options &&& 0x20 ≠ 0
  typed : limit.isSome → type = .transactionMac
  bounded : ∀ value ∈ limit, value < 2^32

theorem parseCounterLimit_consumes (hstart : start ≤ payload.length)
    (hparsed : parseCounterLimit payload type options start = .ok (limit,stop)) :
    Limited type options limit ∧ Consumes payload start (limitBytes limit) stop := by
  unfold parseCounterLimit at hparsed
  split at hparsed
  next hbit =>
    cases hparsed
    exact ⟨⟨by simp [hbit],by simp,by simp⟩,.nil hstart⟩
  next hbit =>
    split at hparsed
    · cases hparsed
    next hlayout =>
    cases hparsed
    rw [not_or,not_not,Nat.not_lt] at hlayout
    obtain ⟨htype,hlength⟩ := hlayout
    refine ⟨⟨by simp [hbit],fun _ => htype,?_⟩,span_number payload start 4 (by decide) (by omega)⟩
    intro value hvalue
    obtain rfl := Option.mem_some.mp hvalue
    exact span_number_lt payload start (by decide)

theorem parseCounterLimit_of_consumes (h : Limited type options limit)
    (hfield : Consumes payload start (limitBytes limit) stop) :
    parseCounterLimit payload type options start = .ok (limit,stop) := by
  have hstops := hfield.stops
  have hwithin := hfield.within
  unfold parseCounterLimit
  cases limit with
  | none =>
    have hbit : options &&& 0x20 = 0 := by
      by_contra hset
      cases h.announced.mpr hset
    rw [if_pos hbit,hstops]
    rfl
  | some value =>
    have hbit : options &&& 0x20 ≠ 0 := h.announced.mp rfl
    have htype := h.typed rfl
    rw [limitBytes,length_putLe] at hstops
    rw [if_neg hbit,if_neg (by rw [not_or,not_not,Nat.not_lt]; exact ⟨htype,by omega⟩),
      number_of_consumes (by decide) (h.bounded value rfl) hfield,hstops]

end CounterLimit

/-- Settings that a card may report and that the parser understands. -/
structure WellFormed (settings : FileSettings) : Prop where
  communication : settings.communication = .ofByte (settings.options &&& 3)
  mode : validMode settings.communication
  reserved : settings.options &&& 0x1C = 0
  messaging : settings.options &&& 0x40 = 0
  access : validAccess settings.access
  details : Fits settings.type settings.details
  additional : Announced settings.options settings.additionalAccess
  limit : Limited settings.type settings.options settings.transactionCounterLimit

section Whole
variable {payload : Bytes} {settings : FileSettings}

theorem length_detailBytes_le (details : FileDetails) : (detailBytes details).length ≤ 13 := by
  cases details <;> simp [detailBytes]

theorem length_additionalBytes_le (options : Byte) {rights : List AccessRights} (h : rights.length ≤ 7) :
    (additionalBytes options rights).length ≤ 15 := by
  unfold additionalBytes
  split
  · simp
  · rw [List.length_cons,length_rightsBytes]
    omega

theorem length_limitBytes_le (limit : Option Nat) : (limitBytes limit).length ≤ 4 := by
  cases limit <;> simp [limitBytes]

/-- What is accepted is well formed, and its encoding is the payload. -/
theorem parseFileSettings_sound (hparsed : parseFileSettings payload = .ok settings) :
    WellFormed settings ∧ encodeFileSettings settings = payload := by
  unfold parseFileSettings at hparsed
  split at hparsed
  · cases hparsed
  next hlength =>
  split at hparsed
  · cases hparsed
  next type htype =>
  dsimp only at hparsed
  split at hparsed
  · cases hparsed
  next hoptions =>
  obtain ⟨⟨details,stop⟩,hdetails,hparsed⟩ := Reading.bind_eq_ok hparsed
  obtain ⟨⟨rights,stop'⟩,hrights,hparsed⟩ := Reading.bind_eq_ok hparsed
  dsimp only at hparsed
  split at hparsed
  · cases hparsed
  next hmessaging =>
  obtain ⟨⟨limit,stop''⟩,hlimit,hparsed⟩ := Reading.bind_eq_ok hparsed
  dsimp only at hparsed
  split at hparsed
  · cases hparsed
  next hend =>
  cases hparsed
  rw [not_or,Nat.not_lt,Nat.not_lt] at hlength
  rw [not_or,not_not,Bool.not_eq_false] at hoptions
  rw [not_not] at hmessaging hend
  obtain ⟨hfits,hfields⟩ := parseDetails_consumes hdetails
  obtain ⟨hannounced,hadditional⟩ := parseAdditional_consumes hfields.within hrights
  obtain ⟨hlimited,hlimits⟩ := parseCounterLimit_consumes hadditional.within hlimit
  refine ⟨⟨rfl,hoptions.1,hoptions.2,hmessaging,validAccess_readAccess _,hfits,hannounced,hlimited⟩,?_⟩
  have hhead := (span_byte payload 0 (by omega)).append (span_byte payload 1 (by omega))
  have haccess : Consumes payload 2 (accessBytes (readAccess (payload.drop 2))) 4 := by
    rw [accessBytes_readAccess (by rw [List.length_drop]; omega)]
    exact Consumes.span payload 2 2 (by omega)
  have hall := (hhead.append haccess).append (hfields.append (hadditional.append hlimits))
  rw [hend] at hall
  rw [encodeFileSettings,FileType.byte_of_ofByte htype]
  exact hall.to_end.symm

/-- Behind well-formed settings the parser expects the end of the payload. -/
theorem parseFileSettings_encoded (h : WellFormed settings) (rest : Bytes)
    (hlength : (encodeFileSettings settings ++ rest).length ≤ 128) :
    parseFileSettings (encodeFileSettings settings ++ rest) =
      if rest = [] then .ok settings
      else .error (malformed "EV3 file settings contain unexpected trailing bytes") := by
  let payload := encodeFileSettings settings ++ rest
  obtain ⟨hwhole,hrest⟩ := Consumes.of_drop (Nat.zero_le payload.length) rfl
  obtain ⟨hfront,hbody⟩ := Consumes.split _ _ hwhole
  obtain ⟨hhead,haccess⟩ := Consumes.split _ _ hfront
  obtain ⟨htype,hoptions⟩ := Consumes.split [settings.type.byte] [settings.options] hhead
  obtain ⟨hfields,htail⟩ := Consumes.split _ _ hbody
  obtain ⟨hadditional,hlimits⟩ := Consumes.split _ _ htail
  have hfour : 4 ≤ payload.length := by
    have hwithin := hfront.within
    rw [List.length_append,length_accessBytes] at hwithin
    exact hwithin
  have hread : readAccess (payload.drop 2) = settings.access := by
    have hpair : payload.drop 2 = accessBytes settings.access ++ payload.drop 4 := haccess.taken
    rw [hpair]
    exact readAccess_accessBytes h.access _
  have hbound : payload.length ≤ 128 := hlength
  have hend : payload.length = (encodeFileSettings settings).length + rest.length := List.length_append
  have htrailing : 0 + (encodeFileSettings settings).length ≠ payload.length ↔ rest ≠ [] := by
    rw [hend,← List.length_pos_iff]
    omega
  change parseFileSettings payload = _
  unfold parseFileSettings
  rw [if_neg (by omega),byteAt_of_consumes htype,FileType.ofByte_byte]
  dsimp only
  rw [show byteAt payload 1 = settings.options from byteAt_of_consumes hoptions,← h.communication,
    if_neg (by rw [h.mode,h.reserved]; simp),parseDetails_of_consumes h.details hfields]
  change (parseAdditional payload settings.options _ >>= _) = _
  rw [parseAdditional_of_consumes h.additional hadditional]
  change (if settings.options &&& 0x40 ≠ 0 then _ else _) = _
  rw [if_neg (by rw [h.messaging]; simp)]
  rw [parseCounterLimit_of_consumes h.limit hlimits]
  change (if 0 + (encodeFileSettings settings).length ≠ payload.length then _ else _) = _
  rw [hread]
  by_cases hnone : rest = []
  · rw [if_neg (fun h => htrailing.mp h hnone),if_pos hnone]
  · rw [if_pos (htrailing.mpr hnone),if_neg hnone]

end Whole
end DesfireSdk.Native.Checked
