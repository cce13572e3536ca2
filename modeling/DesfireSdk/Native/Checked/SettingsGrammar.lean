import DesfireSdk.Native.Checked.FileSettings

/-! The grammar of file settings: what is accepted, and that no read leaves the payload. -/
namespace DesfireSdk.Native.Checked
open Model

section Bounds
variable (payload : Bytes)

def accessWithin (offset : Nat) : Reading Error AccessRights := do
  let input ← Reading.span payload offset 2
  let first ← Reading.element input 0
  let second ← Reading.element input 1
  return ⟨first >>> 4,first &&& 15,second >>> 4,second &&& 15⟩

def numberWithin (offset count : Nat) : Reading Error Nat := do
  return getLe (← Reading.span payload offset count)

def signedWithin (offset : Nat) : Reading Error Int32 := do
  return signed (← Reading.span payload offset 4)

/-- The type-specific fields, every read checked. -/
def detailsWithin : FileType → Reading Error (FileDetails × Nat)
  | .standardData | .backupData =>
    if payload.length < 7 then throw (malformed "EV3 data-file settings are truncated")
    else do
      let size ← numberWithin payload 4 3
      return (.data size,7)
  | .value =>
    if payload.length < 17 then throw (malformed "EV3 value-file settings are truncated or have invalid flags")
    else do
      let flags ← Reading.element payload 16
      if flags &&& 0xFC ≠ 0 then throw (malformed "EV3 value-file settings are truncated or have invalid flags")
      else
        let lower ← signedWithin payload 4
        let upper ← signedWithin payload 8
        let limited ← signedWithin payload 12
        return (.value lower upper limited (flags &&& 1 != 0) (flags &&& 2 != 0),17)
  | .linearRecord | .cyclicRecord =>
    if payload.length < 13 then throw (malformed "EV3 record-file settings are truncated")
    else do
      let recordSize ← numberWithin payload 4 3
      let maximumRecords ← numberWithin payload 7 3
      let currentRecords ← numberWithin payload 10 3
      return (.record recordSize maximumRecords currentRecords,13)
  | .transactionMac =>
    if payload.length < 6 then throw (malformed "EV3 transaction-MAC settings are truncated")
    else do
      let keyOption ← Reading.element payload 4
      let keyVersion ← Reading.element payload 5
      return (.transactionMac keyOption keyVersion,6)

/-- The loop over the additional rights from a position. -/
def rightsWithin (consumed : Nat) : Nat → Reading Error (List AccessRights)
  | 0 => return []
  | count+1 => do
    let access ← accessWithin payload consumed
    let rest ← rightsWithin (consumed + 2) count
    return access :: rest

def additionalWithin (options : Byte) (consumed : Nat) : Reading Error (List AccessRights × Nat) :=
  if options &&& 0x80 = 0 then return ([],consumed)
  else if consumed = payload.length then
    throw (malformed "EV3 additional access-right count is absent")
  else do
    let count ← Reading.element payload consumed
    let left ← Reading.difference payload.length (consumed + 1)
    if 7 < count.toNat ∨ left < count.toNat * 2 then
      throw (malformed "EV3 additional access rights are truncated or exceed seven")
    else
      let rights ← rightsWithin payload (consumed + 1) count.toNat
      return (rights,consumed + 1 + count.toNat * 2)

def counterLimitWithin (type : FileType) (options : Byte) (consumed : Nat) :
    Reading Error (Option Nat × Nat) :=
  if options &&& 0x20 = 0 then return (none,consumed)
  else if type ≠ .transactionMac then
    throw (malformed "EV3 transaction-counter limit has an invalid layout")
  else do
    let left ← Reading.difference payload.length consumed
    if left < 4 then throw (malformed "EV3 transaction-counter limit has an invalid layout")
    else
      let limit ← numberWithin payload consumed 4
      return (some limit,consumed + 4)

/-- The parser of file settings, every read and every remaining length checked. -/
def fileSettingsWithin : Reading Error FileSettings :=
  if payload.length < 4 ∨ 128 < payload.length then
    throw (malformed "EV3 file settings have an invalid prefix or length")
  else do
    let first ← Reading.element payload 0
    match FileType.ofByte first with
    | none => throw (malformed "EV3 file settings have an invalid prefix or length")
    | some type =>
      let options ← Reading.element payload 1
      let communication := CommunicationMode.ofByte (options &&& 3)
      let access ← accessWithin payload 2
      if validMode communication = false ∨ options &&& 0x1C ≠ 0 then
        throw (malformed "EV3 file settings contain reserved option bits")
      else
        let (details,consumed) ← detailsWithin payload type
        let (additionalAccess,consumed) ← additionalWithin payload options consumed
        if options &&& 0x40 ≠ 0 then throw ⟨.unsupported,
          "EV3 SDM settings require the verified device-specific conditional layout",.succeeded,0⟩
        else
          let (limit,consumed) ← counterLimitWithin payload type options consumed
          if consumed ≠ payload.length then
            throw (malformed "EV3 file settings contain unexpected trailing bytes")
          else return ⟨type,communication,options,access,details,additionalAccess,limit⟩

variable {payload}

theorem accessWithin_eq {offset : Nat} (h : offset + 2 ≤ payload.length) :
    accessWithin payload offset = Reading.within (.ok (readAccess (payload.drop offset))) := by
  have hlength : ((payload.drop offset).take 2).length = 2 := by
    rw [List.length_take,List.length_drop]
    omega
  have htake : ∀ index < 2, ((payload.drop offset).take 2).getD index 0 = byteAt (payload.drop offset) index := by
    intro index hindex
    simp [byteAt,hindex]
  rw [accessWithin,Reading.span_within h,Reading.within_ok_bind,
    Reading.element_within (by omega) 0,Reading.within_ok_bind,Reading.element_within (by omega) 0,
    Reading.within_ok_bind,htake 0 (by decide),htake 1 (by decide)]
  rfl

theorem numberWithin_eq {offset count : Nat} (h : offset + count ≤ payload.length) :
    numberWithin payload offset count = Reading.within (.ok (getLe ((payload.drop offset).take count))) := by
  rw [numberWithin,Reading.span_within h]
  rfl

theorem signedWithin_eq {offset : Nat} (h : offset + 4 ≤ payload.length) :
    signedWithin payload offset = Reading.within (.ok (signed ((payload.drop offset).take 4))) := by
  rw [signedWithin,Reading.span_within h]
  rfl

theorem elementWithin_eq {index : Nat} (h : index < payload.length) :
    (Reading.element payload index : Reading Error Byte) = Reading.within (.ok (byteAt payload index)) :=
  Reading.element_within h 0

theorem detailsWithin_eq (type : FileType) :
    detailsWithin payload type = Reading.within (parseDetails payload type) := by
  cases type with
  | standardData | backupData =>
    simp only [detailsWithin,parseDetails]
    split
    · rfl
    next hlength =>
    rw [numberWithin_eq (by omega)]
    rfl
  | value =>
    simp only [detailsWithin,parseDetails]
    by_cases hlength : payload.length < 17
    · rw [if_pos hlength,if_pos (.inl hlength)]
      rfl
    · rw [if_neg hlength,elementWithin_eq (by omega),Reading.within_ok_bind]
      by_cases hflags : byteAt payload 16 &&& 0xFC ≠ 0
      · rw [if_pos hflags,if_pos (.inr hflags)]
        rfl
      · rw [if_neg hflags,if_neg (not_or.mpr ⟨hlength,hflags⟩),signedWithin_eq (by omega),
          signedWithin_eq (by omega),signedWithin_eq (by omega)]
        rfl
  | linearRecord | cyclicRecord =>
    simp only [detailsWithin,parseDetails]
    split
    · rfl
    next hlength =>
    rw [numberWithin_eq (by omega),numberWithin_eq (by omega),numberWithin_eq (by omega)]
    rfl
  | transactionMac =>
    simp only [detailsWithin,parseDetails]
    split
    · rfl
    next hlength =>
    rw [elementWithin_eq (by omega),elementWithin_eq (by omega)]
    rfl

theorem rightsWithin_eq {consumed count : Nat} (h : consumed + count * 2 ≤ payload.length) :
    rightsWithin payload consumed count = Reading.within (.ok (decodedRights (payload.drop consumed) count)) := by
  induction count generalizing consumed with
  | zero => rfl
  | succ count ih =>
    rw [rightsWithin,accessWithin_eq (by omega),Reading.within_ok_bind,ih (by omega),decodedRights_succ,
      List.drop_drop]
    rfl

theorem additionalWithin_eq {options : Byte} {consumed : Nat} (h : consumed ≤ payload.length) :
    additionalWithin payload options consumed = Reading.within (parseAdditional payload options consumed) := by
  unfold additionalWithin parseAdditional
  split
  · rfl
  split
  · rfl
  next habsent =>
  rw [elementWithin_eq (by omega),Reading.within_ok_bind,Reading.difference_within (by omega),
    Reading.within_ok_bind]
  dsimp only
  split
  · rfl
  next hcount =>
  have hrights : decodedRights (payload.drop (consumed + 1)) (byteAt payload consumed).toNat =
      (List.range (byteAt payload consumed).toNat).map fun index =>
        readAccess (payload.drop (consumed + 1 + index * 2)) := by
    apply List.map_congr_left
    intro index _
    rw [List.drop_drop]
  rw [rightsWithin_eq (by omega),hrights]
  rfl

theorem counterLimitWithin_eq {type : FileType} {options : Byte} {consumed : Nat} (h : consumed ≤ payload.length) :
    counterLimitWithin payload type options consumed =
      Reading.within (parseCounterLimit payload type options consumed) := by
  unfold counterLimitWithin parseCounterLimit
  split
  · rfl
  by_cases htype : type ≠ .transactionMac
  · rw [if_pos htype,if_pos (.inl htype)]
    rfl
  · rw [if_neg htype,Reading.difference_within h,Reading.within_ok_bind]
    by_cases hlength : payload.length - consumed < 4
    · rw [if_pos hlength,if_pos (.inr hlength)]
      rfl
    · rw [if_neg hlength,if_neg (not_or.mpr ⟨htype,hlength⟩),numberWithin_eq (by omega)]
      rfl

/-- The parser reads no byte outside the payload, and no remaining length is below zero. -/
theorem fileSettingsWithin_eq (payload : Bytes) :
    fileSettingsWithin payload = Reading.within (parseFileSettings payload) := by
  unfold fileSettingsWithin parseFileSettings
  split
  · rfl
  next hlength =>
  rw [elementWithin_eq (by omega),Reading.within_ok_bind]
  cases FileType.ofByte (byteAt payload 0) with
  | none => rfl
  | some type =>
    dsimp only
    rw [elementWithin_eq (by omega),Reading.within_ok_bind,accessWithin_eq (by omega),Reading.within_ok_bind]
    split
    · rfl
    rw [detailsWithin_eq]
    apply Reading.bind_within
    intro ⟨details,stop⟩ hdetails
    have hstop := (parseDetails_consumes hdetails).2.within
    dsimp only
    rw [additionalWithin_eq hstop]
    apply Reading.bind_within
    intro ⟨rights,stop'⟩ hrights
    have hstop' := (parseAdditional_consumes hstop hrights).2.within
    dsimp only
    split
    · rfl
    rw [counterLimitWithin_eq hstop']
    apply Reading.bind_within
    intro ⟨limit,stop''⟩ _
    dsimp only
    split
    · rfl
    · rfl

end Bounds

section Grammar

/-- The bytes that a file type admits between the access rights and the additional ones. -/
def DetailField : FileType → Bytes → Prop
  | .standardData,fields | .backupData,fields => fields.length = 3
  | .value,fields => fields.length = 13 ∧ byteAt fields 12 &&& 0xFC = 0
  | .linearRecord,fields | .cyclicRecord,fields => fields.length = 9
  | .transactionMac,fields => fields.length = 2

/-- With option bit 7, a count of at most seven and two bytes for each. -/
def AdditionalField (options : Byte) (field : Bytes) : Prop :=
  if options &&& 0x80 = 0 then field = []
  else ∃ count rights, field = count :: rights ∧ count ≤ 7 ∧ rights.length = count.toNat * 2

/-- With option bit 5, four bytes on a transaction-MAC file. -/
def LimitField (type : FileType) (options : Byte) (field : Bytes) : Prop :=
  if options &&& 0x20 = 0 then field = [] else type = .transactionMac ∧ field.length = 4

/-- The payloads that file settings consist of. -/
inductive FileSettingsPayload : Bytes → Prop
  | fields {type : FileType} {options : Byte} {access details additional limit : Bytes}
      (hmode : (CommunicationMode.ofByte (options &&& 3)).known) (hreserved : options &&& 0x1C = 0)
      (hmessaging : options &&& 0x40 = 0) (haccess : access.length = 2) (hdetails : DetailField type details)
      (hadditional : AdditionalField options additional) (hlimit : LimitField type options limit) :
      FileSettingsPayload ([type.byte,options] ++ access ++ (details ++ (additional ++ limit)))

variable {type : FileType} {options : Byte}

theorem DetailField.of_fits {details : FileDetails} (h : Fits type details) : DetailField type (detailBytes details) := by
  match type,details,h with
  | .standardData,.data _,_ | .backupData,.data _,_ => exact length_putLe _ _
  | .value,.value lower upper limited enabled free,_ =>
    have hbounds : (signedBytes lower ++ signedBytes upper ++ signedBytes limited).length = 12 := by simp
    refine ⟨by simp [detailBytes],?_⟩
    rw [detailBytes,byteAt,List.getD_eq_getElem?_getD,List.getElem?_append_right (by omega),hbounds]
    exact (valueFlags_split enabled free).1
  | .linearRecord,.record _ _ _,_ | .cyclicRecord,.record _ _ _,_ => simp [DetailField,detailBytes]
  | .transactionMac,.transactionMac _ _,_ => rfl

/-- Admitted type-specific bytes are those of some fields. -/
theorem DetailField.exists_fits {field : Bytes} (h : DetailField type field) :
    ∃ details, Fits type details ∧ detailBytes details = field := by
  let payload : Bytes := [0,0,0,0] ++ field
  have hlength : payload.length = 4 + field.length := by
    rw [List.length_append]
    rfl
  have hparsed : ∃ details, parseDetails payload type = .ok (details,payload.length) := by
    cases type with
    | standardData | backupData =>
      have hthree : field.length = 3 := h
      rw [parseDetails,if_neg (by omega),hlength,hthree]
      exact ⟨_,rfl⟩
    | value =>
      have hthirteen : field.length = 13 := h.1
      have hflags : byteAt payload 16 = byteAt field 12 := rfl
      rw [parseDetails,hflags,if_neg (not_or.mpr ⟨by omega,not_not.mpr h.2⟩),hlength,hthirteen]
      exact ⟨_,rfl⟩
    | linearRecord | cyclicRecord =>
      have hnine : field.length = 9 := h
      rw [parseDetails,if_neg (by omega),hlength,hnine]
      exact ⟨_,rfl⟩
    | transactionMac =>
      have htwo : field.length = 2 := h
      rw [parseDetails,if_neg (by omega),hlength,htwo]
      exact ⟨_,rfl⟩
  obtain ⟨details,hdetails⟩ := hparsed
  obtain ⟨hfits,hconsumes⟩ := parseDetails_consumes hdetails
  exact ⟨details,hfits,hconsumes.to_end.symm⟩

theorem AdditionalField.of_announced {rights : List AccessRights} (h : Announced options rights) :
    AdditionalField options (additionalBytes options rights) := by
  unfold AdditionalField additionalBytes
  split
  · rfl
  · have hcount : (UInt8.ofNat rights.length).toNat = rights.length := by
      have hbound := h.bounded
      rw [UInt8.toNat_ofNat']
      omega
    refine ⟨_,_,rfl,?_,?_⟩
    · change (UInt8.ofNat rights.length).toNat ≤ 7
      rw [hcount]
      exact h.bounded
    · rw [length_rightsBytes,hcount]

theorem AdditionalField.exists_announced {field : Bytes} (h : AdditionalField options field) :
    ∃ rights, Announced options rights ∧ additionalBytes options rights = field := by
  unfold AdditionalField at h
  split at h
  next hbit =>
    refine ⟨[],⟨fun _ => rfl,by simp,by simp⟩,?_⟩
    rw [additionalBytes,if_pos hbit,h]
  next hbit =>
    obtain ⟨count,rights,rfl,hcount,hlength⟩ := h
    have hdecoded : (decodedRights rights count.toNat).length = count.toNat := by
      rw [decodedRights,List.length_map,List.length_range]
    refine ⟨decodedRights rights count.toNat,⟨fun h => absurd h hbit,?_,?_⟩,?_⟩
    · rw [hdecoded]
      exact hcount
    · intro access haccess
      obtain ⟨index,_,rfl⟩ := List.mem_map.mp haccess
      exact validAccess_readAccess _
    · rw [additionalBytes,if_neg hbit,hdecoded,UInt8.ofNat_toNat,decodedRights_bytes (Nat.le_of_eq hlength.symm),
        ← hlength,List.take_length]

theorem LimitField.of_limited {limit : Option Nat} (h : Limited type options limit) :
    LimitField type options (limitBytes limit) := by
  unfold LimitField
  cases limit with
  | none =>
    split
    · rfl
    next hbit => cases h.announced.mpr hbit
  | some value =>
    rw [if_neg (h.announced.mp rfl)]
    exact ⟨h.typed rfl,length_putLe _ _⟩

theorem LimitField.exists_limited {field : Bytes} (h : LimitField type options field) :
    ∃ limit, Limited type options limit ∧ limitBytes limit = field := by
  unfold LimitField at h
  split at h
  next hbit => exact ⟨none,⟨by simp [hbit],by simp,by simp⟩,h.symm⟩
  next hbit =>
    obtain ⟨htype,hlength⟩ := h
    refine ⟨some (getLe field),⟨by simp [hbit],fun _ => htype,?_⟩,?_⟩
    · intro value hvalue
      obtain rfl := Option.mem_some.mp hvalue
      have hlt := getLe_lt_pow field (by omega)
      rw [hlength] at hlt
      exact hlt
    · rw [limitBytes,← hlength]
      exact putLe_getLe field (by omega)

/-- The grammar is the image of the well-formed settings. -/
theorem fileSettingsPayload_iff (payload : Bytes) :
    FileSettingsPayload payload ↔ ∃ settings, WellFormed settings ∧ encodeFileSettings settings = payload := by
  constructor
  · intro h
    cases h with
    | fields hmode hreserved hmessaging haccess hdetails hadditional hlimit =>
    next type options access _ _ _ =>
    obtain ⟨details,hfits,rfl⟩ := hdetails.exists_fits
    obtain ⟨rights,hannounced,rfl⟩ := hadditional.exists_announced
    obtain ⟨limit,hlimited,rfl⟩ := hlimit.exists_limited
    refine ⟨⟨type,.ofByte (options &&& 3),options,readAccess access,details,rights,limit⟩,
      ⟨rfl,hmode,hreserved,hmessaging,validAccess_readAccess _,hfits,hannounced,hlimited⟩,?_⟩
    rw [encodeFileSettings,accessBytes_readAccess (Nat.le_of_eq haccess.symm),
      List.take_of_length_le (Nat.le_of_eq haccess)]
  · rintro ⟨settings,h,rfl⟩
    exact .fields (h.communication ▸ h.mode) h.reserved h.messaging (length_accessBytes _)
      (.of_fits h.details) (.of_announced h.additional) (.of_limited h.limit)

end Grammar

section Exactness
variable {payload : Bytes} {settings : FileSettings}

theorem length_encodeFileSettings_le (h : WellFormed settings) : (encodeFileSettings settings).length ≤ 128 := by
  have hdetails := length_detailBytes_le settings.details
  have hadditional := length_additionalBytes_le settings.options h.additional.bounded
  have hlimit := length_limitBytes_le settings.transactionCounterLimit
  simp only [encodeFileSettings,List.length_append,List.length_cons,List.length_nil,length_accessBytes]
  omega

/-- Well-formed settings are read back from what they encode to. -/
theorem parseFileSettings_encode (h : WellFormed settings) :
    parseFileSettings (encodeFileSettings settings) = .ok settings := by
  have hparsed := parseFileSettings_encoded h [] (by
    rw [List.append_nil]
    exact length_encodeFileSettings_le h)
  rw [List.append_nil,if_pos rfl] at hparsed
  exact hparsed

theorem parseFileSettings_extended (hparsed : parseFileSettings payload = .ok settings) {rest : Bytes}
    (hrest : rest ≠ []) (other : FileSettings) : parseFileSettings (payload ++ rest) ≠ .ok other := by
  obtain ⟨hwf,rfl⟩ := parseFileSettings_sound hparsed
  intro hother
  by_cases hlength : (encodeFileSettings settings ++ rest).length ≤ 128
  · rw [parseFileSettings_encoded hwf rest hlength,if_neg hrest] at hother
    cases hother
  · rw [parseFileSettings,if_pos (.inr (by omega))] at hother
    cases hother

/-- How the parser of file settings treats one payload. -/
structure ReadExactly (payload : Bytes) : Prop where
  bounded : fileSettingsWithin payload = Reading.within (parseFileSettings payload)
  accepted : (∃ settings, parseFileSettings payload = .ok settings) ↔ FileSettingsPayload payload
  reproduced : ∀ settings, parseFileSettings payload = .ok settings → encodeFileSettings settings = payload
  injective : ∀ settings payload', parseFileSettings payload = .ok settings →
    parseFileSettings payload' = .ok settings → payload' = payload
  extended : ∀ settings rest, parseFileSettings payload = .ok settings → rest ≠ [] →
    ∀ other, parseFileSettings (payload ++ rest) ≠ .ok other
  truncated : ∀ settings kept rest, parseFileSettings payload = .ok settings → payload = kept ++ rest → rest ≠ [] →
    ∀ other, parseFileSettings kept ≠ .ok other
  messaging : ∀ options, payload[1]? = some options → options &&& 0x40 ≠ 0 →
    ∀ settings, parseFileSettings payload ≠ .ok settings

/-- The parser of file settings reads within the payload, accepts its grammar and nothing else, and
loses no byte of what it accepts. -/
theorem parseFileSettings_exact (payload : Bytes) : ReadExactly payload := by
  refine ⟨fileSettingsWithin_eq payload,?_,?_,?_,?_,?_,?_⟩
  · rw [fileSettingsPayload_iff]
    constructor
    · rintro ⟨settings,hparsed⟩
      exact ⟨settings,parseFileSettings_sound hparsed⟩
    · rintro ⟨settings,hwf,rfl⟩
      exact ⟨settings,parseFileSettings_encode hwf⟩
  · intro settings hparsed
    exact (parseFileSettings_sound hparsed).2
  · intro settings payload' hparsed hparsed'
    have hencoded := (parseFileSettings_sound hparsed).2
    have hencoded' := (parseFileSettings_sound hparsed').2
    exact hencoded'.symm.trans hencoded
  · intro settings rest hparsed hrest other
    exact parseFileSettings_extended hparsed hrest other
  · intro settings kept rest hparsed hpayload hrest other hother
    rw [hpayload] at hparsed
    exact parseFileSettings_extended hother hrest settings hparsed
  · intro options hoptions hmessaging settings hparsed
    obtain ⟨hwf,rfl⟩ := parseFileSettings_sound hparsed
    have hequal : settings.options = options := by
      simpa [encodeFileSettings] using hoptions
    rw [← hequal] at hmessaging
    exact hmessaging hwf.messaging

example : parseFileSettings [0,0xC3,0x12,0x34,0x40,0,0,0] = .error ⟨.unsupported,
    "EV3 SDM settings require the verified device-specific conditional layout",.succeeded,0⟩ := by decide

end Exactness

section Change
variable {settings : FileSettingsChange} {command : Command}

/-- The options that a change of settings writes. -/
def changedOptions (settings : FileSettingsChange) : Byte :=
  settings.communication.byte ||| (if settings.additionalAccess = [] then 0 else 0x80) |||
    (if settings.transactionCounterLimit.isSome then 0x20 else 0)

/-- What the bits of the written options announce. -/
theorem changedOptions_bits (hmode : validMode settings.communication) :
    settings.communication = .ofByte (changedOptions settings &&& 3) ∧ changedOptions settings &&& 0x1C = 0 ∧
      changedOptions settings &&& 0x40 = 0 ∧
      (changedOptions settings &&& 0x80 = 0 ↔ settings.additionalAccess = []) ∧
      (changedOptions settings &&& 0x20 ≠ 0 ↔ settings.transactionCounterLimit.isSome) := by
  have hbits : ∀ (mode : CommunicationMode) (present limited : Bool), validMode mode →
      let options := mode.byte ||| (if present then 0x80 else 0) ||| (if limited then 0x20 else 0)
      mode = .ofByte (options &&& 3) ∧ options &&& 0x1C = 0 ∧ options &&& 0x40 = 0 ∧
        (options &&& 0x80 = 0 ↔ present = false) ∧ (options &&& 0x20 ≠ 0 ↔ limited = true) := by
    intro mode present limited hmode
    cases mode with
    | other value => cases hmode
    | plain | mac | full => cases present <;> cases limited <;> decide
  have hall := hbits settings.communication (!decide (settings.additionalAccess = []))
    settings.transactionCounterLimit.isSome hmode
  by_cases hnone : settings.additionalAccess = [] <;> simpa [changedOptions,hnone] using hall

/-- The settings that a card holds after a change. -/
def changedSettings (settings : FileSettingsChange) (type : FileType) (details : FileDetails) : FileSettings where
  type
  communication := settings.communication
  options := changedOptions settings
  access := settings.access
  details
  additionalAccess := settings.additionalAccess
  transactionCounterLimit := settings.transactionCounterLimit.map UInt32.toNat

/-- An accepted change writes its options, its access rights and the trailing fields. -/
theorem changeFileSettings_written (h : changeFileSettings settings = .ok command) :
    validMode settings.communication ∧ validAccess settings.access ∧ settings.additionalAccess.length ≤ 7 ∧
      (∀ access ∈ settings.additionalAccess, validAccess access) ∧
      command.data = (changedOptions settings :: accessBytes settings.access) ++
        (additionalBytes (changedOptions settings) settings.additionalAccess ++
          limitBytes (settings.transactionCounterLimit.map UInt32.toNat)) := by
  unfold changeFileSettings at h
  split at h
  · cases h
  next hvalid =>
  split at h
  · cases h
  next hrights =>
  rw [not_or,not_or,Bool.not_eq_false,Bool.not_eq_false,Nat.not_lt] at hvalid
  rw [Bool.not_eq_false,List.all_eq_true] at hrights
  obtain ⟨hmode,haccess,hseven⟩ := hvalid
  have hadditional := (changedOptions_bits hmode).2.2.2.1
  unfold fileCommand at h
  split at h
  · cases h
  cases h
  refine ⟨hmode,haccess,hseven,hrights,?_⟩
  simp only [additionalBytes,hadditional]
  cases hlimit : settings.transactionCounterLimit <;> simp [limitBytes,changedOptions,hlimit]

/-- What a change of settings writes is what the parser reads, whatever the file and its details. -/
theorem changeFileSettings_read (h : changeFileSettings settings = .ok command) {type : FileType}
    {details : Bytes} (hdetails : DetailField type details)
    (htype : settings.transactionCounterLimit.isSome → type = .transactionMac) :
    ∃ parsed, parseFileSettings (type.byte :: (command.data.take 3 ++ (details ++ command.data.drop 3))) = .ok parsed ∧
      parsed.type = type ∧ parsed.communication = settings.communication ∧ parsed.access = settings.access ∧
      parsed.additionalAccess = settings.additionalAccess ∧
      parsed.transactionCounterLimit = settings.transactionCounterLimit.map UInt32.toNat := by
  obtain ⟨hmode,haccess,hseven,hrights,hdata⟩ := changeFileSettings_written h
  obtain ⟨hcommunication,hreserved,hmessaging,hadditional,hlimit⟩ := changedOptions_bits hmode
  obtain ⟨details,hfits,rfl⟩ := hdetails.exists_fits
  have hannounced : Announced (changedOptions settings) settings.additionalAccess :=
    ⟨hadditional.mp,hseven,hrights⟩
  have hlimited : Limited type (changedOptions settings) (settings.transactionCounterLimit.map UInt32.toNat) := by
    refine ⟨?_,?_,?_⟩
    · rw [Option.isSome_map]
      exact hlimit.symm
    · rw [Option.isSome_map]
      exact htype
    · intro value hvalue
      obtain ⟨limit,_,rfl⟩ := Option.map_eq_some_iff.mp hvalue
      exact limit.toNat_lt
  have hwf : WellFormed (changedSettings settings type details) :=
    ⟨hcommunication,hmode,hreserved,hmessaging,haccess,hfits,hannounced,hlimited⟩
  have hpayload : encodeFileSettings (changedSettings settings type details) =
      type.byte :: (command.data.take 3 ++ (detailBytes details ++ command.data.drop 3)) := by
    have hthree : (changedOptions settings :: accessBytes settings.access).length = 3 := rfl
    rw [hdata,← hthree,List.take_left,List.drop_left]
    rfl
  rw [← hpayload]
  exact ⟨_,parseFileSettings_encode hwf,rfl,rfl,rfl,rfl,rfl⟩

theorem changeFileSettings_read_limited :
    let settings : FileSettingsChange := {
      file := ⟨3,by decide⟩
      communication := .mac
      additionalAccess := [{},⟨1,2,3,4⟩]
      transactionCounterLimit := some 500 }
    ∃ command parsed, changeFileSettings settings = .ok command ∧
      parseFileSettings (5 :: (command.data.take 3 ++ ([0x02,0x44] ++ command.data.drop 3))) = .ok parsed ∧
      parsed.transactionCounterLimit = some 500 := by
  intro settings
  have hdetails : DetailField .transactionMac [0x02,0x44] := rfl
  have hchanged : ∃ command, changeFileSettings settings = .ok command := ⟨_,rfl⟩
  obtain ⟨command,hcommand⟩ := hchanged
  obtain ⟨parsed,hparsed,_,_,_,_,hlimit⟩ := changeFileSettings_read hcommand hdetails (fun _ => rfl)
  exact ⟨command,parsed,hcommand,hparsed,hlimit⟩

end Change
end DesfireSdk.Native.Checked
