import DesfireSdk.Native.Checked.Command

/-! Strict parsers of clear native responses. -/
namespace DesfireSdk.Native.Checked
open Model

/-- The fields of one size each that a payload of whole fields consists of. -/
def fields (size : Nat) (payload : Bytes) : List Bytes :=
  (List.range (payload.length / size)).map fun index => (payload.drop (index * size)).take size

theorem getLe_lt (input : Bytes) (h : input.length ≤ 3) : getLe input < 2^24 := by
  rcases input with _ | ⟨a,_ | ⟨b,_ | ⟨c,_ | ⟨d,rest⟩⟩⟩⟩
  · simp [getLe]
  · have := a.toNat_lt
    simp [getLe]
    omega
  · have := a.toNat_lt
    have := b.toNat_lt
    simp [getLe]
    omega
  · have := a.toNat_lt
    have := b.toNat_lt
    have := c.toNat_lt
    simp [getLe]
    omega
  · simp only [List.length_cons] at h
    omega

/-- The application identifier of three bytes. -/
def applicationId (input : Bytes) : ApplicationId :=
  ⟨getLe (input.take 3),by have := getLe_lt (input.take 3) (List.length_take_le 3 input); omega⟩

def parseApplicationIds (payload : Bytes) : Result (List ApplicationId) :=
  if payload.length % 3 ≠ 0 ∨ maximumLogicalResponse < payload.length then
    .error (malformed "EV3 application identifiers require complete three-byte fields")
  else
    let applications := (fields 3 payload).map applicationId
    if (∀ id ∈ applications, id.value ≠ 0) ∧ applications.Nodup then .ok applications
    else .error (malformed "EV3 application list contains a PICC or duplicate identifier")

def parseIsoFileIds (payload : Bytes) : Result (List Nat) :=
  if payload.length % 2 ≠ 0 ∨ 64 < payload.length then
    .error (malformed "EV3 ISO file identifiers require up to 32 complete two-byte fields")
  else
    let identifiers := (fields 2 payload).map getLe
    if identifiers.Nodup then .ok identifiers
    else .error (malformed "EV3 ISO file list contains duplicate identifiers")

structure DfName where
  application : ApplicationId
  isoId : Nat
  name : Bytes
  deriving DecidableEq

def parseDfNameFrame (payload : Bytes) : Result DfName :=
  if payload.length < 5 ∨ 21 < payload.length then
    .error (malformed "EV3 DF name record must occupy one 5-to-21-byte response frame")
  else if (applicationId payload).value = 0 then
    .error (malformed "EV3 DF name contains the PICC application identifier")
  else .ok ⟨applicationId payload,getLe ((payload.drop 3).take 2),payload.drop 5⟩

structure DelegatedApplicationInfo where
  slotVersion : Byte
  quotaLimit : Nat
  freeBlocks : Nat
  application : ApplicationId
  deriving DecidableEq

def parseDelegatedApplicationInfo (payload : Bytes) : Result DelegatedApplicationInfo :=
  if payload.length ≠ 8 then
    .error (malformed "GetDelegatedInfo response must contain exactly eight bytes")
  else .ok ⟨byteAt payload 0,getLe ((payload.drop 1).take 2),getLe ((payload.drop 3).take 2),
    applicationId (payload.drop 5)⟩

/-- The documented request forms of the card identifier. -/
inductive CardUidRequest
  | omitOption | withoutNuid | withNuid | other
  deriving DecidableEq, Repr

structure CardUid where
  uid : Bytes
  nuid : Option Bytes
  deriving DecidableEq

/-- The identifier field with or without its format prefix. -/
def parseUid (uidPayload : Bytes) (nuid : Option Bytes) : Result CardUid :=
  if uidPayload.length = 7 then .ok ⟨uidPayload,nuid⟩
  else if (uidPayload.length ≠ 6 ∧ uidPayload.length ≠ 12) ∨ byteAt uidPayload 0 ≠ 0 ∨
      (byteAt uidPayload 1).toNat ≠ uidPayload.length - 2 then
    .error (malformed "EV3 UID response has an invalid length or format prefix")
  else .ok ⟨uidPayload.drop 2,nuid⟩

def parseCardUid (payload : Bytes) : CardUidRequest → Result CardUid
  | .omitOption | .withoutNuid => parseUid payload none
  | .withNuid =>
    if payload.length < 4 then
      .error (malformed "EV3 UID response omits the requested four-byte NUID")
    else parseUid (payload.take (payload.length - 4)) (some (payload.drop (payload.length - 4)))
  | .other => .error (invalid "Invalid GetCardUID request variant")

def parseOriginalitySignature (payload : Bytes) : Result Bytes := fixedResponse 56 payload

def parseKeySettings (payload : Bytes) : Result KeySettings :=
  if payload.length ≠ 2 ∧ payload.length ≠ 6 then
    .error (malformed "EV3 key settings must contain two or six bytes")
  else .ok ⟨byteAt payload 0,byteAt payload 1,if payload.length = 6 then some (payload.drop 2) else none⟩

/-- A signed value from its four little-endian bytes. -/
def signed (input : Bytes) : Int32 := (UInt32.ofNat (getLe input)).toInt32

/-- The fields of one file type, and how many bytes of the payload they end at. -/
def parseDetails (payload : Bytes) : FileType → Result (FileDetails × Nat)
  | .standardData | .backupData =>
    if payload.length < 7 then .error (malformed "EV3 data-file settings are truncated")
    else .ok (.data (getLe ((payload.drop 4).take 3)),7)
  | .value =>
    if payload.length < 17 ∨ byteAt payload 16 &&& 0xFC ≠ 0 then
      .error (malformed "EV3 value-file settings are truncated or have invalid flags")
    else .ok (.value (signed ((payload.drop 4).take 4)) (signed ((payload.drop 8).take 4))
      (signed ((payload.drop 12).take 4)) (byteAt payload 16 &&& 1 != 0) (byteAt payload 16 &&& 2 != 0),17)
  | .linearRecord | .cyclicRecord =>
    if payload.length < 13 then .error (malformed "EV3 record-file settings are truncated")
    else .ok (.record (getLe ((payload.drop 4).take 3)) (getLe ((payload.drop 7).take 3))
      (getLe ((payload.drop 10).take 3)),13)
  | .transactionMac =>
    if payload.length < 6 then .error (malformed "EV3 transaction-MAC settings are truncated")
    else .ok (.transactionMac (byteAt payload 4) (byteAt payload 5),6)

/-- The additional access rights behind the fields of the file type. -/
def parseAdditional (payload : Bytes) (options : Byte) (consumed : Nat) :
    Result (List AccessRights × Nat) :=
  if options &&& 0x80 = 0 then .ok ([],consumed)
  else if consumed = payload.length then
    .error (malformed "EV3 additional access-right count is absent")
  else
    let count := (byteAt payload consumed).toNat
    if 7 < count ∨ payload.length - (consumed + 1) < count * 2 then
      .error (malformed "EV3 additional access rights are truncated or exceed seven")
    else .ok ((List.range count).map fun index => readAccess (payload.drop (consumed + 1 + index * 2)),
      consumed + 1 + count * 2)

/-- The optional counter limit of a transaction-MAC file. -/
def parseCounterLimit (payload : Bytes) (type : FileType) (options : Byte) (consumed : Nat) :
    Result (Option Nat × Nat) :=
  if options &&& 0x20 = 0 then .ok (none,consumed)
  else if type ≠ .transactionMac ∨ payload.length - consumed < 4 then
    .error (malformed "EV3 transaction-counter limit has an invalid layout")
  else .ok (some (getLe ((payload.drop consumed).take 4)),consumed + 4)

def parseFileSettings (payload : Bytes) : Result FileSettings :=
  if payload.length < 4 ∨ 128 < payload.length then
    .error (malformed "EV3 file settings have an invalid prefix or length")
  else match FileType.ofByte (byteAt payload 0) with
    | none => .error (malformed "EV3 file settings have an invalid prefix or length")
    | some type =>
      let options := byteAt payload 1
      let communication := CommunicationMode.ofByte (options &&& 3)
      if validMode communication = false ∨ options &&& 0x1C ≠ 0 then
        .error (malformed "EV3 file settings contain reserved option bits")
      else do
        let (details,consumed) ← parseDetails payload type
        let (additionalAccess,consumed) ← parseAdditional payload options consumed
        if options &&& 0x40 ≠ 0 then .error ⟨.unsupported,
          "EV3 SDM settings require the verified device-specific conditional layout",.succeeded,0⟩
        else do
          let (limit,consumed) ← parseCounterLimit payload type options consumed
          if consumed ≠ payload.length then
            .error (malformed "EV3 file settings contain unexpected trailing bytes")
          else .ok ⟨type,communication,options,readAccess (payload.drop 2),details,additionalAccess,limit⟩

structure FileCounters where
  sdmReadCounter : Nat
  reserved : Bytes
  deriving DecidableEq

def parseFileCounters (payload : Bytes) : Result FileCounters :=
  if payload.length ≠ 5 then
    .error (malformed "EV3 file counter response requires three counter and two reserved bytes")
  else .ok ⟨getLe (payload.take 3),payload.drop 3⟩

def parseValue (payload : Bytes) : Result Int32 :=
  if payload.length ≠ 4 then .error (malformed "EV3 value response requires four bytes")
  else .ok (signed payload)

structure TransactionMac where
  counter : Nat
  mac : Bytes
  deriving DecidableEq

def parseTransactionMac (payload : Bytes) : Result TransactionMac :=
  if payload.length ≠ 12 then
    .error (malformed "EV3 transaction MAC requires a counter and eight MAC bytes")
  else .ok ⟨getLe (payload.take 4),payload.drop 4⟩

/-- The parser a managed execution applies to the response of one opcode, for its errors only. -/
def checkParsed (opcode : Byte) (header payload : Bytes) : Result Unit :=
  if opcode = 0x60 then (parseVersion payload).map fun _ => ()
  else if opcode = 0x6A then (parseApplicationIds payload).map fun _ => ()
  else if opcode = 0x61 then (parseIsoFileIds payload).map fun _ => ()
  else if opcode = 0x45 then (parseKeySettings payload).map fun _ => ()
  else if opcode = 0xF5 then (parseFileSettings payload).map fun _ => ()
  else if opcode = 0xF6 then (parseFileCounters payload).map fun _ => ()
  else if opcode = 0x6C then (parseValue payload).map fun _ => ()
  else if opcode = 0x51 then
    if header = [] then (parseCardUid payload .omitOption).map fun _ => ()
    else if header = [0x00] then (parseCardUid payload .withoutNuid).map fun _ => ()
    else if header = [0x01] then (parseCardUid payload .withNuid).map fun _ => ()
    else .error (malformed "GetCardUID command header is invalid")
  else if opcode = 0x69 then (parseDelegatedApplicationInfo payload).map fun _ => ()
  else if opcode = 0x3C then (parseOriginalitySignature payload).map fun _ => ()
  else if opcode = 0xC7 ∧ payload ≠ [] then (parseTransactionMac payload).map fun _ => ()
  else .ok ()

/-- An error of a parser never claims that nothing was sent or that the card refused. -/
def Delivered {α : Type} (r : Result α) : Prop :=
  ∀ e, r = .error e → e.outcome = .unknown ∨ e.outcome = .succeeded

namespace Delivered
variable {α β : Type}

theorem ok (a : α) : Delivered (.ok a) := by simp [Delivered]

theorem malformed (message : String) : Delivered (.error (Checked.malformed message) : Result α) := by
  rintro _ ⟨⟩
  exact .inl rfl

theorem map {r : Result α} (h : Delivered r) (f : α → β) : Delivered (r.map f) := by
  cases r with
  | error e => rintro _ ⟨⟩; exact h e rfl
  | ok a => exact ok (f a)

theorem bind {r : Result α} {f : α → Result β} (h : Delivered r) (hf : ∀ a, Delivered (f a)) :
    Delivered (r >>= f) := by
  cases r with
  | error e => rintro _ ⟨⟩; exact h e rfl
  | ok a => exact hf a

theorem ite {c : Prop} [Decidable c] {r r' : Result α} (h : Delivered r) (h' : Delivered r') :
    Delivered (if c then r else r') := by
  split
  · exact h
  · exact h'

end Delivered

theorem parseVersion_delivered (payload : Bytes) : Delivered (parseVersion payload) :=
  .ite (by rintro _ ⟨⟩; exact .inl rfl) (.ok _)

theorem parseUid_delivered (uidPayload : Bytes) (nuid : Option Bytes) :
    Delivered (parseUid uidPayload nuid) :=
  .ite (.ok _) (.ite (.malformed _) (.ok _))

theorem parseDetails_delivered (payload : Bytes) (type : FileType) :
    Delivered (parseDetails payload type) := by
  cases type <;> exact .ite (.malformed _) (.ok _)

theorem parseFileSettings_delivered (payload : Bytes) : Delivered (parseFileSettings payload) := by
  refine .ite (.malformed _) ?_
  cases FileType.ofByte (byteAt payload 0) with
  | none => exact .malformed _
  | some type =>
    refine .ite (.malformed _) (.bind (parseDetails_delivered payload type) fun _ => ?_)
    refine .bind (.ite (.ok _) (.ite (.malformed _) (.ite (.malformed _) (.ok _)))) fun _ => ?_
    refine .ite (by rintro _ ⟨⟩; exact .inr rfl) ?_
    refine .bind (.ite (.ok _) (.ite (.malformed _) (.ok _))) fun _ => ?_
    exact .ite (.malformed _) (.ok _)

theorem checkParsed_delivered (opcode : Byte) (header payload : Bytes) :
    Delivered (checkParsed opcode header payload) := by
  refine .ite (.map (parseVersion_delivered payload) _) ?_
  refine .ite (.map (.ite (.malformed _) (.ite (.ok _) (.malformed _))) _) ?_
  refine .ite (.map (.ite (.malformed _) (.ite (.ok _) (.malformed _))) _) ?_
  refine .ite (.map (.ite (.malformed _) (.ok _)) _) ?_
  refine .ite (.map (parseFileSettings_delivered payload) _) ?_
  refine .ite (.map (.ite (.malformed _) (.ok _)) _) ?_
  refine .ite (.map (.ite (.malformed _) (.ok _)) _) ?_
  refine .ite (.ite (.map (parseUid_delivered _ _) _) (.ite (.map (parseUid_delivered _ _) _)
    (.ite (.map (.ite (.malformed _) (parseUid_delivered _ _)) _) (.malformed _)))) ?_
  refine .ite (.map (.ite (.malformed _) (.ok _)) _) ?_
  refine .ite (.map (.ite (.malformed _) (.ok _)) _) ?_
  exact .ite (.map (.ite (.malformed _) (.ok _)) _) (.ok _)

end DesfireSdk.Native.Checked
