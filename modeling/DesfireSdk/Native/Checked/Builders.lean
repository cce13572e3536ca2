import DesfireSdk.Native.Checked.Responses

/-! The public builders of checked native commands. -/
namespace DesfireSdk.Native.Checked
open Model

section Applications

def getApplicationIds : Result Command := .ok (management 0x6A [] 0 maximumLogicalResponse)

def getDfNames : Result Command := .ok (management 0x6D [] 0 maximumLogicalResponse)

def getIsoFileIds : Result Command := .ok (management 0x61 [] 0 64)

def createApplication (settings : ApplicationConfiguration) : Result Command := do
  let tail ← applicationTail settings
  .ok (management 0xCA (putLe settings.id.value 3 ++ tail))

def createDelegatedApplication (settings : DelegatedApplicationConfiguration)
    (encryptedDefaultKey damMac : Bytes) : Result Command :=
  if encryptedDefaultKey.length ≠ 32 ∨ damMac.length ≠ 8 then
    .error (invalid "Delegated application creation requires 32-byte EncK and 8-byte DAM MAC")
  else do
    let tail ← applicationTail settings.application
    let header := putLe settings.application.id.value 3 ++ putLe settings.slot.toNat 2 ++
      [settings.slotVersion] ++ putLe settings.quotaLimit.toNat 2 ++ tail
    .ok {management 0xC9 header with
      data := encryptedDefaultKey ++ damMac
      requiresAuthentication := true
      requiresEv2Session := true
      requiresPiccSelection := true
      requiresSingleContinuationFrame := true
      currentAuthenticatedKey := some 0x10
      requestMode := .mac
      responseMode := .mac
      firstFramePayloadSize := some header.length }

def getDelegatedApplicationInfo (slot : UInt16) : Result Command :=
  .ok {management 0x69 (putLe slot.toNat 2) 8 8 with requiresPiccSelection := true}

def deleteApplication (id : ApplicationId) : Result Command :=
  if id.value = 0 then .error (invalid "DeleteApplication cannot target the PICC identifier")
  else .ok (management 0xDA (putLe id.value 3))

def deleteDelegatedApplication (id : ApplicationId) (damMac : Bytes) : Result Command :=
  if id.value = 0 ∨ damMac.length ≠ 8 then
    .error (invalid "Delegated deletion requires a nonzero AID and eight-byte DAM MAC")
  else .ok {management 0xDA (putLe id.value 3 ++ damMac) with
    requiresAuthentication := true
    requiresPiccSelection := true
    allowedAuthenticatedKeys := ((1 : UInt64) <<< 0x10) ||| ((1 : UInt64) <<< 0x18) }

end Applications

section CardManagement

def getVersion : Result Command := .ok (management 0x60 [] 28 28)

def freeMemory : Result Command := .ok (management 0x6E [] 3 3)

def getCardUid : CardUidRequest → Result Command
  | .omitOption => fileCommand 0x51 [] [] .full true 6 12
  | .withoutNuid => fileCommand 0x51 [0x00] [] .full true 6 12
  | .withNuid => fileCommand 0x51 [0x01] [] .full true 10 16
  | .other => .error (invalid "Invalid GetCardUID request variant")

def readOriginalitySignature : Result Command :=
  .ok {management 0x3C [0x00] 56 56 with responseMode := .full}

def formatPicc : Result Command := .ok {management 0xFC with requiresAuthentication := true}

def piccFlags (settings : PiccConfiguration) : Byte :=
  [settings.disableFormat,settings.randomIdentifier,settings.proximityCheckMandatory,
    settings.virtualCardAuthenticationMandatory,settings.errorCodeBinding,
    settings.randomIdentifierConfiguration,settings.fourByteNuidConfiguration].foldr
    (fun bit flags => flags <<< 1 ||| (if bit then 1 else 0)) 0

def setPiccConfiguration (settings : PiccConfiguration) : Result Command :=
  .ok (configuration 0x00 [piccFlags settings])

def setCapabilityConfiguration (settings : CapabilityConfiguration) : Result Command :=
  .ok (configuration 0x05 settings.data)

def setDefaultAesKey (aesKey : Bytes) (keyVersion : Byte) : Result Command :=
  if aesKey.length ≠ 16 then .error (invalid "Default AES key requires sixteen bytes")
  else .ok (configuration 0x01 (aesKey ++ zeros 8 ++ [keyVersion]))

def setAts (ats : Bytes) : Result Command :=
  if ats.length < 2 ∨ 20 < ats.length ∨ (byteAt ats 0).toNat ≠ ats.length then
    .error (invalid "ATS must include a matching length byte and contain 2..20 bytes")
  else .ok (configuration 0x02 ats)

def setAtqa (atqa : UInt16) : Result Command := .ok (configuration 0x0C (putLe atqa.toNat 2))

end CardManagement

section Files

def getFileIds : Result Command := .ok (management 0x6F [] 0 32)

/-- The option byte of a new file. -/
def fileOptions (communication : CommunicationMode) (additionalAccessRights : Bool) : Byte :=
  communication.byte ||| (if additionalAccessRights then 0x80 else 0)

def createDataFile (settings : DataFileConfiguration) : Result Command :=
  if validMode settings.communication = false ∨ validAccess settings.access = false ∨
      settings.size.value = 0 then
    .error (invalid "Invalid EV3 data-file communication, access rights, or size")
  else .ok (management (if settings.backup then 0xCB else 0xCD)
    (fileCreationPrefix settings.file settings.isoId ++
      [fileOptions settings.communication settings.additionalAccessRights] ++
      accessBytes settings.access ++ putLe settings.size.value 3))

def createValueFile (settings : ValueFileConfiguration) : Result Command :=
  if validMode settings.communication = false ∨ validAccess settings.access = false ∨
      settings.upperLimit < settings.lowerLimit ∨ settings.initialValue < settings.lowerLimit ∨
      settings.upperLimit < settings.initialValue then
    .error (invalid "Invalid EV3 value-file communication, access rights, or limits")
  else .ok (management 0xCC
    ([UInt8.ofNat settings.file.value,
        fileOptions settings.communication settings.additionalAccessRights] ++
      accessBytes settings.access ++ putLe settings.lowerLimit.toUInt32.toNat 4 ++
      putLe settings.upperLimit.toUInt32.toNat 4 ++ putLe settings.initialValue.toUInt32.toNat 4 ++
      [(if settings.limitedCreditEnabled then 1 else 0) ||| (if settings.freeGetValue then 2 else 0)]))

def createRecordFile (settings : RecordFileConfiguration) : Result Command :=
  if validMode settings.communication = false ∨ validAccess settings.access = false ∨
      settings.recordSize.value = 0 ∨ settings.maximumRecords.value = 0 then
    .error (invalid "Invalid EV3 record-file communication, access rights, or dimensions")
  else .ok (management (if settings.cyclic then 0xC0 else 0xC1)
    (fileCreationPrefix settings.file settings.isoId ++
      [fileOptions settings.communication settings.additionalAccessRights] ++
      accessBytes settings.access ++ putLe settings.recordSize.value 3 ++
      putLe settings.maximumRecords.value 3))

def createTransactionMacFile (file : FileNumber) (access : AccessRights) (aesKey : Bytes)
    (keyVersion : Byte) : Result Command :=
  if validAccess access = false ∨ aesKey.length ≠ 16 then
    .error (invalid "Transaction MAC file requires valid access rights and an AES key")
  else .ok {management 0xCE ([UInt8.ofNat file.value,0x00] ++ accessBytes access ++ [0x02]) with
    data := aesKey ++ [keyVersion]
    requestMode := .full
    requiresAuthentication := true }

def deleteFile (file : FileNumber) : Result Command := .ok (management 0xDF [UInt8.ofNat file.value])

def getFileSettings (file : FileNumber) : Result Command :=
  .ok (management 0xF5 [UInt8.ofNat file.value] 6 128)

def getFileCounters (file : FileNumber) (mode : CommunicationMode) : Result Command :=
  if mode = .mac then
    .error (invalid "GetFileCounters supports plain or fully enciphered responses")
  else fileCommand 0xF6 [UInt8.ofNat file.value] [] mode true 5 5

def changeFileSettings (settings : FileSettingsChange) : Result Command :=
  if validMode settings.communication = false ∨ validAccess settings.access = false ∨
      7 < settings.additionalAccess.length then
    .error (invalid "Invalid EV3 file mode, access rights, or additional rights count")
  else if settings.additionalAccess.all validAccess = false then
    .error (invalid "Invalid EV3 additional access-right selector")
  else fileCommand 0x5F [UInt8.ofNat settings.file.value]
    ([settings.communication.byte |||
        (if settings.additionalAccess = [] then 0 else 0x80) |||
        (if settings.transactionCounterLimit.isSome then 0x20 else 0)] ++
      accessBytes settings.access ++
      (if settings.additionalAccess = [] then []
        else UInt8.ofNat settings.additionalAccess.length ::
          settings.additionalAccess.flatMap accessBytes) ++
      (match settings.transactionCounterLimit with
        | some limit => putLe limit.toNat 4
        | none => []))
    settings.commandCommunication false

def readData (file : FileNumber) (offset : Offset) (length : ByteCount) (mode : CommunicationMode) :
    Result Command :=
  if validRange offset length.value = false then
    .error (invalid "EV3 read range exceeds the three-byte address space")
  else fileCommand 0xBD (rangeHeader file offset length.value) [] mode true length.value
    (if length.value = 0 then maximumThreeByte - offset.value else length.value)

def writeData (file : FileNumber) (offset : Offset) (data : Bytes) (mode : CommunicationMode) :
    Result Command :=
  if data = [] ∨ validRange offset data.length = false then
    .error (invalid "EV3 write requires a nonempty in-range payload")
  else fileCommand 0x3D (rangeHeader file offset data.length) data mode false

def readRecords (file : FileNumber) (firstRecord : Offset) (count : ByteCount)
    (mode : CommunicationMode) (maximumResponse : Nat) : Result Command :=
  if validRange firstRecord count.value = false ∨ maximumResponse = 0 ∨
      maximumLogicalResponse < maximumResponse then
    .error (invalid "Invalid EV3 record range or response bound")
  else fileCommand 0xBB (rangeHeader file firstRecord count.value) [] mode true 0 maximumResponse

def writeRecord (file : FileNumber) (offset : Offset) (data : Bytes) (mode : CommunicationMode) :
    Result Command :=
  if data = [] ∨ validRange offset data.length = false then
    .error (invalid "EV3 record write requires a nonempty in-range payload")
  else fileCommand 0x3B (rangeHeader file offset data.length) data mode false

def updateRecord (file : FileNumber) (record offset : Offset) (data : Bytes)
    (mode : CommunicationMode) : Result Command :=
  if data = [] ∨ validRange offset data.length = false then
    .error (invalid "EV3 record update requires a nonempty in-range payload")
  else fileCommand 0xDB (UInt8.ofNat file.value ::
    (putLe record.value 3 ++ putLe offset.value 3 ++ putLe data.length 3)) data mode false

def clearRecordFile (file : FileNumber) : Result Command :=
  .ok (management 0xEB [UInt8.ofNat file.value])

end Files

section Keys

def getKeySettings : Result Command := .ok (management 0x45 [] 2 6)

def changeKeySettings (settings : Byte) : Result Command := fileCommand 0x54 [] [settings] .full false

def getKeyVersion (key : KeyNumber) (keySet : Option Byte) : Result Command :=
  match keySet with
  | none => .ok (management 0x64 [UInt8.ofNat key.value] 1 1)
  | some set =>
    if 15 < set ∨ 13 < key.value then
      .error (invalid "Application key version requires key 0..13 and set 0..15")
    else .ok (management 0x64 [UInt8.ofNat key.value ||| 0x40,set] 1 1)

def getKeySetVersions : Result Command := .ok (management 0x64 [0x40,0x80] 2 16)

def changeAesKey (key : KeyNumber) (newKey : Bytes) (version : Byte) (authenticatedKey : KeyNumber)
    (oldKey : Bytes) (keySet : Option Byte) (piccMasterKey : Bool) : Result Command :=
  if newKey.length ≠ 16 ∨ (∃ set ∈ keySet, 15 < set) ∨ (piccMasterKey ∧ key.value ≠ 0) then
    .error (invalid "Invalid AES key length, key set, or PICC master key selector")
  else
    let changesCurrentKey := key = authenticatedKey ∧ keySet.getD 0 = 0
    if (changesCurrentKey ∧ oldKey ≠ []) ∨ (¬changesCurrentKey ∧ oldKey.length ≠ 16) then
      .error (invalid "Old AES key is required only when changing another key or key set")
    else
      let selector := UInt8.ofNat key.value ||| (if piccMasterKey then 0x80 else 0)
      .ok {management (if keySet.isSome then 0xC6 else 0xC4) (keySet.toList ++ [selector]) with
        data := if changesCurrentKey then newKey ++ [version]
          else List.zipWith (fun a b => a ^^^ b) newKey oldKey ++ [version] ++ putLe (crc32 newKey) 4
        requestMode := .full
        responseMode := if changesCurrentKey then .plain else .mac
        requiresAuthentication := true
        invalidatesSession := changesCurrentKey
        currentAuthenticatedKey := some (UInt8.ofNat authenticatedKey.value) }

def initializeKeySet (keySet : Byte) : Result Command :=
  if 15 < keySet then .error (invalid "EV3 key-set number exceeds 15")
  else .ok {management 0x56 with data := [keySet,0x02],requiresAuthentication := true}

def finalizeKeySet (keySet version : Byte) : Result Command :=
  if 15 < keySet then .error (invalid "EV3 key-set number exceeds 15")
  else .ok {management 0x57 with data := [keySet,version],requiresAuthentication := true}

def rollKeySet (keySet : Byte) : Result Command :=
  if 15 < keySet then .error (invalid "EV3 key-set number exceeds 15")
  else .ok {management 0x55 with
    data := [keySet]
    requiresAuthentication := true
    invalidatesSession := true }

end Keys

section Transactions

def getValue (file : FileNumber) (mode : CommunicationMode) : Result Command :=
  fileCommand 0x6C [UInt8.ofNat file.value] [] mode true 4 4

def credit (file : FileNumber) (amount : UInt32) (mode : CommunicationMode) : Result Command :=
  valueChange 0x0C file amount mode

def debit (file : FileNumber) (amount : UInt32) (mode : CommunicationMode) : Result Command :=
  valueChange 0xDC file amount mode

def limitedCredit (file : FileNumber) (amount : UInt32) (mode : CommunicationMode) : Result Command :=
  valueChange 0x1C file amount mode

def restoreTransfer (target source : FileNumber) (mode : CommunicationMode) : Result Command :=
  if mode ≠ .plain ∧ mode ≠ .mac then
    .error (invalid "RestoreTransfer supports only Plain or MAC communication")
  else fileCommand 0xB1 [] [UInt8.ofNat target.value,UInt8.ofNat source.value] mode false

def commitTransaction (returnTransactionMac : Bool) : Result Command :=
  if returnTransactionMac then .ok (management 0xC7 [0x01] 12 12) else .ok (management 0xC7)

def abortTransaction : Result Command := .ok (management 0xA7)

def commitReaderId (readerId : Bytes) : Result Command :=
  if readerId.length ≠ 16 then
    .error (invalid "CommitReaderID requires a sixteen-byte reader identifier")
  else .ok {management 0xC8 readerId 16 16 with requiresAuthentication := true}

end Transactions

/-- A command that some public builder produced. -/
inductive Built (c : Command) : Prop
  | getApplicationIds (h : getApplicationIds = .ok c)
  | getDfNames (h : getDfNames = .ok c)
  | getIsoFileIds (h : getIsoFileIds = .ok c)
  | createApplication settings (h : createApplication settings = .ok c)
  | createDelegatedApplication settings encK mac (h : createDelegatedApplication settings encK mac = .ok c)
  | getDelegatedApplicationInfo slot (h : getDelegatedApplicationInfo slot = .ok c)
  | deleteApplication id (h : deleteApplication id = .ok c)
  | deleteDelegatedApplication id mac (h : deleteDelegatedApplication id mac = .ok c)
  | getVersion (h : getVersion = .ok c)
  | freeMemory (h : freeMemory = .ok c)
  | getCardUid request (h : getCardUid request = .ok c)
  | readOriginalitySignature (h : readOriginalitySignature = .ok c)
  | formatPicc (h : formatPicc = .ok c)
  | setPiccConfiguration settings (h : setPiccConfiguration settings = .ok c)
  | setCapabilityConfiguration settings (h : setCapabilityConfiguration settings = .ok c)
  | setDefaultAesKey key version (h : setDefaultAesKey key version = .ok c)
  | setAts ats (h : setAts ats = .ok c)
  | setAtqa atqa (h : setAtqa atqa = .ok c)
  | getFileIds (h : getFileIds = .ok c)
  | createDataFile settings (h : createDataFile settings = .ok c)
  | createValueFile settings (h : createValueFile settings = .ok c)
  | createRecordFile settings (h : createRecordFile settings = .ok c)
  | createTransactionMacFile file access key version
      (h : createTransactionMacFile file access key version = .ok c)
  | deleteFile file (h : deleteFile file = .ok c)
  | getFileSettings file (h : getFileSettings file = .ok c)
  | getFileCounters file mode (h : getFileCounters file mode = .ok c)
  | changeFileSettings settings (h : changeFileSettings settings = .ok c)
  | readData file offset length mode (h : readData file offset length mode = .ok c)
  | writeData file offset data mode (h : writeData file offset data mode = .ok c)
  | readRecords file first count mode maximum (h : readRecords file first count mode maximum = .ok c)
  | writeRecord file offset data mode (h : writeRecord file offset data mode = .ok c)
  | updateRecord file record offset data mode (h : updateRecord file record offset data mode = .ok c)
  | clearRecordFile file (h : clearRecordFile file = .ok c)
  | getKeySettings (h : getKeySettings = .ok c)
  | changeKeySettings settings (h : changeKeySettings settings = .ok c)
  | getKeyVersion key keySet (h : getKeyVersion key keySet = .ok c)
  | getKeySetVersions (h : getKeySetVersions = .ok c)
  | changeAesKey key newKey version authenticated oldKey keySet master
      (h : changeAesKey key newKey version authenticated oldKey keySet master = .ok c)
  | initializeKeySet keySet (h : initializeKeySet keySet = .ok c)
  | finalizeKeySet keySet version (h : finalizeKeySet keySet version = .ok c)
  | rollKeySet keySet (h : rollKeySet keySet = .ok c)
  | getValue file mode (h : getValue file mode = .ok c)
  | credit file amount mode (h : credit file amount mode = .ok c)
  | debit file amount mode (h : debit file amount mode = .ok c)
  | limitedCredit file amount mode (h : limitedCredit file amount mode = .ok c)
  | restoreTransfer target source mode (h : restoreTransfer target source mode = .ok c)
  | commitTransaction receipt (h : commitTransaction receipt = .ok c)
  | abortTransaction (h : abortTransaction = .ok c)
  | commitReaderId reader (h : commitReaderId reader = .ok c)

/-- The answer of a command is read the way the command is protected, or not at all. -/
structure Command.Paired (c : Command) : Prop where
  known : c.requestMode.known = true ∧ c.responseMode.known = true
  paired : (c.requestMode = .plain ↔ c.responseMode = .plain) ∨
    (c.invalidatesSession = true ∧ c.responseMode = .plain)

/-- What every builder takes care of: the modes are paired, and the flag goes with an enciphered
request. -/
structure Command.Consistent (c : Command) : Prop extends c.Paired where
  enciphered : c.requestMode = .full → c.requiresAuthentication = true

section Consistency
variable {c : Command} {mode : CommunicationMode} {opcode : Byte} {header data : Bytes} {reading : Bool}
  {minimum maximum : Nat}

theorem management_consistent (h : (.ok (management opcode header minimum maximum) : Result Command) = .ok c) :
    c.Consistent := by
  cases h
  exact ⟨⟨⟨rfl,rfl⟩,.inl (by simp [management])⟩,by simp [management]⟩

/-- A command with protected modes that requires authentication. -/
theorem authenticated_consistent (hrequest : c.requestMode = .mac ∨ c.requestMode = .full)
    (hresponse : c.responseMode = .mac ∨ c.responseMode = .full) (h : c.requiresAuthentication = true) :
    c.Consistent := by
  refine ⟨⟨?_,.inl ?_⟩,fun _ => h⟩
  · rcases hrequest with hrequest | hrequest <;> rcases hresponse with hresponse | hresponse <;>
      exact ⟨by rw [hrequest]; rfl,by rw [hresponse]; rfl⟩
  · rcases hrequest with hrequest | hrequest <;> rcases hresponse with hresponse | hresponse <;>
      simp [hrequest,hresponse]

theorem fileCommand_requires (hmode : mode ≠ .plain)
    (h : fileCommand opcode header data mode reading minimum maximum = .ok c) :
    c.requiresAuthentication = true := by
  unfold fileCommand at h
  split at h <;> cases h
  simpa using hmode

theorem fileCommand_consistent
    (h : fileCommand opcode header data mode reading minimum maximum = .ok c) : c.Consistent := by
  have hpaired : c.Paired := by
    unfold fileCommand at h
    split at h <;> cases h
    cases mode <;> cases reading <;> refine ⟨?_,.inl ?_⟩ <;> simp_all [validMode,CommunicationMode.known]
  refine ⟨hpaired,fun hfull => fileCommand_requires ?_ h⟩
  rintro rfl
  unfold fileCommand at h
  split at h <;> cases h
  cases reading <;> cases hfull

/-- No builder forgets to pair its modes or to set the flag. -/
theorem built_consistent (h : Built c) : c.Consistent := by
  cases h with
  | getApplicationIds h | getDfNames h | getIsoFileIds h | getVersion h | freeMemory h | getFileIds h
  | getKeySettings h | getKeySetVersions h | abortTransaction h | deleteFile _ h | getFileSettings _ h
  | clearRecordFile _ h => exact management_consistent h
  | getDelegatedApplicationInfo _ h | readOriginalitySignature h =>
    cases h
    exact ⟨⟨⟨rfl,rfl⟩,.inl (by simp [management])⟩,by simp [management]⟩
  | formatPicc h | setPiccConfiguration _ h | setCapabilityConfiguration _ h | setAtqa _ h =>
    cases h
    exact authenticated_consistent (by simp [management,configuration])
      (by simp [management,configuration]) rfl
  | changeKeySettings _ h | getValue _ _ h => exact fileCommand_consistent h
  | createApplication settings h =>
    cases htail : applicationTail settings <;> simp only [createApplication,htail] at h
    · cases h
    · exact management_consistent h
  | createDelegatedApplication settings encK mac h =>
    unfold createDelegatedApplication at h
    split at h
    · cases h
    cases htail : applicationTail settings.application <;> simp only [htail] at h <;> cases h
    exact authenticated_consistent (.inl rfl) (.inl rfl) rfl
  | deleteApplication _ h | createDataFile _ h | createValueFile _ h | createRecordFile _ h =>
    simp only [deleteApplication,createDataFile,createValueFile,createRecordFile] at h
    split at h
    · cases h
    exact management_consistent h
  | commitTransaction receipt h =>
    cases receipt <;> exact management_consistent h
  | deleteDelegatedApplication _ _ h | setDefaultAesKey _ _ h | setAts _ h
  | createTransactionMacFile _ _ _ _ h | initializeKeySet _ h | finalizeKeySet _ _ h | rollKeySet _ h
  | commitReaderId _ h =>
    simp only [deleteDelegatedApplication,setDefaultAesKey,setAts,createTransactionMacFile,
      initializeKeySet,finalizeKeySet,rollKeySet,commitReaderId] at h
    split at h
    · cases h
    cases h
    exact authenticated_consistent (by simp [management,configuration])
      (by simp [management,configuration]) rfl
  | getCardUid request h =>
    cases request
    · exact fileCommand_consistent h
    · exact fileCommand_consistent h
    · exact fileCommand_consistent h
    · cases h
  | getFileCounters _ _ h | readData _ _ _ _ h | writeData _ _ _ _ h | readRecords _ _ _ _ _ h
  | writeRecord _ _ _ _ h | updateRecord _ _ _ _ _ h | credit _ _ _ h | debit _ _ _ h
  | limitedCredit _ _ _ h | restoreTransfer _ _ _ h =>
    simp only [getFileCounters,readData,writeData,readRecords,writeRecord,updateRecord,credit,debit,
      limitedCredit,valueChange,restoreTransfer] at h
    split at h
    · cases h
    exact fileCommand_consistent h
  | changeFileSettings _ h =>
    unfold changeFileSettings at h
    split at h
    · cases h
    split at h
    · cases h
    exact fileCommand_consistent h
  | getKeyVersion key keySet h =>
    cases keySet with
    | none => exact management_consistent h
    | some set =>
      simp only [getKeyVersion] at h
      split at h
      · cases h
      exact management_consistent h
  | changeAesKey _ _ _ _ _ _ _ h =>
    unfold changeAesKey at h
    split at h
    · cases h
    simp only at h
    split at h <;> cases h
    refine ⟨⟨⟨rfl,?_⟩,?_⟩,fun _ => rfl⟩
    · dsimp only
      split <;> rfl
    · dsimp only
      split
      · exact .inr ⟨by simpa using ‹_ ∧ _›,rfl⟩
      · exact .inl (by simp)

/-- Every builder pairs its modes. -/
theorem built_paired (h : Built c) : c.Paired := (built_consistent h).toPaired

end Consistency
end DesfireSdk.Native.Checked
