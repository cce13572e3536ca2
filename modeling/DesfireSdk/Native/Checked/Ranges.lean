import DesfireSdk.Native.Checked.Builders
import DesfireSdk.Native.Secure.Channel

/-! The three-byte fields that builders encode, and the response bounds of what they build. -/
namespace DesfireSdk.Native.Checked
open Model

/-- The number in the three bytes of a header from a position on. -/
def threeByteField (header : Bytes) (position : Nat) : Nat := getLe ((header.drop position).take 3)

section Fields
variable {c : Command} {mode : CommunicationMode} {opcode : Byte} {header data : Bytes} {reading : Bool}
  {minimum maximum : Nat}

/-- A field decodes to the number it was encoded from. -/
theorem threeByteField_putLe {value position : Nat} (front rest : Bytes) (hvalue : value ≤ maximumThreeByte)
    (hposition : front.length = position) : threeByteField (front ++ (putLe value 3 ++ rest)) position = value := by
  have hfits : value < 256^3 := by
    unfold maximumThreeByte at hvalue
    omega
  have hlength : (putLe value 3).length = 3 := length_putLe value 3
  rw [threeByteField,List.drop_left' hposition,List.take_left' hlength]
  exact getLe_putLe (by decide) hfits

theorem validRange_iff {offset : Offset} {length : Nat} :
    validRange offset length = true ↔ offset.value + length ≤ maximumThreeByte := by
  have hoffset : offset.value ≤ maximumThreeByte := offset.bounded
  simp only [validRange,Bool.and_eq_true,decide_eq_true_eq]
  omega

/-- A range header holds the file, the offset and the length. -/
structure RangeEncoded (c : Command) (start : Offset) (size : Nat) : Prop where
  offset : threeByteField c.header 1 = start.value
  length : threeByteField c.header 4 = size
  within : start.value + size ≤ maximumThreeByte

theorem fileCommand_fields (h : fileCommand opcode header data mode reading minimum maximum = .ok c) :
    c.header = header ∧ c.data = data ∧ c.minimumResponse = minimum ∧ c.maximumResponse = maximum := by
  unfold fileCommand at h
  split at h
  · cases h
  · cases h
    exact ⟨rfl,rfl,rfl,rfl⟩

theorem rangeHeader_encoded {file : FileNumber} {start : Offset} {size : Nat}
    (hrange : validRange start size = true) (hheader : c.header = rangeHeader file start size) :
    RangeEncoded c start size := by
  have hwithin := validRange_iff.mp hrange
  have hlength : (putLe start.value 3).length = 3 := length_putLe _ _
  have hfits : size ≤ maximumThreeByte := by omega
  have hposition : (UInt8.ofNat file.value :: putLe start.value 3).length = 4 := by rw [List.length_cons,hlength]
  have hsize := threeByteField_putLe (UInt8.ofNat file.value :: putLe start.value 3) [] hfits hposition
  rw [List.append_nil] at hsize
  refine ⟨?_,?_,hwithin⟩
  · rw [hheader]
    exact threeByteField_putLe [UInt8.ofNat file.value] (putLe size 3) start.bounded rfl
  · rw [hheader]
    exact hsize

theorem readData_encoded {file : FileNumber} {offset : Offset} {length : ByteCount}
    (h : readData file offset length mode = .ok c) : RangeEncoded c offset length.value := by
  unfold readData at h
  split at h
  · cases h
  · next hrange =>
      exact rangeHeader_encoded (Bool.of_not_eq_false hrange) (fileCommand_fields h).1

/-- A write holds the length of its data, and its data unchanged. -/
theorem writeData_encoded {file : FileNumber} {offset : Offset} (h : writeData file offset data mode = .ok c) :
    RangeEncoded c offset data.length ∧ c.data = data := by
  unfold writeData at h
  split at h
  · cases h
  · next hrange =>
      obtain ⟨hheader,hdata,_⟩ := fileCommand_fields h
      exact ⟨rangeHeader_encoded (Bool.of_not_eq_false fun hinvalid => hrange (.inr hinvalid)) hheader,hdata⟩

theorem readRecords_encoded {file : FileNumber} {first : Offset} {count : ByteCount}
    (h : readRecords file first count mode maximum = .ok c) : RangeEncoded c first count.value := by
  unfold readRecords at h
  split at h
  · cases h
  · next hrange =>
      exact rangeHeader_encoded (Bool.of_not_eq_false fun hinvalid => hrange (.inl hinvalid)) (fileCommand_fields h).1

theorem writeRecord_encoded {file : FileNumber} {offset : Offset} (h : writeRecord file offset data mode = .ok c) :
    RangeEncoded c offset data.length ∧ c.data = data := by
  unfold writeRecord at h
  split at h
  · cases h
  · next hrange =>
      obtain ⟨hheader,hdata,_⟩ := fileCommand_fields h
      exact ⟨rangeHeader_encoded (Bool.of_not_eq_false fun hinvalid => hrange (.inr hinvalid)) hheader,hdata⟩

theorem updateRecord_encoded {file : FileNumber} {record offset : Offset}
    (h : updateRecord file record offset data mode = .ok c) :
    threeByteField c.header 1 = record.value ∧ threeByteField c.header 4 = offset.value ∧
      threeByteField c.header 7 = data.length ∧ offset.value + data.length ≤ maximumThreeByte ∧ c.data = data := by
  unfold updateRecord at h
  split at h
  · cases h
  · next hrange =>
      have hwithin := validRange_iff.mp (Bool.of_not_eq_false fun hinvalid => hrange (.inr hinvalid))
      obtain ⟨hheader,hdata,_⟩ := fileCommand_fields h
      have hrecord : (putLe record.value 3).length = 3 := length_putLe _ _
      have hoffset : (putLe offset.value 3).length = 3 := length_putLe _ _
      rw [hheader,List.append_assoc]
      refine ⟨?_,?_,?_,hwithin,hdata⟩
      · exact threeByteField_putLe [UInt8.ofNat file.value] _ record.bounded rfl
      · exact threeByteField_putLe (UInt8.ofNat file.value :: putLe record.value 3) _ offset.bounded
          (by rw [List.length_cons,hrecord])
      · have hsize : threeByteField ((UInt8.ofNat file.value :: (putLe record.value 3 ++ putLe offset.value 3)) ++
            (putLe data.length 3 ++ [])) 7 = data.length := by
          apply threeByteField_putLe _ _ (by omega)
          rw [List.length_cons,List.length_append,hrecord,hoffset]
        rw [List.append_nil,List.cons_append,List.append_assoc] at hsize
        exact hsize

/-- The header of a new file ends in its sizes, after the file, the options and the access rights. -/
theorem createDataFile_encoded {settings : DataFileConfiguration} (h : createDataFile settings = .ok c) :
    threeByteField c.header ((fileCreationPrefix settings.file settings.isoId).length + 3) = settings.size.value := by
  unfold createDataFile at h
  split at h
  · cases h
  · cases h
    have hfield := threeByteField_putLe (fileCreationPrefix settings.file settings.isoId ++
      [fileOptions settings.communication settings.additionalAccessRights] ++ accessBytes settings.access) []
      settings.size.bounded (by rw [List.length_append,List.length_append])
    rw [List.append_nil] at hfield
    exact hfield

theorem createRecordFile_encoded {settings : RecordFileConfiguration} (h : createRecordFile settings = .ok c) :
    threeByteField c.header ((fileCreationPrefix settings.file settings.isoId).length + 3) = settings.recordSize.value ∧
      threeByteField c.header ((fileCreationPrefix settings.file settings.isoId).length + 6) =
        settings.maximumRecords.value := by
  unfold createRecordFile at h
  split at h
  · cases h
  · cases h
    let front := fileCreationPrefix settings.file settings.isoId ++
      [fileOptions settings.communication settings.additionalAccessRights] ++ accessBytes settings.access
    have hfront : front.length = (fileCreationPrefix settings.file settings.isoId).length + 3 := by
      rw [List.length_append,List.length_append]
      rfl
    have hsize := threeByteField_putLe front (putLe settings.maximumRecords.value 3) settings.recordSize.bounded hfront
    have hrecords := threeByteField_putLe (front ++ putLe settings.recordSize.value 3) [] settings.maximumRecords.bounded
      (by rw [List.length_append,hfront,length_putLe])
    rw [← List.append_assoc] at hsize
    rw [List.append_nil] at hrecords
    exact ⟨hsize,hrecords⟩

/-- Every command that names an application starts with its identifier. -/
theorem applicationId_encoded {id : ApplicationId} {tail : Bytes} (hheader : c.header = putLe id.value 3 ++ tail) :
    threeByteField c.header 0 = id.value := by
  rw [hheader]
  exact threeByteField_putLe [] tail id.bounded rfl

theorem createApplication_encoded {settings : ApplicationConfiguration} (h : createApplication settings = .ok c) :
    threeByteField c.header 0 = settings.id.value := by
  unfold createApplication at h
  cases htail : applicationTail settings with
  | error e =>
    rw [htail] at h
    cases h
  | ok tail =>
    rw [htail] at h
    cases h
    have hheader : (management 0xCA (putLe settings.id.value 3 ++ tail)).header = putLe settings.id.value 3 ++ tail := rfl
    exact applicationId_encoded hheader

theorem createDelegatedApplication_encoded {settings : DelegatedApplicationConfiguration} {encryptedKey damMac : Bytes}
    (h : createDelegatedApplication settings encryptedKey damMac = .ok c) :
    threeByteField c.header 0 = settings.application.id.value := by
  unfold createDelegatedApplication at h
  split at h
  · cases h
  · cases htail : applicationTail settings.application with
    | error e =>
      rw [htail] at h
      cases h
    | ok tail =>
      rw [htail] at h
      cases h
      apply applicationId_encoded
      simp only [List.append_assoc]
      rfl

theorem deleteApplication_encoded {id : ApplicationId} (h : deleteApplication id = .ok c) :
    threeByteField c.header 0 = id.value := by
  unfold deleteApplication at h
  split at h
  · cases h
  · cases h
    apply applicationId_encoded
    exact (List.append_nil _).symm

theorem deleteDelegatedApplication_encoded {id : ApplicationId} {damMac : Bytes}
    (h : deleteDelegatedApplication id damMac = .ok c) : threeByteField c.header 0 = id.value := by
  unfold deleteDelegatedApplication at h
  split at h
  · cases h
  · cases h
    have hheader : (management 0xDA (putLe id.value 3 ++ damMac)).header = putLe id.value 3 ++ damMac := rfl
    exact applicationId_encoded hheader

end Fields

section Bounds
variable {c : Command} {mode : CommunicationMode} {opcode : Byte} {header data : Bytes} {reading : Bool}
  {minimum maximum : Nat}

/-- The response bounds of a command are ordered and within those of the secure channel. -/
structure Command.Bounded (c : Command) : Prop where
  ordered : c.minimumResponse ≤ c.maximumResponse
  accepted : c.maximumResponse ≤ Secure.maximumLogicalResponse

theorem management_bounded (h : (.ok (management opcode header minimum maximum) : Result Command) = .ok c)
    (hordered : minimum ≤ maximum) (haccepted : maximum ≤ Secure.maximumLogicalResponse) : c.Bounded := by
  cases h
  exact ⟨hordered,haccepted⟩

theorem fileCommand_bounded (h : fileCommand opcode header data mode reading minimum maximum = .ok c)
    (hordered : minimum ≤ maximum) (haccepted : maximum ≤ Secure.maximumLogicalResponse) : c.Bounded := by
  obtain ⟨_,_,hminimum,hmaximum⟩ := fileCommand_fields h
  constructor
  · rw [hminimum,hmaximum]
    exact hordered
  · rw [hmaximum]
    exact haccepted

/-- A command whose response has one length. -/
theorem fixed_bounded (size : Nat) (hminimum : c.minimumResponse = size) (hmaximum : c.maximumResponse = size)
    (haccepted : size ≤ Secure.maximumLogicalResponse) : c.Bounded := by
  constructor
  · exact Nat.le_of_eq (hminimum.trans hmaximum.symm)
  · rw [hmaximum]
    exact haccepted

theorem built_bounded (h : Built c) : c.Bounded := by
  cases h with
  | getApplicationIds h | getDfNames h | getIsoFileIds h | getVersion h | freeMemory h | getFileIds h
  | getKeySettings h | getKeySetVersions h | abortTransaction h | deleteFile _ h | getFileSettings _ h
  | clearRecordFile _ h => exact management_bounded h (by decide) (by decide)
  | getDelegatedApplicationInfo _ h =>
    cases h
    exact fixed_bounded 8 rfl rfl (by decide)
  | readOriginalitySignature h =>
    cases h
    exact fixed_bounded 56 rfl rfl (by decide)
  | formatPicc h | setPiccConfiguration _ h | setCapabilityConfiguration _ h | setAtqa _ h =>
    cases h
    exact fixed_bounded 0 rfl rfl (by decide)
  | changeKeySettings _ h | getValue _ _ h => exact fileCommand_bounded h (by decide) (by decide)
  | createApplication settings h =>
    cases htail : applicationTail settings <;> simp only [createApplication,htail] at h
    · cases h
    · exact management_bounded h (by decide) (by decide)
  | createDelegatedApplication settings encK mac h =>
    unfold createDelegatedApplication at h
    split at h
    · cases h
    cases htail : applicationTail settings.application <;> simp only [htail] at h <;> cases h
    exact fixed_bounded 0 rfl rfl (by decide)
  | deleteApplication _ h | createDataFile _ h | createValueFile _ h | createRecordFile _ h =>
    simp only [deleteApplication,createDataFile,createValueFile,createRecordFile] at h
    split at h
    · cases h
    exact management_bounded h (by decide) (by decide)
  | commitTransaction receipt h =>
    cases receipt <;> exact management_bounded h (by decide) (by decide)
  | deleteDelegatedApplication _ _ h | setDefaultAesKey _ _ h | setAts _ h
  | createTransactionMacFile _ _ _ _ h | initializeKeySet _ h | finalizeKeySet _ _ h | rollKeySet _ h =>
    simp only [deleteDelegatedApplication,setDefaultAesKey,setAts,createTransactionMacFile,
      initializeKeySet,finalizeKeySet,rollKeySet] at h
    split at h
    · cases h
    cases h
    exact fixed_bounded 0 rfl rfl (by decide)
  | commitReaderId _ h =>
    unfold commitReaderId at h
    split at h
    · cases h
    cases h
    exact fixed_bounded 16 rfl rfl (by decide)
  | getCardUid request h =>
    cases request
    · exact fileCommand_bounded h (by decide) (by decide)
    · exact fileCommand_bounded h (by decide) (by decide)
    · exact fileCommand_bounded h (by decide) (by decide)
    · cases h
  | getFileCounters _ _ h | writeData _ _ _ _ h | writeRecord _ _ _ _ h | updateRecord _ _ _ _ _ h
  | credit _ _ _ h | debit _ _ _ h | limitedCredit _ _ _ h | restoreTransfer _ _ _ h =>
    simp only [getFileCounters,writeData,writeRecord,updateRecord,credit,debit,limitedCredit,valueChange,
      restoreTransfer] at h
    split at h
    · cases h
    exact fileCommand_bounded h (by decide) (by decide)
  | readData file offset length _ h =>
    unfold readData at h
    split at h
    · cases h
    have hlength : length.value ≤ 0x00FFFFFF := length.bounded
    refine fileCommand_bounded h ?_ ?_
    · split <;> omega
    · unfold Secure.maximumLogicalResponse maximumThreeByte
      split <;> omega
  | readRecords _ _ _ _ maximum h =>
    unfold readRecords at h
    split at h
    · cases h
    · next hallowed =>
        refine fileCommand_bounded h (Nat.zero_le _) ?_
        exact Nat.le_of_not_lt fun hlarge => hallowed (.inr (.inr hlarge))
  | changeFileSettings _ h =>
    unfold changeFileSettings at h
    split at h
    · cases h
    split at h
    · cases h
    exact fileCommand_bounded h (by decide) (by decide)
  | getKeyVersion key keySet h =>
    cases keySet with
    | none => exact management_bounded h (by decide) (by decide)
    | some set =>
      simp only [getKeyVersion] at h
      split at h
      · cases h
      exact management_bounded h (by decide) (by decide)
  | changeAesKey _ _ _ _ _ _ _ h =>
    unfold changeAesKey at h
    split at h
    · cases h
    simp only at h
    split at h <;> cases h
    exact fixed_bounded 0 rfl rfl (by decide)

end Bounds
end DesfireSdk.Native.Checked
