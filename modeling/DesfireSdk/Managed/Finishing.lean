import DesfireSdk.Managed.Evidence
import DesfireSdk.Native.Checked.Ranges
import DesfireSdk.Native.Secure.Evidence

/-! Built commands truncate nothing, and no session is left waiting for another kind of answer. -/
namespace DesfireSdk.Managed
open Interaction Program Native.Checked Model Security

/-- The refusals of a native session that stands in another phase. -/
inductive PhaseError : Error → Prop
  | ev2NotReady : PhaseError Ev2.Session.notReady
  | ev2NotAwaiting :
      PhaseError ⟨.sessionInvalid,"EV2 secure session is not awaiting a response",.notSent,0⟩
  | ev2NotAwaitingPlain :
      PhaseError ⟨.sessionInvalid,"EV2 secure session is not awaiting a Plain response",.notSent,0⟩
  | standardAesNotReady : PhaseError StandardAes.Session.notReady
  | standardAesNotAwaiting : PhaseError StandardAes.Session.notAwaiting

theorem PhaseError.notSent {e : Error} (h : PhaseError e) : e.outcome = .notSent := by
  cases h <;> rfl

/-- A command whose frames the transport answered never ends in a phase error of its session. -/
def Finishes {σ : Type} [Native.Secure.SecureSession σ] (s : σ) (command : Command) : Prop :=
  ∀ (o : Oracle Environment) (h : Trace Environment) (channel : Native.Raw.RawNativeChannel)
    (options : ExchangeOptions) (e : Error),
    (Native.Secure.exchangeProtected channel (secureRequest command) options o h s).result = .error (.error e) →
      (∃ d ∈ deliveries (Native.Secure.exchangeProtected channel (secureRequest command) options o h s).events,
        d.Answered) → ¬PhaseError e

/-- The three-byte fields of every builder that has one. -/
structure FieldsExact (c : Command) : Prop where
  readData : ∀ file offset length mode, readData file offset length mode = .ok c →
    RangeEncoded c offset length.value
  writeData : ∀ file offset data mode, writeData file offset data mode = .ok c →
    RangeEncoded c offset data.length ∧ c.data = data
  readRecords : ∀ file first count mode maximum, readRecords file first count mode maximum = .ok c →
    RangeEncoded c first count.value
  writeRecord : ∀ file offset data mode, writeRecord file offset data mode = .ok c →
    RangeEncoded c offset data.length ∧ c.data = data
  updateRecord : ∀ file (record offset : Offset) data mode, updateRecord file record offset data mode = .ok c →
    threeByteField c.header 1 = record.value ∧ threeByteField c.header 4 = offset.value ∧
      threeByteField c.header 7 = data.length ∧ offset.value + data.length ≤ maximumThreeByte ∧ c.data = data
  createDataFile : ∀ settings, createDataFile settings = .ok c →
    threeByteField c.header ((fileCreationPrefix settings.file settings.isoId).length + 3) = settings.size.value
  createRecordFile : ∀ settings, createRecordFile settings = .ok c →
    threeByteField c.header ((fileCreationPrefix settings.file settings.isoId).length + 3) = settings.recordSize.value ∧
      threeByteField c.header ((fileCreationPrefix settings.file settings.isoId).length + 6) =
        settings.maximumRecords.value
  createApplication : ∀ settings, createApplication settings = .ok c →
    threeByteField c.header 0 = settings.id.value
  createDelegatedApplication : ∀ settings encryptedKey damMac,
    createDelegatedApplication settings encryptedKey damMac = .ok c →
      threeByteField c.header 0 = settings.application.id.value
  deleteApplication : ∀ id, deleteApplication id = .ok c → threeByteField c.header 0 = id.value
  deleteDelegatedApplication : ∀ id damMac, deleteDelegatedApplication id damMac = .ok c →
    threeByteField c.header 0 = id.value

/-- A command that nothing was lost from and that either session family can finish. -/
structure Sound (c : Command) : Prop where
  fields : FieldsExact c
  bounded : c.Bounded
  paired : c.Paired
  ev2 : ∀ s : Ev2.Session, Finishes s c
  standardAes : ∀ s : StandardAes.Session, Finishes s c

section Soundness
variable {c : Command}

theorem fieldsExact (c : Command) : FieldsExact c where
  readData _ _ _ _ h := readData_encoded h
  writeData _ _ _ _ h := writeData_encoded h
  readRecords _ _ _ _ _ h := readRecords_encoded h
  writeRecord _ _ _ _ h := writeRecord_encoded h
  updateRecord _ _ _ _ _ h := updateRecord_encoded h
  createDataFile _ h := createDataFile_encoded h
  createRecordFile _ h := createRecordFile_encoded h
  createApplication _ h := createApplication_encoded h
  createDelegatedApplication _ _ _ h := createDelegatedApplication_encoded h
  deleteApplication _ h := deleteApplication_encoded h
  deleteDelegatedApplication _ _ h := deleteDelegatedApplication_encoded h

/-- The secure channel accepts the fields of every built command. -/
theorem validate_built (h : Built c) : Native.Secure.validate (secureRequest c) = .ok () := by
  have hbounded := built_bounded h
  have hpaired := built_paired h
  have hordered : ¬((secureRequest c).maximumResponse < (secureRequest c).minimumResponse ∨
      Native.Secure.maximumLogicalResponse < (secureRequest c).maximumResponse) := by
    rintro (hless | hless)
    · exact Nat.not_lt.mpr hbounded.ordered hless
    · exact Nat.not_lt.mpr hbounded.accepted hless
  have hrequest : (secureRequest c).requestMode.known ≠ false := Bool.ne_false_iff.mpr hpaired.known.1
  have hresponse : (secureRequest c).responseMode.known ≠ false := Bool.ne_false_iff.mpr hpaired.known.2
  unfold Native.Secure.validate
  rw [if_neg hordered,if_neg hrequest,if_neg hresponse]

theorem truthful_finishes {σ : Type} [Native.Secure.SecureSession σ] {s : σ}
    (h : Native.Secure.Truthful s (secureRequest c)) : Finishes s c := by
  intro o history channel options e hresult hanswered hphase
  exact h o history channel options e hresult hanswered hphase.notSent

/-- Every command of a checked builder is sound. -/
theorem built_sound (h : Built c) : Sound c where
  fields := fieldsExact c
  bounded := built_bounded h
  paired := built_paired h
  ev2 s := by
    apply truthful_finishes
    exact Native.Secure.Guarded.truthful fun o =>
      Native.Secure.ev2_guarded (.inl (paired_secureRequest (built_paired h)))
  standardAes s := by
    apply truthful_finishes
    exact Native.Secure.Guarded.truthful fun o => Native.Secure.standardAes_guarded (validate_built h)

/-- The read of three bytes from the end of the address space. -/
def lastBytes : Command :=
  {management 0xBD [0x01,0xFC,0xFF,0xFF,0x03,0x00,0x00] 3 3 with requestMode := .plain,responseMode := .plain}

theorem built_sound_lastBytes : Sound lastBytes := by
  have hbuilt : readData ⟨1,by decide⟩ ⟨0xFFFFFC,by decide⟩ ⟨3,by decide⟩ .plain = .ok lastBytes := by decide
  exact built_sound (.readData _ _ _ _ hbuilt)

end Soundness
end DesfireSdk.Managed
