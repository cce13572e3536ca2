import DesfireSdk.Native.Checked.Builders

/-! Commands whose builders promise protection, and the flag that enforces it. -/
namespace DesfireSdk.Native.Checked
open Model

/-- A builder was asked for this communication mode. -/
inductive Asked (mode : CommunicationMode) (c : Command) : Prop
  | getFileCounters file (h : getFileCounters file mode = .ok c)
  | changeFileSettings settings (hmode : settings.commandCommunication = mode)
      (h : changeFileSettings settings = .ok c)
  | readData file offset length (h : readData file offset length mode = .ok c)
  | writeData file offset data (h : writeData file offset data mode = .ok c)
  | readRecords file first count maximum (h : readRecords file first count mode maximum = .ok c)
  | writeRecord file offset data (h : writeRecord file offset data mode = .ok c)
  | updateRecord file record offset data (h : updateRecord file record offset data mode = .ok c)
  | getValue file (h : getValue file mode = .ok c)
  | credit file amount (h : credit file amount mode = .ok c)
  | debit file amount (h : debit file amount mode = .ok c)
  | limitedCredit file amount (h : limitedCredit file amount mode = .ok c)
  | restoreTransfer target source (h : restoreTransfer target source mode = .ok c)

/-- MAC or Full communication was asked for, or the request is enciphered. -/
inductive Command.Protected (c : Command) : Prop
  | asked (mode : CommunicationMode) (hmode : mode = .mac ∨ mode = .full) (h : Asked mode c)
  | enciphered (hbuilt : Built c) (hmode : c.requestMode = .full)

section Requirement
variable {c : Command} {mode : CommunicationMode}

theorem asked_requires (hmode : mode ≠ .plain) (h : Asked mode c) : c.requiresAuthentication = true := by
  cases h with
  | getValue _ h => exact fileCommand_requires hmode h
  | getFileCounters _ h | readData _ _ _ h | writeData _ _ _ h | readRecords _ _ _ _ h
  | writeRecord _ _ _ h | updateRecord _ _ _ _ h | credit _ _ h | debit _ _ h | limitedCredit _ _ h
  | restoreTransfer _ _ h =>
    simp only [getFileCounters,readData,writeData,readRecords,writeRecord,updateRecord,credit,debit,
      limitedCredit,valueChange,restoreTransfer] at h
    split at h
    · cases h
    exact fileCommand_requires hmode h
  | changeFileSettings settings hsettings h =>
    unfold changeFileSettings at h
    split at h
    · cases h
    split at h
    · cases h
    exact fileCommand_requires (hsettings ▸ hmode) h

/-- Every protected command requires authentication. -/
theorem Command.Protected.requires (h : c.Protected) : c.requiresAuthentication = true := by
  cases h with
  | asked mode hmode h =>
    refine asked_requires ?_ h
    rintro rfl
    rcases hmode with h | h <;> cases h
  | enciphered hbuilt hmode => exact (built_consistent hbuilt).enciphered hmode

end Requirement
end DesfireSdk.Native.Checked
