import DesfireSdk.Foundation.Fields
import DesfireSdk.Iso7816.Chaining

/-! The checked form of a raw ISO command under the secure exchange of the C interface. -/
namespace DesfireSdk.CApi
open Iso7816
open Iso7816.Checked (BinaryAddress Command FileSelection RecordSelection SelectionResponse)

/-- The raw ISO command descriptor of a C caller; no data stands for a null pointer. -/
structure IsoApdu where
  structSize : UInt32
  abiVersion : UInt32
  cla : UInt32
  ins : UInt32
  p1 : UInt32
  p2 : UInt32
  data : Option Bytes
  dataSize : Nat
  hasLe : UInt32
  le : UInt32
  lengthEncoding : UInt32
  correctLength : UInt32
  maximumResponse : Nat
  maximumFrames : Nat
  reserved : List UInt64
  deriving DecidableEq

/-- The size of the descriptor where pointers have eight bytes. -/
def isoApduSize : UInt32 := 136

def abiVersion : UInt32 := 1
def isoLengthExtended : UInt32 := 2
def maximumBuffer : Nat := 16 * 1024 * 1024

/-- The foreign bytes of a buffer that is at least as long as its caller says. -/
def bytes (data : Option Bytes) (length : Nat) : Result Bytes :=
  if (length ≠ 0 ∧ data = none) ∨ maximumBuffer < length then .error (invalid "Invalid byte buffer")
  else .ok ((data.getD []).take length)

def lengthEncoding (value : UInt32) : Raw.LengthEncoding :=
  if value = 0 then .automatic
  else if value = 1 then .shortApdu
  else if value = 2 then .extended
  else .other value.toNat

def makeIsoApdu (input : IsoApdu) : Result Raw.Apdu :=
  if input.structSize ≠ isoApduSize ∨ input.abiVersion ≠ abiVersion ∨ 0xFF < input.cla ∨ 0xFF < input.ins ∨
      0xFF < input.p1 ∨ 0xFF < input.p2 ∨ 65535 < input.dataSize ∨ 1 < input.hasLe ∨
      (input.hasLe ≠ 0 ∧ (input.le = 0 ∨ 65536 < input.le)) ∨ isoLengthExtended < input.lengthEncoding ∨
      1 < input.correctLength ∨ input.maximumResponse = 0 ∨ input.maximumFrames = 0 ∨
      ∃ word ∈ input.reserved, word ≠ 0 then
    .error (invalid "Invalid raw ISO APDU descriptor")
  else do
    let data ← bytes input.data input.dataSize
    .ok {
      cla := input.cla.toUInt8
      ins := input.ins.toUInt8
      p1 := input.p1.toUInt8
      p2 := input.p2.toUInt8
      data
      le := if input.hasLe ≠ 0 then some input.le.toNat else none
      encoding := lengthEncoding input.lengthEncoding }

section Reparsing

def selectionResponse (value : Byte) : SelectionResponse :=
  if value = 0x00 then .fci else if value = 0x0C then .none else .other value

def fileSelection (value : Byte) : FileSelection :=
  if value = 0x00 then .byIdentifier
  else if value = 0x01 then .childDf
  else if value = 0x02 then .elementaryFile
  else .other value

def recordSelection (value : Byte) : RecordSelection :=
  if value = 0x04 then .one else if value = 0x05 then .fromRecord else .other value

/-- The address that the parameter bytes of READ BINARY and UPDATE BINARY are taken for. -/
def binaryAddress (apdu : Raw.Apdu) : Result BinaryAddress :=
  if apdu.p1 &&& 0x80 ≠ 0 then BinaryAddress.shortFile ((apdu.p1 >>> 3) &&& 0x1F).toNat apdu.p2.toNat
  else BinaryAddress.currentFile (apdu.p1.toNat * 256 + apdu.p2.toNat)

/-- Rebuilds a caller's command through its checked builder. -/
def makeCheckedIsoCommand (apdu : Raw.Apdu) : Result Command :=
  if apdu.cla ≠ 0x00 then .error (invalid "Authenticated ISO command requires CLA 00")
  else if apdu.ins = 0xA4 then
    if apdu.p2 ≠ 0x00 ∧ apdu.p2 ≠ 0x0C then .error (invalid "Invalid ISO selection response selector")
    else if apdu.p1 = 0x04 then
      Command.selectDfName apdu.data (selectionResponse apdu.p2) apdu.encoding
    else if 0x02 < apdu.p1 ∨ apdu.data.length ≠ 2 then .error (invalid "Invalid ISO file selection APDU")
    else Command.selectFile ((apdu.data.getD 0 0).toNat * 256 + (apdu.data.getD 1 0).toNat)
      (fileSelection apdu.p1) (selectionResponse apdu.p2) apdu.encoding
  else if apdu.ins = 0xB0 then
    match apdu.le,apdu.data with
    | some le,[] => do
      let address ← binaryAddress apdu
      Command.readBinary address le apdu.encoding
    | _,_ => .error (invalid "ISO READ BINARY requires Le and no command data")
  else if apdu.ins = 0xD6 then
    if apdu.le.isSome then .error (invalid "ISO UPDATE BINARY cannot carry Le")
    else do
      let address ← binaryAddress apdu
      Command.updateBinary address apdu.data apdu.encoding
  else if apdu.ins = 0xB2 then
    match apdu.le,apdu.data with
    | some le,[] =>
      if apdu.p2 &&& 0x07 ≠ 0x04 ∧ apdu.p2 &&& 0x07 ≠ 0x05 then .error (invalid "Invalid ISO READ RECORDS APDU")
      else Command.readRecords apdu.p1.toNat (apdu.p2 >>> 3).toNat (recordSelection (apdu.p2 &&& 0x07)) le
        apdu.encoding
    | _,_ => .error (invalid "Invalid ISO READ RECORDS APDU")
  else if apdu.ins = 0xE2 then
    if apdu.le.isSome ∨ apdu.p1 ≠ 0x00 ∨ apdu.p2 &&& 0x07 ≠ 0 then
      .error (invalid "Invalid ISO APPEND RECORD APDU")
    else Command.appendRecord (apdu.p2 >>> 3).toNat apdu.data apdu.encoding
  else if apdu.ins = 0xDC ∨ apdu.ins = 0xDD then
    if apdu.le.isSome ∨ apdu.encoding = .extended then
      .error (invalid "ISO UPDATE RECORD requires the checked short form")
    else Command.updateRecord apdu.ins apdu.p1.toNat (apdu.p2 >>> 3).toNat (apdu.p2 &&& 0x07).toNat apdu.data
  else .error ⟨.unsupported,"ISO AES raw session accepts only checked data commands and EF selection",.notSent,0⟩

def mismatched : Error := invalid "Raw ISO APDU does not exactly match its checked command form"

/-- The command of a secure ISO exchange, with everything that is refused before the channel is used. -/
def secureCommand (isoStatus : Bool) (request : IsoApdu) : Result Command := do
  if isoStatus = false ∨ request.correctLength ≠ 0 then
    .error (invalid "Secure ISO exchange requires a status output and forbids length correction")
  else do
    let apdu ← makeIsoApdu request
    let command ← makeCheckedIsoCommand apdu
    if command.apdu ≠ apdu then .error mismatched
    else if command.resetsAuthentication then
      .error ⟨.unsupported,"Authenticated ISO exchange cannot change the selected DF",.notSent,0⟩
    else .ok command

end Reparsing

/-- How READ BINARY and UPDATE BINARY name their file. -/
inductive Addressing
  | currentFile (offset : Nat)
  | shortFile (identifier offset : Nat)

def Addressing.address : Addressing → Result BinaryAddress
  | currentFile offset => BinaryAddress.currentFile offset
  | shortFile identifier offset => BinaryAddress.shortFile identifier offset

/-- The arguments of the checked builders of data commands. -/
inductive DataCommand
  | selectFile (identifier : Nat) (selection : FileSelection) (response : SelectionResponse)
      (encoding : Raw.LengthEncoding)
  | selectDfName (name : Bytes) (response : SelectionResponse) (encoding : Raw.LengthEncoding)
  | readBinary (addressing : Addressing) (expected : Nat) (encoding : Raw.LengthEncoding)
  | updateBinary (addressing : Addressing) (data : Bytes) (encoding : Raw.LengthEncoding)
  | readRecords (record shortIdentifier : Nat) (selection : RecordSelection) (expected : Nat)
      (encoding : Raw.LengthEncoding)
  | appendRecord (shortIdentifier : Nat) (data : Bytes) (encoding : Raw.LengthEncoding)
  | updateRecord (instruction : Byte) (record shortIdentifier referenceControl : Nat) (data : Bytes)

def DataCommand.build : DataCommand → Result Command
  | selectFile identifier selection response encoding =>
    Command.selectFile identifier selection response encoding
  | selectDfName name response encoding => Command.selectDfName name response encoding
  | readBinary addressing expected encoding => do
    let address ← addressing.address
    Command.readBinary address expected encoding
  | updateBinary addressing data encoding => do
    let address ← addressing.address
    Command.updateBinary address data encoding
  | readRecords record shortIdentifier selection expected encoding =>
    Command.readRecords record shortIdentifier selection expected encoding
  | appendRecord shortIdentifier data encoding => Command.appendRecord shortIdentifier data encoding
  | updateRecord instruction record shortIdentifier referenceControl data =>
    Command.updateRecord instruction record shortIdentifier referenceControl data

/-- The short identifiers that are read back from another place than where they stand fit by chance. -/
def Addressing.Aligned : Addressing → Prop
  | currentFile _ => True
  | shortFile identifier _ => identifier = 18

def DataCommand.Aligned : DataCommand → Prop
  | readBinary addressing _ _ => addressing.Aligned
  | updateBinary addressing _ _ => addressing.Aligned
  | _ => True

section Bits

/-- The two fields of a record selector. -/
theorem selectorBits : ∀ (identifier : Fin 32) (control : Fin 8),
    (UInt8.ofNat (identifier.val * 8 ||| control.val) >>> 3).toNat = identifier.val ∧
      (UInt8.ofNat (identifier.val * 8 ||| control.val) &&& 0x07).toNat = control.val := by
  decide +kernel

theorem recordBits : ∀ identifier : Fin 32, ∀ mode ∈ [(0x04 : Byte),0x05],
    ((UInt8.ofNat (identifier.val * 8) ||| mode) >>> 3).toNat = identifier.val ∧
      (UInt8.ofNat (identifier.val * 8) ||| mode) &&& 0x07 = mode := by
  decide +kernel

theorem appendBits : ∀ identifier : Fin 32, (UInt8.ofNat (identifier.val * 8) >>> 3).toNat = identifier.val ∧
    UInt8.ofNat (identifier.val * 8) &&& 0x07 = 0 := by
  decide +kernel

/-- The identifier is read three bits too high, where the marker of the form stands. -/
theorem shortFileBits : ∀ identifier : Fin 32,
    UInt8.ofNat (0x80 ||| identifier.val) &&& 0x80 ≠ 0 ∧
      ((UInt8.ofNat (0x80 ||| identifier.val) >>> 3) &&& 0x1F).toNat = 16 + identifier.val / 8 ∧
      (UInt8.ofNat (0x80 ||| (16 + identifier.val / 8)) = UInt8.ofNat (0x80 ||| identifier.val) ↔
        identifier.val = 18) := by
  decide +kernel

theorem currentFileBits : ∀ high : Fin 128, UInt8.ofNat high.val &&& 0x80 = 0 := by
  decide +kernel

end Bits

section Reparsed
variable {command : Command}

theorem make_encoded {instruction p1 p2 : Byte} {data : Bytes} {expected : Option Nat}
    {encoding : Raw.LengthEncoding} (h : Command.make instruction p1 p2 data expected encoding = .ok command) :
    ∃ wire, Raw.encode ⟨0x00,instruction,p1,p2,data,expected,encoding⟩ = .ok wire := by
  unfold Command.make at h
  dsimp only at h
  cases hencode : Raw.encode ⟨0x00,instruction,p1,p2,data,expected,encoding⟩ with
  | error e =>
    rw [hencode] at h
    cases h
  | ok wire => exact ⟨wire,rfl⟩

/-- Whether a command can be encoded does not depend on its parameter bytes. -/
theorem make_parameters {instruction p1 p2 : Byte} {data : Bytes} {expected : Option Nat}
    {encoding : Raw.LengthEncoding} (h : Command.make instruction p1 p2 data expected encoding = .ok command)
    (p1' p2' : Byte) : Command.make instruction p1' p2' data expected encoding =
      .ok ⟨⟨0x00,instruction,p1',p2',data,expected,encoding⟩⟩ := by
  obtain ⟨wire,hwire⟩ := make_encoded h
  have haccepted' : ∃ wire', Raw.encode ⟨0x00,instruction,p1',p2',data,expected,encoding⟩ = .ok wire' := by
    unfold Raw.encode at hwire ⊢
    dsimp only at hwire ⊢
    split at hwire
    · cases hwire
    · rename_i hbounded
      rw [if_neg hbounded]
      split at hwire
      · cases hwire
      · rename_i hfits
        rw [if_neg hfits]
        exact ⟨_,rfl⟩
  obtain ⟨wire',hwire'⟩ := haccepted'
  unfold Command.make
  dsimp only
  rw [hwire']
  rfl

/-- The parameter bytes of an address are read back, for a short file only under the identifier that fits. -/
theorem binaryAddress_of {addressing : Addressing} {address : BinaryAddress} (apdu : Raw.Apdu)
    (h : addressing.address = .ok address) (hp1 : apdu.p1 = address.p1) (hp2 : apdu.p2 = address.p2) :
    ∃ address', binaryAddress apdu = .ok address' ∧ (address' = address ↔ addressing.Aligned) := by
  unfold binaryAddress
  rw [hp1,hp2]
  cases addressing with
  | currentFile offset =>
    change BinaryAddress.currentFile offset = .ok address at h
    unfold BinaryAddress.currentFile at h
    by_cases hoffset : 0x7FFF < offset
    · rw [if_pos hoffset] at h
      cases h
    rw [if_neg hoffset] at h
    cases h
    have hhigh := currentFileBits ⟨offset / 256,by omega⟩
    have hvalue : (UInt8.ofNat (offset / 256)).toNat * 256 + (UInt8.ofNat offset).toNat = offset := by
      simp only [UInt8.toNat_ofNat']
      omega
    refine ⟨⟨UInt8.ofNat (offset / 256),UInt8.ofNat offset⟩,?_,by simp [Addressing.Aligned]⟩
    dsimp only at hhigh ⊢
    rw [if_neg (not_not_intro hhigh),hvalue]
    exact if_neg hoffset
  | shortFile identifier offset =>
    change BinaryAddress.shortFile identifier offset = .ok address at h
    unfold BinaryAddress.shortFile at h
    by_cases hfields : 31 < identifier ∨ 255 < offset
    · rw [if_pos hfields] at h
      cases h
    rw [if_neg hfields] at h
    cases h
    obtain ⟨hmarked,hread,hsame⟩ := shortFileBits ⟨identifier,by omega⟩
    dsimp only at hmarked hread hsame
    have hoffset : (UInt8.ofNat offset).toNat = offset := by
      simp only [UInt8.toNat_ofNat']
      omega
    refine ⟨⟨UInt8.ofNat (0x80 ||| (16 + identifier / 8)),UInt8.ofNat offset⟩,?_,?_⟩
    · dsimp only
      rw [if_pos hmarked,hread,hoffset]
      have hfields' : ¬(31 < 16 + identifier / 8 ∨ 255 < offset) := by omega
      exact if_neg hfields'
    · rw [BinaryAddress.mk.injEq]
      change _ ∧ _ ↔ identifier = 18
      rw [← hsame]
      simp

theorem selectionResponse_byte {response : SelectionResponse} (h : Checked.validSelectionResponse response = true) :
    selectionResponse response.byte = response ∧ (response.byte = 0x00 ∨ response.byte = 0x0C) := by
  cases response with
  | fci => exact ⟨rfl,.inl rfl⟩
  | none => exact ⟨rfl,.inr rfl⟩
  | other value => cases h

theorem fileSelection_byte {selection : FileSelection} (h : selection.known = true) :
    fileSelection selection.byte = selection ∧ selection.byte ≠ 0x04 ∧ ¬0x02 < selection.byte := by
  cases selection with
  | byIdentifier => decide
  | childDf => decide
  | elementaryFile => decide
  | other value => cases h

theorem recordSelection_byte {selection : RecordSelection} (h : selection.known = true) :
    recordSelection selection.byte = selection ∧ selection.byte ∈ [(0x04 : Byte),0x05] := by
  cases selection with
  | one => decide
  | fromRecord => decide
  | other value => cases h

/-- A command that is built again with what it was built from. -/
theorem reparsed_same {apdu : Raw.Apdu} {builder : Result Command} {aligned : Prop} (haligned : aligned)
    (hbuilt : builder = .ok command) (hagain : makeCheckedIsoCommand apdu = builder) :
    ∃ command', makeCheckedIsoCommand apdu = .ok command' ∧ (command' = command ↔ aligned) :=
  ⟨command,hagain.trans hbuilt,⟨fun _ => haligned,fun _ => rfl⟩⟩

theorem selectFile_reparsed {identifier : Nat} {selection : FileSelection} {response : SelectionResponse}
    {encoding : Raw.LengthEncoding} (h : Command.selectFile identifier selection response encoding = .ok command) :
    makeCheckedIsoCommand command.apdu = Command.selectFile identifier selection response encoding := by
  obtain ⟨hguard,hcommand⟩ := Checked.make_of_guarded h
  simp only [not_or,Nat.not_lt,Bool.not_eq_false] at hguard
  obtain ⟨hidentifier,hresponse,hselection⟩ := hguard
  obtain ⟨hanswer,hp2⟩ := selectionResponse_byte hresponse
  obtain ⟨hfile,hname,hknown⟩ := fileSelection_byte hselection
  have hvalue : (UInt8.ofNat (identifier / 256)).toNat * 256 + (UInt8.ofNat identifier).toNat = identifier := by
    simp only [UInt8.toNat_ofNat']
    omega
  have hp2' : ¬(response.byte ≠ 0x00 ∧ response.byte ≠ 0x0C) := by
    rintro ⟨hfirst,hsecond⟩
    exact hp2.elim hfirst hsecond
  have hshape : ¬(0x02 < selection.byte ∨ [UInt8.ofNat (identifier / 256),UInt8.ofNat identifier].length ≠ 2) := by
    simp [hknown]
  rw [hcommand]
  unfold makeCheckedIsoCommand
  dsimp only
  rw [if_neg (by decide),if_pos rfl,if_neg hp2',if_neg hname,if_neg hshape,hfile,hanswer]
  exact congrArg (Command.selectFile · selection response encoding) hvalue

theorem selectDfName_reparsed {name : Bytes} {response : SelectionResponse} {encoding : Raw.LengthEncoding}
    (h : Command.selectDfName name response encoding = .ok command) :
    makeCheckedIsoCommand command.apdu = Command.selectDfName name response encoding := by
  obtain ⟨hguard,hcommand⟩ := Checked.make_of_guarded h
  simp only [not_or,Nat.not_lt,Bool.not_eq_false] at hguard
  obtain ⟨hanswer,hp2⟩ := selectionResponse_byte hguard.2.2
  have hp2' : ¬(response.byte ≠ 0x00 ∧ response.byte ≠ 0x0C) := by
    rintro ⟨hfirst,hsecond⟩
    exact hp2.elim hfirst hsecond
  rw [hcommand]
  unfold makeCheckedIsoCommand
  dsimp only
  rw [if_neg (by decide),if_pos rfl,if_neg hp2',if_pos rfl,hanswer]

theorem readRecords_reparsed {record shortIdentifier expected : Nat} {selection : RecordSelection}
    {encoding : Raw.LengthEncoding}
    (h : Command.readRecords record shortIdentifier selection expected encoding = .ok command) :
    makeCheckedIsoCommand command.apdu = Command.readRecords record shortIdentifier selection expected encoding := by
  obtain ⟨hguard,hcommand⟩ := Checked.make_of_guarded h
  simp only [not_or,Nat.not_lt,Bool.not_eq_false] at hguard
  obtain ⟨hrecord,hidentifier,hselection⟩ := hguard
  obtain ⟨hmode,hbyte⟩ := recordSelection_byte hselection
  obtain ⟨hread,hlow⟩ := recordBits ⟨shortIdentifier,by omega⟩ selection.byte hbyte
  dsimp only at hread hlow
  have hnumber : (UInt8.ofNat record).toNat = record := by
    simp only [UInt8.toNat_ofNat']
    omega
  have hknown : ¬(selection.byte ≠ 0x04 ∧ selection.byte ≠ 0x05) := by
    rintro ⟨hone,hfrom⟩
    simp [hone,hfrom] at hbyte
  rw [hcommand]
  unfold makeCheckedIsoCommand
  dsimp only
  rw [if_neg (by decide),if_neg (by decide),if_neg (by decide),if_neg (by decide),if_pos rfl,hread,hlow,
    if_neg hknown,hnumber,hmode]

theorem appendRecord_reparsed {shortIdentifier : Nat} {data : Bytes} {encoding : Raw.LengthEncoding}
    (h : Command.appendRecord shortIdentifier data encoding = .ok command) :
    makeCheckedIsoCommand command.apdu = Command.appendRecord shortIdentifier data encoding := by
  obtain ⟨hguard,hcommand⟩ := Checked.make_of_guarded h
  simp only [not_or,Nat.not_lt] at hguard
  obtain ⟨hread,hlow⟩ := appendBits ⟨shortIdentifier,by omega⟩
  dsimp only at hread hlow
  have hshape : ¬((none : Option Nat).isSome = true ∨ (0x00 : Byte) ≠ 0x00 ∨
      UInt8.ofNat (shortIdentifier * 8) &&& 0x07 ≠ 0) := by
    rintro (hle | hp1 | hp2)
    · cases hle
    · exact hp1 rfl
    · exact hp2 hlow
  rw [hcommand]
  unfold makeCheckedIsoCommand
  dsimp only
  rw [if_neg (by decide),if_neg (by decide),if_neg (by decide),if_neg (by decide),if_neg (by decide),if_pos rfl,
    if_neg hshape,hread]

theorem updateRecord_reparsed {instruction : Byte} {record shortIdentifier referenceControl : Nat} {data : Bytes}
    (h : Command.updateRecord instruction record shortIdentifier referenceControl data = .ok command) :
    makeCheckedIsoCommand command.apdu =
      Command.updateRecord instruction record shortIdentifier referenceControl data := by
  obtain ⟨hguard,hcommand⟩ := Checked.make_of_guarded h
  simp only [not_or,Nat.not_lt] at hguard
  obtain ⟨hinstruction,hrecord,hidentifier,hcontrol,_,_⟩ := hguard
  have hknown : instruction = 0xDC ∨ instruction = 0xDD := by
    by_contra hother
    exact hinstruction (not_or.mp hother)
  obtain ⟨hread,hlow⟩ := selectorBits ⟨shortIdentifier,by omega⟩ ⟨referenceControl,by omega⟩
  dsimp only at hread hlow
  have hnumber : (UInt8.ofNat record).toNat = record := by
    simp only [UInt8.toNat_ofNat']
    omega
  rw [hcommand]
  unfold makeCheckedIsoCommand
  dsimp only
  rcases hknown with rfl | rfl
  all_goals
    rw [if_neg (by decide),if_neg (by decide),if_neg (by decide),if_neg (by decide),if_neg (by decide),
      if_neg (by decide),if_pos (by decide),if_neg (by decide),hread,hlow,hnumber]

/-- Two commands that differ at most in their address. -/
theorem addressed_eq {instruction : Byte} {data : Bytes} {expected : Option Nat} {encoding : Raw.LengthEncoding}
    (address address' : BinaryAddress) :
    (⟨⟨0x00,instruction,address'.p1,address'.p2,data,expected,encoding⟩⟩ : Command) =
      ⟨⟨0x00,instruction,address.p1,address.p2,data,expected,encoding⟩⟩ ↔ address' = address := by
  obtain ⟨p1,p2⟩ := address
  obtain ⟨p1',p2'⟩ := address'
  simp

theorem readBinary_reparsed {addressing : Addressing} {address : BinaryAddress} {expected : Nat}
    {encoding : Raw.LengthEncoding} (haddress : addressing.address = .ok address)
    (h : Command.readBinary address expected encoding = .ok command) :
    ∃ command', makeCheckedIsoCommand command.apdu = .ok command' ∧ (command' = command ↔ addressing.Aligned) := by
  have hcommand := Checked.make_ok h
  obtain ⟨address',hread,hsame⟩ := binaryAddress_of
    ⟨0x00,0xB0,address.p1,address.p2,[],some expected,encoding⟩ haddress rfl rfl
  have hmade := make_parameters h address'.p1 address'.p2
  refine ⟨⟨⟨0x00,0xB0,address'.p1,address'.p2,[],some expected,encoding⟩⟩,?_,?_⟩
  · rw [hcommand]
    unfold makeCheckedIsoCommand
    dsimp only
    rw [if_neg (by decide),if_neg (by decide),if_pos rfl,hread]
    exact hmade
  · rw [hcommand,← hsame]
    exact addressed_eq address address'

theorem updateBinary_reparsed {addressing : Addressing} {address : BinaryAddress} {data : Bytes}
    {encoding : Raw.LengthEncoding} (haddress : addressing.address = .ok address)
    (h : Command.updateBinary address data encoding = .ok command) :
    ∃ command', makeCheckedIsoCommand command.apdu = .ok command' ∧ (command' = command ↔ addressing.Aligned) := by
  obtain ⟨hdata,hcommand⟩ := Checked.make_of_guarded h
  unfold Command.updateBinary at h
  rw [if_neg hdata] at h
  obtain ⟨address',hread,hsame⟩ := binaryAddress_of
    ⟨0x00,0xD6,address.p1,address.p2,data,none,encoding⟩ haddress rfl rfl
  have hmade := make_parameters h address'.p1 address'.p2
  refine ⟨⟨⟨0x00,0xD6,address'.p1,address'.p2,data,none,encoding⟩⟩,?_,?_⟩
  · rw [hcommand]
    unfold makeCheckedIsoCommand
    dsimp only
    rw [if_neg (by decide),if_neg (by decide),if_neg (by decide),if_pos rfl,if_neg (by decide),hread]
    exact (if_neg hdata).trans hmade
  · rw [hcommand,← hsame]
    exact addressed_eq address address'

/-- Every data command is rebuilt, and as itself unless a short file is read back under another identifier. -/
theorem build_reparsed (form : DataCommand) (h : form.build = .ok command) :
    ∃ command', makeCheckedIsoCommand command.apdu = .ok command' ∧ (command' = command ↔ form.Aligned) := by
  cases form with
  | selectFile => exact reparsed_same trivial h (selectFile_reparsed h)
  | selectDfName => exact reparsed_same trivial h (selectDfName_reparsed h)
  | readRecords => exact reparsed_same trivial h (readRecords_reparsed h)
  | appendRecord => exact reparsed_same trivial h (appendRecord_reparsed h)
  | updateRecord => exact reparsed_same trivial h (updateRecord_reparsed h)
  | readBinary addressing expected encoding =>
    obtain ⟨address,haddress,h⟩ := Reading.bind_eq_ok h
    exact readBinary_reparsed haddress h
  | updateBinary addressing data encoding =>
    obtain ⟨address,haddress,h⟩ := Reading.bind_eq_ok h
    exact updateBinary_reparsed haddress h

/-- The secure exchange refuses a rebuilt command exactly when it came out as another one. -/
theorem secureCommand_mismatched {request : IsoApdu} {apdu : Raw.Apdu} (hlength : request.correctLength = 0)
    (hrequest : makeIsoApdu request = .ok apdu) (hrebuilt : makeCheckedIsoCommand apdu = .ok command) :
    secureCommand true request = .error mismatched ↔ command.apdu ≠ apdu := by
  have hopen : ¬(true = false ∨ request.correctLength ≠ 0) := by simp [hlength]
  unfold secureCommand
  rw [if_neg hopen,hrequest]
  change (makeCheckedIsoCommand apdu >>= _) = _ ↔ _
  rw [hrebuilt]
  change (if command.apdu ≠ apdu then _ else _) = _ ↔ _
  by_cases hsame : command.apdu = apdu
  · rw [if_neg (not_not_intro hsame)]
    refine ⟨fun h => ?_,fun h => absurd hsame h⟩
    split at h
    · injection h with h
      exact absurd h (by decide)
    · cases h
  · rw [if_pos hsame]
    exact ⟨fun _ => hsame,fun _ => rfl⟩

end Reparsed

section Described

def encodingValue : Raw.LengthEncoding → UInt32
  | .automatic => 0
  | .shortApdu => 1
  | .extended => 2
  | .other value => UInt32.ofNat value

/-- The descriptor that asks for a command. -/
def describe (apdu : Raw.Apdu) : IsoApdu where
  structSize := isoApduSize
  abiVersion := abiVersion
  cla := apdu.cla.toUInt32
  ins := apdu.ins.toUInt32
  p1 := apdu.p1.toUInt32
  p2 := apdu.p2.toUInt32
  data := some apdu.data
  dataSize := apdu.data.length
  hasLe := if apdu.le.isSome then 1 else 0
  le := UInt32.ofNat (apdu.le.getD 0)
  lengthEncoding := encodingValue apdu.encoding
  correctLength := 0
  maximumResponse := 65536
  maximumFrames := 1024
  reserved := List.replicate 8 0

theorem encodingValue_known {encoding : Raw.LengthEncoding} (h : encoding.known = true) :
    lengthEncoding (encodingValue encoding) = encoding ∧ ¬isoLengthExtended < encodingValue encoding := by
  cases encoding with
  | automatic => decide
  | shortApdu => decide
  | extended => decide
  | other value => cases h

theorem byte_within (byte : Byte) : ¬0xFF < byte.toUInt32 := by
  have hbyte := byte.toNat_lt
  rw [UInt32.lt_iff_toNat_lt,UInt8.toNat_toUInt32]
  change ¬255 < byte.toNat
  omega

/-- Whatever can be encoded can be asked for. -/
theorem makeIsoApdu_describe {apdu : Raw.Apdu} {wire : Bytes} (h : Raw.encode apdu = .ok wire) :
    makeIsoApdu (describe apdu) = .ok apdu := by
  unfold Raw.encode at h
  by_cases hguard : apdu.encoding.known = false ∨ Raw.maximumCommandData < apdu.data.length ∨
      ∃ le ∈ apdu.le, le = 0 ∨ Raw.maximumExpectedData < le
  · rw [if_pos hguard] at h
    cases h
  simp only [not_or,not_exists,not_and,Bool.not_eq_false,Nat.not_lt,Raw.maximumCommandData,
    Raw.maximumExpectedData] at hguard
  obtain ⟨hknown,hdata,hle⟩ := hguard
  obtain ⟨hencoding,hextended⟩ := encodingValue_known hknown
  have hlength : ¬((describe apdu).hasLe ≠ 0 ∧ ((describe apdu).le = 0 ∨ 65536 < (describe apdu).le)) := by
    rintro ⟨hasLe,hbad⟩
    cases hvalue : apdu.le with
    | none => simp [describe,hvalue] at hasLe
    | some le =>
      obtain ⟨hpositive,hbounded⟩ := hle le hvalue
      have hnat : (describe apdu).le.toNat = le := by
        simp only [describe,hvalue,Option.getD_some,UInt32.toNat_ofNat']
        omega
      rcases hbad with hzero | hlarge
      · rw [hzero] at hnat
        exact hpositive hnat.symm
      · rw [UInt32.lt_iff_toNat_lt,hnat] at hlarge
        exact absurd hlarge (Nat.not_lt.mpr hbounded)
  have hflag : ¬1 < (describe apdu).hasLe := by
    unfold describe
    dsimp only
    split <;> decide
  have hwords : ¬∃ word ∈ (describe apdu).reserved, word ≠ 0 := by simp [describe]
  have hbytes : bytes (describe apdu).data (describe apdu).dataSize = .ok apdu.data := by
    have hbuffer : ¬(((describe apdu).dataSize ≠ 0 ∧ (describe apdu).data = none) ∨
        maximumBuffer < (describe apdu).dataSize) := by
      rintro (⟨_,hnull⟩ | hlarge)
      · cases hnull
      · have hsize : 16 * 1024 * 1024 < apdu.data.length := hlarge
        omega
    unfold bytes
    rw [if_neg hbuffer]
    simp [describe]
  have hvalue : (if (describe apdu).hasLe ≠ 0 then some (describe apdu).le.toNat else none) = apdu.le := by
    cases hvalue : apdu.le with
    | none => simp [describe,hvalue]
    | some le =>
      have hbounded := (hle le hvalue).2
      simp only [describe,hvalue,Option.isSome_some,if_true,Option.getD_some,UInt32.toNat_ofNat']
      rw [if_pos (by decide)]
      congr 1
      omega
  unfold makeIsoApdu
  rw [if_neg ?_,hbytes,hvalue]
  · simp [describe,hencoding]
    rfl
  · simp only [not_or]
    exact ⟨not_not_intro rfl,not_not_intro rfl,byte_within _,byte_within _,byte_within _,byte_within _,
      Nat.not_lt.mpr hdata,hflag,hlength,hextended,(by decide : ¬1 < (0 : UInt32)),(by decide : ¬65536 = 0),
      (by decide : ¬1024 = 0),hwords⟩

/-- Everything that the checked builders accept can be encoded. -/
theorem build_encoded {command : Command} (form : DataCommand) (h : form.build = .ok command) :
    ∃ wire, Raw.encode command.apdu = .ok wire := by
  have hmade {instruction p1 p2 : Byte} {data : Bytes} {expected : Option Nat} {encoding : Raw.LengthEncoding}
      (h : Command.make instruction p1 p2 data expected encoding = .ok command) :
      ∃ wire, Raw.encode command.apdu = .ok wire := by
    rw [Checked.make_ok h]
    exact make_encoded h
  have hguarded {c : Prop} [Decidable c] {e : Error} {r : Result Command}
      (h : (if c then .error e else r) = .ok command) : r = .ok command := by
    by_cases hc : c
    · rw [if_pos hc] at h
      cases h
    · rwa [if_neg hc] at h
  cases form with
  | selectFile => exact hmade (hguarded h)
  | selectDfName => exact hmade (hguarded h)
  | readRecords => exact hmade (hguarded h)
  | appendRecord => exact hmade (hguarded h)
  | updateRecord => exact hmade (hguarded h)
  | readBinary addressing =>
    obtain ⟨address,haddress,h⟩ := Reading.bind_eq_ok h
    exact hmade h
  | updateBinary addressing =>
    obtain ⟨address,haddress,h⟩ := Reading.bind_eq_ok h
    exact hmade (hguarded h)

end Described

/-- A checked data command is its own checked form, and the secure exchange accepts it as such, exactly
when no short file is addressed under an identifier other than eighteen. -/
theorem reparse_exact (form : DataCommand) (command : Command) (h : form.build = .ok command) :
    (makeCheckedIsoCommand command.apdu = .ok command ↔ form.Aligned) ∧
    makeIsoApdu (describe command.apdu) = .ok command.apdu ∧
    ∀ request, request.correctLength = 0 → makeIsoApdu request = .ok command.apdu →
      (secureCommand true request = .error mismatched ↔ ¬form.Aligned) := by
  obtain ⟨command',hrebuilt,hsame⟩ := build_reparsed form h
  obtain ⟨wire,hwire⟩ := build_encoded form h
  refine ⟨?_,makeIsoApdu_describe hwire,?_⟩
  · rw [hrebuilt,Except.ok.injEq]
    exact hsame
  · intro request hlength hrequest
    rw [secureCommand_mismatched hlength hrequest hrebuilt,← hsame]
    obtain ⟨apdu⟩ := command
    obtain ⟨apdu'⟩ := command'
    simp

/-- READ BINARY of one byte from the short file one, and the descriptor that asks for it. -/
def readShortFile : DataCommand := .readBinary (.shortFile 1 0) 1 .automatic

def shortFileApdu : Raw.Apdu := ⟨0x00,0xB0,0x81,0x00,[],some 1,.automatic⟩

def shortFileRequest : IsoApdu :=
  ⟨isoApduSize,abiVersion,0x00,0xB0,0x81,0x00,none,0,1,1,0,0,256,1,List.replicate 8 0⟩

theorem reparse_exact_short : makeCheckedIsoCommand shortFileApdu ≠ .ok ⟨shortFileApdu⟩ ∧
    secureCommand true shortFileRequest = .error mismatched := by
  have hmisaligned : ¬readShortFile.Aligned := by
    intro haligned
    have hidentifier : (1 : Nat) = 18 := haligned
    omega
  obtain ⟨hreparsed,_,hrefused⟩ := reparse_exact readShortFile ⟨shortFileApdu⟩ rfl
  refine ⟨fun h => hmisaligned (hreparsed.mp h),?_⟩
  exact (hrefused shortFileRequest rfl rfl).mpr hmisaligned

/-- It comes out as a command for the short file sixteen, and is refused. -/
theorem short_file_refused : readShortFile.build = .ok ⟨shortFileApdu⟩ ∧
    makeIsoApdu shortFileRequest = .ok shortFileApdu ∧
    makeCheckedIsoCommand shortFileApdu = .ok ⟨{shortFileApdu with p1 := 0x90}⟩ ∧
    secureCommand true shortFileRequest = .error mismatched :=
  ⟨rfl,rfl,rfl,rfl⟩

end DesfireSdk.CApi
