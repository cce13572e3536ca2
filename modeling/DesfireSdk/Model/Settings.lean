import DesfireSdk.Model.Authentication
import DesfireSdk.Model.Communication

/-! Application, key and file settings, as configured by a caller and as reported by a card. -/
namespace DesfireSdk.Model

structure KeySetConfiguration where
  activeVersion : Byte := 0
  numberOfSets : Byte := 2
  maximumKeySize : Byte := 16
  settings : Byte := 0
  deriving DecidableEq

structure ApplicationConfiguration where
  id : ApplicationId
  keySettings : Byte := 0x0F
  numberOfKeys : Byte := 1
  isoFileIdentifiers : Bool := false
  keySettings3 : Option Byte := none
  keySets : Option KeySetConfiguration := none
  isoId : Option UInt16 := none
  dfName : Bytes := []
  deriving DecidableEq

structure DelegatedApplicationConfiguration where
  application : ApplicationConfiguration
  slot : UInt16 := 0
  slotVersion : Byte := 0
  quotaLimit : UInt16 := 0
  deriving DecidableEq

structure KeySettings where
  settings : Byte
  keyTypeAndCount : Byte
  keySetDetails : Option Bytes
  deriving DecidableEq

/-- Four access selectors: keys 0..13, free access 14, or denied 15. -/
structure AccessRights where
  readWrite : Byte := 15
  change : Byte := 15
  read : Byte := 15
  write : Byte := 15
  deriving DecidableEq

inductive FileType
  | standardData | backupData | value | linearRecord | cyclicRecord | transactionMac
  deriving DecidableEq, Repr

/-- The documented file types and their wire values. -/
def FileType.ofByte : Byte → Option FileType
  | 0 => some standardData
  | 1 => some backupData
  | 2 => some value
  | 3 => some linearRecord
  | 4 => some cyclicRecord
  | 5 => some transactionMac
  | _ => none

/-- The wire value of a file type. -/
def FileType.byte : FileType → Byte
  | standardData => 0
  | backupData => 1
  | value => 2
  | linearRecord => 3
  | cyclicRecord => 4
  | transactionMac => 5

@[simp] theorem FileType.ofByte_byte (type : FileType) : ofByte type.byte = some type := by
  cases type <;> rfl

theorem FileType.byte_of_ofByte {value : Byte} {type : FileType} (h : ofByte value = some type) :
    type.byte = value := by
  unfold ofByte at h
  split at h <;> cases h <;> rfl

structure DataFileConfiguration where
  file : FileNumber
  size : ByteCount
  communication : CommunicationMode := .plain
  access : AccessRights := {}
  isoId : Option UInt16 := none
  backup : Bool := false
  additionalAccessRights : Bool := false
  deriving DecidableEq

structure ValueFileConfiguration where
  file : FileNumber
  lowerLimit : Int32 := 0
  upperLimit : Int32 := 0
  initialValue : Int32 := 0
  communication : CommunicationMode := .full
  access : AccessRights := {}
  limitedCreditEnabled : Bool := false
  freeGetValue : Bool := false
  additionalAccessRights : Bool := false
  deriving DecidableEq

structure RecordFileConfiguration where
  file : FileNumber
  recordSize : ByteCount
  maximumRecords : ByteCount
  communication : CommunicationMode := .plain
  access : AccessRights := {}
  isoId : Option UInt16 := none
  cyclic : Bool := false
  additionalAccessRights : Bool := false
  deriving DecidableEq

/-- The fields that depend on the type of a file. -/
inductive FileDetails
  | data (size : Nat)
  | value (lowerLimit upperLimit limitedCreditValue : Int32) (limitedCreditEnabled freeGetValue : Bool)
  | record (recordSize maximumRecords currentRecords : Nat)
  | transactionMac (keyOption keyVersion : Byte)
  deriving DecidableEq

structure FileSettings where
  type : FileType
  communication : CommunicationMode
  options : Byte
  access : AccessRights
  details : FileDetails
  additionalAccess : List AccessRights := []
  transactionCounterLimit : Option Nat := none
  deriving DecidableEq

structure FileSettingsChange where
  file : FileNumber
  communication : CommunicationMode := .plain
  access : AccessRights := {}
  additionalAccess : List AccessRights := []
  transactionCounterLimit : Option UInt32 := none
  commandCommunication : CommunicationMode := .full
  deriving DecidableEq

structure PiccConfiguration where
  disableFormat : Bool := false
  randomIdentifier : Bool := false
  proximityCheckMandatory : Bool := false
  virtualCardAuthenticationMandatory : Bool := false
  errorCodeBinding : Bool := false
  randomIdentifierConfiguration : Bool := false
  fourByteNuidConfiguration : Bool := false
  deriving DecidableEq

structure CapabilityConfiguration where
  data : Bytes
  exact : data.length = 9
  deriving DecidableEq

/-- One seven-byte hardware or software descriptor. -/
structure VersionPart where
  vendor : Byte
  type : Byte
  subtype : Byte
  major : Byte
  minor : Byte
  storage : Byte
  protocol : Byte
  deriving DecidableEq

structure VersionInfo where
  hardware : VersionPart
  software : VersionPart
  uid : Bytes
  batch : Bytes
  productionWeek : Byte
  productionYear : Byte
  deriving DecidableEq

/-- The byte at a position of a payload that holds it. -/
def byteAt (payload : Bytes) (index : Nat) : Byte := payload.getD index 0

def decodePart (bytes : Bytes) : VersionPart :=
  ⟨byteAt bytes 0,byteAt bytes 1,byteAt bytes 2,byteAt bytes 3,byteAt bytes 4,byteAt bytes 5,byteAt bytes 6⟩

def parseVersion (payload : Bytes) : Result VersionInfo :=
  if payload.length ≠ 28 then
    .error ⟨.malformedResponse,"GetVersion response must contain exactly 28 bytes",.unknown,0⟩
  else .ok {
    hardware := decodePart (payload.take 7)
    software := decodePart ((payload.drop 7).take 7)
    uid := (payload.drop 14).take 7
    batch := (payload.drop 21).take 5
    productionWeek := byteAt payload 26
    productionYear := byteAt payload 27 }

end DesfireSdk.Model
