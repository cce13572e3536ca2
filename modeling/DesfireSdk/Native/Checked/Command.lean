import DesfireSdk.Model.Settings

/-! Checked native commands and the helpers their builders share. -/
namespace DesfireSdk.Native.Checked
open Model

/-- A validated native command; `valid` is lost when the command is moved from. -/
structure Command where
  opcode : Byte
  header : Bytes := []
  data : Bytes := []
  requestMode : CommunicationMode := .mac
  responseMode : CommunicationMode := .mac
  minimumResponse : Nat := 0
  maximumResponse : Nat := 0
  requiresAuthentication : Bool := false
  requiresEv2Session : Bool := false
  requiresPiccSelection : Bool := false
  requiresSingleContinuationFrame : Bool := false
  invalidatesSession : Bool := false
  currentAuthenticatedKey : Option Byte := none
  allowedAuthenticatedKeys : UInt64 := 0
  firstFramePayloadSize : Option Nat := none
  valid : Bool := true
  deriving DecidableEq

namespace Command

def restrictsAuthenticatedKey (command : Command) : Bool := command.allowedAuthenticatedKeys != 0

def acceptsAuthenticatedKey (command : Command) (key : Byte) : Bool :=
  command.allowedAuthenticatedKeys == 0 ||
    (key < 64 && command.allowedAuthenticatedKeys &&& (1 <<< key.toUInt64) != 0)

end Command

def maximumThreeByte : Nat := 0x00FFFFFF
def maximumLogicalResponse : Nat := 16 * 1024 * 1024

def malformed (message : String) : Error := ⟨.malformedResponse,message,.unknown,0⟩

def validMode (mode : CommunicationMode) : Bool := mode.known

def validAccess (access : AccessRights) : Bool :=
  access.readWrite ≤ 15 && access.change ≤ 15 && access.read ≤ 15 && access.write ≤ 15

def accessBytes (access : AccessRights) : Bytes :=
  [access.readWrite <<< 4 ||| access.change,access.read <<< 4 ||| access.write]

def readAccess (input : Bytes) : AccessRights where
  readWrite := byteAt input 0 >>> 4
  change := byteAt input 0 &&& 15
  read := byteAt input 1 >>> 4
  write := byteAt input 1 &&& 15

def management (opcode : Byte) (header : Bytes := []) (minimum : Nat := 0) (maximum : Nat := 0) :
    Command :=
  {opcode,header,minimumResponse := minimum,maximumResponse := maximum}

def fileCommand (opcode : Byte) (header data : Bytes) (mode : CommunicationMode) (reading : Bool)
    (minimum : Nat := 0) (maximum : Nat := 0) : Result Command :=
  if validMode mode = false then .error (invalid "Invalid EV3 communication mode")
  else .ok {management opcode header minimum maximum with
    data
    requiresAuthentication := mode != .plain
    requestMode := if mode = .full ∧ reading then .mac else mode
    responseMode := if mode = .full ∧ ¬reading then .mac else mode }

def configuration (selector : Byte) (data : Bytes) : Command :=
  {management 0x5C [selector] with requestMode := .full,requiresAuthentication := true,data}

def fileCreationPrefix (file : FileNumber) (isoId : Option UInt16) : Bytes :=
  UInt8.ofNat file.value :: (match isoId with
    | some identifier => putLe identifier.toNat 2
    | none => [])

def rangeHeader (file : FileNumber) (offset : Offset) (length : Nat) : Bytes :=
  UInt8.ofNat file.value :: (putLe offset.value 3 ++ putLe length 3)

def validRange (offset : Offset) (length : Nat) : Bool :=
  length ≤ maximumThreeByte && length ≤ maximumThreeByte - offset.value

def applicationTail (settings : ApplicationConfiguration) : Result Bytes :=
  if settings.id.value = 0 ∨ settings.numberOfKeys < 1 ∨ 14 < settings.numberOfKeys ∨
      16 < settings.dfName.length ∨ (settings.dfName ≠ [] ∧ settings.isoId = none) then
    .error (invalid "Invalid EV3 application ID, key count, or ISO directory name")
  else
    let third := settings.keySettings3.getD 0
    if third &&& 0xE8 ≠ 0 ∨ (third &&& 1 ≠ 0 ∧ settings.keySets = none) then
      .error (invalid "Invalid EV3 third key settings or missing key-set configuration")
    else if ∃ sets ∈ settings.keySets,
        sets.numberOfSets < 2 ∨ 16 < sets.numberOfSets ∨ sets.maximumKeySize ≠ 16 then
      .error (invalid "AES application key sets require 2..16 sets and 16-byte keys")
    else
      let hasThird := settings.keySettings3.isSome || settings.keySets.isSome
      .ok ([settings.keySettings,
          0x80 ||| settings.numberOfKeys ||| (if settings.isoFileIdentifiers then 0x20 else 0) |||
            (if hasThird then 0x10 else 0)] ++
        (if hasThird then [third ||| (if settings.keySets.isSome then 1 else 0)] else []) ++
        (match settings.keySets with
          | some sets => [sets.activeVersion,sets.numberOfSets,sets.maximumKeySize,sets.settings]
          | none => []) ++
        (match settings.isoId with
          | some identifier => putLe identifier.toNat 2
          | none => []) ++ settings.dfName)

def valueChange (opcode : Byte) (file : FileNumber) (amount : UInt32) (mode : CommunicationMode) :
    Result Command :=
  if 2^31 - 1 < amount.toNat then
    .error (invalid "EV3 value operation amount exceeds signed 32-bit range")
  else fileCommand opcode [UInt8.ofNat file.value] (putLe amount.toNat 4) mode false

def fixedResponse (length : Nat) (payload : Bytes) : Result Bytes :=
  if payload.length ≠ length then .error (malformed "EV3 fixed response has an unexpected length")
  else .ok payload

end DesfireSdk.Native.Checked
