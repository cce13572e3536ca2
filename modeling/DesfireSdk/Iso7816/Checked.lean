import DesfireSdk.Iso7816.Raw

/-! Checked ISO commands and their semantic classification. -/
namespace DesfireSdk.Iso7816.Checked
open Interaction
open Raw (LengthEncoding)

inductive FileSelection
  | byIdentifier | childDf | elementaryFile
  | other (value : Byte)
  deriving DecidableEq, Repr

def FileSelection.byte : FileSelection → Byte
  | byIdentifier => 0x00
  | childDf => 0x01
  | elementaryFile => 0x02
  | other value => value

def FileSelection.known : FileSelection → Bool
  | other _ => false
  | _ => true

inductive SelectionResponse
  | fci | none
  | other (value : Byte)
  deriving DecidableEq, Repr

def SelectionResponse.byte : SelectionResponse → Byte
  | fci => 0x00
  | none => 0x0C
  | other value => value

def validSelectionResponse : SelectionResponse → Bool
  | .other _ => false
  | _ => true

inductive RecordSelection
  | one | fromRecord
  | other (value : Byte)
  deriving DecidableEq, Repr

def RecordSelection.byte : RecordSelection → Byte
  | one => 0x04
  | fromRecord => 0x05
  | other value => value

def RecordSelection.known : RecordSelection → Bool
  | other _ => false
  | _ => true

inductive Algorithm
  | context | tdes2 | tdes3 | aes128
  | other (value : Byte)
  deriving DecidableEq, Repr

def Algorithm.byte : Algorithm → Byte
  | context => 0x00
  | tdes2 => 0x02
  | tdes3 => 0x04
  | aes128 => 0x09
  | other value => value

def validAlgorithmLength (algorithm : Algorithm) (challengeLength : Nat) : Bool :=
  match algorithm with
  | .context => challengeLength == 8 || challengeLength == 16
  | .tdes2 => challengeLength == 8
  | .tdes3 | .aes128 => challengeLength == 16
  | .other _ => false

structure BinaryAddress where
  p1 : Byte
  p2 : Byte
  deriving DecidableEq, Repr

def BinaryAddress.currentFile (offset : Nat) : Result BinaryAddress :=
  if 0x7FFF < offset then .error (invalid "ISO current-file offset exceeds fifteen bits")
  else .ok ⟨UInt8.ofNat (offset / 256),UInt8.ofNat offset⟩

def BinaryAddress.shortFile (identifier offset : Nat) : Result BinaryAddress :=
  if 31 < identifier ∨ 255 < offset then
    .error (invalid "ISO short-file identifier or byte offset exceeds its field")
  else .ok ⟨UInt8.ofNat (0x80 ||| identifier),UInt8.ofNat offset⟩

/-- The PICC master key or an application key below fourteen. -/
inductive KeyReference
  | piccMaster
  | application (number : Fin 14)
  deriving DecidableEq, Repr

def KeyReference.value : KeyReference → Byte
  | piccMaster => 0
  | application number => UInt8.ofNat (0x80 ||| number.val)

def KeyReference.makeApplication (number : Nat) : Result KeyReference :=
  if h : number < 14 then .ok (application ⟨number,h⟩)
  else .error (invalid "ISO application key number must be zero through thirteen")

/-- A command whose fields an encoding accepted; moving it away empties its data. -/
structure Command where
  apdu : Raw.Apdu
  deriving DecidableEq, Repr

namespace Command

def instruction (command : Command) : Byte := command.apdu.ins

def make (instruction p1 p2 : Byte) (data : Bytes) (expected : Option Nat)
    (encoding : LengthEncoding) : Result Command := do
  let apdu : Raw.Apdu := ⟨0x00,instruction,p1,p2,data,expected,encoding⟩
  let _ ← Raw.encode apdu
  .ok ⟨apdu⟩

def selectionLength (response : SelectionResponse) (encoding : LengthEncoding) : Option Nat :=
  if response = .fci then some (if encoding = .extended then 65536 else 256) else none

def selectFile (identifier : Nat) (selection : FileSelection) (response : SelectionResponse)
    (encoding : LengthEncoding) : Result Command :=
  if 65535 < identifier ∨ validSelectionResponse response = false ∨ selection.known = false then
    .error (invalid "ISO file selection has an invalid identifier or selector")
  else make 0xA4 selection.byte response.byte [UInt8.ofNat (identifier / 256),UInt8.ofNat identifier]
    (selectionLength response encoding) encoding

def selectDfName (name : Bytes) (response : SelectionResponse) (encoding : LengthEncoding) :
    Result Command :=
  if name = [] ∨ 16 < name.length ∨ validSelectionResponse response = false then
    .error (invalid "ISO DF name must contain one through sixteen bytes")
  else make 0xA4 0x04 response.byte name (selectionLength response encoding) encoding

def readBinary (address : BinaryAddress) (expected : Nat) (encoding : LengthEncoding) : Result Command :=
  make 0xB0 address.p1 address.p2 [] (some expected) encoding

def updateBinary (address : BinaryAddress) (data : Bytes) (encoding : LengthEncoding) : Result Command :=
  if data = [] then .error (invalid "ISO UPDATE BINARY requires nonempty data")
  else make 0xD6 address.p1 address.p2 data none encoding

def readRecords (record shortIdentifier : Nat) (selection : RecordSelection) (expected : Nat)
    (encoding : LengthEncoding) : Result Command :=
  if 255 < record ∨ 31 < shortIdentifier ∨ selection.known = false then
    .error (invalid "ISO record selection exceeds its field or uses an invalid mode")
  else make 0xB2 (UInt8.ofNat record) (UInt8.ofNat (shortIdentifier * 8) ||| selection.byte) []
    (some expected) encoding

def appendRecord (shortIdentifier : Nat) (data : Bytes) (encoding : LengthEncoding) : Result Command :=
  if 31 < shortIdentifier ∨ data = [] then
    .error (invalid "ISO APPEND RECORD requires a five-bit identifier and nonempty data")
  else make 0xE2 0x00 (UInt8.ofNat (shortIdentifier * 8)) data none encoding

def updateRecord (instruction : Byte) (record shortIdentifier referenceControl : Nat) (data : Bytes) :
    Result Command :=
  if (instruction ≠ 0xDC ∧ instruction ≠ 0xDD) ∨ 255 < record ∨ 31 < shortIdentifier ∨
      7 < referenceControl ∨ data = [] ∨ 255 < data.length then
    .error (invalid "ISO UPDATE RECORD has an invalid instruction, selector, or length")
  else make instruction (UInt8.ofNat record) (UInt8.ofNat (shortIdentifier * 8 ||| referenceControl))
    data none .shortApdu

def getChallenge (expected : Nat) (encoding : LengthEncoding) : Result Command :=
  if expected ≠ 8 ∧ expected ≠ 16 then
    .error (invalid "ISO GET CHALLENGE requires eight or sixteen bytes")
  else make 0x84 0x00 0x00 [] (some expected) encoding

def externalAuthenticate (algorithm : Algorithm) (key : KeyReference) (cryptogram : Bytes)
    (encoding : LengthEncoding) : Result Command :=
  if cryptogram.length % 2 ≠ 0 ∨ validAlgorithmLength algorithm (cryptogram.length / 2) = false then
    .error (invalid "ISO external authentication cryptogram length does not match its algorithm")
  else make 0x82 algorithm.byte key.value cryptogram none encoding

def internalAuthenticate (algorithm : Algorithm) (key : KeyReference) (challenge : Bytes)
    (encoding : LengthEncoding) : Result Command :=
  if validAlgorithmLength algorithm challenge.length = false then
    .error (invalid "ISO internal authentication challenge length does not match its algorithm")
  else make 0x88 algorithm.byte key.value challenge (some (challenge.length * 2)) encoding

def isRead (command : Command) : Bool := command.instruction == 0xB0 || command.instruction == 0xB2

def isWrite (command : Command) : Bool :=
  command.instruction == 0xD6 || command.instruction == 0xDC || command.instruction == 0xDD ||
    command.instruction == 0xE2

def isSelection (command : Command) : Bool := command.instruction == 0xA4

def resetsAuthentication (command : Command) : Bool :=
  (command.isSelection && command.apdu.p1 != 0x02) || command.instruction == 0x84 ||
    command.instruction == 0x82 || command.instruction == 0x88

end Command

structure Response where
  status : UInt16
  data : Bytes
  deriving DecidableEq, Repr

def Response.success (response : Response) : Bool := response.status == 0x9000

structure Limits where
  maxResponse : Nat := 65536
  maxFrames : Nat := 1024
  correctReadLength : Bool := true
  deriving DecidableEq, Repr

namespace Channel

def exchange {τ : Type} (command : Command) (options : ExchangeOptions) (limits : Limits := {}) :
    Op τ Response := do
  Op.refuse ((command.isSelection ∨ command.isWrite ∨ command.instruction = 0x82 ∨
      command.instruction = 0x88) ∧ command.apdu.data = [])
    (invalid "ISO checked command no longer owns its required payload")
  let response ← Raw.Channel.exchange command.apdu options
    ⟨limits.maxResponse,limits.maxFrames,limits.correctReadLength && command.isRead⟩
  pure ⟨response.status,response.data⟩

end Channel
end DesfireSdk.Iso7816.Checked
