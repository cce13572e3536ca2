import DesfireSdk.Interaction.Padding
import DesfireSdk.Foundation.Delivery
import DesfireSdk.Native.Raw.Codec

/-! Counter-based EV2 secure messaging. -/
namespace DesfireSdk.Security.Ev2
open Interaction

def aesBlockSize : Nat := 16
def transmittedMacSize : Nat := 8
def counterMax : UInt16 := 0xFFFF

/-- Private session keys with the verified public metadata. -/
structure AuthenticationMaterial where
  encryptionKey : Bytes
  macKey : Bytes
  information : Model.AuthenticationInfo
  deriving DecidableEq

inductive Phase
  | ready | awaitingResponse | awaitingPlainResponse | invalid
  deriving DecidableEq, Repr

/-- Session keys of one block each, transaction metadata, and the next command counter. -/
structure Session where
  encryptionKey : Bytes
  macKey : Bytes
  authentication : Model.AuthenticationInfo
  counter : UInt16
  phase : Phase
  encryptionKeySize : encryptionKey.length = aesBlockSize
  macKeySize : macKey.length = aesBlockSize
  deriving DecidableEq

/-- Bytes 1, 3, ..., 15 of a complete CMAC. -/
def oddBytes : Bytes → Bytes
  | _ :: b :: rest => b :: oddBytes rest
  | _ => []

def truncateMac (fullMac : Bytes) : Result Bytes :=
  if fullMac.length ≠ aesBlockSize then .error ⟨.crypto,"EV2 CMAC has an invalid length",.notSent,0⟩
  else .ok (oddBytes fullMac)

def counterBytes (counter : UInt16) : Bytes := [counter.toUInt8,(counter >>> 8).toUInt8]

def padMethod2 (data : Bytes) : Result Bytes :=
  if sizeMax - aesBlockSize < data.length then
    .error (invalid "EV2 Full command data is too large to pad")
  else .ok (Padding.pad 0x00 0x80 aesBlockSize data)

def secretOutput {τ : Type} : Op τ Bytes → Nat → Op τ Bytes :=
  Op.secretOutput "EV2 secure-message primitive returned an invalid length"

def requestLabel : Bytes := [0xA5,0x5A]
def responseLabel : Bytes := [0x5A,0xA5]

/-- The block whose encryption is the IV of one request or response. -/
def ivInput (label transactionIdentifier : Bytes) (counter : UInt16) : Bytes :=
  label ++ transactionIdentifier ++ counterBytes counter ++ zeros 8

namespace Session

def create (material : AuthenticationMaterial) (counter : UInt16) : Result Session :=
  if h : material.encryptionKey.length = aesBlockSize ∧ material.macKey.length = aesBlockSize then
    .ok ⟨material.encryptionKey,material.macKey,material.information,counter,.ready,h.1,h.2⟩
  else .error (DesfireSdk.invalid "EV2 secure session requires AES provider and two 16-byte keys")

/-- Wipes the keys and rejects all future operations. -/
def invalidate (s : Session) : Session where
  encryptionKey := zeros aesBlockSize
  macKey := zeros aesBlockSize
  authentication := s.authentication
  counter := 0
  phase := .invalid
  encryptionKeySize := length_zeros _
  macKeySize := length_zeros _

/-- The counter is reserved and the response awaited. -/
def reserve (phase : Phase) (s : Session) : Session := {s with counter := s.counter + 1,phase}

def resume (s : Session) : Session := {s with phase := .ready}

def notReady : Error := ⟨.sessionInvalid,"EV2 secure session is not ready",.notSent,0⟩

def exhausted : Error :=
  ⟨.counterExhausted,"EV2 command counter exhausted; authenticate before more I/O",.notSent,0⟩

/-- The checks every preparation starts with. -/
def checkReady : Op Session Unit := do
  let s ← Program.get
  Op.refuse (s.phase ≠ .ready) notReady
  Op.refuseAfter invalidate (s.counter = counterMax) exhausted

def preparePlain (_command : Byte) (header data : Bytes) : Op Session Bytes := do
  checkReady
  Op.refuse (sizeMax - data.length < header.length)
    (DesfireSdk.invalid "EV2 Plain command data is too large")
  Program.modify (reserve .awaitingPlainResponse)
  pure (header ++ data)

def acceptPlainResponse (response : Native.Raw.Response) : Op Session Bytes := do
  let s ← Program.get
  Op.refuse (s.phase ≠ .awaitingPlainResponse)
    ⟨.sessionInvalid,"EV2 secure session is not awaiting a Plain response",.notSent,0⟩
  Op.refuseAfter invalidate (response.status = 0xAF)
    ⟨.malformedResponse,"EV2 Plain response is not terminal",.unknown,response.status.toUInt16⟩
  Op.refuseAfter invalidate (response.status ≠ 0x00)
    ⟨.cardRejected,"Card rejected EV2 Plain command",.rejected,response.status.toUInt16⟩
  Program.modify resume
  pure response.data

def macInput (s : Session) (start : Byte) (payload : Bytes) : Bytes :=
  start :: (counterBytes s.counter ++ s.authentication.transactionIdentifier ++ payload)

def prepareMac (command : Byte) (header data : Bytes) : Op Session Bytes := do
  checkReady
  let s ← Program.get
  Op.refuse (sizeMax - transmittedMacSize < data.length ∨
      sizeMax - transmittedMacSize - data.length < header.length)
    (DesfireSdk.invalid "EV2 secure-message MAC input is too large")
  Op.catchAll invalidate ⟨.internal,"EV2 command MAC construction failed",.notSent,0⟩ do
    let fullMac ← Op.onError (fun _ => invalidate)
      (secretOutput (Op.cmac s.macKey (s.macInput command (header ++ data))) aesBlockSize)
    let truncated ← Op.onError (fun _ => invalidate) (Op.ofResult (truncateMac fullMac))
    Program.modify (reserve .awaitingResponse)
    pure (header ++ data ++ truncated)

def prepareFull (command : Byte) (clearHeader clearData : Bytes) : Op Session Bytes := do
  checkReady
  let s ← Program.get
  -- Commands with only a clear header have no encrypted field, even for a Full response.
  if clearData = [] then prepareMac command clearHeader []
  else Op.catchAll invalidate ⟨.internal,"EV2 Full command protection failed",.notSent,0⟩ do
    let padded ← Op.ofResult (padMethod2 clearData)
    let iv ← Op.onError (fun _ => invalidate) (secretOutput (Op.cbc s.encryptionKey
      (zeros aesBlockSize) (ivInput requestLabel s.authentication.transactionIdentifier s.counter)
      true) aesBlockSize)
    let ciphertext ← Op.onError (fun _ => invalidate)
      (secretOutput (Op.cbc s.encryptionKey iv padded true) padded.length)
    prepareMac command clearHeader ciphertext

def verifyResponse (response : Native.Raw.Response) : Op Session Bytes := do
  let s ← Program.get
  Op.refuse (s.phase ≠ .awaitingResponse)
    ⟨.sessionInvalid,"EV2 secure session is not awaiting a response",.notSent,0⟩
  Op.refuseAfter invalidate (response.status = 0xAF)
    ⟨.malformedResponse,"EV2 protected response is not terminal",.unknown,response.status.toUInt16⟩
  Op.refuseAfter invalidate (response.status ≠ 0x00)
    ⟨.cardRejected,"Card rejected EV2 protected command",.rejected,response.status.toUInt16⟩
  Op.refuseAfter invalidate (response.data.length < transmittedMacSize)
    ⟨.integrity,"EV2 protected response has no complete MAC",.unknown,0⟩
  Op.catchAll invalidate ⟨.internal,"EV2 response MAC verification failed",.unknown,0⟩ do
    let data := response.data.take (response.data.length - transmittedMacSize)
    let receivedMac := response.data.drop (response.data.length - transmittedMacSize)
    let fullMac ← Op.mapError Error.asUnknown (Op.onError (fun _ => invalidate)
      (secretOutput (Op.cmac s.macKey (s.macInput response.status data)) aesBlockSize))
    let expectedMac ← Op.onError (fun _ => invalidate) (Op.ofResult (truncateMac fullMac))
    Op.refuseAfter invalidate (constantTimeEqual receivedMac expectedMac = false)
      ⟨.integrity,"EV2 protected response MAC verification failed",.unknown,0⟩
    Program.modify resume
    pure data

def verifyAndDecryptFullResponse (response : Native.Raw.Response) (expectedSize : Option Nat) :
    Op Session Bytes := do
  let ciphertext ← verifyResponse response
  let s ← Program.get
  if ciphertext = [] ∧ (expectedSize = none ∨ expectedSize = some 0) then pure []
  else
    Op.refuseAfter invalidate (ciphertext = [] ∨ ciphertext.length % aesBlockSize ≠ 0)
      ⟨.integrity,"EV2 Full response ciphertext must contain whole AES blocks",.unknown,0⟩
    Op.catchAll invalidate ⟨.internal,"EV2 Full response decryption failed",.unknown,0⟩ do
      let iv ← Op.mapError Error.asUnknown (Op.onError (fun _ => invalidate) (secretOutput
        (Op.cbc s.encryptionKey (zeros aesBlockSize)
          (ivInput responseLabel s.authentication.transactionIdentifier s.counter) true) aesBlockSize))
      let padded ← Op.mapError Error.asUnknown (Op.onError (fun _ => invalidate)
        (secretOutput (Op.cbc s.encryptionKey iv ciphertext false) ciphertext.length))
      match Padding.unpad 0x00 0x80 aesBlockSize padded with
      | none => do
        Program.modify invalidate
        Op.reject ⟨.integrity,"EV2 Full response has invalid method-2 padding",.unknown,0⟩
      | some clear => do
        Op.refuseAfter invalidate (∃ size ∈ expectedSize, clear.length ≠ size)
          ⟨.integrity,"EV2 Full response plaintext length differs from the request",.unknown,0⟩
        pure clear

end Session
end DesfireSdk.Security.Ev2
