import DesfireSdk.Model.Communication
import DesfireSdk.Native.Raw.Channel
import DesfireSdk.Security.Ev2.Session
import DesfireSdk.Security.StandardAes.Session

/-! Native secure messaging around exactly one checked logical command. -/
namespace DesfireSdk.Native.Secure
open Interaction Model

/-- What the secure channel uses of either native session family. -/
class SecureSession (σ : Type) where
  preparePlain : Byte → Bytes → Bytes → Op σ Bytes
  prepareMac : Byte → Bytes → Bytes → Op σ Bytes
  prepareFull : Byte → Bytes → Bytes → Op σ Bytes
  acceptPlainResponse : Raw.Response → Op σ Bytes
  verifyResponse : Raw.Response → Op σ Bytes
  verifyAndDecryptFullResponse : Raw.Response → Option Nat → Op σ Bytes
  invalidate : σ → σ

instance : SecureSession Security.Ev2.Session where
  preparePlain := Security.Ev2.Session.preparePlain
  prepareMac := Security.Ev2.Session.prepareMac
  prepareFull := Security.Ev2.Session.prepareFull
  acceptPlainResponse := Security.Ev2.Session.acceptPlainResponse
  verifyResponse := Security.Ev2.Session.verifyResponse
  verifyAndDecryptFullResponse := Security.Ev2.Session.verifyAndDecryptFullResponse
  invalidate := Security.Ev2.Session.invalidate

instance : SecureSession Security.StandardAes.Session where
  preparePlain := Security.StandardAes.Session.preparePlain
  prepareMac := Security.StandardAes.Session.prepareMac
  prepareFull := Security.StandardAes.Session.prepareFull
  acceptPlainResponse := Security.StandardAes.Session.acceptPlainResponse
  verifyResponse := Security.StandardAes.Session.verifyResponse
  verifyAndDecryptFullResponse := Security.StandardAes.Session.verifyAndDecryptFullResponse
  invalidate := Security.StandardAes.Session.invalidate

/-- One command's checked fields for secure execution. -/
structure Request where
  command : Byte
  header : Bytes := []
  data : Bytes := []
  requestMode : CommunicationMode := .mac
  responseMode : CommunicationMode := .mac
  minimumResponse : Nat := 0
  maximumResponse : Nat := 0
  firstFrameDataSize : Option Nat := none
  singleContinuationFrame : Bool := false
  invalidatesSession : Bool := false
  deriving DecidableEq, Repr

def maximumLogicalResponse : Nat := 16 * 1024 * 1024
def responseProtectionOverhead : Nat := 32

def validate (request : Request) : Result Unit :=
  if request.maximumResponse < request.minimumResponse ∨
      maximumLogicalResponse < request.maximumResponse then
    .error (invalid "Invalid secure native response bounds")
  else if request.requestMode.known = false then
    .error (invalid "Invalid native request communication mode")
  else if request.responseMode.known = false then
    .error (invalid "Invalid native response communication mode")
  else .ok ()

def rejected (status : Byte) : Error :=
  ⟨.cardRejected,"Native command was rejected by card",.rejected,status.toUInt16⟩

def clearPayload (request : Request) : Bytes := request.header ++ request.data

/-- Keeps an allowance so that unexpected data reaches the checked clear-length boundary. -/
def rawRequest (request : Request) (wireData : Bytes) : Raw.Request where
  command := request.command
  data := wireData
  maximumResponse := request.maximumResponse + responseProtectionOverhead
  firstFrameDataSize := request.firstFrameDataSize
  singleContinuationFrame := request.singleContinuationFrame

def checkResponseSize (response : Bytes) (request : Request) : Result Bytes :=
  if response.length < request.minimumResponse ∨ request.maximumResponse < response.length then
    .error ⟨.malformedResponse,"Native response violates checked command length",.unknown,0⟩
  else .ok response

section Protected
variable {σ : Type} [SecureSession σ]

def prepare (request : Request) : Op σ Bytes :=
  match request.requestMode with
  | .plain => SecureSession.preparePlain request.command request.header request.data
  | .mac => SecureSession.prepareMac request.command request.header request.data
  | _ => SecureSession.prepareFull request.command request.header request.data

/-- The exact clear size when the request fixes it. -/
def expectedSize (request : Request) : Option Nat :=
  if request.minimumResponse = request.maximumResponse then some request.maximumResponse else none

def accept (request : Request) (response : Raw.Response) : Op σ Bytes :=
  match request.responseMode with
  | .plain =>
    if request.invalidatesSession then pure response.data
    else SecureSession.acceptPlainResponse response
  | .mac => SecureSession.verifyResponse response
  | _ => SecureSession.verifyAndDecryptFullResponse response (expectedSize request)

/-- Protects, exchanges and verifies one command under a borrowed session. -/
def exchangeProtected (rawChannel : Raw.RawNativeChannel) (request : Request)
    (options : ExchangeOptions) : Op σ Bytes := do
  let invalidated := fun (_ : Error) => SecureSession.invalidate (σ := σ)
  Op.ofResult (validate request)
  let transaction ← rawChannel.begin options
  let prepared ← Op.onError invalidated (prepare request)
  let response ← Op.onError invalidated
    (Program.within transaction (Raw.Transaction.exchange (rawRequest request prepared)))
  Op.refuseAfter SecureSession.invalidate (response.status ≠ 0x00) (rejected response.status)
  let clear ← Op.onError invalidated (accept request response)
  let checked ← Op.onError invalidated (Op.ofResult (checkResponseSize clear request))
  Program.modify fun s => if request.invalidatesSession then SecureSession.invalidate s else s
  pure checked

end Protected

/-- Executes a checked command without native authentication. -/
def exchangeUnprotected {τ : Type} (rawChannel : Raw.RawNativeChannel) (request : Request)
    (options : ExchangeOptions) : Op τ Bytes := do
  Op.ofResult (validate request)
  let response ← rawChannel.exchange (rawRequest request (clearPayload request)) options
  Op.refuse (response.status ≠ 0x00) (rejected response.status)
  Op.ofResult (checkResponseSize response.data request)

end DesfireSdk.Native.Secure
