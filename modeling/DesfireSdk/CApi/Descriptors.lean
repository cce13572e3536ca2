import DesfireSdk.CApi.SecureCommand
import DesfireSdk.Native.Secure.Channel
import DesfireSdk.Security.KeyDerivation

/-! The descriptors of native requests, keys and authentication outputs of C callers. -/
namespace DesfireSdk.CApi
open Interaction

def dfNative : UInt32 := 0
def dfIsoWrapped : UInt32 := 1
def rawSingleContinuation : UInt32 := 0x00000001
def secureProfileStandardAes : UInt32 := 1
def secureProfileEv2 : UInt32 := 2
def optionAbsent : UInt32 := 0xFFFFFFFF

/-- A word that must stay zero is set. -/
def reserves (words : List UInt64) : Prop := ∃ word ∈ words, word ≠ 0

instance (words : List UInt64) : Decidable (reserves words) :=
  inferInstanceAs (Decidable (∃ word ∈ words, word ≠ 0))

/-- The first frame ends after this many bytes, unless the largest size says that it need not. -/
def firstFrameDataSize (size : Nat) : Option Nat := if size = sizeMax then none else some size

section Requests

structure NativeRequest where
  structSize : UInt32
  abiVersion : UInt32
  framing : UInt32
  command : UInt32
  data : Option Bytes
  dataSize : Nat
  maximumResponse : Nat
  firstFrameDataSize : Nat
  flags : UInt32
  reserved32 : UInt32
  reserved : List UInt64
  deriving DecidableEq

def nativeRequestSize : UInt32 := 120

/-- The request of a native exchange; the flag says whether there is a place for the status. -/
def makeNativeRequest (nativeStatus : Bool) (request : Option NativeRequest) : Result Native.Raw.Request :=
  match request with
  | none => .error (invalid "Invalid raw native request descriptor")
  | some request =>
    if request.structSize ≠ nativeRequestSize ∨ request.abiVersion ≠ abiVersion ∨ 0xFF < request.command ∨
        request.maximumResponse = 0 ∨ request.flags &&& ~~~rawSingleContinuation ≠ 0 ∨
        request.reserved32 ≠ 0 ∨ reserves request.reserved ∨ nativeStatus = false then
      .error (invalid "Invalid raw native request descriptor")
    else do
      let payload ← bytes request.data request.dataSize
      .ok {
        command := request.command.toUInt8
        data := payload
        maximumResponse := request.maximumResponse
        firstFrameDataSize := firstFrameDataSize request.firstFrameDataSize
        singleContinuationFrame := request.flags &&& rawSingleContinuation ≠ 0 }

structure NativeSecureRequest where
  structSize : UInt32
  abiVersion : UInt32
  profile : UInt32
  command : UInt32
  header : Option Bytes
  headerSize : Nat
  data : Option Bytes
  dataSize : Nat
  requestCommunication : UInt32
  responseCommunication : UInt32
  minimumResponse : Nat
  maximumResponse : Nat
  firstFrameDataSize : Nat
  flags : UInt32
  invalidatesSession : UInt32
  reserved : List UInt64
  deriving DecidableEq

def nativeSecureRequestSize : UInt32 := 152

def mode (value : UInt32) : Result Model.CommunicationMode :=
  if value ≠ 0 ∧ value ≠ 1 ∧ value ≠ 3 then .error (invalid "Communication must be Plain, MAC, or Full")
  else .ok (Model.CommunicationMode.ofByte value.toUInt8)

def makeNativeSecureRequest (request : Option NativeSecureRequest) :
    Result (NativeSecureRequest × Native.Secure.Request) :=
  match request with
  | none => .error (invalid "Invalid secure-native request descriptor")
  | some request =>
    if request.structSize ≠ nativeSecureRequestSize ∨ request.abiVersion ≠ abiVersion ∨ 0xFF < request.command ∨
        (request.profile ≠ secureProfileStandardAes ∧ request.profile ≠ secureProfileEv2) ∨
        request.maximumResponse < request.minimumResponse ∨ request.flags &&& ~~~rawSingleContinuation ≠ 0 ∨
        1 < request.invalidatesSession ∨ reserves request.reserved then
      .error (invalid "Invalid secure-native request descriptor")
    else do
      let header ← bytes request.header request.headerSize
      let data ← bytes request.data request.dataSize
      let requestMode ← mode request.requestCommunication
      let responseMode ← mode request.responseCommunication
      .ok (request,{
        command := request.command.toUInt8
        header
        data
        requestMode
        responseMode
        minimumResponse := request.minimumResponse
        maximumResponse := request.maximumResponse
        firstFrameDataSize := firstFrameDataSize request.firstFrameDataSize
        singleContinuationFrame := request.flags &&& rawSingleContinuation ≠ 0
        invalidatesSession := request.invalidatesSession ≠ 0 })

end Requests

section Keys

def aes128Key (key : Option Bytes) (length : Nat) : Result Model.Aes128Key := do
  let input ← bytes key length
  Security.KeyDerivation.importKey input

def isoKey (key application : UInt32) : Result Iso7816.Checked.KeyReference :=
  if 1 < application ∨ (application = 0 ∧ key ≠ 0) then .error (invalid "Invalid ISO key scope")
  else if application ≠ 0 then Iso7816.Checked.KeyReference.makeApplication key.toNat
  else .ok .piccMaster

/-- The metadata of one key resolution; absent numbers are the largest ones. -/
structure KeyRequest where
  structSize : UInt32
  abiVersion : UInt32
  purpose : UInt32
  authenticationProfile : UInt32
  scope : UInt32
  keyNumber : UInt32
  applicationId : UInt32
  keySet : UInt32
  reference : Option Bytes
  referenceSize : Nat
  diversification : Option Bytes
  diversificationSize : Nat
  userContext : Option Bytes
  userContextSize : Nat
  /-- Whether the caller can ask for cancellation. -/
  isCancelled : Bool
  reserved : List UInt64
  deriving DecidableEq

def keyRequestSize : UInt32 := 160

def authenticationProfileValue : Model.AuthenticationProfile → UInt32
  | .standardAes => 0
  | .ev2First => 1
  | .ev2NonFirst => 2
  | .isoAes => 3

def keyScopeValue : Model.KeyScope → UInt32
  | .native => 0
  | .isoPicc => 1
  | .isoApplication => 2

/-- Asks the caller whether the resolution is cancelled; what the callback throws passes. -/
def checkCancelled {τ : Type} (request : KeyRequest) : Op τ Unit :=
  if request.isCancelled then do
    let stop ← Op.requestCancelled
    Op.refuse stop ⟨.cancelled,"Key resolution cancelled before provider access",.notSent,0⟩
  else pure ()

/-- The fields of a request that are not compared with an entry point. -/
def keyRequestFields (request : KeyRequest) (profile : Model.AuthenticationProfile) (scope : Model.KeyScope) :
    Result Model.KeyRequest := do
  let keyNumber : Model.KeyNumber ← Model.Number.make request.keyNumber.toNat
  let application : Option Model.ApplicationId ←
    if request.applicationId ≠ optionAbsent then (Model.Number.make request.applicationId.toNat).map some
    else .ok none
  let keySet : Option Byte ←
    if request.keySet ≠ optionAbsent then
      if 15 < request.keySet then .error (invalid "Key-set selector must be zero through fifteen")
      else .ok (some request.keySet.toUInt8)
    else .ok none
  let reference ← Model.KeyReference.make ((request.reference.getD []).take request.referenceSize)
  let context ← Model.Aes128DerivationContext.make .authentication keyNumber application keySet
    ((request.diversification.getD []).take request.diversificationSize)
    ((request.userContext.getD []).take request.userContextSize)
  Model.KeyRequest.make reference context scope (some profile)

/-- A checked request for one exact authentication entry point. -/
def makeKeyRequest {τ : Type} (request : Option KeyRequest) (expectedProfile : Model.AuthenticationProfile)
    (expectedScope : Model.KeyScope) (expectedKey : UInt32) : Op τ (KeyRequest × Model.KeyRequest) :=
  match request with
  | none => Op.reject (invalid "Key request does not match the authentication entrypoint")
  | some request => do
    Op.refuse (request.structSize ≠ keyRequestSize ∨ request.abiVersion ≠ abiVersion ∨ request.purpose ≠ 0 ∨
        request.authenticationProfile ≠ authenticationProfileValue expectedProfile ∨
        request.scope ≠ keyScopeValue expectedScope ∨ request.keyNumber ≠ expectedKey ∨ reserves request.reserved)
      (invalid "Key request does not match the authentication entrypoint")
    Op.refuse (request.referenceSize = 0 ∨ 1024 < request.referenceSize ∨ request.reference = none ∨
        65536 < request.diversificationSize ∨ 65536 < request.userContextSize ∨
        65536 - request.userContextSize < request.diversificationSize ∨
        (request.diversificationSize ≠ 0 ∧ request.diversification = none) ∨
        (request.userContextSize ≠ 0 ∧ request.userContext = none))
      (invalid "Invalid key reference or provider context bytes")
    checkCancelled request
    let checked ← Op.ofResult (keyRequestFields request expectedProfile expectedScope)
    pure (request,checked)

/-- The callbacks of a provider of which only their presence is checked. -/
structure KeyProvider where
  structSize : UInt32
  abiVersion : UInt32
  resolve : Bool
  retain : Bool
  release : Bool
  reserved : List UInt64
  deriving DecidableEq

def keyProviderSize : UInt32 := 104

/-- A retained provider with the request for its single resolution. -/
structure KeyProviderAdapter where
  request : KeyRequest
  deriving DecidableEq

def KeyProviderAdapter.create (provider : Option KeyProvider) (request : KeyRequest) : Result KeyProviderAdapter :=
  match provider with
  | none => .error (invalid "Invalid AES-128 key-provider descriptor")
  | some provider =>
    if provider.structSize ≠ keyProviderSize ∨ provider.abiVersion ≠ abiVersion ∨ provider.resolve = false ∨
        provider.retain ≠ provider.release ∨ reserves provider.reserved then
      .error (invalid "Invalid AES-128 key-provider descriptor")
    else .ok ⟨request⟩

/-- Calls the provider; of its error only the code is kept. -/
def KeyProviderAdapter.resolve {τ : Type} (adapter : KeyProviderAdapter) (checked : Model.KeyRequest) :
    Op τ Model.Aes128Key := do
  checkCancelled adapter.request
  let key ← Op.mapError (fun e => ⟨e.code,"AES-128 key provider failed",.notSent,0⟩) (Op.resolve checked)
  Op.refuse (key.valid = false) ⟨.crypto,"AES-128 key provider returned an invalid key size",.notSent,0⟩
  pure key

end Keys

/-- Where the metadata of an authentication is written to. -/
structure AuthenticationOutput where
  structSize : UInt32
  abiVersion : UInt32
  reserved : List UInt64
  deriving DecidableEq

def authenticationOutputSize : UInt32 := 88

def checkAuthenticationOutput (output : Option AuthenticationOutput) : Result Unit :=
  match output with
  | none => .error (invalid "Invalid authentication-info output descriptor")
  | some output =>
    if output.structSize ≠ authenticationOutputSize ∨ output.abiVersion ≠ abiVersion ∨ reserves output.reserved then
      .error (invalid "Invalid authentication-info output descriptor")
    else .ok ()

end DesfireSdk.CApi
