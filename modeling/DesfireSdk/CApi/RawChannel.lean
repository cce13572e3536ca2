import DesfireSdk.CApi.Descriptors
import DesfireSdk.Interaction.Runs
import DesfireSdk.Iso7816.Session
import DesfireSdk.Security.Ev2.Authentication
import DesfireSdk.Security.StandardAes.Authentication

/-! Raw channels of the C interface: plain and secure exchanges over one transport. -/
namespace DesfireSdk.CApi
open Interaction

/-- The channels over one transport with the secure session that is active on them. -/
structure RawEntry where
  native : Native.Raw.RawNativeChannel
  /-- Whether the transport also carries true ISO commands. -/
  iso : Bool
  standardSession : Option Security.StandardAes.Session := none
  ev2Session : Option Security.Ev2.Session := none
  isoSession : Option Iso7816.Aes.Session := none
  sessionGeneration : UInt64 := 0
  deriving DecidableEq

def RawEntry.clearSessions (entry : RawEntry) : RawEntry :=
  {entry with standardSession := none,ev2Session := none,isoSession := none,sessionGeneration := 0}

/-- Where the registry stands when a call looks its handle up. -/
inductive Standing
  | unknown | contended | reentered | closed | free
  deriving DecidableEq

section Operations

/-- Serializes one raw operation. -/
def invokeRaw {α : Type} (standing : Standing) (timeout : UInt32) (function : ExchangeOptions → Op RawEntry α) :
    Op RawEntry α := do
  Op.refuse (timeout = 0) (invalid "Timeout must be positive milliseconds")
  Op.refuse (standing = .unknown) ⟨.staleHandle,"Closed or unknown raw-channel handle",.notSent,0⟩
  Op.refuse (standing = .contended) ⟨.busy,"Another raw operation is active",.notSent,0⟩
  Op.refuse (standing = .reentered) ⟨.busy,"Callback cannot reenter the active raw operation",.notSent,0⟩
  Op.refuse (standing = .closed) ⟨.staleHandle,"Raw channel is closed",.notSent,0⟩
  function ⟨timeout.toNat⟩

/-- The flag says whether the place for the response is empty. -/
def outputBytes {α : Type} (output : Bool) (function : Op RawEntry α) : Op RawEntry α := do
  Op.refuse (output = false) (invalid "Output must point to a null buffer handle")
  function

def requireNativeFraming (entry : RawEntry) (framing : UInt32) : Result Unit :=
  if dfIsoWrapped < framing then .error ⟨.unsupported,"Operation requires a native raw channel",.notSent,0⟩
  else if (if entry.native.framing = .direct then dfNative else dfIsoWrapped) ≠ framing then
    .error (invalid "Requested native framing does not match the transport")
  else .ok ()

/-- Rejects a session of another card generation. -/
def requireCurrentSession : Op RawEntry Unit := do
  let stale : Error := ⟨.sessionInvalid,"Raw authentication session is absent or stale",.notSent,0⟩
  let entry ← Program.get
  Op.refuseAfter RawEntry.clearSessions (entry.sessionGeneration = 0) stale
  let generation ← Op.generation
  Op.refuseAfter RawEntry.clearSessions (entry.sessionGeneration ≠ generation) stale

def rawOpen {τ : Type} : Op τ RawEntry := do
  let capabilities ← Op.capabilities
  pure {native := ⟨Native.Raw.mapFraming capabilities.framing⟩,iso := capabilities.framing = .iso7816}

def rawClose (standing : Standing) : Op RawEntry Unit := do
  Op.refuse (standing = .unknown) ⟨.staleHandle,"Closed or unknown raw-channel handle",.notSent,0⟩
  Op.refuse (standing = .contended ∨ standing = .reentered)
    ⟨.busy,"Cancel or wait for the active raw operation before close",.notSent,0⟩
  Program.modify RawEntry.clearSessions
  Op.refuse (standing = .closed) ⟨.staleHandle,"Raw channel is already closed",.notSent,0⟩

def rawReset (standing : Standing) : Op RawEntry Unit :=
  invokeRaw standing 5000 fun _ => do
    Program.modify RawEntry.clearSessions
    let entry ← Program.get
    if entry.iso then Iso7816.Raw.Channel.reset else Native.Raw.RawNativeChannel.reset

section Plain

def rawNativeFrame (standing : Standing) (nativeStatus : Bool) (framing command : UInt32) (data : Option Bytes)
    (dataSize : Nat) (timeout : UInt32) (output : Bool) : Op RawEntry Native.Raw.Response := do
  Op.refuse (0xFF < command ∨ nativeStatus = false) (invalid "Native command and status output are required")
  let payload ← Op.ofResult (bytes data dataSize)
  outputBytes output (invokeRaw standing timeout fun options => do
    let entry ← Program.get
    Op.ofResult (requireNativeFraming entry framing)
    Program.modify RawEntry.clearSessions
    let transaction ← entry.native.begin options
    Program.within transaction (Native.Raw.Transaction.exchangeFrame command.toUInt8 payload))

def rawNativeExchange (standing : Standing) (nativeStatus : Bool) (request : Option NativeRequest) (timeout : UInt32)
    (output : Bool) : Op RawEntry Native.Raw.Response := do
  let coreRequest ← Op.ofResult (makeNativeRequest nativeStatus request)
  let framing := (request.map (·.framing)).getD 0
  outputBytes output (invokeRaw standing timeout fun options => do
    let entry ← Program.get
    Op.ofResult (requireNativeFraming entry framing)
    Program.modify RawEntry.clearSessions
    entry.native.exchange coreRequest options)

def rawIsoExchange (standing : Standing) (isoStatus : Bool) (request : IsoApdu) (timeout : UInt32) (output : Bool) :
    Op RawEntry Iso7816.Raw.Response := do
  Op.refuse (isoStatus = false) (invalid "ISO status output is required")
  let apdu ← Op.ofResult (makeIsoApdu request)
  outputBytes output (invokeRaw standing timeout fun options => do
    let entry ← Program.get
    Op.refuse (entry.iso = false) ⟨.unsupported,"True ISO exchange requires ISO-wrapped transport",.notSent,0⟩
    Program.modify RawEntry.clearSessions
    Iso7816.Raw.Channel.exchange apdu options
      ⟨request.maximumResponse,request.maximumFrames,request.correctLength ≠ 0⟩)

end Plain

section Authentication

/-- The proof of one native login over the frames of a transaction. -/
def authenticationFrames {α : Type} (options : ExchangeOptions)
    (authenticate : Security.AuthenticationExchange Native.Raw.Transaction → Op Native.Raw.Transaction α) :
    Op RawEntry α := do
  let entry ← Program.get
  let transaction ← entry.native.begin options
  Program.within transaction (authenticate Native.Raw.Transaction.exchangeFrame)

/-- Standard AES with a key that is at hand or is asked for now. -/
def installStandardAes (key : Op RawEntry Model.Aes128Key) (keyNumber : Byte) (options : ExchangeOptions) :
    Op RawEntry Unit := do
  Program.modify RawEntry.clearSessions
  let key ← key
  let material ← authenticationFrames options (Security.StandardAes.authenticate keyNumber key.view)
  let session ← Op.ofResult (Security.StandardAes.Session.create material)
  let generation ← Op.generation
  Program.modify fun entry => {entry with standardSession := some session,sessionGeneration := generation}

def installEv2 (key : Op RawEntry Model.Aes128Key) (keyNumber : Byte) (pcdCapabilities : Bytes)
    (options : ExchangeOptions) : Op RawEntry Model.AuthenticationInfo := do
  Program.modify RawEntry.clearSessions
  let key ← key
  let material ← authenticationFrames options (Security.Ev2.authenticateFirst keyNumber key.view pcdCapabilities)
  let session ← Op.ofResult (Security.Ev2.Session.create material 0)
  let generation ← Op.generation
  Program.modify fun entry => {entry with ev2Session := some session,sessionGeneration := generation}
  pure material.information

/-- NonFirst gives up the session it renews before it asks for the key. -/
def renewEv2 (key : Op RawEntry Model.Aes128Key) (keyNumber : Byte) (options : ExchangeOptions) :
    Op RawEntry Model.AuthenticationInfo := do
  requireCurrentSession
  let entry ← Program.get
  match entry.ev2Session with
  | none => Op.reject ⟨.sessionInvalid,"EV2 NonFirst requires EV2 First",.notSent,0⟩
  | some previous => do
    Program.modify fun entry => {entry with ev2Session := none}
    let session ← Op.onError (fun _ => RawEntry.clearSessions) do
      let key ← key
      let material ← authenticationFrames options
        (Security.Ev2.authenticateNonfirst keyNumber key.view previous.authentication)
      Op.ofResult (Security.Ev2.Session.create material previous.counter)
    let generation ← Op.generation
    Program.modify fun entry => {entry with ev2Session := some session,sessionGeneration := generation}
    pure previous.authentication

def installIso (key : Op RawEntry Model.Aes128Key) (reference : Iso7816.Checked.KeyReference)
    (options : ExchangeOptions) : Op RawEntry Unit := do
  let entry ← Program.get
  Op.refuse (entry.iso = false) ⟨.unsupported,"ISO AES requires an ISO raw channel",.notSent,0⟩
  Program.modify RawEntry.clearSessions
  let key ← key
  let session ← Iso7816.Aes.authenticate reference key.view options
  let generation ← Op.generation
  Program.modify fun entry => {entry with isoSession := some session,sessionGeneration := generation}

def rawAuthenticateStandardAes (standing : Standing) (keyNumber : UInt32) (key : Option Bytes) (keySize : Nat)
    (timeout : UInt32) : Op RawEntry Unit := do
  let selector : Model.KeyNumber ← Op.ofResult (Model.Number.make keyNumber.toNat)
  let imported ← Op.ofResult (aes128Key key keySize)
  invokeRaw standing timeout (installStandardAes (pure imported) (UInt8.ofNat selector.value))

/-- A checked request with its retained provider. -/
def keyProvider (provider : Option KeyProvider) (request : Option KeyRequest)
    (profile : Model.AuthenticationProfile) (scope : Model.KeyScope) (keyNumber : UInt32) :
    Op RawEntry (Op RawEntry Model.Aes128Key) := do
  let (request,checked) ← makeKeyRequest request profile scope keyNumber
  let adapter ← Op.ofResult (KeyProviderAdapter.create provider request)
  pure (adapter.resolve checked)

def rawAuthenticateStandardAesProvider (standing : Standing) (keyNumber : UInt32) (provider : Option KeyProvider)
    (request : Option KeyRequest) (timeout : UInt32) : Op RawEntry Unit := do
  let key ← keyProvider provider request .standardAes .native keyNumber
  invokeRaw standing timeout (installStandardAes key keyNumber.toUInt8)

def rawAuthenticateEv2FirstAes (standing : Standing) (keyNumber : UInt32) (key : Option Bytes) (keySize : Nat)
    (pcdCapabilities : Option Bytes) (pcdCapabilitiesSize : Nat) (timeout : UInt32)
    (output : Option AuthenticationOutput) : Op RawEntry Model.AuthenticationInfo := do
  Op.ofResult (checkAuthenticationOutput output)
  let selector : Model.KeyNumber ← Op.ofResult (Model.Number.make keyNumber.toNat)
  let imported ← Op.ofResult (aes128Key key keySize)
  let capabilities ← Op.ofResult (bytes pcdCapabilities pcdCapabilitiesSize)
  Op.refuse (6 < pcdCapabilitiesSize) (invalid "PCD capabilities exceed six bytes")
  invokeRaw standing timeout (installEv2 (pure imported) (UInt8.ofNat selector.value) capabilities)

def rawAuthenticateEv2FirstAesProvider (standing : Standing) (keyNumber : UInt32) (provider : Option KeyProvider)
    (request : Option KeyRequest) (pcdCapabilities : Option Bytes) (pcdCapabilitiesSize : Nat) (timeout : UInt32)
    (output : Option AuthenticationOutput) : Op RawEntry Model.AuthenticationInfo := do
  Op.ofResult (checkAuthenticationOutput output)
  let capabilities ← Op.ofResult (bytes pcdCapabilities pcdCapabilitiesSize)
  Op.refuse (6 < capabilities.length) (invalid "PCD capabilities exceed six bytes")
  let key ← keyProvider provider request .ev2First .native keyNumber
  invokeRaw standing timeout (installEv2 key keyNumber.toUInt8 capabilities)

def rawAuthenticateEv2NonFirstAes (standing : Standing) (keyNumber : UInt32) (key : Option Bytes) (keySize : Nat)
    (timeout : UInt32) (output : Option AuthenticationOutput) : Op RawEntry Model.AuthenticationInfo := do
  Op.ofResult (checkAuthenticationOutput output)
  let selector : Model.KeyNumber ← Op.ofResult (Model.Number.make keyNumber.toNat)
  let imported ← Op.ofResult (aes128Key key keySize)
  invokeRaw standing timeout (renewEv2 (pure imported) (UInt8.ofNat selector.value))

def rawAuthenticateEv2NonFirstAesProvider (standing : Standing) (keyNumber : UInt32) (provider : Option KeyProvider)
    (request : Option KeyRequest) (timeout : UInt32) (output : Option AuthenticationOutput) :
    Op RawEntry Model.AuthenticationInfo := do
  Op.ofResult (checkAuthenticationOutput output)
  let key ← keyProvider provider request .ev2NonFirst .native keyNumber
  invokeRaw standing timeout (renewEv2 key keyNumber.toUInt8)

def rawAuthenticateIsoAes (standing : Standing) (keyNumber application : UInt32) (key : Option Bytes) (keySize : Nat)
    (timeout : UInt32) : Op RawEntry Unit := do
  let reference ← Op.ofResult (isoKey keyNumber application)
  let imported ← Op.ofResult (aes128Key key keySize)
  invokeRaw standing timeout (installIso (pure imported) reference)

def rawAuthenticateIsoAesProvider (standing : Standing) (keyNumber application : UInt32) (provider : Option KeyProvider)
    (request : Option KeyRequest) (timeout : UInt32) : Op RawEntry Unit := do
  let reference ← Op.ofResult (isoKey keyNumber application)
  let scope : Model.KeyScope := if application ≠ 0 then .isoApplication else .isoPicc
  let key ← keyProvider provider request .isoAes scope keyNumber
  invokeRaw standing timeout (installIso key reference)

end Authentication

section Secure

def endStandardSession (entry : RawEntry) : RawEntry := {entry with standardSession := none,sessionGeneration := 0}
def endEv2Session (entry : RawEntry) : RawEntry := {entry with ev2Session := none,sessionGeneration := 0}

/-- A failed execution that ended the ISO session ends it here. -/
def dropInvalidIso (entry : RawEntry) : RawEntry :=
  if entry.isoSession.any (·.valid) then entry else {entry with isoSession := none,sessionGeneration := 0}

def rawIsoSecureExchange (standing : Standing) (isoStatus : Bool) (request : IsoApdu) (timeout : UInt32)
    (output : Bool) : Op RawEntry Iso7816.Checked.Response := do
  let command ← Op.ofResult (secureCommand isoStatus request)
  outputBytes output (invokeRaw standing timeout fun options => do
    requireCurrentSession
    let entry ← Program.get
    match entry.iso,entry.isoSession with
    | true,some session =>
      Op.onError (fun _ => dropInvalidIso)
        (Program.focus (fun _ => session) (fun session entry => {entry with isoSession := some session})
          (Iso7816.Aes.Session.execute command options ⟨request.maximumResponse,request.maximumFrames,false⟩))
    | _,_ => Op.reject ⟨.sessionInvalid,"ISO AES raw session is not active",.notSent,0⟩)

/-- A protected exchange; its failure ends the session, and so does a request that says it does. -/
def exchangeEnding {σ : Type} [Native.Secure.SecureSession σ] (session : σ) (put : σ → RawEntry → RawEntry)
    (ended : RawEntry → RawEntry) (request : Native.Secure.Request) (options : ExchangeOptions) : Op RawEntry Bytes := do
  let entry ← Program.get
  let response ← Op.onError (fun _ => ended)
    (Program.focus (fun _ => session) put (Native.Secure.exchangeProtected entry.native request options))
  Program.modify fun entry => if request.invalidatesSession then ended entry else entry
  pure response

def rawNativeSecureExchange (standing : Standing) (request : Option NativeSecureRequest) (timeout : UInt32)
    (output : Bool) : Op RawEntry Bytes := do
  let (request,coreRequest) ← Op.ofResult (makeNativeSecureRequest request)
  outputBytes output (invokeRaw standing timeout fun options => do
    requireCurrentSession
    let entry ← Program.get
    if request.profile = secureProfileStandardAes then
      match entry.standardSession with
      | none => Op.reject ⟨.sessionInvalid,"Standard AES raw session is not active",.notSent,0⟩
      | some session =>
        exchangeEnding session (fun session entry => {entry with standardSession := some session})
          endStandardSession coreRequest options
    else
      match entry.ev2Session with
      | none => Op.reject ⟨.sessionInvalid,"EV2 raw session is not active",.notSent,0⟩
      | some session =>
        exchangeEnding session (fun session entry => {entry with ev2Session := some session})
          endEv2Session coreRequest options)

end Secure
end Operations
end DesfireSdk.CApi
