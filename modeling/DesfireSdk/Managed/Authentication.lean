import DesfireSdk.Managed.Card
import DesfireSdk.Security.Ev2.Authentication
import DesfireSdk.Security.StandardAes.Authentication

/-! Managed Standard AES, EV2 AES and ISO AES authentication. -/
namespace DesfireSdk.Managed
open Interaction Model

/-- Where the key of one authentication comes from. -/
inductive KeySource
  | direct (key : Aes128Key)
  | derived (masterKey : Aes128Key) (context : Aes128DerivationContext)
  | provided (request : KeyRequest)
  deriving DecidableEq

/-- The key number an authentication selects; a direct key comes with its own. -/
def KeySource.keyNumber (direct : KeyNumber) : KeySource → KeyNumber
  | .direct _ => direct
  | .derived _ context => context.keyNumber
  | .provided request => request.context.keyNumber

section Resolution

/-- Evidence before any card I/O in place of untrusted diagnostics. -/
def localResolutionError (code : ErrorCode) (message : String) : Error := ⟨code,message,.notSent,0⟩

def validateDerivationContext (context : Aes128DerivationContext) : Result Unit :=
  if context.purpose ≠ .authentication then
    .error (invalid "Managed authentication requires authentication-purpose key context")
  else .ok ()

/-- The key number an ISO key reference selects on the card. -/
def selectedKey (reference : Iso7816.Checked.KeyReference) : Nat :=
  if reference.value = 0 then 0 else (reference.value &&& 0x0F).toNat

def validateIsoContextKey (context : Aes128DerivationContext)
    (reference : Iso7816.Checked.KeyReference) : Result Unit :=
  if context.keyNumber.value ≠ selectedKey reference then
    .error (invalid "ISO derivation context key number does not match card key reference")
  else .ok ()

def validateProviderRequest (request : KeyRequest) (expectedProfile : AuthenticationProfile)
    (isoKey : Option Iso7816.Checked.KeyReference) : Result Unit := do
  validateDerivationContext request.context
  if request.authenticationProfile ≠ some expectedProfile then
    .error (invalid "Key provider request authentication profile does not match method")
  else match isoKey with
    | none =>
      if request.scope ≠ .native then
        .error (invalid "Native authentication requires a native key-provider scope")
      else .ok ()
    | some reference =>
      if request.scope ≠ (if reference.value = 0 then .isoPicc else .isoApplication) then
        .error (invalid "ISO key-provider scope does not match the card key reference")
      else if request.context.keyNumber.value ≠ selectedKey reference then
        .error (invalid "ISO provider context key number does not match card key reference")
      else .ok ()

/-- Calls a deriver once and contains its failures. -/
def deriveOnce (masterKey : Aes128Key) (context : Aes128DerivationContext) : Op Card Aes128Key := do
  Op.refuse (masterKey.valid = false) (invalid "Managed authentication master key was moved from")
  let stop ← Op.stopRequested .operation
  Op.refuse stop
    (localResolutionError .cancelled "Authentication cancelled before key derivation")
  Op.catchAll id (localResolutionError .internal "AES-128 key deriver threw an exception") do
    let derived ← Op.mapError (fun e => localResolutionError e.code "AES-128 key derivation failed")
      (Op.derive masterKey context)
    let stop ← Op.stopRequested .operation
    Op.refuse stop
      (localResolutionError .cancelled "Authentication cancelled after key derivation")
    Op.refuse (derived.valid = false)
      (localResolutionError .crypto "AES-128 deriver returned no exact key")
    pure derived

/-- Calls a provider once under the combined cancellation and contains its failures. -/
def resolveOnce (request : KeyRequest) : Op Card Aes128Key := do
  let requestStop ← Op.stopRequested .request
  let stop ← if requestStop then pure true else Op.stopRequested .operation
  Op.refuse stop
    (localResolutionError .cancelled "Authentication cancelled before key resolution")
  Op.catchAll id (localResolutionError .internal "AES-128 key provider threw an exception") do
    let effective ← Op.mapError
      (fun _ => localResolutionError .internal "Validated key request could not be copied")
      (Op.ofResult (KeyRequest.make request.reference request.context request.scope
        request.authenticationProfile))
    let resolved ← Op.mapError (fun e => localResolutionError e.code "AES-128 key provider failed")
      (Op.resolve effective)
    let stop ← Op.stopRequested .combined
    Op.refuse stop
      (localResolutionError .cancelled "Authentication cancelled after key resolution")
    Op.refuse (resolved.valid = false)
      (localResolutionError .crypto "AES-128 key provider returned no exact key")
    pure resolved

/-- The key of one authentication, after the checks of its source. -/
def obtainKey (profile : AuthenticationProfile) (isoKey : Option Iso7816.Checked.KeyReference) :
    KeySource → Op Card Aes128Key
  | .direct key => pure key
  | .derived masterKey context => do
    Op.ofResult (validateDerivationContext context)
    match isoKey with
    | none => pure ()
    | some reference => Op.ofResult (validateIsoContextKey context reference)
    deriveOnce masterKey context
  | .provided request => do
    Op.ofResult (validateProviderRequest request profile isoKey)
    resolveOnce request

end Resolution

/-- The managed lifecycle checks before any authentication. -/
def authenticationPreflightLocked (requireEv2Session : Bool) (options : ExchangeOptions) :
    Op Card Unit := do
  Op.refuse (options.timeout ≤ 0) (invalid "Authentication requires a positive timeout")
  let stop ← Op.stopRequested .operation
  Op.refuse stop ⟨.cancelled,"Authentication cancelled before card I/O",.notSent,0⟩
  let card ← Program.get
  Op.refuse (card.usable = false)
    (sessionInvalid "Managed session is uncertain; reset before authentication")
  Op.refuse (requireEv2Session ∧ card.ev2Session = none)
    (sessionInvalid "EV2 NonFirst requires an active verified EV2 First session")
  checkGeneration "Card state changed before authentication" .notSent

section Native

/-- Gives the ISO session back after a native proof that sent nothing, and ends the state otherwise. -/
def afterProof (previous : Option Iso7816.Aes.Session) (e : Error) (card : Card) : Card :=
  if e.outcome = .notSent then {card with isoSession := previous} else card.invalidate

/-- The frame exchange of one native authentication. -/
def authenticationFrames {τ : Type} (transaction : Native.Raw.Transaction)
    (authenticate : Security.AuthenticationExchange Native.Raw.Transaction → Op Native.Raw.Transaction α) :
    Op τ α :=
  Program.within transaction (authenticate Native.Raw.Transaction.exchangeFrame)

def authenticateEv2Locked (first : Bool) (keyNumber : KeyNumber) (key : Aes128Key)
    (pcdCapabilities : Bytes) (options : ExchangeOptions) : Op Card AuthenticationInfo :=
  Op.catchAll Card.invalidate ⟨.internal,"EV2 authentication failed",.unknown,0⟩ do
    Op.refuse (key.valid = false) (invalid "EV2 AES key was moved from")
    Op.refuse (6 < pcdCapabilities.length ∨ (first = false ∧ pcdCapabilities ≠ [])) (invalid
      "PCD capabilities must contain zero through six bytes and require EV2 First")
    let previous ← Program.get
    let transaction ← previous.raw.begin options
    Program.modify fun card => {card with isoSession := none}
    let previousInformation := (previous.ev2Session.map (·.authentication)).getD {}
    let previousCounter := (previous.ev2Session.map (·.counter)).getD 0
    let selector := UInt8.ofNat keyNumber.value
    let material ← Op.onError (afterProof previous.isoSession)
      (authenticationFrames transaction fun exchange =>
        if first then Security.Ev2.authenticateFirst selector key.view pcdCapabilities exchange
        else Security.Ev2.authenticateNonfirst selector key.view previousInformation exchange)
    checkGeneration "Card state changed after EV2 authentication" .unknown
    let session ← Op.onError (fun _ => Card.invalidate) (Op.mapError Error.asUnknown
      (Op.ofResult (Security.Ev2.Session.create material (if first then 0 else previousCounter))))
    Program.modify fun card => {card.clearNativeSession with
      ev2Session := some session
      authenticatedKey := some selector
      authenticationResetPending := false }
    pure session.authentication

def authenticateStandardAesLocked (keyNumber : KeyNumber) (key : Aes128Key)
    (options : ExchangeOptions) : Op Card Unit :=
  Op.catchAll Card.invalidate ⟨.internal,"Standard AES authentication failed",.unknown,0⟩ do
    Op.refuse (key.valid = false) (invalid "Standard AES key was moved from")
    let previous ← Program.get
    let transaction ← previous.raw.begin options
    Program.modify fun card => {card with isoSession := none}
    let selector := UInt8.ofNat keyNumber.value
    let material ← Op.onError (afterProof previous.isoSession)
      (authenticationFrames transaction (Security.StandardAes.authenticate selector key.view))
    checkGeneration "Card state changed after Standard AES authentication" .unknown
    let session ← Op.onError (fun _ => Card.invalidate) (Op.mapError Error.asUnknown
      (Op.ofResult (Security.StandardAes.Session.create material)))
    Program.modify fun card => {card.clearNativeSession with
      standardAesSession := some session
      authenticatedKey := some selector
      authenticationResetPending := false }

def authenticateStandardAes (keyNumber : KeyNumber) (source : KeySource)
    (options : ExchangeOptions) : Op Card Unit :=
  admitted busy do
    authenticationPreflightLocked false options
    let key ← obtainKey .standardAes none source
    authenticateStandardAesLocked (source.keyNumber keyNumber) key options

/-- Capabilities are checked before a key is derived or resolved for them. -/
def checkCapabilities (pcdCapabilities : Bytes) : KeySource → Op Card Unit
  | .direct _ => pure ()
  | _ => Op.refuse (6 < pcdCapabilities.length)
      (invalid "EV2 First PCD capabilities cannot exceed six bytes")

def authenticateEv2FirstAes (keyNumber : KeyNumber) (source : KeySource) (pcdCapabilities : Bytes)
    (options : ExchangeOptions) : Op Card AuthenticationInfo :=
  admitted busy do
    authenticationPreflightLocked false options
    checkCapabilities pcdCapabilities source
    let key ← obtainKey .ev2First none source
    authenticateEv2Locked true (source.keyNumber keyNumber) key pcdCapabilities options

def authenticateEv2NonFirstAes (keyNumber : KeyNumber) (source : KeySource)
    (options : ExchangeOptions) : Op Card AuthenticationInfo :=
  admitted busy do
    authenticationPreflightLocked true options
    let key ← obtainKey .ev2NonFirst none source
    authenticateEv2Locked false (source.keyNumber keyNumber) key [] options

end Native

section Iso

/-- Gives every session back after an ISO proof that sent nothing, and ends the state otherwise. -/
def afterIsoProof (previous : Card) (e : Error) (card : Card) : Card :=
  if e.outcome = .notSent then {card with
    standardAesSession := previous.standardAesSession
    ev2Session := previous.ev2Session
    isoSession := previous.isoSession
    authenticatedKey := previous.authenticatedKey }
  else card.invalidate

def authenticateIsoAesLocked (reference : Iso7816.Checked.KeyReference) (key : Aes128Key)
    (options : ExchangeOptions) : Op Card Unit := do
  let previous ← Program.get
  Op.refuse previous.authenticationResetPending
    (sessionInvalid "Select an ISO file or reset before ISO authentication after local reset")
  Op.refuse (key.valid = false) (invalid "ISO AES key was moved from")
  Program.modify Card.clearAuthentication
  Op.catchAll Card.invalidate ⟨.internal,"ISO authentication failed",.unknown,0⟩ do
    let session ← Op.onError (afterIsoProof previous)
      (Iso7816.Aes.authenticate reference key.view options)
    checkGeneration "Card state changed after ISO authentication" .unknown
    Program.modify fun card => {card with
      isoSession := some session
      authenticationResetPending := false }

def authenticateIsoAes (reference : Iso7816.Checked.KeyReference) (source : KeySource)
    (options : ExchangeOptions) : Op Card Unit :=
  admitted busy do
    authenticationPreflightLocked false options
    let key ← obtainKey .isoAes (some reference) source
    authenticateIsoAesLocked reference key options

end Iso
end DesfireSdk.Managed
