import DesfireSdk.Iso7816.Session
import DesfireSdk.Native.Checked.Builders
import DesfireSdk.Native.Secure.Channel

/-! The state of one managed card and the execution of one checked native command. -/
namespace DesfireSdk.Managed
open Interaction

/-- Mutually exclusive session families over one transport, and the lifecycle flags. -/
structure Card where
  raw : Native.Raw.RawNativeChannel
  generation : UInt64
  standardAesSession : Option Security.StandardAes.Session := none
  ev2Session : Option Security.Ev2.Session := none
  authenticatedKey : Option Byte := none
  isoSession : Option Iso7816.Aes.Session := none
  usable : Bool := true
  authenticationResetPending : Bool := false
  selectedApplication : Option Nat := some 0
  deriving DecidableEq

namespace Card

def hasNativeSession (card : Card) : Bool := card.standardAesSession.isSome || card.ev2Session.isSome

/-- Either session family is active. -/
def authenticated (card : Card) : Bool := card.hasNativeSession || card.isoSession.isSome

def clearNativeSession (card : Card) : Card := {card with standardAesSession := none,ev2Session := none}

/-- Wipes every session and the selected key. -/
def clearAuthentication (card : Card) : Card :=
  {card.clearNativeSession with authenticatedKey := none,isoSession := none}

/-- Wipes every session and marks the state unusable until it is reset. -/
def invalidate (card : Card) : Card :=
  {card.clearAuthentication with
    authenticationResetPending := false
    selectedApplication := none
    usable := false }

end Card

def connect {τ : Type} : Op τ Card := do
  let capabilities ← Op.capabilities
  let generation ← Op.generation
  pure {raw := ⟨Native.Raw.mapFraming capabilities.framing⟩,generation}

def busy (message : String := "Card callback cannot reenter an active operation") : Error :=
  ⟨.busy,message,.notSent,0⟩

/-- Runs an operation under the card lock unless an outer operation is active. -/
def admitted {α : Type} (refusal : Error) (operation : Op Card α) : Op Card α := do
  let admission ← Op.admission .card
  Program.refuse (admission = .failed) .thrown
  Op.refuse (admission = .busy) refusal
  operation

def sessionInvalid (message : String) : Error := ⟨.sessionInvalid,message,.notSent,0⟩

def resetPendingMessage : String :=
  "Select an application, authenticate EV2 First, or reset after local authentication reset"

/-- Compares the transport generation with the one of the card state. -/
def checkGeneration (message : String) (outcome : Outcome) : Op Card Unit := do
  let card ← Program.get
  let generation ← Op.generation
  Op.refuseAfter Card.invalidate (generation ≠ card.generation) ⟨.cardRemoved,message,outcome,0⟩

def secureRequest (command : Native.Checked.Command) : Native.Secure.Request where
  command := command.opcode
  header := command.header
  data := command.data
  requestMode := command.requestMode
  responseMode := command.responseMode
  minimumResponse := command.minimumResponse
  maximumResponse := command.maximumResponse
  firstFrameDataSize := command.firstFramePayloadSize
  singleContinuationFrame := command.requiresSingleContinuationFrame
  invalidatesSession := command.invalidatesSession

/-- The authentication and selection a command requires of the state. -/
def requireContext (card : Card) (command : Native.Checked.Command) : Result Unit :=
  if card.isoSession.isSome then
    .error (sessionInvalid "Native command requires native authentication or selection")
  else if card.hasNativeSession = false ∧ command.requiresAuthentication then
    .error ⟨.authentication,"This command requires native authentication",.notSent,0⟩
  else if command.requiresEv2Session ∧ card.ev2Session = none then
    .error ⟨.authentication,"This command requires EV2 AES authentication",.notSent,0⟩
  else if command.requiresPiccSelection ∧ card.selectedApplication ≠ some 0 then
    .error ⟨.authentication,"This command requires PICC application selection",.notSent,0⟩
  else if command.currentAuthenticatedKey.isSome ∧
      command.currentAuthenticatedKey ≠ card.authenticatedKey then
    .error ⟨.authentication,
      "native::checked::Command key selector differs from verified authentication",.notSent,0⟩
  else if command.restrictsAuthenticatedKey ∧
      ¬∃ key ∈ card.authenticatedKey, command.acceptsAuthenticatedKey key = true then
    .error ⟨.authentication,"Authenticated key is not authorized for this command",.notSent,0⟩
  else .ok ()

/-- The exchange under the active native session, or without one. -/
def exchangeSecure (request : Native.Secure.Request) (options : ExchangeOptions) : Op Card Bytes := do
  let card ← Program.get
  match card.ev2Session,card.standardAesSession with
  | some session,_ =>
    Program.focus (fun _ => session) (fun session card => {card with ev2Session := some session})
      (Native.Secure.exchangeProtected card.raw request options)
  | none,some session =>
    Program.focus (fun _ => session) (fun session card => {card with standardAesSession := some session})
      (Native.Secure.exchangeProtected card.raw request options)
  | none,none => Native.Secure.exchangeUnprotected card.raw request options

/-- A failed exchange ends a protected session, and the state whose outcome is unknown. -/
def afterExchange (protectedSession : Bool) (e : Error) (card : Card) : Card :=
  if protectedSession ∨ e.outcome = .unknown then card.invalidate else card

/-- Executes one checked command under the managed state policy. -/
def executeLocked (command : Native.Checked.Command) (options : ExchangeOptions) : Op Card Bytes :=
  Op.catchAll Card.invalidate ⟨.internal,"Managed native command failed",.unknown,0⟩ do
    let card ← Program.get
    Op.refuse (card.usable = false) (sessionInvalid "Reset or reconnect before further card I/O")
    Op.refuse card.authenticationResetPending (sessionInvalid resetPendingMessage)
    Op.refuse (command.valid = false) (invalid "Cannot execute a moved-from command")
    Op.refuse (command.opcode = 0x6D)
      (invalid "Use df_names() to preserve physical response boundaries")
    checkGeneration "Card changed before managed command" .notSent
    Op.ofResult (requireContext card command)
    let payload ← Op.onError (afterExchange card.hasNativeSession)
      (exchangeSecure (secureRequest command) options)
    checkGeneration "Card changed during managed command" .unknown
    Op.onError (fun _ => Card.invalidate)
      (Op.ofResult (Native.Checked.checkParsed command.opcode command.header payload))
    Program.modify fun card =>
      if command.invalidatesSession then {card.clearNativeSession with authenticatedKey := none} else card
    pure payload

def execute (command : Native.Checked.Command) (options : ExchangeOptions) : Op Card Bytes :=
  admitted busy (executeLocked command options)

def rejected (status : Byte) (operation : String) : Error :=
  ⟨.cardRejected,operation ++ " was rejected by card",.rejected,status.toUInt16⟩

/-- The checked form of an unauthenticated discovery command. -/
def discoveryCommand (command : Byte) : Result Native.Checked.Command :=
  if command = 0x60 then Native.Checked.getVersion
  else if command = 0x6E then Native.Checked.freeMemory
  else if command = 0x6F then Native.Checked.getFileIds
  else .error (invalid "Unsupported authenticated discovery command")

/-- Executes an allowed unauthenticated discovery command. -/
def executePlainLocked (command : Byte) (data : Bytes) (options : ExchangeOptions)
    (operation : String) : Op Card Bytes :=
  Op.catchAll Card.invalidate ⟨.internal,"Managed native command failed",.unknown,0⟩ do
    let card ← Program.get
    Op.refuse (card.usable = false)
      (sessionInvalid "Managed session is uncertain; reconnect before further I/O")
    Op.refuse card.authenticationResetPending (sessionInvalid resetPendingMessage)
    Op.refuse card.isoSession.isSome
      (sessionInvalid "Select an application before switching ISO to native commands")
    if card.hasNativeSession then do
      let checked ← Op.ofResult (discoveryCommand command)
      executeLocked checked options
    else do
      checkGeneration "Card state changed before native command" .notSent
      let response ← Op.onError (afterExchange false)
        (card.raw.exchange {command,data} options)
      checkGeneration "Card state changed after native command" .unknown
      Op.refuse (response.status ≠ 0x00) (rejected response.status operation)
      pure response.data

/-- Erases local authentication and requires an explicit resynchronization. -/
def resetAuthentication : Op Card Unit :=
  admitted busy do
    Program.modify fun card => {card.clearAuthentication with
      authenticationResetPending := card.authenticationResetPending || card.authenticated}

/-- Invalidates local state before the transport is reset. -/
def reset : Op Card Unit :=
  admitted busy do
    Program.modify Card.invalidate
    Native.Raw.RawNativeChannel.reset
    let generation ← Op.generation
    Program.modify fun card => {card with
      generation
      usable := true
      authenticationResetPending := false
      selectedApplication := some 0 }

end DesfireSdk.Managed
