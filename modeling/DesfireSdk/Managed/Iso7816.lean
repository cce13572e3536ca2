import DesfireSdk.Managed.Card

/-! Managed execution of actual ISO commands. -/
namespace DesfireSdk.Managed
open Interaction

/-- The authentication, gate and selection a command set aside. -/
def restoreAuthentication (previous card : Card) : Card := {card with
  standardAesSession := previous.standardAesSession
  ev2Session := previous.ev2Session
  isoSession := previous.isoSession
  authenticatedKey := previous.authenticatedKey
  authenticationResetPending := previous.authenticationResetPending
  selectedApplication := previous.selectedApplication }

/-- The state after an ISO exchange that failed. -/
def afterIsoCommand (previous : Card) (command : Iso7816.Checked.Command) (e : Error) (card : Card) :
    Card :=
  if e.outcome = .notSent ∧ command.resetsAuthentication then restoreAuthentication previous card
  else if previous.authenticated ∨ previous.authenticationResetPending ∨ card.isoSession.isSome ∨
      e.outcome = .unknown then card.invalidate
  else card

/-- The exchange under the active ISO session, or without one. -/
def exchangeIso (command : Iso7816.Checked.Command) (options : ExchangeOptions) :
    Op Card Iso7816.Checked.Response := do
  let card ← Program.get
  match card.isoSession with
  | some session =>
    Program.focus (fun _ => session) (fun session card => {card with isoSession := some session})
      (Iso7816.Aes.Session.execute command options)
  | none => Iso7816.Checked.Channel.exchange command options

/-- The state after a complete ISO answer. -/
def afterIsoResponse (previous : Card) (command : Iso7816.Checked.Command)
    (response : Iso7816.Checked.Response) (card : Card) : Card :=
  let card := if ∃ session ∈ card.isoSession, session.valid = false then card.invalidate else card
  if command.resetsAuthentication then
    if response.status = 0x9000 then
      {card with authenticationResetPending := false,selectedApplication := none}
    else restoreAuthentication previous card
  else card

/-- Executes one ISO command while keeping native and ISO sessions apart. -/
def isoCommand (command : Iso7816.Checked.Command) (options : ExchangeOptions) :
    Op Card Iso7816.Checked.Response :=
  admitted busy do
    let previous ← Program.get
    Op.refuse (previous.usable = false) (sessionInvalid "Reset or reconnect before ISO operation")
    Op.refuse (previous.authenticationResetPending ∧ command.resetsAuthentication = false)
      (sessionInvalid "Select an application or reset before ISO operation after local reset")
    checkGeneration "Card changed before ISO operation" .notSent
    Op.refuse (previous.hasNativeSession ∧ command.resetsAuthentication = false)
      (sessionInvalid "ISO operation cannot reuse a native secure session")
    Program.modify fun card =>
      if command.resetsAuthentication then
        {card.clearAuthentication with authenticationResetPending := false}
      else card
    Op.catchAll Card.invalidate ⟨.internal,"ISO operation failed",.unknown,0⟩ do
      let response ← Op.onError (afterIsoCommand previous command) (exchangeIso command options)
      checkGeneration "Card changed during ISO operation" .unknown
      Program.modify (afterIsoResponse previous command response)
      pure response

end DesfireSdk.Managed
