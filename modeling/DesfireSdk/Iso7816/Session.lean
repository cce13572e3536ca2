import DesfireSdk.Iso7816.Checked
import DesfireSdk.Iso7816.Cmac
import DesfireSdk.Security.Nonces
import DesfireSdk.Security.StandardAes.Session

/-! ISO AES mutual authentication and the session with its retained response CMAC. -/
namespace DesfireSdk.Iso7816.Aes
open Interaction
open Raw (LengthEncoding malformed)

def successStatus : UInt16 := 0x9000
def maximumExpectedData : Nat := 65536

/-- The chained CMAC of a message under a retained initialization vector. -/
def retainedCmac {τ : Type} (key iv input : Bytes) : Op τ Bytes := do
  let base ← Op.secretOutput "ISO AES provider returned invalid CMAC subkey size"
    (Op.cbc key (zeros 16) (zeros 16) true) 16
  let blocks := cmacInput base input
  let ciphertext ← Op.secretOutput "ISO AES provider returned invalid CMAC block size"
    (Op.cbc key iv blocks true) blocks.length
  pure (ciphertext.drop (ciphertext.length - 16))

/-- A session bound to the card generation of its proof. -/
structure Session where
  reference : Checked.KeyReference
  key : Bytes
  iv : Bytes := zeros 16
  generation : UInt64
  valid : Bool := true
  deriving DecidableEq

namespace Session

def invalidate (s : Session) : Session := {s with key := [],iv := zeros 16,valid := false}

def chain (mac : Bytes) (s : Session) : Session := {s with iv := mac}

def protectedLimits (command : Checked.Command) (limits : Checked.Limits) : Checked.Limits where
  maxResponse := if command.isRead then limits.maxResponse + 8 else limits.maxResponse
  maxFrames := limits.maxFrames
  correctReadLength := false

/-- The part of an execution that has attempted an exchange. -/
def exchangeProtected (command : Checked.Command) (options : ExchangeOptions)
    (limits : Checked.Limits) : Op Session Checked.Response := do
  let s ← Program.get
  let response ← Op.onError (fun e s => if e.outcome ≠ .notSent then s.invalidate else s)
    (Checked.Channel.exchange command options (protectedLimits command limits))
  Op.refuseAfter invalidate (response.success = false)
    ⟨.cardRejected,"ISO authenticated command rejected",.rejected,response.status⟩
  if command.isRead = false then do
    Op.refuseAfter invalidate (command.isWrite ∧ response.data ≠ [])
      (malformed "ISO write unexpectedly returned response data" successStatus)
    pure response
  else do
    Op.refuseAfter invalidate (response.data.length < 8)
      (malformed "ISO authenticated read lacks its response CMAC" successStatus)
    let payload := response.data.take (response.data.length - 8)
    let mac ← Op.mapError Error.afterDelivery
      (Op.onError (fun _ => invalidate) (retainedCmac s.key s.iv (payload ++ [0x00])))
    Op.refuseAfter invalidate
      (constantTimeEqual (mac.take 8) (response.data.drop (response.data.length - 8)) = false)
      ⟨.integrity,"ISO authenticated response CMAC verification failed",.unknown,0⟩
    let generation ← Op.generation
    Op.refuseAfter invalidate (generation ≠ s.generation)
      ⟨.cardRemoved,"Card changed while verifying ISO response",.unknown,0⟩
    Program.modify (chain mac)
    pure ⟨response.status,payload⟩

def execute (command : Checked.Command) (options : ExchangeOptions) (limits : Checked.Limits := {}) :
    Op Session Checked.Response := do
  let s ← Program.get
  Op.refuse (s.valid = false) ⟨.sessionInvalid,"ISO AES session is no longer valid",.notSent,0⟩
  let generation ← Op.generation
  Op.refuseAfter invalidate (generation ≠ s.generation)
    ⟨.cardRemoved,"ISO AES session belongs to an earlier card generation",.notSent,0⟩
  Op.refuse (command.isRead = false ∧ command.isWrite = false ∧
      (command.isSelection = false ∨ command.resetsAuthentication = true))
    ⟨.unsupported,"ISO AES session accepts data commands and EF selection only",.notSent,0⟩
  Op.refuse (command.isRead ∧ (limits.maxResponse = 0 ∨ maximumExpectedData < limits.maxResponse))
    (DesfireSdk.invalid "ISO authenticated read requires a response limit from one through 65536")
  -- Nothing before this point can throw.
  Op.catchAll invalidate ⟨.internal,"ISO AES response dependency failed",.unknown,0⟩
    (exchangeProtected command options limits)

/-- Execution over a channel that may not be the one of the proof. -/
def executeOver (own : Bool) (command : Checked.Command) (options : ExchangeOptions)
    (limits : Checked.Limits) : Op Session Checked.Response :=
  if own then execute command options limits
  else do
    let s ← Program.get
    Op.refuse (s.valid = false) ⟨.sessionInvalid,"ISO AES session is no longer valid",.notSent,0⟩
    Program.modify invalidate
    Op.reject ⟨.cardRemoved,"ISO AES session belongs to an earlier card generation",.notSent,0⟩

end Session

section Authentication

def authenticationMessages : Raw.BudgetMessages where
  removed := "Card state changed during ISO AES authentication"
  cancelled := "ISO AES authentication cancelled"
  expired := "ISO AES authentication deadline expired"

def requireSuccess (response : Checked.Response) (exactLength : Nat) (operation : String) :
    Result Checked.Response :=
  if response.success = false then
    .error ⟨.cardRejected,operation ++ " rejected",.rejected,response.status⟩
  else if response.data.length ≠ exactLength then
    .error (malformed (operation ++ " returned an unexpected length") successStatus)
  else .ok response

def requireTransmittable (command : Checked.Command) : Op Bool Unit := do
  let frame ← Op.value (Raw.encode command.apdu)
  let capabilities ← Op.capabilities
  Op.refuse (capabilities.maxTransmit < frame.length)
    (invalid "ISO authentication frame exceeds transport transmit capacity")

/-- The proof steps of an authentication; the local flag records attempted input or output. -/
def prove (reference : Checked.KeyReference) (derivedKey : Bytes) (options : ExchangeOptions)
    (encoding : LengthEncoding) : Op Bool Session := do
  Op.refuse (derivedKey.length ≠ 16 ∨ options.timeout ≤ 0 ∨ encoding.known = false)
    (invalid "ISO AES authentication requires a sixteen-byte key and valid controls")
  let capabilities ← Op.capabilities
  Op.refuse (capabilities.framing ≠ .iso7816)
    ⟨.unsupported,"ISO AES authentication requires an APDU transport",.notSent,0⟩
  -- Both host challenges exist before the card state changes.
  let budget ← Raw.Budget.start options
  let _ ← budget.next authenticationMessages false
  let hostRandom ← Op.secretOutput "ISO AES provider returned the wrong random byte count"
    (Op.random 32) 32
  let hostFirst := hostRandom.take 16
  let hostSecond := hostRandom.drop 16
  let getChallenge ← Op.value (Checked.Command.getChallenge 16 encoding)
  let internal ← Op.value
    (Checked.Command.internalAuthenticate .aes128 reference hostSecond encoding)
  let externalProbe ← Op.value
    (Checked.Command.externalAuthenticate .aes128 reference (zeros 32) encoding)
  requireTransmittable getChallenge
  requireTransmittable internal
  requireTransmittable externalProbe
  let remaining ← budget.next authenticationMessages false
  Program.modify fun _ => true
  let response ← Checked.Channel.exchange getChallenge remaining ⟨16,4,false⟩
  let challenge ← Op.ofResult (requireSuccess response 16 "ISO GET CHALLENGE")
  let ciphertext ← Op.mapError Error.afterDelivery
    (Op.secretOutput "ISO AES provider returned the wrong proof length"
      (Op.cbc derivedKey (zeros 16) (hostFirst ++ challenge.data) true) 32)
  let external ← Op.value
    (Checked.Command.externalAuthenticate .aes128 reference ciphertext encoding)
  let remaining ← budget.next authenticationMessages true
  let _ ← Op.mapError Error.afterDelivery do
    let response ← Checked.Channel.exchange external remaining ⟨32,4,false⟩
    Op.ofResult (requireSuccess response 0 "ISO EXTERNAL AUTHENTICATE")
  let remaining ← budget.next authenticationMessages true
  let third ← Op.mapError Error.afterDelivery do
    let response ← Checked.Channel.exchange internal remaining ⟨32,4,false⟩
    Op.ofResult (requireSuccess response 32 "ISO INTERNAL AUTHENTICATE")
  let cardProof ← Op.mapError Error.afterDelivery
    (Op.secretOutput "ISO AES provider returned the wrong card proof length"
      (Op.cbc derivedKey (ciphertext.drop 16) third.data false) 32)
  Op.refuse (constantTimeEqual hostSecond (cardProof.drop 16) = false)
    ⟨.authentication,"ISO card proof does not match the host challenge",.unknown,0⟩
  let _ ← budget.next authenticationMessages true
  pure {
    reference
    key := hostFirst.take 4 ++ cardProof.take 4 ++ (hostFirst.drop 12).take 4 ++
      (cardProof.drop 12).take 4
    generation := budget.generation }

def authenticate {τ : Type} (reference : Checked.KeyReference) (derivedKey : Bytes)
    (options : ExchangeOptions) (encoding : LengthEncoding := .automatic) : Op τ Session :=
  Program.within false (Op.recover (fun attempted =>
    ⟨.internal,"ISO AES authentication dependency failed",if attempted then .unknown else .notSent,0⟩)
    (prove reference derivedKey options encoding))

end Authentication
end DesfireSdk.Iso7816.Aes
