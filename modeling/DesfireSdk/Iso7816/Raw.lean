import DesfireSdk.Foundation.Delivery

/-! Raw ISO commands with continuation frames under one deadline and generation. -/
namespace DesfireSdk.Iso7816.Raw
open Interaction

/-- The documented length representations, and any other value of the enumeration. -/
inductive LengthEncoding
  | automatic | shortApdu | extended
  | other (value : Nat)
  deriving DecidableEq, Repr

def LengthEncoding.known : LengthEncoding → Bool
  | other _ => false
  | _ => true

structure Apdu where
  cla : Byte
  ins : Byte
  p1 : Byte
  p2 : Byte
  data : Bytes := []
  le : Option Nat := none
  encoding : LengthEncoding := .automatic
  deriving DecidableEq, Repr

structure Response where
  data : Bytes
  status : UInt16
  deriving DecidableEq, Repr

def maximumCommandData : Nat := 65535
def maximumExpectedData : Nat := 65536

def malformed (message : String) (status : UInt16 := 0) : Error :=
  ⟨.malformedResponse,message,.unknown,status⟩

def encode (apdu : Apdu) : Result Bytes :=
  if apdu.encoding.known = false ∨ maximumCommandData < apdu.data.length ∨
      ∃ le ∈ apdu.le, le = 0 ∨ maximumExpectedData < le then
    .error (invalid "ISO command has an invalid data or expected length")
  else
    let needsExtended := 255 < apdu.data.length ∨ ∃ le ∈ apdu.le, 256 < le
    if apdu.encoding = .shortApdu ∧ needsExtended then
      .error (invalid "ISO command exceeds short APDU length capacity")
    else
      let extended := apdu.encoding = .extended ∨ needsExtended
      .ok ([apdu.cla,apdu.ins,apdu.p1,apdu.p2] ++
        (if apdu.data = [] then []
          else (if extended then [0x00,UInt8.ofNat (apdu.data.length / 256)] else []) ++
            UInt8.ofNat apdu.data.length :: apdu.data) ++
        (match apdu.le with
          | none => []
          | some le =>
            (if extended then (if apdu.data = [] then [0x00] else []) ++ [UInt8.ofNat (le / 256)] else []) ++
              [UInt8.ofNat le]))

def decode (frame : Bytes) : Result Response :=
  if frame.length < 2 then .error (malformed "ISO response lacks SW1 and SW2")
  else .ok ⟨frame.take (frame.length - 2),
    ((frame.getD (frame.length - 2) 0).toUInt16 <<< 8) ||| (frame.getLastD 0).toUInt16⟩

/-- Byte, frame and length-correction limits of one exchange. -/
structure Limits where
  maxResponse : Nat := 65536
  maxFrames : Nat := 1024
  correctLength : Bool := false
  deriving DecidableEq, Repr

/-- One elapsed-time budget and card generation. -/
structure Budget where
  options : ExchangeOptions
  generation : UInt64
  started : Int
  deriving DecidableEq, Repr

/-- The messages of a budget's refusals. -/
structure BudgetMessages where
  removed : String
  cancelled : String
  expired : String

namespace Budget
variable {τ : Type}

def start (options : ExchangeOptions) : Op τ Budget := do
  let generation ← Op.generation
  let started ← Op.now
  pure ⟨options,generation,started⟩

/-- Controls with the remaining deadline for the next frame. -/
def next (messages : BudgetMessages) (budget : Budget) (sent : Bool) : Op τ ExchangeOptions := do
  let outcome : Outcome := if sent then .unknown else .notSent
  let generation ← Op.generation
  Op.refuse (generation ≠ budget.generation) ⟨.cardRemoved,messages.removed,outcome,0⟩
  let stop ← Op.stopRequested .operation
  Op.refuse stop ⟨.cancelled,messages.cancelled,outcome,0⟩
  let now ← Op.now
  let elapsed := (now - budget.started).tdiv 1000000
  Op.refuse (budget.options.timeout ≤ 0 ∨ budget.options.timeout ≤ elapsed)
    ⟨.timeout,messages.expired,outcome,0⟩
  pure ⟨budget.options.timeout - elapsed⟩

end Budget

def channelMessages : BudgetMessages where
  removed := "Card state changed during ISO command"
  cancelled := "ISO command cancelled"
  expired := "ISO logical command deadline expired"

/-- The position of one exchange between two frames. -/
structure Progress where
  request : Bytes
  sent : Bool := false
  continuation : Bool := false
  corrected : Bool := false
  assembled : Bytes := []
  deriving DecidableEq, Repr

/-- At most the given number of further frames; the local flag records attempted input or output. -/
def exchangeLoop (apdu : Apdu) (limits : Limits) (transportLimits : TransportCapabilities)
    (budget : Budget) : Nat → Progress → Op Bool Response
  | 0,_ => Op.reject (malformed "ISO command exceeded configured physical frame limit")
  | frames+1,p => do
    let remaining ← budget.next channelMessages p.sent
    Op.refuse (transportLimits.maxTransmit < p.request.length)
      ⟨.invalidArgument,"ISO continuation exceeds transport capacity",
        if p.sent then .unknown else .notSent,0⟩
    Program.modify fun _ => true
    let frame ← Op.mapError (fun e => if p.sent then e.afterDelivery else e)
      (Op.catchAll id ⟨.transport,"ISO transport threw during exchange",.unknown,0⟩
        (Op.transportExchange p.request remaining))
    let generation ← Op.generation
    Op.refuse (generation ≠ budget.generation)
      ⟨.cardRemoved,"Card state changed after ISO response",.unknown,0⟩
    Op.refuse (transportLimits.maxReceive < frame.length)
      (malformed "ISO response exceeds advertised transport capacity")
    let response ← Op.ofResult (decode frame)
    let sw1 := (response.status >>> 8).toUInt8
    let sw2 := response.status.toUInt8
    Op.refuse (sw1 = 0x6C ∧ response.data ≠ [])
      (malformed "ISO length-rejection response unexpectedly contains data" response.status)
    if sw1 = 0x6C ∧ limits.correctLength ∧ ¬p.continuation ∧ ¬p.corrected then do
      let adjusted := if sw2 = 0 then 256 else sw2.toNat
      Op.refuse (limits.maxResponse < adjusted)
        (malformed "ISO corrected length exceeds configured response limit" response.status)
      let encoded ← Op.mapError Error.afterDelivery
        (Op.ofResult (encode {apdu with le := some adjusted}))
      exchangeLoop apdu limits transportLimits budget frames
        {p with request := encoded,sent := true,corrected := true}
    else do
      Op.refuse (sizeSub limits.maxResponse p.assembled.length < response.data.length)
        (malformed "ISO response exceeds configured aggregate byte limit" response.status)
      let assembled := p.assembled ++ response.data
      if sw1 ≠ 0x61 then pure ⟨assembled,response.status⟩
      else do
        Op.refuse (assembled.length = limits.maxResponse)
          (malformed "ISO continuation would exceed configured aggregate byte limit" response.status)
        exchangeLoop apdu limits transportLimits budget frames
          ⟨[0x00,0xC0,0x00,0x00,sw2],true,true,p.corrected,assembled⟩

namespace Channel
variable {τ : Type}

def reset : Op τ Unit := do
  let admission ← Op.admission .iso
  Program.refuse (admission = .failed) .thrown
  Op.refuse (admission = .busy)
    ⟨.busy,"ISO transport callback cannot reenter the channel",.notSent,0⟩
  Op.catchAll id ⟨.internal,"ISO transport reset threw",.unknown,0⟩ Op.resetCard

/-- The part of an exchange that a failing dependency ends. -/
def exchangeFrames (apdu : Apdu) (options : ExchangeOptions) (limits : Limits) : Op Bool Response := do
  Op.refuse (options.timeout ≤ 0 ∨ limits.maxResponse = 0 ∨ limits.maxFrames = 0 ∨
      65536 < limits.maxFrames)
    (invalid "ISO exchange requires positive timeout and bounded byte/frame limits")
  let transportLimits ← Op.capabilities
  Op.refuse (transportLimits.framing ≠ .iso7816)
    ⟨.unsupported,"Raw ISO commands require an APDU-capable transport",.notSent,0⟩
  Op.refuse (transportLimits.maxReceive < 2) (invalid "ISO transport cannot receive a status word")
  let initial ← Op.ofResult (encode apdu)
  Op.refuse (transportLimits.maxTransmit < initial.length)
    (invalid "ISO command exceeds transport transmit capacity")
  let budget ← Budget.start options
  exchangeLoop apdu limits transportLimits budget limits.maxFrames {request := initial}

/-- Runs one exchange under the channel lock. -/
def exchange (apdu : Apdu) (options : ExchangeOptions) (limits : Limits) : Op τ Response := do
  let admission ← Op.admission .iso
  Program.refuse (admission = .failed) .thrown
  Op.refuse (admission = .busy)
    ⟨.busy,"ISO transport callback cannot reenter the channel",.notSent,0⟩
  Program.within false (Op.recover (fun attempted => ⟨.internal,"ISO exchange dependency failed",
    if attempted then .unknown else .notSent,0⟩) (exchangeFrames apdu options limits))

end Channel
end DesfireSdk.Iso7816.Raw
