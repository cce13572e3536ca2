import DesfireSdk.Foundation.Delivery
import DesfireSdk.Native.Raw.Codec

/-! Serialized native exchanges with additional frames under one deadline. -/
namespace DesfireSdk.Native.Raw
open Interaction

def additionalFrameStatus : Byte := 0xAF
def maximumChainFrames : Nat := 4096

def mapFraming : DesfireSdk.Framing → Framing
  | .native => .direct
  | .iso7816 => .isoWrapped

/-- A channel keeps the framing chosen when it was connected. -/
structure RawNativeChannel where
  framing : Framing
  deriving DecidableEq, Repr

/-- Exclusive ownership of a channel across the frames of one operation. -/
structure Transaction where
  framing : Framing
  deadline : Int
  generation : UInt64
  sentAnyFrame : Bool := false
  deriving DecidableEq, Repr

def nanosecondsPerMillisecond : Int := 1000000

/-- A signed 64-bit count of nanoseconds. -/
def nanoseconds (n : Int) : Int := Int.bmod n (2^64)

def ceilMilliseconds (n : Int) : Int := -((-n) / nanosecondsPerMillisecond)

def normalizeDelivery (error : Error) (sentAnyFrame : Bool) : Error :=
  if sentAnyFrame then error.afterDelivery else error

namespace Transaction

def priorOutcome (t : Transaction) : Outcome := if t.sentAnyFrame then .unknown else .notSent

/-- Controls reduced to the remaining common deadline. -/
def remainingOptions : Op Transaction ExchangeOptions := do
  let t ← Program.get
  let now ← Op.now
  Op.refuse (t.deadline ≤ now) ⟨.timeout,"Native operation deadline expired",t.priorOutcome,0⟩
  let generation ← Op.generation
  Op.refuse (generation ≠ t.generation)
    ⟨.cardRemoved,"Card state changed during native operation",t.priorOutcome,0⟩
  let stop ← Op.stopRequested .operation
  Op.refuse stop ⟨.cancelled,"Native operation cancelled",t.priorOutcome,0⟩
  pure ⟨ceilMilliseconds (nanoseconds (t.deadline - now))⟩

def exchangeFrame (command : Byte) (data : Bytes) : Op Transaction Response := do
  let controls ← remainingOptions
  let t ← Program.get
  let capabilities ← Op.capabilities
  Op.refuse (capabilities.maxNativeFrame = 0 ∨ capabilities.maxNativeFrame - 1 < data.length)
    (normalizeDelivery (invalid "Native frame exceeds transport native capacity") t.sentAnyFrame)
  let encoded ← Op.mapError (fun e => normalizeDelivery e t.sentAnyFrame)
    (Op.ofResult (encode command data t.framing))
  Op.refuse (capabilities.maxTransmit < encoded.length)
    (normalizeDelivery (invalid "Native frame exceeds transport transmit capacity") t.sentAnyFrame)
  let wireResponse ← Op.mapError (fun e => normalizeDelivery e t.sentAnyFrame)
    (Op.catchAll id ⟨.internal,"Native transport threw",.unknown,0⟩
      (Op.transportExchange encoded controls))
  Program.modify fun t => {t with sentAnyFrame := true}
  let generation ← Op.generation
  Op.refuse (generation ≠ t.generation)
    ⟨.cardRemoved,"Card state changed after native frame",.unknown,0⟩
  Op.refuse (capabilities.maxReceive < wireResponse.length)
    ⟨.malformedResponse,"Native response exceeds transport receive capacity",.unknown,0⟩
  Op.ofResult (decode wireResponse t.framing)

/-- The position of a chained exchange between two frames. -/
structure Chain where
  uploaded : Nat
  command : Byte
  response : Bytes
  deriving DecidableEq, Repr

/-- The data of the next frame; the first may have a required size. -/
def currentSize (request : Request) (dataPerFrame : Nat) (first : Bool) (uploaded : Nat) : Nat :=
  match first,request.firstFrameDataSize with
  | true,some size => size
  | _,_ => min dataPerFrame (sizeSub request.data.length uploaded)

/-- At most the given number of further frames. -/
def exchangeLoop (request : Request) (dataPerFrame : Nat) :
    Nat → Bool → Chain → Op Transaction Response
  | 0,_,_ => Op.reject
      ⟨.malformedResponse,"Native command exceeded additional-frame limit",.unknown,0⟩
  | frames+1,first,chain => do
    let size := currentSize request dataPerFrame first chain.uploaded
    let response ← exchangeFrame chain.command ((request.data.drop chain.uploaded).take size)
    let uploaded := chain.uploaded + size
    Op.refuse (sizeSub request.maximumResponse chain.response.length < response.data.length)
      ⟨.malformedResponse,"Native chained response exceeds configured limit",.unknown,0⟩
    Op.refuse (uploaded < request.data.length ∧
        (response.data ≠ [] ∨ response.status ≠ additionalFrameStatus))
      ⟨.malformedResponse,"Card did not acknowledge native request continuation",.unknown,0⟩
    if response.status ≠ additionalFrameStatus then do
      Op.refuse (uploaded < request.data.length)
        ⟨.malformedResponse,"Card ended native request before accepting all data",.unknown,0⟩
      pure ⟨response.status,chain.response ++ response.data⟩
    else
      exchangeLoop request dataPerFrame frames false
        ⟨uploaded,additionalFrameStatus,chain.response ++ response.data⟩

/-- The data one frame can carry over this transport. -/
def dataPerFrame (framing : Framing) (capabilities : TransportCapabilities) : Nat :=
  let size := min (capabilities.maxTransmit - framingOverhead framing)
    (capabilities.maxNativeFrame - 1)
  match framing with
  | .direct => size
  | .isoWrapped => min size 255

def exchange (request : Request) : Op Transaction Response := do
  let t ← Program.get
  Op.refuse (request.maximumResponse = 0)
    (normalizeDelivery (invalid "Native response limit must be positive") t.sentAnyFrame)
  let capabilities ← Op.capabilities
  Op.refuse (capabilities.maxTransmit ≤ framingOverhead t.framing ∨ capabilities.maxNativeFrame < 2)
    (normalizeDelivery (invalid "Transport cannot carry a native command frame") t.sentAnyFrame)
  let perFrame := dataPerFrame t.framing capabilities
  Op.refuse (perFrame = 0)
    (normalizeDelivery (invalid "Transport has no native command data capacity") t.sentAnyFrame)
  Op.refuse (∃ size ∈ request.firstFrameDataSize,
      size = 0 ∨ request.data.length ≤ size ∨ perFrame < size)
    (normalizeDelivery (invalid "Required first-frame boundary cannot fit this transport")
      t.sentAnyFrame)
  Op.refuse (request.singleContinuationFrame ∧
      (request.firstFrameDataSize = none ∨
        ∃ size ∈ request.firstFrameDataSize, perFrame < sizeSub request.data.length size))
    (normalizeDelivery (invalid "Required continuation frame cannot fit this transport")
      t.sentAnyFrame)
  exchangeLoop request perFrame maximumChainFrames true ⟨0,request.command,[]⟩

end Transaction

namespace RawNativeChannel
variable {τ : Type}

/-- Starts one exclusive operation. -/
def begin (channel : RawNativeChannel) (options : ExchangeOptions) : Op τ Transaction := do
  Op.refuse (options.timeout ≤ 0) (invalid "Native operation timeout must be positive")
  let stop ← Op.stopRequested .operation
  Op.refuse stop ⟨.cancelled,"Native operation cancelled before transmission",.notSent,0⟩
  let admission ← Op.admission .native
  Op.refuse (admission = .failed) ⟨.internal,"Native operation lock failed",.notSent,0⟩
  Op.refuse (admission = .busy)
    ⟨.busy,"Native transport callback cannot reenter the channel",.notSent,0⟩
  let now ← Op.now
  let generation ← Op.generation
  pure {
    framing := channel.framing
    deadline := nanoseconds (now + options.timeout * nanosecondsPerMillisecond)
    generation }

def exchange (channel : RawNativeChannel) (request : Request) (options : ExchangeOptions) :
    Op τ Response := do
  let transaction ← channel.begin options
  Program.within transaction (Transaction.exchange request)

def reset : Op τ Unit :=
  Op.catchAll id ⟨.internal,"Native transport reset threw",.unknown,0⟩ do
    let admission ← Op.admission .native
    Program.refuse (admission = .failed) .thrown
    Op.refuse (admission = .busy)
      ⟨.busy,"Native transport callback cannot reset an active channel",.notSent,0⟩
    Op.resetCard

end RawNativeChannel
end DesfireSdk.Native.Raw
