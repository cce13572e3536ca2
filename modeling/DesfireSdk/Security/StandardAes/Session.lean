import DesfireSdk.Foundation.Delivery
import DesfireSdk.Native.Raw.Codec

/-! Standard AES secure messaging with a chained initialization vector. -/
namespace DesfireSdk.Security.StandardAes
open Interaction

def aesBlockSize : Nat := 16
def transmittedMacSize : Nat := 8
def crcSize : Nat := 4

structure AuthenticationMaterial where
  sessionKey : Bytes
  deriving DecidableEq

inductive Phase
  | ready | awaitingResponse | invalid
  deriving DecidableEq, Repr

structure Session where
  sessionKey : Bytes
  iv : Bytes
  phase : Phase
  sessionKeySize : sessionKey.length = aesBlockSize
  ivSize : iv.length = aesBlockSize
  deriving DecidableEq

def secretOutput {τ : Type} : Op τ Bytes → Nat → Op τ Bytes :=
  Op.secretOutput "Standard AES primitive returned an unexpected output length"

/-- The block shifted by one bit, with the bit that leaves it. -/
def shiftLeft : Bytes → Bytes × Byte
  | [] => ([],0)
  | current :: rest =>
    ((current <<< 1 ||| (shiftLeft rest).2) :: (shiftLeft rest).1,current >>> 7)

/-- Doubles a subkey in the big-endian field representation. -/
def doubleCmacSubkey (block : Bytes) : Bytes :=
  let shifted := (shiftLeft block).1
  if (block.headD 0) &&& 0x80 ≠ 0 then
    shifted.take (shifted.length - 1) ++ [(shifted.getLastD 0) ^^^ 0x87]
  else shifted

def xorBytes (left right : Bytes) : Bytes := List.zipWith (fun a b => a ^^^ b) left right

/-- The message completed to whole blocks with its subkey mixed into the last. -/
def cmacBlocks (encryptedZero input : Bytes) : Bytes :=
  let firstSubkey := doubleCmacSubkey encryptedZero
  let complete := input ≠ [] ∧ input.length % aesBlockSize = 0
  let blockCount := if input = [] then 1 else (input.length + aesBlockSize - 1) / aesBlockSize
  let used := (blockCount - 1) * aesBlockSize
  if complete then input.take used ++ xorBytes (input.drop used) firstSubkey
  else input.take used ++ xorBytes
    (input.drop used ++ 0x80 :: zeros (aesBlockSize - 1 - input.length % aesBlockSize))
    (doubleCmacSubkey firstSubkey)

def crcMatches (stored : Bytes) (calculated : Nat) : Bool :=
  if stored.length ≠ crcSize then false else constantTimeEqual stored (putLe calculated crcSize)

/-- Whether one clear-data boundary satisfies the response CRC and the zero padding. -/
def verifies (clear : Bytes) (status : Byte) (dataSize : Nat) : Bool :=
  if clear.length - crcSize < dataSize then false
  else if aesBlockSize ≤ clear.length - dataSize - crcSize then false
  else (clear.drop (dataSize + crcSize)).all (· == 0) &&
    crcMatches ((clear.drop dataSize).take crcSize) (crc32 (clear.take dataSize ++ [status]))

/-- The boundaries considered when the clear size is unknown, by growing padding. -/
def candidates (clear : Bytes) : List Nat :=
  (List.range (min (aesBlockSize - 1) (clear.length - crcSize) + 1)).map
    fun padding => clear.length - crcSize - padding

namespace Session

def create (material : AuthenticationMaterial) : Result Session :=
  if h : material.sessionKey.length = aesBlockSize then
    .ok ⟨material.sessionKey,zeros aesBlockSize,.ready,h,length_zeros _⟩
  else .error (DesfireSdk.invalid
    "Standard AES session requires a provider and sixteen-byte session key")

/-- Wipes the key and IV and rejects all future operations. -/
def invalidate (_ : Session) : Session :=
  ⟨zeros aesBlockSize,zeros aesBlockSize,.invalid,length_zeros _,length_zeros _⟩

/-- Copies one block into the IV and moves to the next phase. -/
def chain (block : Bytes) (phase : Phase) (s : Session) : Session :=
  {s with
    iv := (block ++ zeros aesBlockSize).take aesBlockSize
    phase
    ivSize := by simp [aesBlockSize]}

def notReady : Error := ⟨.sessionInvalid,"Standard AES session is not ready",.notSent,0⟩

def calculateCmac (input : Bytes) : Op Session Bytes := do
  let s ← Program.get
  Op.catchAll id ⟨.internal,"Standard AES CMAC calculation failed",.notSent,0⟩ do
    let encryptedZero ← secretOutput
      (Op.cbc s.sessionKey (zeros aesBlockSize) (zeros aesBlockSize) true) aesBlockSize
    Op.refuse (sizeMax / aesBlockSize < (input.length + aesBlockSize - 1) / aesBlockSize)
      (DesfireSdk.invalid "Standard AES CMAC input is too large")
    let blocks := cmacBlocks encryptedZero input
    let encrypted ← secretOutput (Op.cbc s.sessionKey s.iv blocks true) blocks.length
    pure (encrypted.drop (encrypted.length - aesBlockSize))

def prepareCmacCommand (command : Byte) (header data : Bytes) (transmitMac : Bool) :
    Op Session Bytes := do
  let s ← Program.get
  Op.refuse (s.phase ≠ .ready) notReady
  let macBytes := if transmitMac then transmittedMacSize else 0
  Op.refuse (sizeMax - 1 < header.length ∨ sizeMax - 1 - header.length < data.length ∨
      sizeMax - header.length < data.length ∨ sizeMax - macBytes < data.length + header.length)
    (DesfireSdk.invalid "Standard AES command is too large")
  Op.catchAll invalidate ⟨.internal,"Standard AES command preparation failed",.notSent,0⟩ do
    let mac ← Op.onError (fun _ => invalidate) (calculateCmac (command :: (header ++ data)))
    Program.modify (chain mac .awaitingResponse)
    pure (header ++ data ++ if transmitMac then mac.take transmittedMacSize else [])

def preparePlain (command : Byte) (header data : Bytes) : Op Session Bytes :=
  prepareCmacCommand command header data false

def prepareMac (command : Byte) (header data : Bytes) : Op Session Bytes :=
  prepareCmacCommand command header data (data ≠ [])

/-- The encrypted field of one Full command before encryption. -/
def fullPlaintext (command : Byte) (header data : Bytes) : Bytes :=
  -- ChangeKey of another key carries a CRC over the new key; its command CRC precedes that trailer.
  let changesAnotherAesKey := (command = 0xC4 ∨ command = 0xC6) ∧ data.length = 21
  let commandDataSize := if changesAnotherAesKey then data.length - crcSize else data.length
  let checksum := crc32 (command :: (header ++ data.take commandDataSize))
  let clearSize := data.length + crcSize
  let paddedSize := ((clearSize + aesBlockSize - 1) / aesBlockSize) * aesBlockSize
  data.take commandDataSize ++ putLe checksum crcSize ++ data.drop commandDataSize ++
    zeros (paddedSize - clearSize)

def prepareFull (command : Byte) (header data : Bytes) : Op Session Bytes :=
  if data = [] then prepareCmacCommand command header data false
  else do
    let s ← Program.get
    Op.refuse (s.phase ≠ .ready) notReady
    Op.refuse (sizeMax - 1 < header.length ∨ sizeMax - 1 - header.length < data.length ∨
        sizeMax - crcSize < data.length ∨ sizeMax - (aesBlockSize - 1) < data.length + crcSize)
      (DesfireSdk.invalid "Standard AES Full command is too large")
    let padded := fullPlaintext command header data
    Op.refuse (sizeMax - padded.length < header.length)
      (DesfireSdk.invalid "Standard AES Full command is too large")
    Op.catchAll invalidate
      ⟨.internal,"Standard AES Full command preparation failed",.notSent,0⟩ do
      let ciphertext ← Op.onError (fun _ => invalidate)
        (secretOutput (Op.cbc s.sessionKey s.iv padded true) padded.length)
      Program.modify (chain (ciphertext.drop (ciphertext.length - aesBlockSize)) .awaitingResponse)
      pure (header ++ ciphertext)

def notAwaiting : Error :=
  ⟨.sessionInvalid,"Standard AES session is not awaiting a response",.notSent,0⟩

def verifyResponse (response : Native.Raw.Response) : Op Session Bytes := do
  let s ← Program.get
  Op.refuse (s.phase ≠ .awaitingResponse) notAwaiting
  Op.refuseAfter invalidate (response.status = 0xAF)
    ⟨.malformedResponse,"Standard AES protected response is not terminal",.unknown,
      response.status.toUInt16⟩
  Op.refuseAfter invalidate (response.status ≠ 0x00)
    ⟨.cardRejected,"Card rejected standard AES command",.rejected,response.status.toUInt16⟩
  Op.refuseAfter invalidate (response.data.length < transmittedMacSize)
    ⟨.integrity,"Standard AES response has no complete CMAC",.unknown,0⟩
  Op.catchAll invalidate ⟨.internal,"Standard AES response verification failed",.unknown,0⟩ do
    let data := response.data.take (response.data.length - transmittedMacSize)
    let receivedMac := response.data.drop (response.data.length - transmittedMacSize)
    let mac ← Op.mapError Error.asUnknown (Op.onError (fun _ => invalidate)
      (calculateCmac (data ++ [response.status])))
    Op.refuseAfter invalidate (constantTimeEqual receivedMac (mac.take transmittedMacSize) = false)
      ⟨.integrity,"Standard AES response CMAC verification failed",.unknown,0⟩
    Program.modify (chain mac .ready)
    pure data

def acceptPlainResponse (response : Native.Raw.Response) : Op Session Bytes :=
  verifyResponse response

def verifyAndDecryptFullResponse (response : Native.Raw.Response) (expectedSize : Option Nat) :
    Op Session Bytes := do
  let s ← Program.get
  Op.refuse (s.phase ≠ .awaitingResponse) notAwaiting
  Op.refuseAfter invalidate (response.status = 0xAF)
    ⟨.malformedResponse,"Standard AES encrypted response is not terminal",.unknown,
      response.status.toUInt16⟩
  Op.refuseAfter invalidate (response.status ≠ 0x00)
    ⟨.cardRejected,"Card rejected standard AES command",.rejected,response.status.toUInt16⟩
  Op.refuseAfter invalidate (response.data = [] ∨ response.data.length % aesBlockSize ≠ 0)
    ⟨.integrity,"Standard AES encrypted response has invalid length",.unknown,0⟩
  Op.catchAll invalidate ⟨.internal,"Standard AES response decryption failed",.unknown,0⟩ do
    let clear ← Op.mapError Error.asUnknown (Op.onError (fun _ => invalidate)
      (secretOutput (Op.cbc s.sessionKey s.iv response.data false) response.data.length))
    let boundaries := match expectedSize with
      | some size => [size].filter (verifies clear response.status)
      | none => (candidates clear).filter (verifies clear response.status)
    Op.refuseAfter invalidate (1 < boundaries.length)
      ⟨.integrity,"Standard AES response has ambiguous CRC boundary",.unknown,0⟩
    match boundaries with
    | [] => do
      Program.modify invalidate
      Op.reject ⟨.integrity,"Standard AES response CRC or zero padding is invalid",.unknown,0⟩
    | size :: _ => do
      Program.modify (chain (response.data.drop (response.data.length - aesBlockSize)) .ready)
      pure (clear.take size)

end Session
end DesfireSdk.Security.StandardAes
