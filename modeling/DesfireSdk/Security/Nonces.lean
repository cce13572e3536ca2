import DesfireSdk.Foundation.Delivery
import DesfireSdk.Native.Raw.Codec

/-! The exchange of nonces that every native AES authentication starts with. -/
namespace DesfireSdk.Security
open Interaction

/-- Sends one authentication frame and parses its answer. -/
abbrev AuthenticationExchange (τ : Type) := Byte → Bytes → Op τ Native.Raw.Response

/-- Only the exact expected phase is accepted before anything is decrypted. -/
def requirePhase (operation : String) (response : Native.Raw.Response) (expectedStatus : Byte)
    (expectedSize : Nat) : Result Unit :=
  if response.status ≠ expectedStatus then
    if response.status ≠ 0x00 ∧ response.status ≠ 0xAF then
      .error ⟨.cardRejected,operation ++ " was rejected by card",.rejected,response.status.toUInt16⟩
    else .error ⟨.malformedResponse,operation ++ " returned an unexpected phase status",.unknown,
      response.status.toUInt16⟩
  else if response.data.length ≠ expectedSize then
    .error ⟨.malformedResponse,operation ++ " returned an invalid encrypted field length",.unknown,0⟩
  else .ok ()

/-- A nonce rotated one byte left in transmitted order. -/
def rotateLeft (input : Bytes) : Bytes := input.drop 1 ++ input.take 1

/-- Bytes copied into a zeroed array of a fixed size. -/
def copyInto (size : Nat) (input : Bytes) : Bytes := (input ++ zeros size).take size

@[simp] theorem length_copyInto (size : Nat) (input : Bytes) : (copyInto size input).length = size := by
  simp [copyInto]

/-- Bytes of a known number, one by one. -/
theorem eq_ofFn {n : Nat} {bytes : Bytes} (h : bytes.length = n) : ∃ f : Fin n → Byte, bytes = List.ofFn f := by
  subst h
  exact ⟨fun i => bytes[i],List.ofFn_getElem.symm⟩

/-- Both nonces and the decrypted last answer. -/
structure Nonces where
  host : Bytes
  card : Bytes
  terminal : Bytes
  deriving DecidableEq

/-- What tells one exchange of nonces from another. -/
structure NonceProfile where
  operation : String
  sizeMessage : String
  initialCommand : Byte
  terminalSize : Nat
  /-- The IV of the host proof, from the first encrypted answer. -/
  proofIv : Bytes → Bytes
  /-- The IV of the last answer, from the encrypted proof. -/
  terminalIv : Bytes → Bytes

/-- Exchanges nonces, proving the host's knowledge of the key to the card. -/
def exchangeNonces {τ : Type} (profile : NonceProfile) (initialPayload key : Bytes)
    (exchange : AuthenticationExchange τ) : Op τ Nonces := do
  let randomA ← Op.secretOutput profile.sizeMessage (Op.random 16) 16
  let initial ← exchange profile.initialCommand initialPayload
  Op.ofResult (requirePhase profile.operation initial 0xAF 16)
  let randomB ← Op.mapError Error.asUnknown
    (Op.secretOutput profile.sizeMessage (Op.cbc key (zeros 16) initial.data false) 16)
  let encryptedProof ← Op.mapError Error.asUnknown (Op.secretOutput profile.sizeMessage
    (Op.cbc key (profile.proofIv initial.data) (randomA ++ rotateLeft randomB) true) 32)
  let terminal ← Op.mapError Error.afterDelivery (exchange 0xAF encryptedProof)
  Op.ofResult (requirePhase profile.operation terminal 0x00 profile.terminalSize)
  let plaintext ← Op.mapError Error.asUnknown (Op.secretOutput profile.sizeMessage
    (Op.cbc key (profile.terminalIv encryptedProof) terminal.data false) profile.terminalSize)
  pure ⟨randomA,randomB,plaintext⟩

end DesfireSdk.Security
