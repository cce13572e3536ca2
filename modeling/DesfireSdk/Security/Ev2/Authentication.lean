import DesfireSdk.Security.Ev2.Session
import DesfireSdk.Security.Nonces

/-! EV2 First and NonFirst mutual authentication. -/
namespace DesfireSdk.Security.Ev2
open Interaction

def capabilitySize : Nat := 6

def authenticationOutput : String := "EV2 AES primitive returned an unexpected output length"

def firstProfile : NonceProfile where
  operation := "EV2 AES First authentication"
  sizeMessage := authenticationOutput
  initialCommand := 0x71
  terminalSize := 32
  proofIv _ := zeros aesBlockSize
  terminalIv _ := zeros aesBlockSize

def nonfirstProfile : NonceProfile where
  operation := "EV2 AES NonFirst authentication"
  sizeMessage := authenticationOutput
  initialCommand := 0x77
  terminalSize := aesBlockSize
  proofIv _ := zeros aesBlockSize
  terminalIv _ := zeros aesBlockSize

/-- The nonce bytes shared by both session-key vectors. -/
def sessionContext (randomA randomB : Bytes) : Bytes :=
  randomA.take 2 ++
    List.zipWith (fun a b => a ^^^ b) ((randomA.drop 2).take 6) (randomB.take 6) ++
    (randomB.drop 6).take 10 ++ (randomA.drop 8).take 8

section Authentication
variable {τ : Type}

def deriveKey (key label randomA randomB : Bytes) : Op τ Bytes :=
  Op.secretOutput authenticationOutput (Op.cmac key (label ++ sessionContext randomA randomB))
    aesBlockSize

/-- Both session keys, once the mutual proof is complete. -/
def deriveMaterial (key randomA randomB : Bytes) (information : Model.AuthenticationInfo) :
    Op τ AuthenticationMaterial := do
  let encryption ← deriveKey key [0xA5,0x5A,0x00,0x01,0x00,0x80] randomA randomB
  let mac ← deriveKey key [0x5A,0xA5,0x00,0x01,0x00,0x80] randomA randomB
  pure ⟨encryption,mac,information⟩

/-- The metadata of the last answer of First. -/
def terminalInformation (terminal : Bytes) : Model.AuthenticationInfo where
  transactionIdentifier := copyInto 4 terminal
  piccCapabilities := copyInto 6 (terminal.drop 20)
  pcdCapabilities := copyInto 6 (terminal.drop 26)

def authenticateFirst (keyNumber : Byte) (key pcdCapabilities : Bytes)
    (exchange : AuthenticationExchange τ) : Op τ AuthenticationMaterial := do
  Op.refuse (key.length ≠ aesBlockSize ∨ 0x3F < keyNumber ∨ capabilitySize < pcdCapabilities.length)
    (invalid ("EV2 AES First authentication requires a 16-byte key, zero through six PCD " ++
      "capability bytes, and an exchange"))
  Op.catchAll id ⟨.internal,"EV2 AES First dependency threw an exception",.unknown,0⟩ do
    let nonces ← exchangeNonces firstProfile
      (keyNumber :: UInt8.ofNat pcdCapabilities.length :: pcdCapabilities) key exchange
    Op.refuse (constantTimeEqual ((nonces.terminal.drop 4).take aesBlockSize)
        (rotateLeft nonces.host) = false)
      ⟨.authentication,"EV2 AES First card proof did not match the host nonce",.unknown,0⟩
    Op.refuse (constantTimeEqual ((nonces.terminal.drop 26).take capabilitySize)
        (copyInto capabilitySize pcdCapabilities) = false)
      ⟨.authentication,"EV2 AES First card capability echo did not match the request",.unknown,0⟩
    Op.mapError Error.asUnknown
      (deriveMaterial key nonces.host nonces.card (terminalInformation nonces.terminal))

def authenticateNonfirst (keyNumber : Byte) (key : Bytes) (previous : Model.AuthenticationInfo)
    (exchange : AuthenticationExchange τ) : Op τ AuthenticationMaterial := do
  Op.refuse (key.length ≠ aesBlockSize ∨ 0x3F < keyNumber)
    (invalid "EV2 AES NonFirst authentication requires a 16-byte key and exchange")
  Op.catchAll id ⟨.internal,"EV2 AES NonFirst dependency threw an exception",.unknown,0⟩ do
    let nonces ← exchangeNonces nonfirstProfile [keyNumber] key exchange
    Op.refuse (constantTimeEqual nonces.terminal (rotateLeft nonces.host) = false)
      ⟨.authentication,"EV2 AES NonFirst card proof did not match the host nonce",.unknown,0⟩
    Op.mapError Error.asUnknown (deriveMaterial key nonces.host nonces.card previous)

end Authentication
end DesfireSdk.Security.Ev2
