import DesfireSdk.Security.StandardAes.Session
import DesfireSdk.Security.Nonces

/-! Standard AES mutual authentication. -/
namespace DesfireSdk.Security.StandardAes
open Interaction

def authenticationProfile : NonceProfile where
  operation := "Standard AES authentication"
  sizeMessage := "Standard AES primitive returned an unexpected output length"
  initialCommand := 0xAA
  terminalSize := aesBlockSize
  proofIv initial := initial
  terminalIv encryptedProof := encryptedProof.drop (encryptedProof.length - aesBlockSize)

def authenticate {τ : Type} (keyNumber : Byte) (key : Bytes) (exchange : AuthenticationExchange τ) :
    Op τ AuthenticationMaterial := do
  Op.refuse (key.length ≠ aesBlockSize ∨ 0x3F < keyNumber)
    (invalid "Standard AES authentication requires a 16-byte key and an exchange")
  Op.catchAll id ⟨.internal,"Standard AES dependency threw an exception",.unknown,0⟩ do
    let nonces ← exchangeNonces authenticationProfile [keyNumber] key exchange
    Op.refuse (constantTimeEqual nonces.terminal (rotateLeft nonces.host) = false)
      ⟨.authentication,"Standard AES card proof did not match the host nonce",.unknown,0⟩
    pure ⟨nonces.host.take 4 ++ nonces.card.take 4 ++ (nonces.host.drop 12).take 4 ++
      (nonces.card.drop 12).take 4⟩

end DesfireSdk.Security.StandardAes
