import DesfireSdk.Foundation.Bytes

/-! Range-checked identifiers, keys, and the metadata of key resolution and authentication. -/
namespace DesfireSdk.Model

/-- An integer below its protocol-specific upper bound. -/
@[ext] structure Number (maximum : Nat) where
  value : Nat
  bounded : value ≤ maximum
  deriving DecidableEq

def Number.make {maximum : Nat} (value : Nat) : Result (Number maximum) :=
  if h : value ≤ maximum then .ok ⟨value,h⟩ else .error (invalid "Value exceeds the EV3 field range")

/-- Three-byte native application identifier; zero selects the PICC. -/
abbrev ApplicationId := Number 0x00FFFFFF
abbrev FileNumber := Number 31
abbrev KeyNumber := Number 63
abbrev Offset := Number 0x00FFFFFF
abbrev ByteCount := Number 0x00FFFFFF

/-- Sixteen key bytes, or nothing after the key was moved from. -/
structure Aes128Key where
  view : Bytes
  exact : view.length = 16 ∨ view = []
  deriving DecidableEq

def Aes128Key.valid (key : Aes128Key) : Bool := key.view.length == 16

inductive KeyPurpose
  | authentication | currentKey | replacementKey | delegatedApplication | transactionMac
  | offlineOperation
  deriving DecidableEq, Repr

inductive AuthenticationProfile
  | standardAes | ev2First | ev2NonFirst | isoAes
  deriving DecidableEq, Repr

inductive KeyScope
  | native | isoPicc | isoApplication
  deriving DecidableEq, Repr

/-- A bounded opaque identifier understood by a key provider. -/
structure KeyReference where
  value : Bytes
  bounded : 1 ≤ value.length ∧ value.length ≤ 1024
  deriving DecidableEq

def KeyReference.make (identifier : Bytes) : Result KeyReference :=
  if h : 1 ≤ identifier.length ∧ identifier.length ≤ 1024 then .ok ⟨identifier,h⟩
  else .error (invalid "Key reference must contain 1 through 1024 bytes")

def maximumContextSize : Nat := 64 * 1024

/-- Policy and diversification inputs for one AES-128 key. -/
structure Aes128DerivationContext where
  purpose : KeyPurpose
  keyNumber : KeyNumber
  application : Option ApplicationId
  keySet : Option Byte
  diversificationInput : Bytes
  userContext : Bytes
  validKeySet : ∀ set ∈ keySet, set ≤ 15
  bounded : diversificationInput.length + userContext.length ≤ maximumContextSize
  deriving DecidableEq

/-- Decided at the one set that may be there, not over all bytes. -/
instance decidableKeySet (keySet : Option Byte) : Decidable (∀ set ∈ keySet, set ≤ 15) :=
  Option.decidableForallMem keySet

def Aes128DerivationContext.make (purpose : KeyPurpose) (keyNumber : KeyNumber)
    (application : Option ApplicationId) (keySet : Option Byte)
    (diversificationInput userContext : Bytes) : Result Aes128DerivationContext :=
  if hset : ∀ set ∈ keySet, set ≤ 15 then
    if hsize : diversificationInput.length + userContext.length ≤ maximumContextSize then
      .ok ⟨purpose,keyNumber,application,keySet,diversificationInput,userContext,hset,hsize⟩
    else .error (invalid "AES-128 derivation context exceeds 65536 bytes")
  else .error (invalid "AES-128 derivation key set must be zero through 15")

/-- Authentication purpose and profile come together, and the profile fits the scope. -/
def KeyRequest.Consistent (context : Aes128DerivationContext) (scope : KeyScope)
    (profile : Option AuthenticationProfile) : Prop :=
  (context.purpose = .authentication ↔ profile.isSome) ∧
    ∀ p ∈ profile, (p = .isoAes ↔ scope ≠ .native)

instance (context : Aes128DerivationContext) (scope : KeyScope)
    (profile : Option AuthenticationProfile) :
    Decidable (KeyRequest.Consistent context scope profile) :=
  inferInstanceAs (Decidable (_ ∧ _))

/-- The metadata supplied to one key-provider resolution. -/
structure KeyRequest where
  reference : KeyReference
  context : Aes128DerivationContext
  scope : KeyScope
  authenticationProfile : Option AuthenticationProfile
  consistent : KeyRequest.Consistent context scope authenticationProfile
  deriving DecidableEq

def KeyRequest.make (reference : KeyReference) (context : Aes128DerivationContext)
    (scope : KeyScope) (profile : Option AuthenticationProfile) : Result KeyRequest :=
  if (context.purpose = .authentication) ≠ (profile.isSome = true) then
    .error (invalid "Key request authentication purpose and profile must be supplied together")
  else if h : KeyRequest.Consistent context scope profile then
    .ok ⟨reference,context,scope,profile,h⟩
  else .error (invalid "Key request authentication profile does not match its scope")

/-- Metadata verified by EV2 First and retained by NonFirst. -/
structure AuthenticationInfo where
  transactionIdentifier : Bytes := zeros 4
  piccCapabilities : Bytes := zeros 6
  pcdCapabilities : Bytes := zeros 6
  transactionSize : transactionIdentifier.length = 4 := by simp
  piccSize : piccCapabilities.length = 6 := by simp
  pcdSize : pcdCapabilities.length = 6 := by simp
  deriving DecidableEq

end DesfireSdk.Model
