import DesfireSdk.Foundation.Calm
import DesfireSdk.Foundation.Interruptions
import DesfireSdk.Foundation.Primitives
import DesfireSdk.Iso7816.CommandCases
import DesfireSdk.Iso7816.Session
import DesfireSdk.Security.SessionKeys

/-!
# ISO logins at a card

A card reads each command from its bytes. It gives out a challenge, lets the host prove the key with it, proves
the key with the challenge of the host, and ends with a session key of its own.
-/
namespace DesfireSdk.Iso7816
open Interaction Program

/-- What a card answers to a command. -/
structure Answer where
  data : Bytes
  sw1 : Byte
  sw2 : Byte
  deriving DecidableEq, Repr

def Answer.bytes (answer : Answer) : Bytes := answer.data ++ [answer.sw1,answer.sw2]

def accepted (data : Bytes) : Answer := ⟨data,0x90,0x00⟩
def verificationFailed : Answer := ⟨[],0x63,0x00⟩
def wrongLength : Answer := ⟨[],0x67,0x00⟩
def conditionsNotSatisfied : Answer := ⟨[],0x69,0x85⟩
def unknownInstruction : Answer := ⟨[],0x6D,0x00⟩

/-- What a card answers to the bytes of a command, and the state it is in afterwards. -/
abbrev Responder (κ : Type) := κ → Bytes → Answer × κ

/-- A card takes note of every frame. -/
def Responder.observe {κ : Type} (card : Responder κ) (k : κ) (event : Event Environment) : κ :=
  match deliveryOf event with
  | some d => (card k d.frame).2
  | none => k

/-- Frames reach a card. -/
def reaching : Query → Prop
  | .exchange .. => True
  | _ => False

theorem Responder.observe_idle {κ : Type} (card : Responder κ) : Idle card.observe reaching := by
  intro event hevent k
  obtain ⟨query,reply⟩ := event
  cases query <;> first | rfl | exact absurd trivial hevent

/-- The transport carries every frame to the card and its answer back, and the card stays in its field. -/
structure Connected {κ : Type} (o : Oracle Environment) (limits : TransportCapabilities) (card : Responder κ)
    (start : κ) : Prop where
  capabilities : ∀ h, o h .capabilities = some limits
  generation : ∀ h h', o h .generation = o h' .generation
  free : ∀ h, o h (.admission .iso) = .entered
  answers : ∀ h frame options, (o h (.exchange frame options)).answer =
    .ok (card (reached card.observe start h) frame).1.bytes

/-- A reader that carries commands to a card, over a clock that stands still and a provider that works. -/
def Responder.wired {κ : Type} (card : Responder κ) (limits : TransportCapabilities) (P : Primitives) (start : κ) :
    Oracle Environment
  | _,.now => (0 : Int)
  | _,.generation => (1 : UInt64)
  | _,.capabilities => some limits
  | _,.stopRequested _ => false
  | _,.admission _ => Admission.entered
  | h,.exchange frame _ => ⟨1,.ok (card (reached card.observe start h) frame).1.bytes⟩
  | _,.resetCard => (.ok () : Except Fault Unit)
  | _,.random size => .ok (zeros size)
  | _,.cbc key iv input encrypt => .ok (if encrypt then P.encrypt key iv input else P.decrypt key iv input)
  | _,.cmac key input => .ok (P.mac key input)
  | _,.derive _ _ => .ok zeroKey
  | _,.resolve _ => .ok zeroKey
  | _,.requestCancelled => (.ok false : Except Fault Bool)

theorem wired_connected {κ : Type} (card : Responder κ) (limits : TransportCapabilities) (P : Primitives) (start : κ) :
    Connected (card.wired limits P start) limits card start where
  capabilities _ := rfl
  generation _ _ := rfl
  free _ := rfl
  answers _ _ _ := rfl

theorem wired_computes {κ : Type} (card : Responder κ) (limits : TransportCapabilities) (P : Primitives) (start : κ) :
    Computes (card.wired limits P start) P where
  encrypt _ _ _ _ _ _ _ := rfl
  decrypt _ _ _ _ _ _ _ := rfl
  mac _ _ _ _ := rfl

/-- How far a card is in a login. -/
inductive Stage
  | idle
  | challenged (nonce : Bytes)
  | convinced (reference : Byte) (host vector : Bytes)
  | authenticated (reference : Byte) (key : Bytes)
  deriving DecidableEq, Repr

/-- A card with the number of the nonces it gave out so far. -/
structure CardState where
  drawn : Nat
  stage : Stage
  deriving DecidableEq, Repr

/-- The keys of a card by their references, and its nonces. -/
structure Personalization where
  keys : Byte → Bytes
  nonces : Nat → Bytes
  length_nonce : ∀ number, (nonces number).length = 16

namespace Personalization
open Raw (CommandFields)
open Security (cardSessionKey)

def getChallenge (personalization : Personalization) (k : CardState) (fields : CommandFields) : Answer × CardState :=
  if fields.p1 = 0x00 ∧ fields.p2 = 0x00 ∧ fields.data = [] ∧ fields.le = some 16 then
    (accepted (personalization.nonces k.drawn),⟨k.drawn + 1,.challenged (personalization.nonces k.drawn)⟩)
  else (wrongLength,⟨k.drawn,.idle⟩)

/-- The proof of the host holds a nonce of its own and the one it was given. -/
def externalAuthenticate (P : Primitives) (personalization : Personalization) (k : CardState) (fields : CommandFields) :
    Answer × CardState :=
  match k.stage with
  | .challenged nonce =>
    let clear := P.decrypt (personalization.keys fields.p2) (zeros 16) fields.data
    if fields.p1 = 0x09 ∧ fields.data.length = 32 ∧ clear.drop 16 = nonce then
      (accepted [],⟨k.drawn,.convinced fields.p2 (clear.take 16) (fields.data.drop 16)⟩)
    else (verificationFailed,⟨k.drawn,.idle⟩)
  | _ => (conditionsNotSatisfied,⟨k.drawn,.idle⟩)

/-- The proof of the card continues the chain of the host's, with a second nonce and the host's challenge. -/
def internalAuthenticate (P : Primitives) (personalization : Personalization) (k : CardState) (fields : CommandFields) :
    Answer × CardState :=
  match k.stage with
  | .convinced reference host vector =>
    let nonce := personalization.nonces k.drawn
    if fields.p1 = 0x09 ∧ fields.p2 = reference ∧ fields.data.length = 16 ∧ fields.le = some 32 then
      (accepted (P.encrypt (personalization.keys reference) vector (nonce ++ fields.data)),
        ⟨k.drawn + 1,.authenticated reference (cardSessionKey host nonce)⟩)
    else (wrongLength,⟨k.drawn,.idle⟩)
  | _ => (conditionsNotSatisfied,⟨k.drawn,.idle⟩)

def execute (P : Primitives) (personalization : Personalization) (k : CardState) (fields : CommandFields) :
    Answer × CardState :=
  if fields.cla = 0x00 ∧ fields.ins = 0x84 then personalization.getChallenge k fields
  else if fields.cla = 0x00 ∧ fields.ins = 0x82 then personalization.externalAuthenticate P k fields
  else if fields.cla = 0x00 ∧ fields.ins = 0x88 then personalization.internalAuthenticate P k fields
  else (unknownInstruction,⟨k.drawn,.idle⟩)

/-- A card that knows the three commands of a login. -/
def card (P : Primitives) (personalization : Personalization) : Responder CardState := fun k frame =>
  match Raw.parseCommand frame with
  | some fields => personalization.execute P k fields
  | none => (wrongLength,⟨k.drawn,.idle⟩)

section Login
variable (P : Primitives) (personalization : Personalization) (drawn : Nat) (reference : Byte)

theorem execute_getChallenge (stage : Stage) :
    personalization.execute P ⟨drawn,stage⟩ ⟨0x00,0x84,0x00,0x00,[],some 16⟩ =
      (accepted (personalization.nonces drawn),⟨drawn + 1,.challenged (personalization.nonces drawn)⟩) := by
  simp [execute,getChallenge]

/-- A proof with the right key and any nonce of the host is accepted. -/
theorem execute_externalAuthenticate {key host nonce proof : Bytes} (hkey : personalization.keys reference = key)
    (hhost : host.length = 16) (hnonce : nonce.length = 16) (hproof : P.encrypt key (zeros 16) (host ++ nonce) = proof) :
    personalization.execute P ⟨drawn,.challenged nonce⟩ ⟨0x00,0x82,0x09,reference,proof,none⟩ =
      (accepted [],⟨drawn,.convinced reference host (proof.drop 16)⟩) := by
  have hboth : (host ++ nonce).length = 32 := by rw [List.length_append,hhost,hnonce]
  have hlength : proof.length = 32 := by rw [← hproof,P.length_encrypt,hboth]
  have hclear : P.decrypt key (zeros 16) proof = host ++ nonce := by
    rw [← hproof,P.decrypt_encrypt _ _ _ (by rw [hboth])]
  have hfirst : (host ++ nonce).take 16 = host := by rw [← hhost,List.take_left]
  have hlast : (host ++ nonce).drop 16 = nonce := by rw [← hhost,List.drop_left]
  simp [execute,externalAuthenticate,hkey,hclear,hfirst,hlast,hlength]

theorem execute_internalAuthenticate {key host vector challenge : Bytes} (hkey : personalization.keys reference = key)
    (hchallenge : challenge.length = 16) :
    personalization.execute P ⟨drawn,.convinced reference host vector⟩
        ⟨0x00,0x88,0x09,reference,challenge,some 32⟩ =
      (accepted (P.encrypt key vector (personalization.nonces drawn ++ challenge)),
        ⟨drawn + 1,.authenticated reference (cardSessionKey host (personalization.nonces drawn))⟩) := by
  simp [execute,internalAuthenticate,hkey,hchallenge]

end Login
end Personalization

end DesfireSdk.Iso7816
