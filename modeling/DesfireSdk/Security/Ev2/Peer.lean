import DesfireSdk.Security.Ev2.Evaluation

/-!
An honest card at the other end of an EV2 session, and whole conversations with it.
-/
namespace DesfireSdk.Security.Ev2
open Interaction Program

inductive Mode
  | plain | mac | full
  deriving DecidableEq, Repr

/-- One command with the answer the card gives to it. A card may leave out the padding block
of an empty Full answer, and the host may know the clear size in advance. -/
structure Command where
  command : Byte
  header : Bytes
  data : Bytes
  requestMode : Mode
  answer : Bytes
  responseMode : Mode
  bareEmpty : Bool
  sizeKnown : Bool
  matching : requestMode = .plain ↔ responseMode = .plain

/-- The keys, the transaction identifier and the counter a card shares with the host. -/
structure Peer where
  encryptionKey : Bytes
  macKey : Bytes
  transactionIdentifier : Bytes
  counter : UInt16

namespace Peer

def macInput (peer : Peer) (start : Byte) (payload : Bytes) : Bytes :=
  start :: (counterBytes peer.counter ++ peer.transactionIdentifier ++ payload)

def iv (P : Primitives) (peer : Peer) (label : Bytes) : Bytes :=
  P.encrypt peer.encryptionKey (zeros aesBlockSize)
    (ivInput label peer.transactionIdentifier peer.counter)

/-- The payload before a correct MAC. -/
def authenticate (P : Primitives) (peer : Peer) (command : Byte) (wire : Bytes) : Option Bytes :=
  let payload := wire.take (wire.length - transmittedMacSize)
  if transmittedMacSize ≤ wire.length ∧ wire.drop (wire.length - transmittedMacSize) =
      shortMac P peer.macKey (peer.macInput command payload) then some payload
  else none

/-- The header and the data of a received command; a card knows the header size. -/
def receive (P : Primitives) (peer : Peer) (mode : Mode) (command : Byte) (headerSize : Nat)
    (wire : Bytes) : Option (Bytes × Bytes) :=
  match mode with
  | .plain => some (wire.splitAt headerSize)
  | .mac => (peer.authenticate P command wire).map (·.splitAt headerSize)
  | .full => do
    let (header,field) ← (peer.authenticate P command wire).map (·.splitAt headerSize)
    if field = [] then some (header,[])
    else do
      let data ← Padding.unpad 0x00 0x80 aesBlockSize
        (P.decrypt peer.encryptionKey (peer.iv P requestLabel) field)
      some (header,data)

def sign (P : Primitives) (peer : Peer) (payload : Bytes) : Native.Raw.Response :=
  ⟨0x00,payload ++ shortMac P peer.macKey (peer.macInput 0x00 payload)⟩

def respond (P : Primitives) (peer : Peer) (mode : Mode) (bareEmpty : Bool) (answer : Bytes) :
    Native.Raw.Response :=
  match mode with
  | .plain => ⟨0x00,answer⟩
  | .mac => peer.sign P answer
  | .full =>
    if answer = [] ∧ bareEmpty = true then peer.sign P []
    else peer.sign P (P.encrypt peer.encryptionKey (peer.iv P responseLabel)
      (Padding.pad 0x00 0x80 aesBlockSize answer))

def advance (peer : Peer) : Peer := {peer with counter := peer.counter + 1}

/-- A card counts an accepted command before it answers, and reports an integrity error else. -/
def serve (P : Primitives) (peer : Peer) (c : Command) (wire : Bytes) :
    Option (Bytes × Bytes) × Native.Raw.Response × Peer :=
  match peer.receive P c.requestMode c.command c.header.length wire with
  | none => (none,⟨0x1E,[]⟩,peer)
  | some got => (some got,peer.advance.respond P c.responseMode c.bareEmpty c.answer,peer.advance)

end Peer

namespace Command

def prepare (c : Command) : Op Session Bytes :=
  match c.requestMode with
  | .plain => Session.preparePlain c.command c.header c.data
  | .mac => Session.prepareMac c.command c.header c.data
  | .full => Session.prepareFull c.command c.header c.data

def expectedSize (c : Command) : Option Nat := if c.sizeKnown then some c.answer.length else none

def accept (c : Command) (response : Native.Raw.Response) : Op Session Bytes :=
  match c.responseMode with
  | .plain => Session.acceptPlainResponse response
  | .mac => Session.verifyResponse response
  | .full => Session.verifyAndDecryptFullResponse response c.expectedSize

/-- The host's size checks for the command pass. -/
def Fits (c : Command) : Prop :=
  match c.requestMode with
  | .plain => Session.PlainFits c.header c.data
  | .mac => Session.MacFits c.header c.data
  | .full => Session.FullFits c.header c.data

end Command

/-- What the card recovered, what the host returned, and both counters afterwards. -/
structure Entry where
  recovered : Option (Bytes × Bytes)
  returned : Except Fault Bytes
  hostCounter : UInt16
  peerCounter : UInt16

def onHost {α : Type} (p : Op Session α) : Op (Session × Peer) (Except Fault α) :=
  attempt (focus Prod.fst (fun s x => (s,x.2)) p)

def record (recovered : Option (Bytes × Bytes)) (returned : Except Fault Bytes) :
    Op (Session × Peer) Entry := do
  let (host,peer) ← Program.get
  pure ⟨recovered,returned,host.counter,peer.counter⟩

/-- One command from the host to the card and back. -/
def converse (P : Primitives) (c : Command) : Op (Session × Peer) Entry := do
  match ← onHost c.prepare with
  | .error f => record none (.error f)
  | .ok wire => do
    let (_,peer) ← Program.get
    let (recovered,response,peer) := peer.serve P c wire
    Program.modify fun x => (x.1,peer)
    let returned ← onHost (c.accept response)
    record recovered returned

/-- A run of commands one after another. -/
def conversation (P : Primitives) : List Command → Op (Session × Peer) (List Entry)
  | [] => pure []
  | c :: rest => do
    let entry ← converse P c
    let entries ← conversation P rest
    pure (entry :: entries)

end DesfireSdk.Security.Ev2
