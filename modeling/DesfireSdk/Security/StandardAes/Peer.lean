import DesfireSdk.Security.StandardAes.Evaluation

/-!
An honest card at the other end of a Standard AES session, and whole conversations with it.
-/
namespace DesfireSdk.Security.StandardAes
open Interaction Program

inductive Mode
  | plain | mac | full
  deriving DecidableEq, Repr

/-- One command with the answer the card gives to it. -/
structure Command where
  command : Byte
  header : Bytes
  data : Bytes
  requestMode : Mode
  answer : Bytes
  responseMode : Mode

/-- The key and the chained vector a card shares with the host. -/
structure Peer where
  sessionKey : Bytes
  iv : Bytes

namespace Peer

/-- The bytes that a command keeps behind its checksum. -/
def trailerSize (command : Byte) (dataSize : Nat) : Nat :=
  if (command = 0xC4 ∨ command = 0xC6) ∧ dataSize = 21 then crcSize else 0

/-- Decided along the padding, not over all bytes. -/
instance decidablePadding (padding : Bytes) : Decidable (∀ byte ∈ padding, byte = 0) :=
  List.decidableBAll (· = 0) padding

/-- The fields of a deciphered command whose checksum and padding are right. -/
def unpack (command : Byte) (header : Bytes) (dataSize : Nat) (clear : Bytes) : Option Bytes :=
  let bodySize := dataSize - trailerSize command dataSize
  let body := clear.take bodySize
  let checksum := (clear.drop bodySize).take crcSize
  let trailer := (clear.drop (bodySize + crcSize)).take (dataSize - bodySize)
  let padding := clear.drop (dataSize + crcSize)
  if clear.length % aesBlockSize = 0 ∧ padding.length < aesBlockSize ∧ (∀ byte ∈ padding, byte = 0) ∧
      checksum = putLe (crc32 (command :: (header ++ body))) crcSize then some (body ++ trailer)
  else none

/-- The data of a clear command, whose MAC is checked where one is transmitted. -/
def receiveClear (P : Primitives) (peer : Peer) (transmitMac : Bool) (command : Byte)
    (headerSize : Nat) (wire : Bytes) : Option ((Bytes × Bytes) × Peer) :=
  let macSize := if transmitMac then transmittedMacSize else 0
  let payload := wire.take (wire.length - macSize)
  let mac := chainedCmac P peer.sessionKey peer.iv (command :: payload)
  if wire.drop (wire.length - macSize) = mac.take macSize then
    some (payload.splitAt headerSize,{peer with iv := mac})
  else none

/-- The header and the data of a received command, and the vector behind it. A card knows the
sizes of the fields of its commands. -/
def receive (P : Primitives) (peer : Peer) (mode : Mode) (command : Byte)
    (headerSize dataSize : Nat) (wire : Bytes) : Option ((Bytes × Bytes) × Peer) :=
  match mode with
  | .plain => peer.receiveClear P false command headerSize wire
  | .mac => peer.receiveClear P (dataSize ≠ 0) command headerSize wire
  | .full =>
    if dataSize = 0 then peer.receiveClear P false command headerSize wire
    else
      let (header,field) := wire.splitAt headerSize
      (unpack command header dataSize (P.decrypt peer.sessionKey peer.iv field)).map fun data =>
        ((header,data),{peer with iv := Session.lastBlock field})

def sign (P : Primitives) (peer : Peer) (answer : Bytes) : Native.Raw.Response × Peer :=
  let mac := chainedCmac P peer.sessionKey peer.iv (answer ++ [0x00])
  (⟨0x00,answer ++ mac.take transmittedMacSize⟩,{peer with iv := mac})

/-- The zeros that complete the last block. -/
def paddingSize (n : Nat) : Nat := (aesBlockSize - n % aesBlockSize) % aesBlockSize

/-- An answer with its checksum, padded and enciphered. -/
def encipher (P : Primitives) (peer : Peer) (answer : Bytes) : Native.Raw.Response × Peer :=
  let clear := answer ++ putLe (crc32 (answer ++ [0x00])) crcSize
  let field := P.encrypt peer.sessionKey peer.iv (clear ++ zeros (paddingSize (answer.length + crcSize)))
  (⟨0x00,field⟩,{peer with iv := Session.lastBlock field})

def respond (P : Primitives) (peer : Peer) (mode : Mode) (answer : Bytes) :
    Native.Raw.Response × Peer :=
  match mode with
  | .plain | .mac => peer.sign P answer
  | .full => peer.encipher P answer

end Peer

namespace Command

def prepare (c : Command) : Op Session Bytes :=
  match c.requestMode with
  | .plain => Session.preparePlain c.command c.header c.data
  | .mac => Session.prepareMac c.command c.header c.data
  | .full => Session.prepareFull c.command c.header c.data

/-- The host knows the clear size of an enciphered answer. -/
def accept (c : Command) (response : Native.Raw.Response) : Op Session Bytes :=
  match c.responseMode with
  | .plain => Session.acceptPlainResponse response
  | .mac => Session.verifyResponse response
  | .full => Session.verifyAndDecryptFullResponse response (some c.answer.length)

/-- The host's size checks for the command pass. -/
def Fits (c : Command) : Prop :=
  match c.requestMode with
  | .plain => Session.ClearFits c.header c.data false
  | .mac => Session.ClearFits c.header c.data (c.data ≠ [])
  | .full => Session.FullFits c.command c.header c.data

/-- A CMAC covers the command. -/
def Covered (c : Command) : Prop :=
  (c.requestMode = .full ∧ c.data ≠ []) ∨ (c.command :: (c.header ++ c.data)).length ≤ cmacMax

/-- A CMAC covers the answer. -/
def AnswerCovered (c : Command) : Prop :=
  c.responseMode = .full ∨ (c.answer ++ [0x00]).length ≤ cmacMax

end Command

/-- What the card recovered, what the host returned, and the vectors of host and card after
the command and after the response. -/
structure Entry where
  recovered : Option (Bytes × Bytes)
  returned : Except Fault Bytes
  requestVectors : Bytes × Bytes
  responseVectors : Bytes × Bytes

def onHost {α : Type} (p : Op Session α) : Op (Session × Peer) (Except Fault α) :=
  attempt (focus Prod.fst (fun s x => (s,x.2)) p)

def vectors : Op (Session × Peer) (Bytes × Bytes) := do
  let (host,peer) ← Program.get
  pure (host.iv,peer.iv)

/-- One command from the host to the card and back; a card that finds a command broken reports
an integrity error and keeps its vector. -/
def converse (P : Primitives) (c : Command) : Op (Session × Peer) Entry := do
  match ← onHost c.prepare with
  | .error f => do
    let kept ← vectors
    pure ⟨none,.error f,kept,kept⟩
  | .ok wire => do
    let (_,peer) ← Program.get
    match peer.receive P c.requestMode c.command c.header.length c.data.length wire with
    | none => do
      let requested ← vectors
      let returned ← onHost (c.accept ⟨0x1E,[]⟩)
      let answered ← vectors
      pure ⟨none,returned,requested,answered⟩
    | some (recovered,peer) => do
      Program.modify fun x => (x.1,peer)
      let requested ← vectors
      let (response,peer) := peer.respond P c.responseMode c.answer
      Program.modify fun x => (x.1,peer)
      let returned ← onHost (c.accept response)
      let answered ← vectors
      pure ⟨some recovered,returned,requested,answered⟩

/-- A run of commands one after another. -/
def conversation (P : Primitives) : List Command → Op (Session × Peer) (List Entry)
  | [] => pure []
  | c :: rest => do
    let entry ← converse P c
    let entries ← conversation P rest
    pure (entry :: entries)

end DesfireSdk.Security.StandardAes
