import DesfireSdk.Foundation.Calm
import DesfireSdk.Security.Ev2.Peer

/-! Host and card stay in step through every conversation, whatever its commands are. -/
namespace DesfireSdk.Security.Ev2
open Interaction Program

/-- Both ends hold the same keys, transaction identifier and counter. -/
structure Shared (host : Session) (peer : Peer) : Prop where
  encryptionKey : host.encryptionKey = peer.encryptionKey
  macKey : host.macKey = peer.macKey
  identifier : host.authentication.transactionIdentifier = peer.transactionIdentifier
  counter : host.counter = peer.counter

theorem Shared.reserve {host : Session} {peer : Peer} (h : Shared host peer) (phase : Phase) :
    Shared (host.reserve phase) peer.advance :=
  ⟨h.encryptionKey,h.macKey,h.identifier,by simp [Session.reserve,Peer.advance,h.counter]⟩

theorem Shared.resume {host : Session} {peer : Peer} (h : Shared host peer) :
    Shared host.resume peer :=
  ⟨h.encryptionKey,h.macKey,h.identifier,h.counter⟩

theorem Shared.macInput {host : Session} {peer : Peer} (h : Shared host peer) (start : Byte)
    (payload : Bytes) : host.macInput start payload = peer.macInput start payload := by
  simp only [Session.macInput,Peer.macInput,h.counter,h.identifier]

theorem Shared.enciphered {host : Session} {peer : Peer} (h : Shared host peer) (P : Primitives)
    (data : Bytes) : host.enciphered P data =
      P.encrypt peer.encryptionKey (peer.iv P requestLabel) (Padding.pad 0x00 0x80 aesBlockSize data) := by
  simp only [Session.enciphered,Peer.iv,h.encryptionKey,h.identifier,h.counter]

theorem Shared.responseCiphertext {host : Session} {peer : Peer} (h : Shared host peer)
    (P : Primitives) (data : Bytes) : host.responseCiphertext P data =
      P.encrypt peer.encryptionKey (peer.iv P responseLabel) (Padding.pad 0x00 0x80 aesBlockSize data) := by
  simp only [Session.responseCiphertext,Peer.iv,h.encryptionKey,h.identifier,h.counter]

namespace Peer

theorem authenticate_append (P : Primitives) (peer : Peer) (command : Byte) (payload : Bytes) :
    peer.authenticate P command (payload ++ shortMac P peer.macKey (peer.macInput command payload)) =
      some payload := by
  simp [authenticate]

/-- A signed clear message is recovered. -/
theorem receive_mac (P : Primitives) (peer : Peer) (command : Byte) (header data : Bytes) :
    peer.receive P .mac command header.length (header ++ data ++
      shortMac P peer.macKey (peer.macInput command (header ++ data))) = some (header,data) := by
  simp only [receive,authenticate_append,Option.map_some,List.splitAt_eq,List.take_left,List.drop_left]

/-- A signed message with an encrypted field is recovered. -/
theorem receive_full (P : Primitives) (peer : Peer) (command : Byte) (header data : Bytes) :
    let field := P.encrypt peer.encryptionKey (peer.iv P requestLabel)
      (Padding.pad 0x00 0x80 aesBlockSize data)
    peer.receive P .full command header.length (header ++ field ++
      shortMac P peer.macKey (peer.macInput command (header ++ field))) = some (header,data) := by
  intro field
  have hpadded := Padding.length_pad_mod (0x00 : Byte) 0x80 (show 0 < aesBlockSize by decide) data
  have hpositive := Padding.length_pad_pos (0x00 : Byte) 0x80 aesBlockSize data
  have hne : field ≠ [] := by
    intro hnil
    have hlength : field.length = _ := P.length_encrypt ..
    rw [hnil,List.length_nil] at hlength
    omega
  have hclear : P.decrypt peer.encryptionKey (peer.iv P requestLabel) field =
      Padding.pad 0x00 0x80 aesBlockSize data := P.decrypt_encrypt _ _ _ hpadded
  have hunpad : Padding.unpad 0x00 0x80 aesBlockSize (Padding.pad (0x00 : Byte) 0x80 aesBlockSize data) =
      some data := Padding.unpad_pad (by decide) (by decide) data
  simp only [receive,authenticate_append,Option.map_some,List.splitAt_eq,List.take_left,List.drop_left,
    Option.bind_eq_bind,Option.bind_some,if_neg hne,hclear,hunpad]

/-- A signed header without a field is recovered. -/
theorem receive_full_nil (P : Primitives) (peer : Peer) (command : Byte) (header : Bytes) :
    peer.receive P .full command header.length
      (header ++ shortMac P peer.macKey (peer.macInput command header)) = some (header,[]) := by
  simp [receive,authenticate_append]

end Peer

section Conversation
variable {o : Oracle Environment} {P : Primitives} {host : Session} {peer : Peer}

/-- The phase in which the host awaits the answer to a command. -/
def Command.awaited (c : Command) : Phase :=
  if c.requestMode = .plain then .awaitingPlainResponse else .awaitingResponse

/-- The card recovers what the host prepared. -/
theorem Command.prepare_received (hP : Computes o P) (hshared : Shared host peer) (hopen : host.Open)
    {c : Command} (hfits : c.Fits) :
    ∃ wire, Yields o c.prepare host wire (host.reserve c.awaited) ∧
      peer.receive P c.requestMode c.command c.header.length wire = some (c.header,c.data) := by
  unfold Command.Fits at hfits
  unfold Command.prepare Command.awaited
  rcases hmode : c.requestMode with _ | _ | _ <;> rw [hmode] at hfits
  · refine ⟨_,Session.yields_preparePlain hopen hfits,?_⟩
    simp [Peer.receive]
  · refine ⟨_,Session.yields_prepareMac hP hopen hfits,?_⟩
    rw [hshared.macInput,hshared.macKey]
    exact Peer.receive_mac ..
  · by_cases hdata : c.data = []
    · simp only [hdata] at hfits ⊢
      refine ⟨_,Session.yields_prepareFull_nil hP hopen hfits,?_⟩
      rw [hshared.macInput,hshared.macKey]
      exact Peer.receive_full_nil ..
    · refine ⟨_,Session.yields_prepareFull hP hopen hdata hfits,?_⟩
      rw [hshared.macInput,hshared.macKey,hshared.enciphered]
      exact Peer.receive_full ..

theorem Command.expectedSize_eq {c : Command} {size : Nat} (h : size ∈ c.expectedSize) :
    c.answer.length = size := by
  unfold Command.expectedSize at h
  split at h <;> cases h
  rfl

/-- The host returns what the card answered. -/
theorem Command.accept_answer (hP : Computes o P) (hshared : Shared host peer) {c : Command}
    (hphase : host.phase = c.awaited) :
    Yields o (c.accept (peer.respond P c.responseMode c.bareEmpty c.answer)) host c.answer
      host.resume := by
  unfold Command.accept
  have hmatching := c.matching
  rcases hmode : c.responseMode with _ | _ | _
  · rw [Command.awaited,if_pos (hmatching.mpr hmode)] at hphase
    exact Session.yields_acceptPlainResponse hphase
  all_goals
    have hprotected : c.requestMode ≠ .plain := fun h => by simp [hmode] at hmatching; exact hmatching h
    rw [Command.awaited,if_neg hprotected] at hphase
  · simp only [Peer.respond,Peer.sign,← hshared.macInput,← hshared.macKey]
    exact Session.yields_verifyResponse hP hphase
  · by_cases hbare : c.answer = [] ∧ c.bareEmpty = true
    · simp only [Peer.respond,if_pos hbare,Peer.sign,← hshared.macInput,← hshared.macKey,
        List.nil_append]
      rw [hbare.1]
      refine Session.yields_verifyAndDecryptFullResponse_nil hP hphase ?_
      simp [Command.expectedSize,hbare.1]
    · simp only [Peer.respond,if_neg hbare,Peer.sign,← hshared.macInput,← hshared.macKey,
        ← hshared.responseCiphertext]
      exact Session.yields_verifyAndDecryptFullResponse hP hphase fun _ => Command.expectedSize_eq

theorem Command.prepare_closed (hphase : host.phase ≠ .ready) (c : Command) :
    Reaches blind o [] c.prepare host (.error (.error Session.notReady)) host [] := by
  unfold Command.prepare
  split <;> exact Reaches.bind_error (Session.turned_closed hphase)

theorem Command.prepare_exhausted (hphase : host.phase = .ready) (hcounter : host.counter = counterMax)
    (c : Command) : Reaches blind o [] c.prepare host (.error (.error Session.exhausted))
      host.invalidate [] := by
  unfold Command.prepare
  split <;> exact Reaches.bind_error (Session.turned_exhausted hphase hcounter)

/-- A command that fails the host's size checks is turned down before anything is counted. -/
theorem Command.prepare_oversized (hP : Computes o P) (hopen : host.Open) {c : Command}
    (hfits : ¬c.Fits) : ∃ message, Reaches blind o [] c.prepare host
      (.error (.error (DesfireSdk.invalid message))) host [] := by
  unfold Command.Fits at hfits
  unfold Command.prepare
  rcases hmode : c.requestMode with _ | _ | _ <;> rw [hmode] at hfits
  · exact ⟨_,Session.turned_preparePlain hopen hfits⟩
  · exact ⟨_,Session.turned_prepareMac hopen hfits⟩
  · exact Session.turned_prepareFull hP hopen hfits

theorem onHost_ok {α : Type} {p : Op Session α} {a : α} {host' : Session}
    (hp : Yields o p host a host') : Yields o (onHost p) (host,peer) (.ok a) (host',peer) :=
  Reaches.settle (Reaches.focus (v := Prod.fst) (u := fun s x => (s,x.2)) hp)

theorem onHost_error {α : Type} {p : Op Session α} {f : Fault} {host' : Session}
    (hp : Reaches blind o [] p host (.error f) host' []) :
    Yields o (onHost p) (host,peer) (.error f) (host',peer) :=
  Reaches.settle (Reaches.focus (v := Prod.fst) (u := fun s x => (s,x.2)) hp)

theorem yields_record {recovered : Option (Bytes × Bytes)} {returned : Except Fault Bytes} :
    Yields o (record recovered returned) (host,peer)
      ⟨recovered,returned,host.counter,peer.counter⟩ (host,peer) :=
  Reaches.get_bind Reaches.pure

/-- One command of an open session is exchanged exactly, and both ends count it. -/
theorem converse_exact (hP : Computes o P) (hshared : Shared host peer) (hopen : host.Open)
    {c : Command} (hfits : c.Fits) :
    ∃ host', host'.phase = .ready ∧ host'.counter = host.counter + 1 ∧ Shared host' peer.advance ∧
      Yields o (converse P c) (host,peer)
        ⟨some (c.header,c.data),.ok c.answer,host.counter + 1,host.counter + 1⟩ (host',peer.advance) := by
  obtain ⟨wire,hprepare,hreceived⟩ := c.prepare_received hP hshared hopen hfits
  have hreserved := hshared.reserve c.awaited
  refine ⟨(host.reserve c.awaited).resume,rfl,rfl,hreserved.resume,?_⟩
  refine Reaches.quiet_bind (onHost_ok hprepare) (Reaches.get_bind ?_)
  simp only [Peer.serve,hreceived]
  refine Reaches.modify_bind ?_
  refine Reaches.quiet_bind (onHost_ok (c.accept_answer hP hreserved rfl)) ?_
  have hcounter : peer.advance.counter = host.counter + 1 := hreserved.counter.symm
  have hrecord : Yields o (record (some (c.header,c.data)) (.ok c.answer))
      ((host.reserve c.awaited).resume,peer.advance) _ _ := yields_record
  rwa [hcounter] at hrecord

/-- One command that cannot be prepared leaves the card out of it. -/
theorem converse_refused (P : Primitives) (peer : Peer) {c : Command} {f : Fault} {host' : Session}
    (hp : Reaches blind o [] c.prepare host (.error f) host' []) :
    Yields o (converse P c) (host,peer) ⟨none,.error f,host'.counter,peer.counter⟩ (host',peer) :=
  Reaches.quiet_bind (onHost_error hp) yields_record

/-- Nothing was sent for this command. -/
def Entry.Refused (entry : Entry) : Prop :=
  entry.recovered = none ∧ ∃ e : Error, entry.returned = .error (.error e)

/-- The record of a conversation that starts at a counter: commands are exchanged exactly and
counted by both ends, those beyond the size checks are turned down, and an exhausted counter
ends the exchange. -/
inductive Faithful : UInt16 → List Command → List Entry → Prop
  | done (n : UInt16) : Faithful n [] []
  | exact {n : UInt16} {c : Command} {rest : List Command} {entries : List Entry}
      (hn : n ≠ counterMax) (hrest : Faithful (n + 1) rest entries) :
      Faithful n (c :: rest) (⟨some (c.header,c.data),.ok c.answer,n + 1,n + 1⟩ :: entries)
  | oversized {n : UInt16} {c : Command} {rest : List Command} {entries : List Entry}
      (hn : n ≠ counterMax) (hfits : ¬c.Fits) (message : String) (hrest : Faithful n rest entries) :
      Faithful n (c :: rest) (⟨none,.error (.error (DesfireSdk.invalid message)),n,n⟩ :: entries)
  | exhausted {rest : List Command} {entries : List Entry} (hlength : entries.length = rest.length)
      (hrefused : ∀ entry ∈ entries, entry.Refused) : Faithful counterMax rest entries

theorem conversation_closed (o : Oracle Environment) (P : Primitives) (peer : Peer)
    (hphase : host.phase ≠ .ready) (commands : List Command) :
    ∃ entries, Yields o (conversation P commands) (host,peer) entries (host,peer) ∧
      entries.length = commands.length ∧ ∀ entry ∈ entries, entry.Refused := by
  induction commands with
  | nil => exact ⟨[],Reaches.pure,rfl,by simp⟩
  | cons c rest ih =>
    obtain ⟨entries,hrest,hlength,hrefused⟩ := ih
    have hfirst := converse_refused P peer (c.prepare_closed (o := o) hphase)
    refine ⟨_,Reaches.quiet_bind hfirst (Reaches.quiet_bind hrest Reaches.pure),by simp [hlength],?_⟩
    simp only [List.forall_mem_cons]
    exact ⟨⟨rfl,_,rfl⟩,hrefused⟩

theorem conversation_exhausted (o : Oracle Environment) (P : Primitives) (peer : Peer)
    (hphase : host.phase = .ready) (hcounter : host.counter = counterMax)
    (commands : List Command) :
    ∃ entries x, Yields o (conversation P commands) (host,peer) entries x ∧
      entries.length = commands.length ∧ ∀ entry ∈ entries, entry.Refused := by
  cases commands with
  | nil => exact ⟨[],_,Reaches.pure,rfl,by simp⟩
  | cons c rest =>
    have hfirst := converse_refused P peer (c.prepare_exhausted (o := o) hphase hcounter)
    obtain ⟨entries,hrest,hlength,hrefused⟩ := conversation_closed o P peer
      (show host.invalidate.phase ≠ .ready by simp [Session.invalidate]) rest
    refine ⟨_,_,Reaches.quiet_bind hfirst (Reaches.quiet_bind hrest Reaches.pure),by simp [hlength],?_⟩
    simp only [List.forall_mem_cons]
    exact ⟨⟨rfl,_,rfl⟩,hrefused⟩

/-- Every conversation of a fresh session with its card is faithful. -/
theorem conversation_faithful (hP : Computes o P) (hphase : host.phase = .ready)
    (hshared : Shared host peer) (commands : List Command) :
    ∃ entries x, Yields o (conversation P commands) (host,peer) entries x ∧
      Faithful host.counter commands entries := by
  induction commands generalizing host peer with
  | nil => exact ⟨[],_,Reaches.pure,.done _⟩
  | cons c rest ih =>
    by_cases hcounter : host.counter = counterMax
    · obtain ⟨entries,x,hrun,hlength,hrefused⟩ :=
        conversation_exhausted o P peer hphase hcounter (c :: rest)
      rw [hcounter]
      exact ⟨entries,x,hrun,.exhausted hlength hrefused⟩
    by_cases hfits : c.Fits
    · obtain ⟨host',hphase',hcounter',hshared',hfirst⟩ :=
        converse_exact hP hshared ⟨hphase,hcounter⟩ hfits
      obtain ⟨entries,x,hrest,hfaithful⟩ := ih hphase' hshared'
      rw [hcounter'] at hfaithful
      exact ⟨_,x,Reaches.quiet_bind hfirst (Reaches.quiet_bind hrest Reaches.pure),
        .exact hcounter hfaithful⟩
    · obtain ⟨message,hp⟩ := Command.prepare_oversized hP ⟨hphase,hcounter⟩ hfits
      have hfirst := converse_refused P peer hp
      obtain ⟨entries,x,hrest,hfaithful⟩ := ih hphase hshared
      refine ⟨_,x,Reaches.quiet_bind hfirst (Reaches.quiet_bind hrest Reaches.pure),?_⟩
      rw [← hshared.counter]
      exact .oversized hcounter hfits message hfaithful

/-- Two commands, one of them encrypted with an answer of one block. -/
theorem conversation_faithful_full :
    let host : Session := ⟨zeros 16,zeros 16,{},0,.ready,rfl,rfl⟩
    let commands : List Command :=
      [⟨0x8D,[0x02,0x00],[1,2,3],.full,zeros 16,.full,false,true,by decide⟩,
        ⟨0x51,[],[],.mac,[],.full,true,false,by decide⟩]
    ∃ entries x, Yields (scripted {}) (conversation .echo commands)
        (host,⟨zeros 16,zeros 16,zeros 4,0⟩) entries x ∧ Faithful 0 commands entries :=
  conversation_faithful (scripted_computes _ rfl rfl) rfl ⟨rfl,rfl,rfl,rfl⟩ _

end Conversation
end DesfireSdk.Security.Ev2
