import DesfireSdk.Foundation.Calm
import DesfireSdk.Security.StandardAes.Peer

/-! Host and card keep one vector through every conversation, whatever its commands are. -/
namespace DesfireSdk.Security.StandardAes
open Interaction Program

/-- Both ends hold the same key and vector. -/
structure Shared (host : Session) (peer : Peer) : Prop where
  sessionKey : host.sessionKey = peer.sessionKey
  iv : host.iv = peer.iv

/-- Both ends take over the same block. -/
theorem Shared.chain {host : Session} {peer : Peer} (h : Shared host peer) {block : Bytes}
    (hblock : block.length = aesBlockSize) (phase : Phase) :
    Shared (host.chain block phase) {peer with iv := block} :=
  ⟨h.sessionKey,Session.chain_iv hblock phase host⟩

namespace Peer

theorem trailerSize_le (command : Byte) (dataSize : Nat) : trailerSize command dataSize ≤ dataSize := by
  unfold trailerSize
  split
  · rename_i h
    rw [h.2]
    decide
  · exact Nat.zero_le _

/-- The host's clear field around the checksum that precedes a trailer. -/
theorem fullPlaintext_eq (command : Byte) (header data : Bytes) :
    let body := data.take (data.length - trailerSize command data.length)
    Session.fullPlaintext command header data =
      body ++ putLe (crc32 (command :: (header ++ body))) crcSize ++
        data.drop (data.length - trailerSize command data.length) ++
          zeros ((data.length + crcSize + aesBlockSize - 1) / aesBlockSize * aesBlockSize -
            (data.length + crcSize)) := by
  intro body
  have hsize : (if (command = 0xC4 ∨ command = 0xC6) ∧ data.length = 21 then data.length - crcSize
      else data.length) = data.length - trailerSize command data.length := by
    unfold trailerSize
    split <;> rfl
  simp only [Session.fullPlaintext,hsize,body]

/-- A card finds the data, the checksum and the padding where the host put them. -/
theorem unpack_fullPlaintext (command : Byte) (header data : Bytes) :
    unpack command header data.length (Session.fullPlaintext command header data) = some data := by
  have hblocks := Session.length_fullPlaintext_mod command header data
  have htrailer := trailerSize_le command data.length
  rw [fullPlaintext_eq] at hblocks ⊢
  generalize hbody : data.take (data.length - trailerSize command data.length) = body at hblocks ⊢
  generalize htail : data.drop (data.length - trailerSize command data.length) = tail at hblocks ⊢
  generalize hcrc : putLe (crc32 (command :: (header ++ body))) crcSize = crc at hblocks ⊢
  generalize hcount : (data.length + crcSize + aesBlockSize - 1) / aesBlockSize * aesBlockSize -
    (data.length + crcSize) = count at hblocks ⊢
  have hjoined : body ++ tail = data := by
    rw [← hbody,← htail,List.take_append_drop]
  have hbodySize : body.length = data.length - trailerSize command data.length := by
    rw [← hbody,List.length_take]
    omega
  have htailSize : tail.length = data.length - body.length := by
    rw [← hjoined,List.length_append]
    omega
  have hcrcSize : crc.length = crcSize := by rw [← hcrc,length_putLe]
  have hcountSize : count < aesBlockSize := by
    unfold aesBlockSize at hcount ⊢
    omega
  have htaken : (body ++ crc ++ tail ++ zeros count).take body.length = body := by
    rw [List.append_assoc,List.append_assoc,List.take_left]
  have hstored : ((body ++ crc ++ tail ++ zeros count).drop body.length).take crcSize = crc := by
    rw [List.append_assoc,List.append_assoc,List.drop_left,← hcrcSize,List.take_left]
  have hkept : ((body ++ crc ++ tail ++ zeros count).drop (body.length + crcSize)).take
      (data.length - body.length) = tail := by
    rw [← hcrcSize,← List.length_append,List.append_assoc (body ++ crc),List.drop_left,← htailSize,
      List.take_left]
  have hpadding : (body ++ crc ++ tail ++ zeros count).drop (data.length + crcSize) = zeros count := by
    have hsize : data.length + crcSize = (body ++ crc ++ tail).length := by
      rw [List.length_append,List.length_append,hcrcSize,← hjoined,List.length_append]
      omega
    rw [hsize,List.drop_left]
  unfold unpack
  simp only [← hbodySize,htaken,hstored,hkept,hpadding,length_zeros]
  rw [if_pos ⟨hblocks,hcountSize,fun byte hbyte => List.eq_of_mem_replicate hbyte,hcrc.symm⟩,hjoined]

/-- A clear command is recovered, with the vector of its CMAC. -/
theorem receiveClear_sent (P : Primitives) (peer : Peer) (transmitMac : Bool) (command : Byte)
    (header data : Bytes) :
    let mac := chainedCmac P peer.sessionKey peer.iv (command :: (header ++ data))
    peer.receiveClear P transmitMac command header.length
      (header ++ data ++ if transmitMac then mac.take transmittedMacSize else []) =
        some ((header,data),{peer with iv := mac}) := by
  intro mac
  have htag : (if transmitMac then mac.take transmittedMacSize else []) =
      mac.take (if transmitMac then transmittedMacSize else 0) := by
    cases transmitMac <;> rfl
  have hmac : (mac.take (if transmitMac then transmittedMacSize else 0)).length =
      if transmitMac then transmittedMacSize else 0 := by
    have hblock : mac.length = aesBlockSize := length_chainedCmac ..
    rw [List.length_take,hblock]
    cases transmitMac <;> rfl
  have hlength : (header ++ data ++ mac.take (if transmitMac then transmittedMacSize else 0)).length -
      (if transmitMac then transmittedMacSize else 0) = (header ++ data).length := by
    rw [List.length_append,hmac]
    omega
  rw [htag]
  unfold receiveClear
  simp only [hlength,List.take_left,List.drop_left,List.splitAt_eq]
  exact if_pos rfl

/-- An enciphered command is recovered, with the vector of its last block. -/
theorem receive_full (P : Primitives) (peer : Peer) (command : Byte) (header : Bytes) {data : Bytes}
    (hdata : data ≠ []) :
    let field := P.encrypt peer.sessionKey peer.iv (Session.fullPlaintext command header data)
    peer.receive P .full command header.length data.length (header ++ field) =
      some ((header,data),{peer with iv := Session.lastBlock field}) := by
  intro field
  have hclear : P.decrypt peer.sessionKey peer.iv field = Session.fullPlaintext command header data :=
    P.decrypt_encrypt _ _ _ (Session.length_fullPlaintext_mod command header data)
  unfold receive
  simp only [if_neg (mt List.length_eq_zero_iff.mp hdata),List.splitAt_eq,List.take_left,List.drop_left,
    hclear,unpack_fullPlaintext,Option.map_some]

theorem paddingSize_lt (n : Nat) : paddingSize n < aesBlockSize :=
  Nat.mod_lt _ (by decide)

theorem paddingSize_mod (n : Nat) : (n + paddingSize n) % 16 = 0 := by
  unfold paddingSize aesBlockSize
  omega

end Peer

section Conversation
variable {o : Oracle Environment} {P : Primitives} {host : Session} {peer : Peer}

/-- The card recovers what the host prepared, and both take over one block. -/
theorem Command.prepare_received (hP : Computes o P) (hshared : Shared host peer)
    (hphase : host.phase = .ready) {c : Command} (hfits : c.Fits) (hcovered : c.Covered) :
    ∃ wire block, block.length = aesBlockSize ∧
      Yields o c.prepare host wire (host.chain block .awaitingResponse) ∧
      peer.receive P c.requestMode c.command c.header.length c.data.length wire =
        some ((c.header,c.data),{peer with iv := block}) := by
  have hmac : (chainedCmac P host.sessionKey host.iv (c.command :: (c.header ++ c.data))).length =
      aesBlockSize := length_chainedCmac ..
  unfold Command.Fits at hfits
  unfold Command.Covered at hcovered
  unfold Command.prepare
  rcases hmode : c.requestMode with _ | _ | _ <;> rw [hmode] at hfits hcovered
  · have hsize := hcovered.resolve_left fun h => Mode.noConfusion h.1
    refine ⟨_,_,hmac,Session.yields_prepareCmacCommand hP hphase hfits hsize,?_⟩
    rw [hshared.sessionKey,hshared.iv]
    exact Peer.receiveClear_sent P peer false ..
  · have hsize := hcovered.resolve_left fun h => Mode.noConfusion h.1
    have hempty : decide (c.data ≠ []) = decide (c.data.length ≠ 0) := by
      simp only [ne_eq,List.length_eq_zero_iff]
    refine ⟨_,_,hmac,Session.yields_prepareCmacCommand hP hphase hfits hsize,?_⟩
    rw [hshared.sessionKey,hshared.iv,hempty]
    exact Peer.receiveClear_sent P peer (c.data.length ≠ 0) ..
  · by_cases hdata : c.data = []
    · have hsize := hcovered.resolve_left fun h => h.2 hdata
      simp only [hdata,Session.FullFits,if_true] at hfits hsize hmac ⊢
      rw [Session.prepareFull_nil]
      refine ⟨_,_,hmac,Session.yields_prepareCmacCommand hP hphase hfits hsize,?_⟩
      rw [hshared.sessionKey,hshared.iv]
      exact Peer.receiveClear_sent P peer false c.command c.header []
    · refine ⟨_,_,?_,Session.yields_prepareFull hP hphase hdata hfits,?_⟩
      · apply Session.length_lastBlock
        rw [P.length_encrypt]
        exact Session.length_fullPlaintext_pos ..
      · rw [hshared.sessionKey,hshared.iv]
        exact Peer.receive_full P peer c.command c.header hdata

/-- The host returns what the card answered, and both take over one block. -/
theorem Command.accept_answer (hP : Computes o P) (hshared : Shared host peer) {c : Command}
    (hphase : host.phase = .awaitingResponse) (hcovered : c.AnswerCovered) :
    ∃ block, block.length = aesBlockSize ∧
      (peer.respond P c.responseMode c.answer).2 = {peer with iv := block} ∧
      Yields o (c.accept (peer.respond P c.responseMode c.answer).1) host c.answer
        (host.chain block .ready) := by
  unfold Command.AnswerCovered at hcovered
  unfold Command.accept
  have hsigned (hsize : (c.answer ++ [0x00]).length ≤ cmacMax) : ∃ block, block.length = aesBlockSize ∧
      (peer.sign P c.answer).2 = {peer with iv := block} ∧
      Yields o (Session.verifyResponse (peer.sign P c.answer).1) host c.answer
        (host.chain block .ready) := by
    refine ⟨_,length_chainedCmac ..,rfl,?_⟩
    unfold Peer.sign
    rw [← hshared.sessionKey,← hshared.iv]
    exact Session.yields_verifyResponse hP hphase hsize
  rcases hmode : c.responseMode with _ | _ | _ <;> rw [hmode] at hcovered
  · exact hsigned (hcovered.resolve_left Mode.noConfusion)
  · exact hsigned (hcovered.resolve_left Mode.noConfusion)
  · have hpadded : (c.answer ++ putLe (crc32 (c.answer ++ [0x00])) crcSize ++
        zeros (Peer.paddingSize (c.answer.length + crcSize))).length =
        c.answer.length + crcSize + Peer.paddingSize (c.answer.length + crcSize) := by
      simp only [List.length_append,length_putLe,length_zeros]
    have hblocks := Peer.paddingSize_mod (c.answer.length + crcSize)
    refine ⟨_,?_,rfl,?_⟩
    · apply Session.length_lastBlock
      rw [P.length_encrypt,hpadded]
      unfold aesBlockSize crcSize at *
      omega
    · simp only [Peer.respond,Peer.encipher,← hshared.sessionKey,← hshared.iv]
      apply Session.yields_verifyAndDecryptFullResponse hP hphase (Peer.paddingSize_lt _)
      rw [hpadded]
      exact hblocks

theorem Command.prepare_closed (hphase : host.phase ≠ .ready) (c : Command) :
    Reaches blind o [] c.prepare host (.error (.error Session.notReady)) host [] := by
  unfold Command.prepare
  split
  · exact Session.closed_prepareCmacCommand hphase c.command c.header c.data false
  · exact Session.closed_prepareCmacCommand hphase c.command c.header c.data (c.data ≠ [])
  · exact Session.closed_prepareFull hphase c.command c.header c.data

/-- A command that fails the host's size checks is turned down and leaves the vector alone. -/
theorem Command.prepare_oversized (o : Oracle Environment) (hphase : host.phase = .ready) {c : Command}
    (hfits : ¬c.Fits) : ∃ message, Reaches blind o [] c.prepare host
      (.error (.error (DesfireSdk.invalid message))) host [] := by
  unfold Command.Fits at hfits
  unfold Command.prepare
  rcases hmode : c.requestMode with _ | _ | _ <;> rw [hmode] at hfits
  · exact ⟨_,Session.turned_prepareCmacCommand hphase hfits⟩
  · exact ⟨_,Session.turned_prepareCmacCommand hphase hfits⟩
  · by_cases hdata : c.data = []
    · simp only [hdata,Session.FullFits,if_true] at hfits ⊢
      rw [Session.prepareFull_nil]
      exact ⟨_,Session.turned_prepareCmacCommand hphase hfits⟩
    · exact ⟨_,Session.turned_prepareFull hphase hdata hfits⟩

/-- A command that no CMAC covers ends the session. -/
theorem Command.prepare_uncovered (hP : Computes o P) (hphase : host.phase = .ready) {c : Command}
    (hfits : c.Fits) (hcovered : ¬c.Covered) : ∃ message, Reaches blind o [] c.prepare host
      (.error (.error (DesfireSdk.invalid message))) host.invalidate [] := by
  obtain ⟨hclear,hsize⟩ := not_or.mp hcovered
  unfold Command.Fits at hfits
  unfold Command.prepare
  rcases hmode : c.requestMode with _ | _ | _ <;> rw [hmode] at hfits hclear
  · exact ⟨_,Session.fails_prepareCmacCommand hP hphase hfits hsize⟩
  · exact ⟨_,Session.fails_prepareCmacCommand hP hphase hfits hsize⟩
  · have hdata : c.data = [] := by
      by_contra hdata
      exact hclear ⟨rfl,hdata⟩
    simp only [hdata,Session.FullFits,if_true] at hfits hsize ⊢
    rw [Session.prepareFull_nil]
    exact ⟨_,Session.fails_prepareCmacCommand hP hphase hfits hsize⟩

/-- An answer that no CMAC covers ends the session. -/
theorem Command.accept_uncovered (hP : Computes o P) (peer : Peer) {c : Command}
    (hphase : host.phase = .awaitingResponse) (hcovered : ¬c.AnswerCovered) :
    ∃ e, Reaches blind o [] (c.accept (peer.respond P c.responseMode c.answer).1) host
      (.error (.error e)) host.invalidate [] := by
  obtain ⟨hclear,hsize⟩ := not_or.mp hcovered
  have hmac : ((chainedCmac P peer.sessionKey peer.iv (c.answer ++ [0x00])).take transmittedMacSize).length =
      transmittedMacSize := by
    rw [List.length_take,length_chainedCmac]
    rfl
  unfold Command.accept
  rcases hmode : c.responseMode with _ | _ | _ <;> rw [hmode] at hclear
  · exact ⟨_,Session.fails_verifyResponse hP hphase hmac hsize⟩
  · exact ⟨_,Session.fails_verifyResponse hP hphase hmac hsize⟩
  · exact absurd rfl hclear

theorem onHost_ok {α : Type} {p : Op Session α} {a : α} {host' : Session}
    (hp : Yields o p host a host') : Yields o (onHost p) (host,peer) (.ok a) (host',peer) :=
  Reaches.settle (Reaches.focus (v := Prod.fst) (u := fun s x => (s,x.2)) hp)

theorem onHost_error {α : Type} {p : Op Session α} {f : Fault} {host' : Session}
    (hp : Reaches blind o [] p host (.error f) host' []) :
    Yields o (onHost p) (host,peer) (.error f) (host',peer) :=
  Reaches.settle (Reaches.focus (v := Prod.fst) (u := fun s x => (s,x.2)) hp)

theorem yields_vectors : Yields o vectors (host,peer) (host.iv,peer.iv) (host,peer) :=
  Reaches.get_bind Reaches.pure

/-- One covered command of a ready session is exchanged exactly, and one vector follows it. -/
theorem converse_exact (hP : Computes o P) (hshared : Shared host peer) (hphase : host.phase = .ready)
    {c : Command} (hfits : c.Fits) (hcovered : c.Covered) (hanswer : c.AnswerCovered) :
    ∃ request response host' peer', host'.phase = .ready ∧ Shared host' peer' ∧ host'.iv = response ∧
      Yields o (converse P c) (host,peer)
        ⟨some (c.header,c.data),.ok c.answer,(request,request),(response,response)⟩ (host',peer') := by
  obtain ⟨wire,request,hrequest,hprepare,hreceived⟩ := c.prepare_received hP hshared hphase hfits hcovered
  have hasked := hshared.chain hrequest .awaitingResponse
  obtain ⟨response,hresponse,hpeer,haccept⟩ := c.accept_answer hP hasked rfl hanswer
  have hanswered := hasked.chain hresponse .ready
  refine ⟨request,response,_,_,rfl,hanswered,Session.chain_iv hresponse _ _,?_⟩
  apply Reaches.quiet_bind (onHost_ok hprepare)
  apply Reaches.get_bind
  simp only [hreceived]
  apply Reaches.modify_bind
  have hbefore : Yields o vectors (host.chain request .awaitingResponse,{peer with iv := request}) _ _ :=
    yields_vectors
  rw [Session.chain_iv hrequest] at hbefore
  apply Reaches.quiet_bind hbefore
  apply Reaches.modify_bind
  rw [hpeer]
  apply Reaches.quiet_bind (onHost_ok haccept)
  have hafter : Yields o vectors ((host.chain request .awaitingResponse).chain response .ready,
      {peer with iv := response}) _ _ := yields_vectors
  rw [Session.chain_iv hresponse] at hafter
  exact Reaches.quiet_bind hafter Reaches.pure

/-- One command that cannot be prepared leaves the card out of it. -/
theorem converse_refused (P : Primitives) (peer : Peer) {c : Command} {f : Fault} {host' : Session}
    (hp : Reaches blind o [] c.prepare host (.error f) host' []) :
    Yields o (converse P c) (host,peer) ⟨none,.error f,(host'.iv,peer.iv),(host'.iv,peer.iv)⟩
      (host',peer) :=
  Reaches.quiet_bind (onHost_error hp) (Reaches.quiet_bind yields_vectors Reaches.pure)

/-- One command whose answer cannot be verified ends the session. -/
theorem converse_unread (hP : Computes o P) (hshared : Shared host peer) (hphase : host.phase = .ready)
    {c : Command} (hfits : c.Fits) (hcovered : c.Covered) (hanswer : ¬c.AnswerCovered) :
    ∃ (e : Error) (asked answered : Bytes × Bytes) (host' : Session) (peer' : Peer),
      host'.phase ≠ .ready ∧ Yields o (converse P c) (host,peer)
        ⟨some (c.header,c.data),.error (.error e),asked,answered⟩ (host',peer') := by
  obtain ⟨wire,request,hrequest,hprepare,hreceived⟩ := c.prepare_received hP hshared hphase hfits hcovered
  have hawaited : (host.chain request .awaitingResponse).phase = .awaitingResponse := rfl
  obtain ⟨e,haccept⟩ := c.accept_uncovered hP {peer with iv := request} hawaited hanswer
  let peer' := (Peer.respond P {peer with iv := request} c.responseMode c.answer).2
  refine ⟨e,((host.chain request .awaitingResponse).iv,request),(zeros aesBlockSize,peer'.iv),
    (host.chain request .awaitingResponse).invalidate,peer',Phase.noConfusion,?_⟩
  apply Reaches.quiet_bind (onHost_ok hprepare)
  apply Reaches.get_bind
  simp only [hreceived]
  apply Reaches.modify_bind
  apply Reaches.quiet_bind yields_vectors
  apply Reaches.modify_bind
  apply Reaches.quiet_bind (onHost_error haccept)
  exact Reaches.quiet_bind yields_vectors Reaches.pure

/-- Nothing was sent for this command. -/
def Entry.Refused (entry : Entry) : Prop :=
  entry.recovered = none ∧ ∃ e : Error, entry.returned = .error (.error e)

/-- The record of a conversation that starts with a vector: commands are exchanged exactly with
equal vectors after each of them and after its response, those beyond the size checks are turned
down, and a message longer than any CMAC ends the exchange. -/
inductive Faithful : Bytes → List Command → List Entry → Prop
  | done (iv : Bytes) : Faithful iv [] []
  | exact {iv : Bytes} {c : Command} {rest : List Command} {entries : List Entry}
      (request response : Bytes) (hrest : Faithful response rest entries) :
      Faithful iv (c :: rest) (⟨some (c.header,c.data),.ok c.answer,(request,request),
        (response,response)⟩ :: entries)
  | oversized {iv : Bytes} {c : Command} {rest : List Command} {entries : List Entry}
      (hfits : ¬c.Fits) (message : String) (hrest : Faithful iv rest entries) :
      Faithful iv (c :: rest)
        (⟨none,.error (.error (DesfireSdk.invalid message)),(iv,iv),(iv,iv)⟩ :: entries)
  | uncovered {iv : Bytes} {c : Command} {rest : List Command} {entry : Entry} {entries : List Entry}
      (hcovered : ¬(c.Covered ∧ c.AnswerCovered)) (e : Error)
      (hreturned : entry.returned = .error (.error e)) (hlength : entries.length = rest.length)
      (hrefused : ∀ entry ∈ entries, entry.Refused) : Faithful iv (c :: rest) (entry :: entries)

theorem conversation_closed (o : Oracle Environment) (P : Primitives) (peer : Peer)
    (hphase : host.phase ≠ .ready) (commands : List Command) :
    ∃ entries, Yields o (conversation P commands) (host,peer) entries (host,peer) ∧
      entries.length = commands.length ∧ ∀ entry ∈ entries, entry.Refused := by
  induction commands with
  | nil => exact ⟨[],Reaches.pure,rfl,by simp⟩
  | cons c rest ih =>
    obtain ⟨entries,hrest,hlength,hrefused⟩ := ih
    have hfirst := converse_refused P peer (c.prepare_closed (o := o) hphase)
    refine ⟨_,Reaches.quiet_bind hfirst (Reaches.quiet_bind hrest Reaches.pure),by simp [hlength],?_⟩
    simp only [List.forall_mem_cons]
    exact ⟨⟨rfl,_,rfl⟩,hrefused⟩

/-- Every conversation of a ready session with its card keeps one vector. -/
theorem conversation_chained (hP : Computes o P) (hphase : host.phase = .ready)
    (hshared : Shared host peer) (commands : List Command) :
    ∃ entries x, Yields o (conversation P commands) (host,peer) entries x ∧
      Faithful host.iv commands entries := by
  induction commands generalizing host peer with
  | nil => exact ⟨[],_,Reaches.pure,.done _⟩
  | cons c rest ih =>
    by_cases hfits : c.Fits
    · by_cases hcovered : c.Covered
      · by_cases hanswer : c.AnswerCovered
        · obtain ⟨request,response,host',peer',hphase',hshared',hvector,hfirst⟩ :=
            converse_exact hP hshared hphase hfits hcovered hanswer
          obtain ⟨entries,x,hrest,hfaithful⟩ := ih hphase' hshared'
          rw [hvector] at hfaithful
          exact ⟨_,x,Reaches.quiet_bind hfirst (Reaches.quiet_bind hrest Reaches.pure),
            .exact request response hfaithful⟩
        · obtain ⟨e,asked,answered,host',peer',hphase',hfirst⟩ :=
            converse_unread hP hshared hphase hfits hcovered hanswer
          obtain ⟨entries,hrest,hlength,hrefused⟩ := conversation_closed o P peer' hphase' rest
          exact ⟨_,_,Reaches.quiet_bind hfirst (Reaches.quiet_bind hrest Reaches.pure),
            .uncovered (fun h => hanswer h.2) e rfl hlength hrefused⟩
      · obtain ⟨message,hp⟩ := Command.prepare_uncovered hP hphase hfits hcovered
        have hfirst := converse_refused P peer hp
        obtain ⟨entries,hrest,hlength,hrefused⟩ := conversation_closed o P peer
          (show host.invalidate.phase ≠ .ready from Phase.noConfusion) rest
        exact ⟨_,_,Reaches.quiet_bind hfirst (Reaches.quiet_bind hrest Reaches.pure),
          .uncovered (fun h => hcovered h.1) _ rfl hlength hrefused⟩
    · obtain ⟨message,hp⟩ := Command.prepare_oversized o hphase hfits
      have hfirst := converse_refused P peer hp
      obtain ⟨entries,x,hrest,hfaithful⟩ := ih hphase hshared
      refine ⟨_,x,Reaches.quiet_bind hfirst (Reaches.quiet_bind hrest Reaches.pure),?_⟩
      rw [← hshared.iv]
      exact .oversized hfits message hfaithful

/-- A key is changed under a fresh session, and a Full answer of one byte follows a clear read. -/
theorem conversation_chained_changeKey :
    let host : Session := ⟨zeros 16,zeros 16,.ready,rfl,rfl⟩
    let commands : List Command :=
      [⟨0xC4,[0x01],zeros 21,.full,[],.mac⟩,⟨0xBD,[0x02],[],.mac,[7],.full⟩]
    ∃ entries x, Yields (scripted {}) (conversation .echo commands) (host,⟨zeros 16,zeros 16⟩)
      entries x ∧ Faithful (zeros 16) commands entries :=
  conversation_chained (scripted_computes _ rfl rfl) rfl ⟨rfl,rfl⟩ _

end Conversation
end DesfireSdk.Security.StandardAes
