import DesfireSdk.Native.Secure.Dialogues

/-! Honest EV2 and Standard AES cards serve commands under their sessions. -/
namespace DesfireSdk.Native.Secure
open Interaction Program Security

/-- The card's end of a session of either family. -/
inductive Peer
  | ev2 (peer : Ev2.Peer)
  | standardAes (peer : StandardAes.Peer)

/-- The length of a command of this format under EV2 protection. -/
def Format.ev2Size (format : Format) : Nat :=
  match format.requestMode with
  | .plain => format.headerSize + format.dataSize
  | .mac => format.headerSize + format.dataSize + Ev2.transmittedMacSize
  | _ => if format.dataSize = 0 then format.headerSize + Ev2.transmittedMacSize
    else format.headerSize + (format.dataSize / Ev2.aesBlockSize + 1) * Ev2.aesBlockSize + Ev2.transmittedMacSize

/-- The length of a command of this format under Standard AES protection. -/
def Format.standardAesSize (format : Format) : Nat :=
  match format.requestMode with
  | .plain => format.headerSize + format.dataSize
  | .mac => format.headerSize + format.dataSize +
    if format.dataSize ≠ 0 then StandardAes.transmittedMacSize else 0
  | _ => if format.dataSize = 0 then format.headerSize
    else format.headerSize + (format.dataSize + StandardAes.crcSize + StandardAes.aesBlockSize - 1) /
      StandardAes.aesBlockSize * StandardAes.aesBlockSize

/-- An honest card. Under EV2 it counts a command before it answers. -/
def honest (P : Primitives) : Scheme Peer where
  size
    | .ev2 _,_,format => format.ev2Size
    | .standardAes _,_,format => format.standardAesSize
  receive
    | .ev2 peer,command,format,wire =>
      (peer.receive P (ev2Mode format.requestMode) command format.headerSize wire).map fun got =>
        (got,.ev2 peer.advance)
    | .standardAes peer,command,format,wire =>
      (peer.receive P (standardAesMode format.requestMode) command format.headerSize format.dataSize wire).map
        fun got => (got.1,.standardAes got.2)
  respond
    | .ev2 peer,format,answer =>
      (peer.respond P (ev2Mode format.responseMode) format.bareEmpty answer,.ev2 peer)
    | .standardAes peer,format,answer =>
      ((peer.respond P (standardAesMode format.responseMode) answer).1,
        .standardAes (peer.respond P (standardAesMode format.responseMode) answer).2)

section Ev2
variable {o : Oracle Environment} {P : Primitives} {request : Request} {format : Format}

theorem Format.Reads.ev2Size (h : format.Reads request) : protectedLength request = format.ev2Size := by
  have hempty : request.data = [] ↔ format.dataSize = 0 := by rw [h.data,List.length_eq_zero_iff]
  have hpadded : (Padding.pad (0x00 : Byte) 0x80 Ev2.aesBlockSize request.data).length =
      (format.dataSize / Ev2.aesBlockSize + 1) * Ev2.aesBlockSize := by
    rw [Padding.length_pad (by decide),h.data]
    unfold Ev2.aesBlockSize
    omega
  cases hmode : request.requestMode <;>
    simp only [protectedLength,Format.ev2Size,h.requestMode,hmode,h.header,← h.data,hempty,hpadded]

/-- The answer is protected if and only if the request is. -/
def Request.Matching (request : Request) : Prop := request.requestMode = .plain ↔ request.responseMode = .plain

theorem ev2Mode_plain (mode : Model.CommunicationMode) : ev2Mode mode = .plain ↔ mode = .plain := by
  cases mode <;> simp [ev2Mode]

/-- The request with an answer as a command of the EV2 conversation. -/
def ev2Command (request : Request) (hmatching : request.Matching) (bareEmpty : Bool) (answer : Bytes) :
    Ev2.Command where
  command := request.command
  header := request.header
  data := request.data
  requestMode := ev2Mode request.requestMode
  answer := answer
  responseMode := ev2Mode request.responseMode
  bareEmpty := bareEmpty
  sizeKnown := request.minimumResponse = request.maximumResponse
  matching := (ev2Mode_plain _).trans (hmatching.trans (ev2Mode_plain _).symm)

theorem prepare_ev2Command (hmatching : request.Matching) (bareEmpty : Bool) (answer : Bytes) :
    prepare request = (ev2Command request hmatching bareEmpty answer).prepare := by
  simp only [prepare,Ev2.Command.prepare,ev2Command]
  cases request.requestMode <;> rfl

theorem expectedSize_inside {answer : Bytes} (hinside : Inside request answer) : expectedSize request =
    if request.minimumResponse = request.maximumResponse then some answer.length else none := by
  obtain ⟨hminimum,hmaximum⟩ := hinside
  unfold expectedSize
  split
  · exact congrArg some (by omega)
  · rfl

theorem accept_ev2Command (hmatching : request.Matching) (hkept : request.invalidatesSession = false)
    (bareEmpty : Bool) {answer : Bytes} (hinside : Inside request answer) (response : Raw.Response) :
    accept request response = (ev2Command request hmatching bareEmpty answer).accept response := by
  simp only [accept,Ev2.Command.accept,Ev2.Command.expectedSize,ev2Command,hkept,expectedSize_inside hinside,
    decide_eq_true_eq,Bool.false_eq_true,if_false]
  cases request.responseMode <;> rfl

/-- Host and card share the session, and the counter has room for further commands. -/
structure Ev2InStep (n : Nat) (host : Ev2.Session) (peer : Ev2.Peer) : Prop where
  ready : host.phase = .ready
  shared : Ev2.Shared host peer
  room : host.counter.toNat + n ≤ Ev2.counterMax.toNat

theorem Ev2InStep.isOpen {n : Nat} {host : Ev2.Session} {peer : Ev2.Peer} (h : Ev2InStep (n+1) host peer) :
    host.Open := by
  refine ⟨h.ready,fun hcounter => ?_⟩
  have hroom := h.room
  rw [hcounter] at hroom
  omega

theorem Ev2InStep.next {n : Nat} {host : Ev2.Session} {peer : Ev2.Peer} (h : Ev2InStep (n+1) host peer)
    (phase : Ev2.Phase) : Ev2InStep n (host.reserve phase).resume peer.advance := by
  have hroom := h.room
  have hmax : Ev2.counterMax.toNat = 65535 := rfl
  refine ⟨rfl,(h.shared.reserve phase).resume,?_⟩
  change (host.counter + 1).toNat + n ≤ _
  rw [UInt16.toNat_add,UInt16.toNat_one]
  omega

/-- EV2 sessions agree with honest cards as long as the counter has room. -/
def ev2Agreement (hP : Computes o P) : Agreement o (honest P) Ev2.Session where
  InStep n host peer := ∃ p, peer = .ev2 p ∧ Ev2InStep n host p
  size _ format := format.ev2Size
  Suits request := request.Matching ∧ Fits request
  Answers _ _ := True
  prepares _ _ := prepare_ev2Cases.mono fun _ _ _ h => h.cryptographic
  accepts _ response _ := (accept_ev2Cases response).mono fun _ _ _ h => h.cryptographic
  step := by
    intro n host _ request format hstep hsuits hreads hkept
    obtain ⟨peer,rfl,hstep⟩ := hstep
    obtain ⟨hmatching,hfits⟩ := hsuits
    have hfits' : (ev2Command request hmatching format.bareEmpty []).Fits := by
      unfold Fits at hfits
      simp only [Ev2.Command.Fits,ev2Command]
      cases hmode : request.requestMode <;> rw [hmode] at hfits <;> exact hfits
    obtain ⟨wire,hprepare,hreceive⟩ := Ev2.Command.prepare_received hP hstep.shared hstep.isOpen hfits'
    rw [← prepare_ev2Command] at hprepare
    have hlength : wire.length = protectedLength request := by
      obtain ⟨hresult,hstate,_⟩ := hprepare [] rfl
      have hcases : Ensures some o (prepare request) host (Ev2Prepare request host) := prepare_ev2Cases
      have hcase := hcases []
      rw [hresult] at hcase
      exact hcase.prepared.length
    have hreceive' : (honest P).receive (.ev2 peer) request.command format wire =
        some ((request.header,request.data),.ev2 peer.advance) := by
      simp only [honest,hreads.requestMode,hreads.header]
      exact congrArg (Option.map fun got => (got,Peer.ev2 peer.advance)) hreceive
    have hsize := hlength.trans hreads.ev2Size
    refine ⟨wire,_,_,hprepare,hsize,hsize.symm,hreceive',?_⟩
    intro answer hinside _
    have hreserved := hstep.shared.reserve (ev2Command request hmatching format.bareEmpty answer).awaited
    have haccept := Ev2.Command.accept_answer hP hreserved
      (c := ev2Command request hmatching format.bareEmpty answer) rfl
    rw [← accept_ev2Command hmatching hkept format.bareEmpty hinside] at haccept
    have hrespond : ((honest P).respond (.ev2 peer.advance) format answer).1 =
        peer.advance.respond P (ev2Mode request.responseMode) format.bareEmpty answer := by
      simp only [honest,hreads.responseMode]
    rw [hrespond]
    refine ⟨?_,length_ev2_response ..,_,haccept,_,rfl,hstep.next _⟩
    unfold Ev2.Peer.respond Ev2.Peer.sign
    split <;> (try split) <;> rfl

end Ev2

section StandardAes
variable {o : Oracle Environment} {P : Primitives} {request : Request} {format : Format}

theorem length_fullPlaintext (command : Byte) (header data : Bytes) :
    (StandardAes.Session.fullPlaintext command header data).length =
      (data.length + StandardAes.crcSize + StandardAes.aesBlockSize - 1) / StandardAes.aesBlockSize *
        StandardAes.aesBlockSize := by
  simp only [StandardAes.Session.fullPlaintext,List.length_append,List.length_take,List.length_drop,
    length_putLe,length_zeros,StandardAes.aesBlockSize,StandardAes.crcSize]
  split <;> omega

theorem Format.Reads.standardAesSize (h : format.Reads request) :
    aesProtectedLength request = format.standardAesSize := by
  have hempty : request.data = [] ↔ format.dataSize = 0 := by rw [h.data,List.length_eq_zero_iff]
  simp only [aesProtectedLength,Format.standardAesSize,StandardAes.Session.cmacLength,
    StandardAes.Session.fullLength,length_fullPlaintext,h.requestMode,h.header,← h.data,ne_eq,hempty,
    decide_eq_true_eq,Bool.false_eq_true,if_false,Nat.add_zero]
  cases request.requestMode <;> simp only <;> split <;> omega

/-- The request with an answer as a command of the Standard AES conversation. -/
def standardAesCommand (request : Request) (answer : Bytes) : StandardAes.Command where
  command := request.command
  header := request.header
  data := request.data
  requestMode := standardAesMode request.requestMode
  answer := answer
  responseMode := standardAesMode request.responseMode

theorem prepare_standardAesCommand (request : Request) (answer : Bytes) :
    prepare request = (standardAesCommand request answer).prepare := by
  simp only [prepare,StandardAes.Command.prepare,standardAesCommand]
  cases request.requestMode <;> rfl

/-- An enciphered answer has the one size that the request admits. -/
def Request.Sized (request : Request) : Prop :=
  standardAesMode request.responseMode = .full → request.minimumResponse = request.maximumResponse

theorem accept_standardAesCommand (hkept : request.invalidatesSession = false) (hsized : request.Sized)
    {answer : Bytes} (hinside : Inside request answer) (response : Raw.Response) :
    accept request response = (standardAesCommand request answer).accept response := by
  unfold Request.Sized at hsized
  simp only [accept,StandardAes.Command.accept,standardAesCommand,hkept,expectedSize_inside hinside,
    Bool.false_eq_true,if_false]
  cases hmode : request.responseMode with
  | plain => rfl
  | mac => rfl
  | full | other =>
    rw [hmode] at hsized
    rw [if_pos (hsized rfl)]
    rfl

theorem length_prepared {s s' : StandardAes.Session} {size : Nat} {wire : Bytes} {es : Trace Environment}
    (h : StandardAes.Session.PrepareCase s size (.ok wire) s' es) : wire.length = size := by
  cases h
  assumption

/-- Host and card share the session. -/
structure StandardAesInStep (host : StandardAes.Session) (peer : StandardAes.Peer) : Prop where
  ready : host.phase = .ready
  shared : StandardAes.Shared host peer

/-- Standard AES sessions agree with honest cards while their CMACs cover what is sent. -/
def standardAesAgreement (hP : Computes o P) : Agreement o (honest P) StandardAes.Session where
  InStep _ host peer := ∃ p, peer = .standardAes p ∧ StandardAesInStep host p
  size _ format := format.standardAesSize
  Suits request := request.Sized ∧ (standardAesCommand request []).Fits ∧ (standardAesCommand request []).Covered
  Answers request answer := (standardAesCommand request answer).AnswerCovered
  prepares _ _ := prepare_aesCases.mono fun _ _ _ h => h.cryptographic
  accepts _ response _ := (accept_aesCases response).mono fun _ _ _ h => h.cryptographic
  step := by
    intro n host _ request format hstep hsuits hreads hkept
    obtain ⟨peer,rfl,hstep⟩ := hstep
    obtain ⟨hsized,hfits,hcovered⟩ := hsuits
    obtain ⟨wire,block,hblock,hprepare,hreceive⟩ :=
      StandardAes.Command.prepare_received hP hstep.shared hstep.ready hfits hcovered
    rw [← prepare_standardAesCommand] at hprepare
    have hlength : wire.length = aesProtectedLength request := by
      obtain ⟨hresult,hstate,_⟩ := hprepare [] rfl
      have hcases : Ensures some o (prepare request) host
        (StandardAes.Session.PrepareCase host (aesProtectedLength request)) := prepare_aesCases
      have hcase := hcases []
      rw [hresult] at hcase
      exact length_prepared hcase
    have hreceive' : (honest P).receive (.standardAes peer) request.command format wire =
        some ((request.header,request.data),.standardAes {peer with iv := block}) := by
      simp only [honest,hreads.requestMode,hreads.header,hreads.data]
      exact congrArg (Option.map fun got => (got.1,Peer.standardAes got.2)) hreceive
    have hsize := hlength.trans hreads.standardAesSize
    refine ⟨wire,_,_,hprepare,hsize,hsize.symm,hreceive',?_⟩
    intro answer hinside hanswer
    have hchained := hstep.shared.chain hblock .awaitingResponse
    obtain ⟨block',hblock',hpeer,haccept⟩ :=
      StandardAes.Command.accept_answer hP hchained (c := standardAesCommand request answer) rfl hanswer
    rw [← accept_standardAesCommand hkept hsized hinside] at haccept
    have hresponse : ((honest P).respond (.standardAes {peer with iv := block}) format answer).1 =
        (StandardAes.Peer.respond P {peer with iv := block} (standardAesMode request.responseMode) answer).1 := by
      simp only [honest,hreads.responseMode]
    have hnext : ((honest P).respond (.standardAes {peer with iv := block}) format answer).2 = .standardAes
        (StandardAes.Peer.respond P {peer with iv := block} (standardAesMode request.responseMode) answer).2 := by
      simp only [honest,hreads.responseMode]
    have hsent := length_standardAes_response P {peer with iv := block} (standardAesMode request.responseMode) answer
    rw [hresponse,hnext]
    refine ⟨?_,by omega,_,haccept,_,rfl,rfl,?_⟩
    · unfold StandardAes.Peer.respond
      split <;> rfl
    · have hpeer' : (StandardAes.Peer.respond P {peer with iv := block} (standardAesMode request.responseMode)
          answer).2 = {peer with iv := block'} := hpeer
      rw [hpeer']
      exact hchained.chain hblock' .ready

end StandardAes
end DesfireSdk.Native.Secure
