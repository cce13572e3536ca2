import DesfireSdk.Native.Raw.Cards
import DesfireSdk.Native.Raw.Completion

/-!
# Chained exchanges as calls of a card's application

A card gathers the frames of a command until it has all its bytes, and gives its answer out
in parts. Over such a card a chained exchange is one call: the application receives the
request as it was, once, and the host the answer as it was. An exchange that is interrupted
is such a call or none.
-/
namespace DesfireSdk.Native.Raw
open Interaction Program

/-- Replies of which exactly the last ends the answer. -/
inductive Proper : List Response → Prop
  | final {reply : Response} (hstatus : reply.status ≠ additionalFrameStatus) : Proper [reply]
  | more {reply : Response} {rest : List Response} (hstatus : reply.status = additionalFrameStatus)
      (hrest : Proper rest) : Proper (reply :: rest)

/-- The answer that was given out in parts. -/
def assembled : List Response → Response
  | [] => ⟨0x00,[]⟩
  | [reply] => reply
  | reply :: rest => ⟨(assembled rest).status,reply.data ++ (assembled rest).data⟩

theorem assembled_more {reply : Response} {rest : List Response} (hrest : Proper rest) :
    assembled (reply :: rest) = ⟨(assembled rest).status,reply.data ++ (assembled rest).data⟩ := by
  cases hrest <;> rfl

/-- The part of a card behind its framing: how many bytes a command has, and what it answers. -/
structure Application (α : Type) where
  size : α → Byte → Nat
  answer : α → Byte → Bytes → List Response × α

/-- The application with the parts of a command or of an answer that are still on the way. -/
structure Link (α : Type) where
  application : α
  upload : Option (Byte × Bytes) := none
  download : List Response := []

def illegalCommand : Response := ⟨0x1C,[]⟩

namespace Link
variable {α : Type}

def idle (a : α) : Link α := ⟨a,none,[]⟩

/-- The bytes of a command so far: more are asked for, or the application answers. -/
def gather (app : Application α) (link : Link α) (command : Byte) (bytes : Bytes) : Response × Link α :=
  if bytes.length < app.size link.application command then
    (⟨additionalFrameStatus,[]⟩,⟨link.application,some (command,bytes),[]⟩)
  else
    match app.answer link.application command bytes with
    | ([],a) => (illegalCommand,idle a)
    | (reply :: rest,a) => (reply,⟨a,none,rest⟩)

/-- A card that chains frames in both directions. -/
def chained (app : Application α) : Responder (Link α) := fun link command data =>
  if command ≠ additionalFrameStatus then gather app link command data
  else
    match link.download,link.upload with
    | reply :: rest,_ => (reply,{link with download := rest})
    | [],some (command,bytes) => gather app link command (bytes ++ data)
    | [],none => (illegalCommand,link)

theorem chained_download (app : Application α) (a : α) (reply : Response) (rest : List Response)
    (data : Bytes) : chained app ⟨a,none,reply :: rest⟩ additionalFrameStatus data = (reply,⟨a,none,rest⟩) :=
  rfl

theorem chained_upload (app : Application α) (a : α) (command : Byte) (bytes data : Bytes) :
    chained app ⟨a,some (command,bytes),[]⟩ additionalFrameStatus data =
      gather app ⟨a,some (command,bytes),[]⟩ command (bytes ++ data) :=
  rfl

theorem chained_start (app : Application α) (link : Link α) {command : Byte}
    (hcommand : command ≠ additionalFrameStatus) (data : Bytes) :
    chained app link command data = gather app link command data := by
  simp only [chained,if_pos hcommand]

theorem gather_short {app : Application α} {link : Link α} {command : Byte} {bytes : Bytes}
    (hshort : bytes.length < app.size link.application command) : gather app link command bytes =
      (⟨additionalFrameStatus,[]⟩,⟨link.application,some (command,bytes),[]⟩) := by
  simp only [gather,if_pos hshort]

theorem gather_complete {app : Application α} {link : Link α} {command : Byte} {bytes : Bytes}
    (hcomplete : app.size link.application command ≤ bytes.length) {reply : Response}
    {rest : List Response} {a : α} (hanswer : app.answer link.application command bytes = (reply :: rest,a)) :
    gather app link command bytes = (reply,⟨a,none,rest⟩) := by
  simp only [gather,if_neg (Nat.not_lt.mpr hcomplete),hanswer]

end Link

/-- Under these commands a card chains frames for an application. -/
def Chains {κ α : Type} (card : Responder κ) (app : Application α) (embed : Link α → κ)
    (allowed : Byte → Prop) : Prop :=
  ∀ link command data, allowed command → card (embed link) command data =
    ((Link.chained app link command data).1,embed (Link.chained app link command data).2)

namespace Transaction
variable {κ α : Type} {o : Oracle Environment} {limits : TransportCapabilities} {framing : Framing}
  {card : Responder κ} {start : κ} {app : Application α} {embed : Link α → κ} {allowed : Byte → Prop}
  {request : Request} {perFrame n : Nat} {first : Bool} {chain : Chain} {a₀ a a' : α}

/-- The replies fit the reader and together the bound of the request. -/
structure Receivable (limits : TransportCapabilities) (framing : Framing) (maximum : Nat)
    (replies : List Response) : Prop where
  each : ∀ reply ∈ replies, reply.data.length + statusSize framing ≤ limits.maxReceive
  total : (assembled replies).data.length ≤ maximum

theorem Receivable.rest {reply : Response} {rest : List Response} {used maximum : Nat}
    (h : Receivable limits framing (maximum - used) (reply :: rest)) (hrest : Proper rest) :
    Receivable limits framing (maximum - (used + reply.data.length)) rest := by
  refine ⟨fun reply' hmem => h.each reply' (List.mem_cons_of_mem _ hmem),?_⟩
  have htotal := h.total
  rw [assembled_more hrest,List.length_append] at htotal
  omega

theorem Receivable.head_le {reply : Response} {rest : List Response} {maximum : Nat}
    (h : Receivable limits framing maximum (reply :: rest)) (hproper : Proper (reply :: rest)) :
    reply.data.length ≤ maximum := by
  have htotal := h.total
  cases hproper with
  | final _ => exact htotal
  | more _ hrest =>
    rw [assembled_more hrest,List.length_append] at htotal
    omega

/-- The application is as it was before a call, or as it is after it. -/
def Between (embed : Link α → κ) (a a' : α) (k : κ) : Prop :=
  ∃ link, k = embed link ∧ (link.application = a ∨ link.application = a')

/-- One pass of the loop over a card: its answer ends the exchange or is followed by another frame. -/
theorem exchangeLoop_step (hcard : Connected o limits framing card start) {k : κ} {t : Transaction}
    (hcurrent : Current o framing t) {reply : Response} {k₁ : κ}
    (hreply : card k chain.command (chunk request perFrame first chain) = (reply,k₁))
    (hroom : Room limits framing (chunk request perFrame first chain) reply)
    (hbound : reply.data.length ≤ sizeSub request.maximumResponse chain.response.length)
    (hquiet : (chain.accept request perFrame first reply).uploaded < request.data.length →
      reply = ⟨additionalFrameStatus,[]⟩)
    {left : κ → Prop} (hleft : left k) {post : Except Fault Response → Transaction → κ → Prop}
    (hfinal : reply.status ≠ additionalFrameStatus →
      post (.ok ⟨reply.status,chain.response ++ reply.data⟩) t.markSent k₁)
    (hmore : reply.status = additionalFrameStatus → Facing (card.observe framing) start o k₁
      (exchangeLoop request perFrame n false (chain.accept request perFrame first reply)) t.markSent
      (Unless Interrupts left post)) :
    Facing (card.observe framing) start o k (exchangeLoop request perFrame (n+1) first chain) t
      (Unless Interrupts left post) := by
  have hframe := exchangeFrame_connected hcard hcurrent k chain.command (chunk request perFrame first chain)
    (by rw [hreply]; exact hroom)
  rw [hreply] at hframe
  refine Facing.known_unless_bind hframe (fun l hl => hl ▸ hleft) ?_
  refine Facing.refuse_bind (Nat.not_lt.mpr hbound) (Facing.refuse_bind ?_ ?_)
  · rintro ⟨hrest,hunfit⟩
    rw [hquiet hrest] at hunfit
    simp at hunfit
  by_cases hstatus : reply.status = additionalFrameStatus
  · rw [if_neg (not_not_intro hstatus)]
    exact hmore hstatus
  · rw [if_pos hstatus]
    refine Facing.refuse_bind (fun hrest => ?_) (Facing.pure (.inl (hfinal hstatus)))
    rw [hquiet hrest] at hstatus
    exact hstatus rfl

/-- All of a request has been sent, and the answer is on its way. -/
structure Drained (request : Request) (chain : Chain) : Prop where
  command : chain.command = additionalFrameStatus
  uploaded : chain.uploaded = request.data.length
  response : chain.response.length ≤ request.maximumResponse

namespace Drained

theorem currentSize (h : Drained request chain) :
    currentSize request perFrame false chain.uploaded = 0 := by
  simp [Transaction.currentSize,h.uploaded,sizeSub_of_le]

theorem chunk (h : Drained request chain) : chunk request perFrame false chain = [] := by
  rw [Transaction.chunk,h.currentSize,List.take_zero]

theorem accept (h : Drained request chain) {reply : Response}
    (hle : reply.data.length ≤ request.maximumResponse - chain.response.length) :
    Drained request (chain.accept request perFrame false reply) := by
  have hresponse := h.response
  refine ⟨rfl,?_,?_⟩
  · rw [Chain.accept_uploaded,h.currentSize,h.uploaded,Nat.add_zero]
  · simp only [Chain.accept,List.length_append]
    omega

end Drained

theorem download_step (hcard : Connected o limits framing card start)
    (hchains : Chains card app embed allowed) (hallowed : allowed additionalFrameStatus)
    (hnative : 2 ≤ limits.maxNativeFrame) (htransmit : framingOverhead framing < limits.maxTransmit)
    {t : Transaction} (hcurrent : Current o framing t) (hdrained : Drained request chain)
    {reply : Response} {rest : List Response}
    (hreceive : reply.data.length + statusSize framing ≤ limits.maxReceive)
    (hle : reply.data.length ≤ request.maximumResponse - chain.response.length)
    {post : Except Fault Response → Transaction → κ → Prop}
    (hfinal : reply.status ≠ additionalFrameStatus →
      post (.ok ⟨reply.status,chain.response ++ reply.data⟩) t.markSent (embed ⟨a,none,rest⟩))
    (hmore : reply.status = additionalFrameStatus → Facing (card.observe framing) start o (embed ⟨a,none,rest⟩)
      (exchangeLoop request perFrame n false (chain.accept request perFrame false reply)) t.markSent
      (Unless Interrupts (Between embed a₀ a) post)) :
    Facing (card.observe framing) start o (embed ⟨a,none,reply :: rest⟩)
      (exchangeLoop request perFrame (n+1) false chain) t (Unless Interrupts (Between embed a₀ a) post) := by
  have hanswer : card (embed ⟨a,none,reply :: rest⟩) chain.command (chunk request perFrame false chain) =
      (reply,embed ⟨a,none,rest⟩) := by
    rw [hdrained.command,hchains _ _ _ hallowed,Link.chained_download]
  have hroom : Room limits framing (chunk request perFrame false chain) reply := by
    rw [hdrained.chunk]
    refine ⟨Nat.le_of_succ_le hnative,?_,fun _ => Nat.zero_le _,hreceive⟩
    rw [List.length_nil,Nat.zero_add]
    exact Nat.le_of_lt htransmit
  have hquiet : ¬(chain.accept request perFrame false reply).uploaded < request.data.length := by
    rw [(hdrained.accept hle).uploaded]
    exact Nat.lt_irrefl _
  refine exchangeLoop_step hcard hcurrent hanswer hroom ?_ (fun hrest => absurd hrest hquiet)
    ⟨_,rfl,.inr rfl⟩ hfinal hmore
  rw [sizeSub_of_le hdrained.response]
  exact hle

/-- The rest of an answer is fetched with empty frames. -/
theorem download_connected (hcard : Connected o limits framing card start)
    (hchains : Chains card app embed allowed) (hallowed : allowed additionalFrameStatus)
    (hnative : 2 ≤ limits.maxNativeFrame) (htransmit : framingOverhead framing < limits.maxTransmit)
    {rest : List Response} (hproper : Proper rest) {t : Transaction} (hcurrent : Current o framing t)
    (hdrained : Drained request chain)
    (hreceive : Receivable limits framing (request.maximumResponse - chain.response.length) rest)
    (hn : rest.length ≤ n) :
    Facing (card.observe framing) start o (embed ⟨a,none,rest⟩) (exchangeLoop request perFrame n false chain)
      t (Unless Interrupts (Between embed a₀ a) fun r _ k' =>
        r = .ok ⟨(assembled rest).status,chain.response ++ (assembled rest).data⟩ ∧ k' = embed (.idle a)) := by
  induction hproper generalizing chain t n with
  | @final reply hstatus =>
    cases n with
    | zero => cases hn
    | succ n =>
      have hle := hreceive.head_le (.final hstatus)
      have heach := hreceive.each reply List.mem_cons_self
      exact download_step hcard hchains hallowed hnative htransmit hcurrent hdrained heach hle
        (fun _ => ⟨rfl,rfl⟩) fun hmore => absurd hmore hstatus
  | @more reply rest hstatus hrest ih =>
    cases n with
    | zero => cases hn
    | succ n =>
      have hle := hreceive.head_le (.more hstatus hrest)
      have heach := hreceive.each reply List.mem_cons_self
      refine download_step hcard hchains hallowed hnative htransmit hcurrent hdrained heach hle
        (fun hfinal => absurd hstatus hfinal) fun _ => ?_
      have hlength : (chain.accept request perFrame false reply).response.length =
          chain.response.length + reply.data.length := List.length_append
      have hreceive' := hreceive.rest hrest
      rw [← hlength] at hreceive'
      have hlater := ih hcurrent.markSent (hdrained.accept hle) hreceive' (Nat.le_of_succ_le_succ hn)
      refine hlater.mono fun r t' k' h => h.mono (fun _ hleft => hleft) ?_
      rintro ⟨rfl,rfl⟩
      rw [assembled_more hrest]
      exact ⟨by simp [Chain.accept],rfl⟩

/-- With its last frame a request is answered, and the rest of the answer is fetched. -/
theorem answer_connected (hcard : Connected o limits framing card start)
    (hchains : Chains card app embed allowed) (hallowed : allowed additionalFrameStatus)
    (hnative : 2 ≤ limits.maxNativeFrame) (htransmit : framingOverhead framing < limits.maxTransmit)
    {t : Transaction} (hcurrent : Current o framing t) (hp : Positioned request perFrame first chain)
    (hresponse : chain.response = []) {reply : Response} {rest : List Response}
    (hall : request.data.length ≤ (chain.accept request perFrame first reply).uploaded)
    (hproper : Proper (reply :: rest))
    (hreceive : Receivable limits framing request.maximumResponse (reply :: rest)) {k : κ}
    (hleft : Between embed a₀ a k)
    (hreply : card k chain.command (chunk request perFrame first chain) = (reply,embed ⟨a,none,rest⟩))
    (hroom : Room limits framing (chunk request perFrame first chain) reply) (hn : rest.length ≤ n) :
    Facing (card.observe framing) start o k (exchangeLoop request perFrame (n+1) first chain) t
      (Unless Interrupts (Between embed a₀ a) fun r _ k' =>
        r = .ok (assembled (reply :: rest)) ∧ k' = embed (.idle a)) := by
  have hbound : reply.data.length ≤ sizeSub request.maximumResponse chain.response.length := by
    rw [hresponse,List.length_nil,sizeSub_of_le (Nat.zero_le _)]
    exact hreceive.head_le hproper
  refine exchangeLoop_step hcard hcurrent hreply hroom hbound (fun h => absurd hall (Nat.not_le.mpr h))
    hleft ?_ ?_
  · intro hfinal
    rw [hresponse]
    cases hproper with
    | final _ => exact ⟨rfl,rfl⟩
    | more hagain _ => exact absurd hagain hfinal
  · intro hagain
    cases hproper with
    | final hfinal => exact absurd hagain hfinal
    | more _ hproper' =>
      have hhead := hreceive.head_le (.more hagain hproper')
      have hdrained : Drained request (chain.accept request perFrame first reply) := by
        have hend := hp.uploaded
        have hsize := hp.currentSize_le
        refine ⟨rfl,?_,by simpa [Chain.accept,hresponse] using hhead⟩
        rw [Chain.accept_uploaded] at hall ⊢
        omega
      have hlength : (chain.accept request perFrame first reply).response.length = 0 + reply.data.length := by
        simp [Chain.accept,hresponse]
      have hreceive' : Receivable limits framing (request.maximumResponse - 0) (reply :: rest) := hreceive
      have hlater := hreceive'.rest hproper'
      rw [← hlength] at hlater
      refine (download_connected hcard hchains hallowed hnative htransmit hproper' hcurrent.markSent hdrained
        hlater hn).mono fun r t' k' h => h.mono (fun _ hleft => hleft) ?_
      rw [assembled_more hproper']
      rintro ⟨rfl,rfl⟩
      exact ⟨by simp [Chain.accept,hresponse],rfl⟩

/-- The application awaits a command of the request's size, and this is its answer. -/
structure Answers (app : Application α) (request : Request) (a : α) (replies : List Response) (a' : α) :
    Prop where
  command : request.command ≠ additionalFrameStatus
  size : app.size a request.command = request.data.length
  answer : app.answer a request.command request.data = (replies,a')
  proper : Proper replies

/-- What the card holds of a request at a position of its upload. -/
inductive Gathered (request : Request) (a : α) : Bool → Chain → Link α → Prop
  | start {link : Link α} {chain : Chain} (hlink : link.application = a)
      (hcommand : chain.command = request.command) (hnone : chain.uploaded = 0) : Gathered request a true chain link
  | going {chain : Chain} (hcommand : chain.command = additionalFrameStatus) :
      Gathered request a false chain ⟨a,some (request.command,request.data.take chain.uploaded),[]⟩

theorem Gathered.application {link : Link α} (h : Gathered request a first chain link) : link.application = a := by
  cases h with
  | start hlink => exact hlink
  | going => rfl

/-- The next frame brings the next part of the request. -/
theorem Gathered.step {link : Link α} (h : Gathered request a first chain link)
    (hstart : request.command ≠ additionalFrameStatus) (reply : Response) :
    Link.chained app link chain.command (chunk request perFrame first chain) = Link.gather app (.idle a)
      request.command (request.data.take (chain.accept request perFrame first reply).uploaded) := by
  cases h with
  | start hlink hcommand hnone =>
    rw [hcommand,Link.chained_start app link hstart,chunk,Chain.accept_uploaded,hnone,List.drop_zero,
      Nat.zero_add]
    subst hlink
    rfl
  | going hcommand =>
    rw [hcommand,Link.chained_upload,chunk,Chain.accept_uploaded,← List.take_add]
    rfl

/-- An upload is finished and answered if frames are left for the rest of it and for the answer, or it is
interrupted before or after the application has answered. -/
theorem upload_connected (hcard : Connected o limits framing card start)
    (hchains : Chains card app embed allowed) (hallowed : allowed additionalFrameStatus)
    (hcommand : allowed request.command) (hnative : 2 ≤ limits.maxNativeFrame)
    (htransmit : framingOverhead framing < limits.maxTransmit) (hstatus : statusSize framing ≤ limits.maxReceive)
    (hpositive : 0 < perFrame) (hperFrame : perFrame ≤ dataPerFrame framing limits)
    {replies : List Response} (hanswers : Answers app request a replies a')
    (hreceive : Receivable limits framing request.maximumResponse replies) {t : Transaction}
    (hcurrent : Current o framing t) {link : Link α} (hgathered : Gathered request a first chain link)
    (hp : Positioned request perFrame first chain) (hresponse : chain.response = [])
    (hdue : 0 < framesLeft request perFrame first chain.uploaded)
    (hn : framesLeft request perFrame first chain.uploaded + replies.length ≤ n + 1) :
    Facing (card.observe framing) start o (embed link) (exchangeLoop request perFrame n first chain) t
      (Unless Interrupts (Between embed a a') fun r _ k' =>
        r = .ok (assembled replies) ∧ k' = embed (.idle a')) := by
  induction n generalizing first chain t link with
  | zero =>
    have hsome : 0 < replies.length := by
      cases hanswers.proper <;> exact Nat.succ_pos _
    omega
  | succ n ih =>
    have hbefore : Between embed a a' (embed link) := ⟨link,rfl,.inl hgathered.application⟩
    have hlimits := dataPerFrame_le framing limits
    have hsize := hp.currentSize_le
    have hchunk := hp.length_chunk
    have hfits : FitsFraming framing (chunk request perFrame first chain) := by
      intro hwrapped
      rw [hwrapped] at hperFrame
      simp only [dataPerFrame] at hperFrame
      omega
    have hallowed' : allowed chain.command := by
      cases hgathered with
      | start _ hsame _ => rwa [hsame]
      | going hsame => rwa [hsame]
    have hroom : ∀ reply : Response, reply.data.length + statusSize framing ≤ limits.maxReceive →
        Room limits framing (chunk request perFrame first chain) reply := by
      intro reply hfit
      exact ⟨by omega,by omega,hfits,hfit⟩
    have hleft : ∀ reply : Response, framesLeft request perFrame first chain.uploaded =
        1 + framesLeft request perFrame false (chain.accept request perFrame first reply).uploaded :=
      fun reply => framesLeft_step hp hpositive hdue reply
    have hreached : ∀ reply : Response, card (embed link) chain.command (chunk request perFrame first chain) =
        ((Link.gather app (.idle a) request.command
          (request.data.take (chain.accept request perFrame first reply).uploaded)).1,
          embed (Link.gather app (.idle a) request.command
            (request.data.take (chain.accept request perFrame first reply).uploaded)).2) := by
      intro reply
      rw [hchains _ _ _ hallowed',hgathered.step hanswers.command reply]
    by_cases hmore : (chain.accept request perFrame first ⟨additionalFrameStatus,[]⟩).uploaded <
        request.data.length
    · -- the card asks for the next part
      have hshort : (request.data.take (chain.accept request perFrame first
          ⟨additionalFrameStatus,[]⟩).uploaded).length < app.size (Link.idle a).application request.command := by
        change _ < app.size a request.command
        rw [hanswers.size,List.length_take]
        omega
      have hreply := hreached ⟨additionalFrameStatus,[]⟩
      rw [Link.gather_short hshort] at hreply
      refine exchangeLoop_step hcard hcurrent hreply (hroom _ (by simpa using hstatus)) (Nat.zero_le _)
        (fun _ => rfl) hbefore (fun hfinal => absurd rfl hfinal) fun _ => ?_
      have hstep := hleft ⟨additionalFrameStatus,[]⟩
      have hdue' := (framesLeft_pos request hpositive _).mpr hmore
      have hn' : framesLeft request perFrame false (chain.accept request perFrame first
          ⟨additionalFrameStatus,[]⟩).uploaded + replies.length ≤ n + 1 := by omega
      have hresponse' : (chain.accept request perFrame first ⟨additionalFrameStatus,[]⟩).response = [] := by
        simp [Chain.accept,hresponse]
      exact ih hcurrent.markSent (.going rfl) (hp.accept (Nat.zero_le _)) hresponse' hdue' hn'
    · -- the card has all bytes, and the application answers
      have hall : ∀ reply : Response, request.data.take
          (chain.accept request perFrame first reply).uploaded = request.data :=
        fun reply => List.take_of_length_le (Nat.le_of_not_lt hmore)
      cases hreplies : replies with
      | nil =>
        have hproper := hanswers.proper
        rw [hreplies] at hproper
        cases hproper
      | cons reply rest =>
        have hproper := hanswers.proper
        have hanswer := hanswers.answer
        rw [hreplies] at hproper hanswer hreceive hn
        have hreply := hreached reply
        rw [hall reply,Link.gather_complete (Nat.le_of_eq hanswers.size) hanswer] at hreply
        have hstep := hleft reply
        have hend : request.data.length ≤ (chain.accept request perFrame first reply).uploaded :=
          Nat.le_of_not_lt hmore
        have hfetch : rest.length ≤ n := by
          simp only [List.length_cons] at hn
          omega
        exact answer_connected hcard hchains hallowed hnative htransmit hcurrent hp hresponse hend hproper
          hreceive hbefore hreply (hroom reply (hreceive.each reply List.mem_cons_self)) hfetch

/-- The transport can carry the request to a card that gives this answer. -/
structure Carriable (limits : TransportCapabilities) (framing : Framing) (request : Request)
    (replies : List Response) : Prop where
  admitted : Admitted framing limits request
  status : statusSize framing ≤ limits.maxReceive
  receivable : Receivable limits framing request.maximumResponse replies
  frames : framesNeeded request.firstFrameDataSize request.data.length (dataPerFrame framing limits) +
    replies.length ≤ maximumChainFrames + 1

/-- One frame each way is enough. -/
theorem Carriable.whole {reply : Response} (hdata : request.data.length ≤ dataPerFrame framing limits)
    (hfirst : request.firstFrameDataSize = none) (hsingle : request.singleContinuationFrame = false)
    (hcapacity : 0 < dataPerFrame framing limits) (hpositive : 0 < request.maximumResponse)
    (hmaximum : reply.data.length ≤ request.maximumResponse)
    (hreceive : reply.data.length + statusSize framing ≤ limits.maxReceive) :
    Carriable limits framing request [reply] := by
  have hlimits := dataPerFrame_le framing limits
  have hframes : framesNeeded none request.data.length (dataPerFrame framing limits) = 1 := by
    have hnone := continuationFrames_zero hcapacity
    simp only [framesNeeded,Option.getD_none,Nat.min_eq_right hdata,Nat.sub_self,hnone]
  refine ⟨⟨by omega,by omega,by omega,hcapacity,?_,?_⟩,by omega,⟨?_,hmaximum⟩,?_⟩
  · rw [hfirst]
    intro size hsize
    cases hsize
  · rw [hsingle]
    intro hrequired
    cases hrequired
  · intro reply' hmem
    cases List.mem_singleton.mp hmem
    exact hreceive
  · rw [hfirst,hframes]
    change 1 + 1 ≤ maximumChainFrames + 1
    decide

/-- A chained exchange over a card is one call of its application, unless it is interrupted; then it is one
call or none. -/
theorem exchange_connected (hcard : Connected o limits framing card start)
    (hchains : Chains card app embed allowed) (hallowed : allowed additionalFrameStatus)
    (hcommand : allowed request.command) {replies : List Response}
    (hanswers : Answers app request a replies a') (hcarriable : Carriable limits framing request replies)
    {t : Transaction} (hcurrent : Current o framing t) {link : Link α} (hlink : link.application = a) :
    Facing (card.observe framing) start o (embed link) (exchange request) t
      (Unless Interrupts (Between embed a a') fun r _ k' =>
        r = .ok (assembled replies) ∧ k' = embed (.idle a')) := by
  obtain ⟨hadmitted,hstatus,hreceive,hframes⟩ := hcarriable
  have hframing := hcurrent.framing
  have htransmit := hadmitted.transmit
  have hnative := hadmitted.native
  have hcapacity := hadmitted.capacity
  refine Facing.get_bind (Facing.refuse_bind hadmitted.maximum ?_)
  refine Facing.known_bind (a := limits) (t := t) (l := embed link) ?_ ?_
  · refine Facing.quiet_bind (Responder.observe_idle card framing) id fun h => ?_
    rw [hcard.steady.capabilities h]
    exact Facing.pure ⟨rfl,rfl,rfl⟩
  rw [hframing]
  refine Facing.refuse_bind (by omega) (Facing.refuse_bind (by omega) ?_)
  refine Facing.refuse_bind ?_ (Facing.refuse_bind ?_ ?_)
  · rintro ⟨size,hsize,hbad⟩
    have hgood := hadmitted.boundary size hsize
    omega
  · rintro ⟨hrequired,hbad⟩
    obtain ⟨size,hsize,hshort⟩ := hadmitted.single hrequired
    have hgood := hadmitted.boundary size hsize
    rcases hbad with hnone | ⟨size',hsize',hlong⟩
    · rw [hnone] at hsize
      cases hsize
    · cases hsize.symm.trans hsize'
      rw [sizeSub_of_le (by omega)] at hlong
      omega
  have hp : Positioned request (dataPerFrame framing limits) true ⟨0,request.command,[]⟩ := by
    refine ⟨Nat.zero_le _,Nat.zero_le _,fun _ => rfl,fun size hsize => ?_⟩
    have hgood := hadmitted.boundary size hsize
    omega
  have hdue : 0 < framesLeft request (dataPerFrame framing limits) true 0 := by
    simp only [framesLeft,framesNeeded,if_true]
    omega
  exact upload_connected hcard hchains hallowed hcommand hnative htransmit hstatus hcapacity (Nat.le_refl _)
    hanswers hreceive hcurrent (.start hlink rfl rfl) hp rfl hdue hframes

end Transaction
end DesfireSdk.Native.Raw
