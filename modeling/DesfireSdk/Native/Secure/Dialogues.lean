import DesfireSdk.Native.Raw.Links
import DesfireSdk.Native.Secure.Bounds
import DesfireSdk.Native.Secure.Cases

/-!
# Secure exchanges as calls of what is on a card

A card opens each command under its session, lets its contents answer it, protects the answer
and gives it out in parts. Over such a card a run of secure exchanges is a run of calls of the
contents: frames, protection and counters do not show. An exchange that is interrupted is
such a call or none.
-/
namespace DesfireSdk.Native.Secure
open Interaction Program Model

/-- How a card reads a command and protects the answer. -/
structure Format where
  headerSize : Nat
  dataSize : Nat
  requestMode : CommunicationMode
  responseMode : CommunicationMode
  bareEmpty : Bool := false

/-- What is on a card. A command is answered, or refused with a status. -/
structure Contents (ω : Type) where
  format : ω → Byte → Format
  execute : ω → Byte → Bytes → Bytes → Except Byte Bytes × ω

/-- The answers to requests one after another, up to the first that is refused. -/
def Contents.run {ω : Type} (contents : Contents ω) : ω → List Request → Except Fault (List Bytes) × ω
  | w,[] => (.ok [],w)
  | w,request :: rest =>
    match contents.execute w request.command request.header request.data with
    | (.error status,w) => (.error (.error (rejected status)),w)
    | (.ok answer,w) => ((contents.run w rest).1.map (answer :: ·),(contents.run w rest).2)

/-- The card's end of a session family. -/
structure Scheme (π : Type) where
  size : π → Byte → Format → Nat
  receive : π → Byte → Format → Bytes → Option ((Bytes × Bytes) × π)
  respond : π → Format → Bytes → Raw.Response × π

/-- A card with its end of the session, if one is open, and its contents. -/
structure Chip (π ω : Type) where
  peer : Option π
  contents : ω

def integrityError : Raw.Response := ⟨0x1E,[]⟩
def authenticationError : Raw.Response := ⟨0xAE,[]⟩

/-- A card recovers a command before its contents see it, and a refusal ends its session. -/
def Scheme.application {π ω : Type} (scheme : Scheme π) (contents : Contents ω)
    (split : Raw.Response → List Raw.Response) : Raw.Application (Chip π ω) where
  size chip command :=
    chip.peer.elim 0 fun peer => scheme.size peer command (contents.format chip.contents command)
  answer chip command wire :=
    match chip.peer with
    | none => ([authenticationError],chip)
    | some peer =>
      match scheme.receive peer command (contents.format chip.contents command) wire with
      | none => ([integrityError],{chip with peer := none})
      | some ((header,data),received) =>
        match contents.execute chip.contents command header data with
        | (.error status,w) => ([⟨status,[]⟩],⟨none,w⟩)
        | (.ok answer,w) =>
          let (response,next) := scheme.respond received (contents.format chip.contents command) answer
          (split response,⟨some next,w⟩)

/-- The card reads the request the way it was built. -/
structure Format.Reads (format : Format) (request : Request) : Prop where
  header : format.headerSize = request.header.length
  data : format.dataSize = request.data.length
  requestMode : format.requestMode = request.requestMode
  responseMode : format.responseMode = request.responseMode

/-- Hosts and cards that stay in step for a number of further commands, under requests and answers
that suit their scheme. -/
structure Agreement (o : Oracle Environment) {π : Type} (scheme : Scheme π) (σ : Type) [SecureSession σ] where
  InStep : Nat → σ → π → Prop
  size : Byte → Format → Nat
  Suits : Request → Prop
  Answers : Request → Bytes → Prop
  prepares : ∀ request (s : σ), Ensures some o (prepare request) s fun _ _ es => Cryptographic es
  accepts : ∀ request response (s : σ),
    Ensures some o (accept request response) s fun _ _ es => Cryptographic es
  step : ∀ {n s peer request format}, InStep (n+1) s peer → Suits request → format.Reads request →
    request.invalidatesSession = false →
    ∃ wire s₁ received, Yields o (prepare request) s wire s₁ ∧
      wire.length = size request.command format ∧ scheme.size peer request.command format = wire.length ∧
      scheme.receive peer request.command format wire = some ((request.header,request.data),received) ∧
      ∀ answer, Inside request answer → Answers request answer →
        (scheme.respond received format answer).1.status = 0x00 ∧
        (scheme.respond received format answer).1.data.length ≤ answer.length + 24 ∧
        ∃ s₂, Yields o (accept request (scheme.respond received format answer).1) s₁ answer s₂ ∧
          InStep n s₂ (scheme.respond received format answer).2

/-- A way to give answers out in parts. -/
def Splits (split : Raw.Response → List Raw.Response) : Prop :=
  ∀ response, response.status ≠ Raw.additionalFrameStatus →
    Raw.Proper (split response) ∧ Raw.assembled (split response) = response

/-- Work on keys and data reaches no card. -/
theorem unreaching {es : Trace Environment} (h : Cryptographic es) :
    ∀ event ∈ es, ¬Raw.Responder.reaching event.query := by
  intro event hevent hreaching
  have hprimitive := h event hevent
  cases hquery : event.query <;> rw [hquery] at hprimitive hreaching <;>
    first | exact hprimitive | exact hreaching

section Dialogue
variable {o : Oracle Environment} {σ π ω κ : Type} [SecureSession σ] {limits : TransportCapabilities}
  {channel : Raw.RawNativeChannel} {options : ExchangeOptions} {card : Raw.Responder κ} {start : κ}
  {scheme : Scheme π} {contents : Contents ω} {split : Raw.Response → List Raw.Response}
  {embed : Raw.Link (Chip π ω) → κ} {allowed : Byte → Prop} {request : Request}
  {post : Except Fault Bytes → σ → κ → Prop}

/-- The status of an answer is one that refuses a command. -/
def Refusal (status : Byte) : Prop := status ≠ 0x00 ∧ status ≠ Raw.additionalFrameStatus

/-- The transport has room for a request of a size and for its answer, whatever their bytes are. -/
structure Conveyable (limits : TransportCapabilities) (framing : Framing)
    (split : Raw.Response → List Raw.Response) (request : Request) (size : Nat) (reply : Except Byte Bytes) :
    Prop where
  answer : ∀ answer, reply = .ok answer → ∀ wire (response : Raw.Response), wire.length = size →
    response.data.length ≤ answer.length + 24 →
    Raw.Transaction.Carriable limits framing (rawRequest request wire) (split response)
  refusal : ∀ status, reply = .error status → ∀ wire, wire.length = size →
    Raw.Transaction.Carriable limits framing (rawRequest request wire) [⟨status,[]⟩]

/-- A request that the card can serve with this reply. -/
structure Serves (agreement : Agreement o scheme σ) (contents : Contents ω) (limits : TransportCapabilities)
    (framing : Framing) (split : Raw.Response → List Raw.Response) (allowed : Byte → Prop) (w : ω)
    (request : Request) (reply : Except Byte Bytes) : Prop where
  valid : validate request = .ok ()
  kept : request.invalidatesSession = false
  command : request.command ≠ Raw.additionalFrameStatus
  allowed : allowed request.command
  reads : (contents.format w request.command).Reads request
  suits : agreement.Suits request
  carried : Conveyable limits framing split request
    (agreement.size request.command (contents.format w request.command)) reply

/-- An exchange over a card goes on as its application answered it, or it is interrupted. -/
theorem exchangeProtected_facing {α : Type} {app : Raw.Application α} {embed : Raw.Link α → κ}
    (hcard : Raw.Connected o limits channel.framing card start) (hchains : Raw.Chains card app embed allowed)
    (hallowed : allowed Raw.additionalFrameStatus) (hpositive : 0 < options.timeout)
    (hvalid : validate request = .ok ()) (hcommand : allowed request.command)
    {s s₁ : σ} {wire : Bytes} (hprepare : Yields o (prepare request) s wire s₁)
    (hquiet : Ensures some o (prepare request) s fun _ _ es => Cryptographic es)
    {a a' : α} {replies : List Raw.Response}
    (hanswers : Raw.Transaction.Answers app (rawRequest request wire) a replies a')
    (hcarriable : Raw.Transaction.Carriable limits channel.framing (rawRequest request wire) replies)
    {link : Raw.Link α} (hlink : link.application = a)
    {left : κ → Prop} (hleft : ∀ k, Raw.Transaction.Between embed a a' k → left k)
    (hfinish : Facing (card.observe channel.framing) start o (embed (.idle a'))
      (finish request (Raw.assembled replies)) s₁ post) :
    Facing (card.observe channel.framing) start o (embed link) (exchangeProtected channel request options) s
      (Unless Interrupts left post) := by
  have hidle := Raw.Responder.observe_idle card channel.framing
  have hstill := hquiet.mono fun _ _ es h => unreaching h
  rw [exchangeProtected_finish]
  refine Facing.known_bind (a := ()) (t := s) (l := embed link) ?_ ?_
  · rw [hvalid]
    exact fun _ _ => ⟨rfl,rfl,rfl⟩
  have hbefore : left (embed link) := hleft _ ⟨link,rfl,.inl hlink⟩
  refine Facing.unless_bind (Raw.RawNativeChannel.begin_connected hcard hpositive s) (fun _ h => h ▸ hbefore) ?_
  rintro t s' k' ⟨hcurrent,rfl,rfl⟩
  refine Facing.known_bind (a := wire) (t := s₁) (l := embed link) ?_ ?_
  · refine Facing.settle ((Facing.of_yields hidle hprepare hstill).mono fun r s' k' h => ?_)
    obtain ⟨rfl,rfl,rfl⟩ := h
    exact ⟨rfl,rfl,rfl⟩
  have hexchange := Raw.Transaction.exchange_connected hcard hchains hallowed hcommand hanswers hcarriable
    hcurrent hlink
  refine Facing.known_unless_bind (a := Raw.assembled replies) (t := s₁) (l := embed (.idle a')) ?_ hleft
    (hfinish.mono fun _ _ _ h => .inl h)
  refine unless_onError (Facing.within (hexchange.mono fun r t' k' h => h.mono (fun _ h => h) ?_)) ?_
  · rintro ⟨rfl,rfl⟩
    exact ⟨rfl,rfl,rfl⟩
  · rintro r s' l ⟨rfl,_⟩
    exact ⟨_,rfl⟩

/-- A refused command ends the session and is reported with its status. -/
theorem finish_refused {observe : κ → Event Environment → κ} {k : κ} {response : Raw.Response} (s : σ)
    (hstatus : response.status ≠ 0x00) :
    Facing observe start o k (finish request response) s fun r s' k' =>
      r = .error (.error (rejected response.status)) ∧ s' = SecureSession.invalidate s ∧ k' = k := by
  refine Facing.bind (m := fun r s' k' => r = .error (.error (rejected response.status)) ∧
    s' = SecureSession.invalidate s ∧ k' = k) ?_ ?_ ?_
  · unfold Op.refuseAfter
    rw [if_pos hstatus]
    exact Facing.modify_bind (Facing.fail ⟨rfl,rfl,rfl⟩)
  · intro e s' k' h
    obtain ⟨hresult,hrest⟩ := h
    cases hresult
    exact ⟨rfl,hrest⟩
  · intro a s' k' h
    cases h.1

/-- An answer of an admitted size that the session accepts is what the exchange returns. -/
theorem finish_answered {framing : Framing} {k : κ} {response : Raw.Response} {s s' : σ} {answer : Bytes}
    (hstatus : response.status = 0x00) (haccept : Yields o (accept request response) s answer s')
    (hquiet : Ensures some o (accept request response) s fun _ _ es => Cryptographic es)
    (hinside : Inside request answer) (hkept : request.invalidatesSession = false) :
    Facing (card.observe framing) start o k (finish request response) s fun r t k' =>
      r = .ok answer ∧ t = s' ∧ k' = k := by
  have hidle := Raw.Responder.observe_idle card framing
  have hstill := hquiet.mono fun _ _ es h => unreaching h
  refine Facing.known_bind (a := ()) (t := s) (l := k) ?_ ?_
  · rw [hstatus]
    exact fun _ _ => ⟨rfl,rfl,rfl⟩
  refine Facing.known_bind (a := answer) (t := s') (l := k) ?_ ?_
  · refine Facing.settle ((Facing.of_yields hidle haccept hstill).mono fun r t k' h => ?_)
    obtain ⟨rfl,rfl,rfl⟩ := h
    exact ⟨rfl,rfl,rfl⟩
  have hsize : checkResponseSize answer request = .ok answer := by
    obtain ⟨hminimum,hmaximum⟩ := hinside
    exact if_neg (by omega)
  rw [hsize]
  refine Facing.known_bind (a := answer) (t := s') (l := k) (fun _ _ => ⟨rfl,rfl,rfl⟩) ?_
  refine Facing.modify_bind (Facing.pure ?_)
  rw [hkept]
  exact ⟨rfl,rfl,rfl⟩

/-- The contents of the card are as they were before a command, or as they are after it. -/
def Held (embed : Raw.Link (Chip π ω) → κ) (w next : ω) (k : κ) : Prop :=
  ∃ link, k = embed link ∧ (link.application.contents = w ∨ link.application.contents = next)

theorem held_between {w next : ω} {peer peer' : Option π} {k : κ}
    (h : Raw.Transaction.Between embed ⟨peer,w⟩ ⟨peer',next⟩ k) : Held embed w next k := by
  obtain ⟨link,rfl,hlink⟩ := h
  refine ⟨link,rfl,?_⟩
  rcases hlink with hlink | hlink
  · exact .inl (by rw [hlink])
  · exact .inr (by rw [hlink])

variable {agreement : Agreement o scheme σ} {w next : ω} {n : Nat} {s : σ} {peer : π}

/-- A command that the contents answer is answered under the session, and both ends stay in step, unless the
exchange is interrupted. -/
theorem exchangeProtected_answered (hcard : Raw.Connected o limits channel.framing card start)
    (hchains : Raw.Chains card (scheme.application contents split) embed allowed)
    (hallowed : allowed Raw.additionalFrameStatus) (hsplit : Splits split) (hpositive : 0 < options.timeout)
    (hstep : agreement.InStep (n+1) s peer) {answer : Bytes}
    (hexecute : contents.execute w request.command request.header request.data = (.ok answer,next))
    (hserves : Serves agreement contents limits channel.framing split allowed w request (.ok answer))
    (hinside : Inside request answer) (hanswers : agreement.Answers request answer)
    {link : Raw.Link (Chip π ω)} (hlink : link.application = ⟨some peer,w⟩) :
    Facing (card.observe channel.framing) start o (embed link) (exchangeProtected channel request options) s
      (Unless Interrupts (Held embed w next) fun r s' k' => r = .ok answer ∧ ∃ peer', agreement.InStep n s' peer' ∧
        k' = embed (.idle ⟨some peer',next⟩)) := by
  obtain ⟨wire,s₁,received,hprepare,hsize,hread,hreceive,hresponds⟩ :=
    agreement.step hstep hserves.suits hserves.reads hserves.kept
  obtain ⟨hstatus,hlength,s₂,haccept,hnext⟩ := hresponds answer hinside hanswers
  generalize hrespond : scheme.respond received (contents.format w request.command) answer = responded
    at hstatus hlength haccept hnext
  obtain ⟨response,peer'⟩ := responded
  obtain ⟨hproper,hassembled⟩ := hsplit response (by rw [hstatus]; decide)
  have hanswer : Raw.Transaction.Answers (scheme.application contents split) (rawRequest request wire)
      ⟨some peer,w⟩ (split response) ⟨some peer',next⟩ := by
    refine ⟨hserves.command,hread,?_,hproper⟩
    simp only [Scheme.application,rawRequest,hreceive,hexecute,hrespond]
  have hcarriable := hserves.carried.answer answer rfl wire response hsize hlength
  refine exchangeProtected_facing hcard hchains hallowed hpositive hserves.valid hserves.allowed
    hprepare (agreement.prepares request s) hanswer hcarriable hlink (fun _ h => held_between h) ?_
  rw [hassembled]
  refine Facing.mono (finish_answered hstatus haccept (agreement.accepts request response s₁) hinside
    hserves.kept) fun r s' k' h => ?_
  obtain ⟨rfl,rfl,rfl⟩ := h
  exact ⟨rfl,peer',hnext,rfl⟩

/-- A command that the contents refuse is rejected with its status, and the session is over, unless the exchange
is interrupted. -/
theorem exchangeProtected_refused (hcard : Raw.Connected o limits channel.framing card start)
    (hchains : Raw.Chains card (scheme.application contents split) embed allowed)
    (hallowed : allowed Raw.additionalFrameStatus) (hpositive : 0 < options.timeout)
    (hstep : agreement.InStep (n+1) s peer) {status : Byte}
    (hexecute : contents.execute w request.command request.header request.data = (.error status,next))
    (hserves : Serves agreement contents limits channel.framing split allowed w request (.error status))
    (hstatus : Refusal status) {link : Raw.Link (Chip π ω)} (hlink : link.application = ⟨some peer,w⟩) :
    Facing (card.observe channel.framing) start o (embed link) (exchangeProtected channel request options) s
      (Unless Interrupts (Held embed w next) fun r s' k' => r = .error (.error (rejected status)) ∧
        (∃ s₁, s' = SecureSession.invalidate s₁) ∧ k' = embed (.idle ⟨none,next⟩)) := by
  obtain ⟨wire,s₁,received,hprepare,hsize,hread,hreceive,_⟩ :=
    agreement.step hstep hserves.suits hserves.reads hserves.kept
  have hanswer : Raw.Transaction.Answers (scheme.application contents split) (rawRequest request wire)
      ⟨some peer,w⟩ [⟨status,[]⟩] ⟨none,next⟩ := by
    refine ⟨hserves.command,hread,?_,.final hstatus.2⟩
    simp only [Scheme.application,rawRequest,hreceive,hexecute]
  have hcarriable := hserves.carried.refusal status rfl wire hsize
  refine exchangeProtected_facing hcard hchains hallowed hpositive hserves.valid hserves.allowed
    hprepare (agreement.prepares request s) hanswer hcarriable hlink (fun _ h => held_between h) ?_
  refine (finish_refused s₁ hstatus.1).mono fun r s' k' h => ?_
  obtain ⟨rfl,rfl,rfl⟩ := h
  exact ⟨rfl,⟨s₁,rfl⟩,rfl⟩

end Dialogue
end DesfireSdk.Native.Secure
