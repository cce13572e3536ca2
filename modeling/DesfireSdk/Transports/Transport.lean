import DesfireSdk.Foundation.Determined
import DesfireSdk.Interaction.Drivers

/-!
# Transports

A transport drives a reader through a service of its own. What is not for the transport goes to
the host it runs on.
-/
namespace DesfireSdk.Transports
open Interaction Program

inductive Below (R : Signature)
  | host (query : Query)
  | reader (query : R.Query)

@[reducible] def Below.Reply {R : Signature} : Below R → Type
  | host query => query.Reply
  | reader query => R.Reply query

/-- The host and the service of a reader. -/
abbrev Host (R : Signature) : Signature := ⟨Below R,Below.Reply⟩

def onHost {R : Signature} {σ ε : Type} (query : Query) : Program (Host R) σ ε query.Reply :=
  ask (S := Host R) (.host query)

def onReader {R : Signature} {σ ε : Type} (query : R.Query) : Program (Host R) σ ε (R.Reply query) :=
  ask (S := Host R) (.reader query)

/-- A zeroed buffer after a call wrote to it from the start. -/
def buffer (capacity : Nat) (written : Bytes) : Bytes := (written ++ zeros capacity).take capacity

theorem length_buffer (capacity : Nat) (written : Bytes) : (buffer capacity written).length = capacity := by
  simp [buffer]

/-- Only the host was asked. -/
def Hosted {R : Signature} (es : Trace (Host R)) : Prop := ∀ event ∈ es, ∃ query reply, event = ⟨.host query,reply⟩

section Hosted
variable {R : Signature} {es : Trace (Host R)}

theorem hosted_nil : Hosted ([] : Trace (Host R)) := by simp [Hosted]

theorem hosted_host (query : Query) (reply : query.Reply) : Hosted (R := R) [⟨.host query,reply⟩] := by simp [Hosted]

theorem Hosted.cons (h : Hosted es) (query : Query) (reply : query.Reply) : Hosted (⟨.host query,reply⟩ :: es) := by
  simpa [Hosted] using h

theorem Hosted.shown {ω : Type} {view : Event (Host R) → Option ω} (h : Hosted es)
    (hview : ∀ query reply, view ⟨.host query,reply⟩ = none) : Program.shown view es = [] := by
  refine List.filterMap_eq_nil_iff.mpr fun event hevent => ?_
  obtain ⟨query,reply,rfl⟩ := h event hevent
  exact hview query reply

end Hosted

structure CardTransport (R : Signature) (σ : Type) where
  capabilities : TransportCapabilities
  generation : Program (Host R) σ Empty UInt64
  exchange (frame : Bytes) (options : ExchangeOptions) : Program (Host R) σ Fault Bytes
  reset : Program (Host R) σ Fault Unit

namespace CardTransport
variable {R : Signature} {σ : Type}

/-- The environment of the engine, with this transport for its card. -/
def driver (t : CardTransport R σ) : Driver Environment (Host R) σ
  | .generation => t.generation
  | .capabilities => pure (some t.capabilities)
  | .exchange frame options => do
    let generation ← t.generation
    let answer ← attempt (t.exchange frame options)
    pure ⟨generation,answer⟩
  | .resetCard => attempt t.reset
  | query => onHost query

/-- The transport denies that the frame was sent. -/
def withheld : Except Fault Bytes → Bool
  | .error (.error e) => e.outcome = .notSent
  | _ => false

/-- The frame of an exchange unless it was withheld. -/
def sent : Event Environment → Option Bytes
  | ⟨.exchange frame _,handover⟩ => if withheld handover.answer then none else some frame
  | _ => none

/-- A transport that says of a frame that it was not sent exactly when the reader did not take it. -/
structure Evident (t : CardTransport R σ) (taken : Event (Host R) → Option Bytes) : Prop where
  host : ∀ query reply, taken ⟨.host query,reply⟩ = none
  generation : ∀ o s, Ensures taken o t.generation s fun _ _ frames => frames = []
  reset : ∀ o s, Ensures taken o t.reset s fun _ _ frames => frames = []
  exchange : ∀ o s frame options, Ensures taken o (t.exchange frame options) s fun r _ frames =>
    frames = if withheld r then [] else [frame]

/-- A transport whose errors deny a frame or leave it open. -/
def Candid (t : CardTransport R σ) (l : Oracle (Host R)) : Prop :=
  ∀ s frame options, Ensures some l (t.exchange frame options) s fun r _ _ =>
    ∀ e, r = .error (.error e) → e.outcome = .notSent ∨ e.outcome = .unknown

section Evidence
variable {t : CardTransport R σ} {taken : Event (Host R) → Option Bytes} {l : Oracle (Host R)}

theorem exchange_taken (ht : t.Evident taken) (frame : Bytes) (options : ExchangeOptions) (s : σ) :
    Ensures taken l (t.driver (.exchange frame options)) s fun r _ frames =>
      ∃ handover : Handover, r = .ok handover ∧ frames = if withheld handover.answer then [] else [frame] := by
  refine ensures_bind (ht.generation l s) (fun e => nomatch e) fun generation s' frames hframes => ?_
  rw [hframes]
  refine ensures_bind (m := fun r _ frames => ∃ answer, r = .ok answer ∧
    frames = if withheld answer then [] else [frame]) (ensures_settle ?_) (fun e => nomatch e) ?_
  · exact (ht.exchange l s' frame options).mono fun r _ frames h => ⟨r,rfl,h⟩
  · intro answer s'' frames h
    obtain ⟨answer',hanswer,rfl⟩ := h
    cases hanswer
    exact ensures_pure ⟨⟨generation,answer⟩,rfl,by simp⟩

theorem exchange_candid (ht : t.Candid l) (frame : Bytes) (options : ExchangeOptions) (s : σ) :
    Ensures some l (t.driver (.exchange frame options)) s fun r _ _ => ∃ handover : Handover, r = .ok handover ∧
      ∀ e, handover.answer = .error (.error e) → e.outcome = .notSent ∨ e.outcome = .unknown := by
  refine ensures_bind (m := fun _ _ _ => True) (fun _ => trivial) (fun e => nomatch e) fun generation s' _ _ => ?_
  refine ensures_bind (m := fun r _ _ => ∃ answer, r = .ok answer ∧
    ∀ e, answer = .error (.error e) → e.outcome = .notSent ∨ e.outcome = .unknown) (ensures_settle ?_)
      (fun e => nomatch e) ?_
  · exact (ht s' frame options).mono fun r _ _ h => ⟨r,rfl,h⟩
  · intro answer s'' _ h
    obtain ⟨answer',hanswer,houtcome⟩ := h
    cases hanswer
    exact ensures_pure ⟨⟨generation,answer⟩,rfl,houtcome⟩

/-- One question gives the reader what it shows as sent. -/
theorem step_sent (ht : t.Evident taken) (k : Station (Host R) σ) (e : Event Environment)
    (hreply : e.reply = t.driver.answer l k e.query) :
    shown taken (t.driver.serve l k e.query).events = (sent e).toList := by
  obtain ⟨query,reply⟩ := e
  have hhost : ∀ query reply, shown taken [⟨.host query,reply⟩] = [] := by
    intro query reply
    rw [shown_singleton,ht.host]
    rfl
  cases query with
  | exchange frame options =>
    obtain ⟨handover,hresult,hframes⟩ := exchange_taken (l := l) ht frame options k.state k.trace
    have hanswer : t.driver.answer l k (.exchange frame options) = handover := congrArg Driver.value hresult
    have hreply : reply = handover := hreply.trans hanswer
    rw [hreply]
    refine hframes.trans ?_
    by_cases h : withheld handover.answer = true <;> simp [sent,h]
  | generation => exact ht.generation l k.state k.trace
  | resetCard => exact ht.reset l k.state k.trace
  | capabilities => rfl
  | _ => exact hhost _ _

/-- An error of the transport denies the frame or leaves it open. -/
theorem step_candid (ht : t.Candid l) (k : Station (Host R) σ) (e : Event Environment)
    (hreply : e.reply = t.driver.answer l k e.query) (d : Delivery) (hd : deliveryOf e = some d) (failure : Error)
    (hfailure : d.handover.answer = .error (.error failure)) :
    failure.outcome = .notSent ∨ failure.outcome = .unknown := by
  obtain ⟨query,reply⟩ := e
  cases query with
  | exchange frame options =>
    obtain ⟨handover,hresult,houtcome⟩ := exchange_candid (l := l) ht frame options k.state k.trace
    have hanswer : t.driver.answer l k (.exchange frame options) = handover := congrArg Driver.value hresult
    have hreply : reply = handover := hreply.trans hanswer
    cases hd
    exact houtcome failure (hreply ▸ hfailure)
  | _ => cases hd

/-- The reader takes exactly the frames that are not denied, once each and in order. -/
theorem run_sent {τ α : Type} {p : Op τ α} [Determined p] (ht : t.Evident taken) (k : Station (Host R) σ)
    (h : Trace Environment) (s : τ) :
    shown taken (t.driver.calls l (reached (t.driver.observe l) k h) (p (t.driver.oracle l k) h s).events) =
      shown sent (p (t.driver.oracle l k) h s).events :=
  (Driver.run_serves k h s).shown fun k e hreply => step_sent ht k e hreply

end Evidence

/-- The changes of the card's state that a trace of calls tells of. -/
def changes (weight : Event (Host R) → Nat) (es : Trace (Host R)) : Nat :=
  es.foldr (fun event count => weight event + count) 0

@[simp] theorem changes_nil (weight : Event (Host R) → Nat) : changes weight [] = 0 := rfl

@[simp] theorem changes_cons (weight : Event (Host R) → Nat) (e : Event (Host R)) (es : Trace (Host R)) :
    changes weight (e :: es) = weight e + changes weight es := rfl

@[simp] theorem changes_append (weight : Event (Host R) → Nat) (es es' : Trace (Host R)) :
    changes weight (es ++ es') = changes weight es + changes weight es' := by
  induction es with
  | nil => simp
  | cons event es ih => simp [ih,Nat.add_assoc]

theorem changes_hosted {weight : Event (Host R) → Nat} {es : Trace (Host R)} (h : Hosted es)
    (hweight : ∀ query reply, weight ⟨.host query,reply⟩ = 0) : changes weight es = 0 := by
  induction es with
  | nil => rfl
  | cons event es ih =>
    obtain ⟨query,reply,rfl⟩ := h event List.mem_cons_self
    have hrest := ih fun event hevent => h event (List.mem_cons_of_mem _ hevent)
    simp [hrest,hweight]

/-- The generation moved by the changes its calls tell of. -/
def Moves (weight : Event (Host R) → Nat) (generationOf : σ → UInt64) (s s' : σ) (es : Trace (Host R)) : Prop :=
  generationOf s' = generationOf s + UInt64.ofNat (changes weight es)

/-- A transport whose generation counts the changes of the card's state. -/
structure Counts (t : CardTransport R σ) (weight : Event (Host R) → Nat) (generationOf : σ → UInt64) : Prop where
  host : ∀ query reply, weight ⟨.host query,reply⟩ = 0
  generation : ∀ o s, Ensures some o t.generation s fun r s' es =>
    r = .ok (generationOf s) ∧ Moves weight generationOf s s' es
  exchange : ∀ o s frame options, Ensures some o (t.exchange frame options) s fun _ s' es =>
    Moves weight generationOf s s' es
  reset : ∀ o s, Ensures some o t.reset s fun _ s' es => Moves weight generationOf s s' es

/-- The generation a question was answered at. -/
def reading : Event Environment → Option UInt64
  | ⟨.generation,generation⟩ => some generation
  | ⟨.exchange _ _,handover⟩ => some handover.generation
  | _ => none

section Generations
variable {t : CardTransport R σ} {weight : Event (Host R) → Nat} {generationOf : σ → UInt64} {l : Oracle (Host R)}

theorem Moves.refl (s : σ) : Moves weight generationOf s s [] := by
  simp [Moves]

theorem Moves.still (s : σ) {e : Event (Host R)} (he : weight e = 0) : Moves weight generationOf s s [e] := by
  simp [Moves,he]

theorem Moves.trans {s s' s'' : σ} {es es' : Trace (Host R)} (h : Moves weight generationOf s s' es)
    (h' : Moves weight generationOf s' s'' es') : Moves weight generationOf s s'' (es ++ es') := by
  unfold Moves at *
  rw [h',h,changes_append,UInt64.ofNat_add,UInt64.add_assoc]

theorem exchange_counts (ht : t.Counts weight generationOf) (frame : Bytes) (options : ExchangeOptions) (s : σ) :
    Ensures some l (t.driver (.exchange frame options)) s fun r s' es =>
      (∃ handover : Handover, r = .ok handover ∧ handover.generation = generationOf s) ∧
        Moves weight generationOf s s' es := by
  refine ensures_bind (ht.generation l s) (fun e => nomatch e) fun generation s' es h => ?_
  obtain ⟨hread,hmoved⟩ := h
  cases hread
  refine ensures_bind (m := fun r s'' es' => Moves weight generationOf s' s'' es') (ensures_settle ?_)
    (fun e => nomatch e) ?_
  · exact (ht.exchange l s' frame options).mono fun _ _ _ h => h
  · intro answer s'' es' h
    refine ensures_pure ⟨⟨_,rfl,rfl⟩,?_⟩
    rw [List.append_nil]
    exact hmoved.trans h

theorem step_counts (ht : t.Counts weight generationOf) (k : Station (Host R) σ) (q : Query) :
    Moves weight generationOf k.state (t.driver.after l k q).state (t.driver.serve l k q).events := by
  have hfull : ∀ {α ε : Type} {p : Program (Host R) σ ε α} {post : Except ε α → σ → Trace (Host R) → Prop},
      Ensures some l p k.state post → post (p l k.trace k.state).result (p l k.trace k.state).state
        (p l k.trace k.state).events := by
    intro α ε p post hp
    have h := hp k.trace
    rwa [shown_some] at h
  cases q with
  | generation => exact (hfull (ht.generation l k.state)).2
  | exchange frame options => exact (hfull (exchange_counts ht frame options k.state)).2
  | resetCard => exact hfull (ht.reset l k.state)
  | capabilities => exact Moves.refl _
  | _ => exact Moves.still _ (ht.host _ _)

theorem reading_counts (ht : t.Counts weight generationOf) (k : Station (Host R) σ) {e : Event Environment}
    {generation : UInt64} (hreply : e.reply = t.driver.answer l k e.query) (he : reading e = some generation) :
    generation = generationOf k.state := by
  obtain ⟨query,reply⟩ := e
  cases query with
  | generation =>
    obtain ⟨hresult,_⟩ := ht.generation l k.state k.trace
    have hanswer : t.driver.answer l k .generation = generationOf k.state := congrArg Driver.value hresult
    cases he
    exact hreply.trans hanswer
  | exchange frame options =>
    obtain ⟨⟨handover,hresult,hread⟩,_⟩ := exchange_counts (l := l) ht frame options k.state k.trace
    have hanswer : t.driver.answer l k (.exchange frame options) = handover := congrArg Driver.value hresult
    have hreply : reply = handover := hreply.trans hanswer
    cases he
    rw [hreply,hread]
  | _ => cases he

theorem reached_counts (ht : t.Counts weight generationOf) (k : Station (Host R) σ) (es : Trace Environment) :
    Moves weight generationOf k.state (reached (t.driver.observe l) k es).state (t.driver.calls l k es) := by
  induction es generalizing k with
  | nil => exact Moves.refl _
  | cons e es ih => exact (step_counts ht k e.query).trans (ih _)

/-- Two readings of the generation agree exactly when nothing in between changed the card's state. -/
theorem readings_agree (ht : t.Counts weight generationOf) {k : Station (Host R) σ}
    {before between rest : Trace Environment} {first second : Event Environment} {g g' : UInt64}
    (hes : t.driver.Serves l k (before ++ first :: (between ++ second :: rest))) (hfirst : reading first = some g)
    (hsecond : reading second = some g')
    (hbound : changes weight (t.driver.calls l (reached (t.driver.observe l) k before) (first :: between)) < 2^64) :
    g = g' ↔ changes weight (t.driver.calls l (reached (t.driver.observe l) k before) (first :: between)) = 0 := by
  obtain ⟨_,hlater⟩ := Driver.Serves.append.mp hes
  rw [← List.cons_append] at hlater
  obtain ⟨hbetween,hlast⟩ := Driver.Serves.append.mp hlater
  have hg := reading_counts ht _ hbetween.1 hfirst
  have hg' := reading_counts ht _ hlast.1 hsecond
  have hmoved := reached_counts (l := l) ht (reached (t.driver.observe l) k before) (first :: between)
  unfold Moves at hmoved
  rw [← hg,← hg'] at hmoved
  generalize changes weight _ = n at hmoved hbound ⊢
  constructor
  · intro h
    rw [h] at hmoved
    have hvalue := congrArg UInt64.toNat hmoved
    simp only [UInt64.toNat_add,UInt64.toNat_ofNat'] at hvalue
    have hlt := g'.toNat_lt
    omega
  · intro h
    rw [hmoved,h]
    simp

end Generations
end CardTransport
end DesfireSdk.Transports
