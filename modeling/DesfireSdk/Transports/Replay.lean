import DesfireSdk.Managed.Determined
import DesfireSdk.Managed.Runs
import DesfireSdk.Transports.Transport

/-!
# Replay

A replay consumes a fixed script of exchanges. A recorded run is repeated by it, and whatever runs over it follows
the script.
-/
namespace DesfireSdk.Transports
open Interaction Program

/-- One expected frame and the result that is returned for it. -/
structure ReplayStep where
  request : Bytes
  response : Except Error Bytes
  deriving DecidableEq

structure ReplayTransport where
  steps : List ReplayStep
  generation : UInt64 := 1
  deriving DecidableEq

/-- Nobody but the host is asked. -/
abbrev Silent : Signature := ⟨Empty,Empty.elim⟩

namespace ReplayTransport

def exchange (limits : TransportCapabilities) (frame : Bytes) (options : ExchangeOptions) :
    Program (Host Silent) ReplayTransport Fault Bytes := do
  let stopped ← onHost (.stopRequested .operation)
  refuse (stopped = true) (.error ⟨.cancelled,"Replay cancelled before transmission",.notSent,0⟩)
  refuse (options.timeout ≤ 0 ∨ limits.maxTransmit < frame.length)
    (.error (invalid "Replay exchange exceeds configured limits"))
  let replay ← get
  match replay.steps with
  | [] => fail (.error (invalid "Unexpected exchange after the replay script ended"))
  | expected :: rest => do
    refuse (frame ≠ expected.request) (.error (invalid "Exchange does not match the next replay expectation"))
    modify fun replay => {replay with steps := rest}
    ofExcept (Op.lift expected.response)

/-- A reset does not rewind the script. -/
def reset : Program (Host Silent) ReplayTransport Fault Unit :=
  modify fun replay => {replay with generation := replay.generation + 1}

def remaining (replay : ReplayTransport) : Nat := replay.steps.length

def transport (limits : TransportCapabilities) : CardTransport Silent ReplayTransport where
  capabilities := limits
  generation := do
    let replay ← get
    pure replay.generation
  exchange := exchange limits
  reset := reset

/-- The deliveries consumed the script in its order; what is not the next expectation was refused unsent. -/
inductive Follows : List Delivery → List ReplayStep → List ReplayStep → Prop
  | done {steps} : Follows [] steps steps
  | refused {d ds steps rest e} (hanswer : d.handover.answer = .error (.error e)) (he : e.outcome = .notSent)
      (hrest : Follows ds steps rest) : Follows (d :: ds) steps rest
  | consumed {d ds expected steps rest} (hframe : d.frame = expected.request)
      (hanswer : d.handover.answer = Op.lift expected.response) (hrest : Follows ds steps rest) :
      Follows (d :: ds) (expected :: steps) rest

section Following
variable {limits : TransportCapabilities} {l : Oracle (Host Silent)} {replay : ReplayTransport} {frame : Bytes}
  {options : ExchangeOptions}

/-- An exchange is refused unsent, or consumes the next expectation. -/
inductive ExchangeCase (frame : Bytes) (replay : ReplayTransport) : Except Fault Bytes → ReplayTransport → Prop
  | refused {e} (he : e.outcome = .notSent) : ExchangeCase frame replay (.error (.error e)) replay
  | consumed {expected rest} (hsteps : replay.steps = expected :: rest) (hframe : frame = expected.request) :
      ExchangeCase frame replay (Op.lift expected.response) {replay with steps := rest}

theorem exchange_cases : Ensures some l (exchange limits frame options) replay fun r replay' _ =>
    ExchangeCase frame replay r replay' := by
  refine ensures_ask_bind fun h => ensures_refuse_bind (fun _ => .refused rfl) fun _ =>
    ensures_refuse_bind (fun _ => .refused rfl) fun _ => ensures_get_bind ?_
  cases hsteps : replay.steps with
  | nil => exact ensures_fail (.refused rfl)
  | cons expected rest =>
    refine ensures_refuse_bind (fun _ => .refused rfl) fun hframe => ensures_modify_bind (ensures_ofExcept ?_)
    exact .consumed hsteps (Decidable.not_not.mp hframe)

theorem handover_cases : Ensures some l ((transport limits).driver (.exchange frame options)) replay
    fun r replay' _ => ∃ answer, r = .ok ⟨replay.generation,answer⟩ ∧ ExchangeCase frame replay answer replay' := by
  refine ensures_bind (m := fun r replay' _ => r = .ok replay.generation ∧ replay' = replay)
    (ensures_get_bind (ensures_pure ⟨rfl,rfl⟩)) (fun e => nomatch e) fun generation replay' _ hread => ?_
  obtain ⟨hread,rfl⟩ := hread
  cases hread
  refine ensures_bind (m := fun r replay'' _ => ∃ answer, r = .ok answer ∧ ExchangeCase frame replay' answer replay'')
    (ensures_settle ?_) (fun e => nomatch e) ?_
  · exact exchange_cases.mono fun r _ _ h => ⟨r,rfl,h⟩
  · intro answer replay'' _ h
    obtain ⟨answer',hanswer,hcase⟩ := h
    cases hanswer
    exact ensures_pure ⟨answer,rfl,hcase⟩

theorem ExchangeCase.generation {r : Except Fault Bytes} {replay' : ReplayTransport}
    (h : ExchangeCase frame replay r replay') : replay'.generation = replay.generation := by
  cases h <;> rfl

end Following

def isReset : Event Environment → Bool
  | ⟨.resetCard,_⟩ => true
  | _ => false

/-- The replay after a trace: it follows the script, every reading shows the generation of its place, and the
generation counts the resets. -/
structure Followed (replay : ReplayTransport) (es : Trace Environment) (replay' : ReplayTransport) : Prop where
  script : Follows (deliveries es) replay.steps replay'.steps
  readings : ∀ before e after generation, es = before ++ e :: after → CardTransport.reading e = some generation →
    generation = replay.generation + UInt64.ofNat (before.countP isReset)
  generation : replay'.generation = replay.generation + UInt64.ofNat (es.countP isReset)

section Runs
variable {limits : TransportCapabilities} {l : Oracle (Host Silent)} {k : Station (Host Silent) ReplayTransport}
  {replay replay' replay'' : ReplayTransport}

theorem Followed.nil : Followed replay [] replay := ⟨.done,by simp,by simp⟩

theorem Follows.append {ds ds' : List Delivery} {steps steps' steps'' : List ReplayStep} (h : Follows ds steps steps')
    (h' : Follows ds' steps' steps'') : Follows (ds ++ ds') steps steps'' := by
  induction h with
  | done => exact h'
  | refused hanswer he _ ih => exact .refused hanswer he (ih h')
  | consumed hframe hanswer _ ih => exact .consumed hframe hanswer (ih h')

theorem resets_cons (e : Event Environment) (es : Trace Environment) :
    (e :: es).countP isReset = [e].countP isReset + es.countP isReset := by
  rw [← List.singleton_append,List.countP_append]

theorem Followed.cons {e : Event Environment} {es : Trace Environment} (h : Followed replay [e] replay')
    (h' : Followed replay' es replay'') : Followed replay (e :: es) replay'' where
  script := by
    rw [← List.singleton_append,deliveries_append]
    exact h.script.append h'.script
  readings := by
    intro before e' after generation hes hread
    cases before with
    | nil =>
      obtain ⟨rfl,rfl⟩ := List.cons_eq_cons.mp hes
      simpa using h.readings [] _ [] generation rfl hread
    | cons first before =>
      obtain ⟨rfl,rfl⟩ := List.cons_eq_cons.mp hes
      have hlater := h'.readings before e' after generation rfl hread
      have hmoved := h.generation
      rw [hlater,hmoved,UInt64.add_assoc,← UInt64.ofNat_add,← resets_cons]
  generation := by
    rw [h'.generation,h.generation,UInt64.add_assoc,← UInt64.ofNat_add,← resets_cons]

/-- One event that reads at most the current generation. -/
theorem Followed.single {e : Event Environment} (hscript : Follows (deliveries [e]) replay.steps replay'.steps)
    (hread : ∀ generation, CardTransport.reading e = some generation → generation = replay.generation)
    (hgeneration : replay'.generation = replay.generation + UInt64.ofNat ([e].countP isReset)) :
    Followed replay [e] replay' where
  script := hscript
  readings := by
    intro before e' after generation hes he'
    obtain ⟨rfl,hlast⟩ := List.append_eq_singleton_iff.mp hes.symm |>.resolve_right (by simp)
    cases hlast
    simpa using hread generation he'
  generation := hgeneration

theorem step_followed (e : Event Environment) (hreply : e.reply = (transport limits).driver.answer l k e.query) :
    Followed k.state [e] ((transport limits).driver.observe l k e).state := by
  obtain ⟨query,reply⟩ := e
  cases query with
  | exchange frame options =>
    have hcases : Ensures some l ((transport limits).driver (.exchange frame options)) k.state fun r replay' _ =>
        ∃ answer, r = .ok ⟨k.state.generation,answer⟩ ∧ ExchangeCase frame k.state answer replay' := handover_cases
    obtain ⟨answer,hresult,hcase⟩ := hcases k.trace
    have hanswer : (transport limits).driver.answer l k (.exchange frame options) = ⟨k.state.generation,answer⟩ :=
      congrArg Driver.value hresult
    have hreply : reply = ⟨k.state.generation,answer⟩ := hreply.trans hanswer
    subst hreply
    have hcase : ExchangeCase frame k.state answer
        ((transport limits).driver.observe l k ⟨.exchange frame options,⟨k.state.generation,answer⟩⟩).state := hcase
    generalize ((transport limits).driver.observe l k _).state = replay' at hcase
    refine .single ?_ (fun generation hread => (Option.some.inj hread).symm) ?_
    · cases hcase with
      | refused he => exact .refused rfl he .done
      | consumed hsteps hframe =>
        rw [hsteps]
        exact .consumed hframe rfl .done
    · simp [isReset,hcase.generation]
  | generation =>
    refine .single .done (fun generation hread => ?_) (by simp [isReset,Driver.observe,Driver.after,Driver.serve]; rfl)
    cases hread
    exact hreply
  | resetCard => exact .single .done (fun _ h => nomatch h) rfl
  | _ => exact .single .done (fun _ h => nomatch h) (by simp [isReset,Driver.observe,Driver.after,Driver.serve]; rfl)

theorem serves_followed {es : Trace Environment} (hes : (transport limits).driver.Serves l k es) :
    Followed k.state es (reached ((transport limits).driver.observe l) k es).state := by
  induction es generalizing k with
  | nil => exact .nil
  | cons e es ih =>
    obtain ⟨hreply,hrest⟩ := hes
    exact (step_followed e hreply).cons (ih hrest)

end Runs

section Recording
variable {limits : TransportCapabilities} {l : Oracle (Host Silent)}

/-- What a script keeps of a frame. -/
def stepOf (d : Delivery) : Option ReplayStep :=
  match d.handover.answer with
  | .ok response => some ⟨d.frame,.ok response⟩
  | .error (.error e) => some ⟨d.frame,.error e⟩
  | .error .thrown => none

/-- The script of a recorded run. -/
def record (es : Trace Environment) : List ReplayStep := (deliveries es).filterMap stepOf

/-- The replay is as the recording was at this event: its limits and generation are the same, the frame is within
them, and the host answers as it did then. -/
def Resembles (limits : TransportCapabilities) (l : Oracle (Host Silent)) (k : Station (Host Silent) ReplayTransport) :
    Event Environment → Prop
  | ⟨.generation,generation⟩ => generation = k.state.generation
  | ⟨.capabilities,capabilities⟩ => capabilities = some limits
  | ⟨.exchange frame options,handover⟩ => handover.generation = k.state.generation ∧ handover.answer ≠ .error .thrown ∧
    0 < options.timeout ∧ frame.length ≤ limits.maxTransmit ∧ l k.trace (.host (.stopRequested .operation)) = false
  | ⟨.resetCard,answer⟩ => answer = .ok ()
  | ⟨query,reply⟩ => l k.trace (.host query) = reply

/-- The replay is as the recording was all along. -/
def Replayable (limits : TransportCapabilities) (l : Oracle (Host Silent)) :
    Station (Host Silent) ReplayTransport → Trace Environment → Prop
  | _,[] => True
  | k,e :: es => Resembles limits l k e ∧ Replayable limits l ((transport limits).driver.observe l k e) es

theorem stepOf_response {d : Delivery} (h : d.handover.answer ≠ .error .thrown) :
    ∃ expected, stepOf d = some expected ∧ expected.request = d.frame ∧ Op.lift expected.response = d.handover.answer := by
  unfold stepOf
  rcases hanswer : d.handover.answer with (e | _) | response
  · exact ⟨_,rfl,rfl,rfl⟩
  · exact absurd hanswer h
  · exact ⟨_,rfl,rfl,rfl⟩

/-- The expected frame consumes its step. -/
theorem handover_expected {replay : ReplayTransport} {seen : Trace (Host Silent)} {options : ExchangeOptions}
    {expected : ReplayStep} {rest : List ReplayStep} (hsteps : replay.steps = expected :: rest)
    (htimeout : 0 < options.timeout) (hlength : expected.request.length ≤ limits.maxTransmit)
    (hstop : l seen (.host (.stopRequested .operation)) = false) :
    Reaches some l seen ((transport limits).driver (.exchange expected.request options)) replay
      (.ok ⟨replay.generation,Op.lift expected.response⟩) {replay with steps := rest}
      [⟨.host (.stopRequested .operation),false⟩] := by
  have hexchange : Reaches some l seen (exchange limits expected.request options) replay (Op.lift expected.response)
      {replay with steps := rest} [⟨.host (.stopRequested .operation),false⟩] := by
    refine Reaches.asked_bind (S := Host Silent) hstop (.refuse_bind (by simp) (.refuse_bind (by omega) (.get_bind ?_)))
    rw [hsteps]
    refine .refuse_bind (by simp) (.modify_bind ?_)
    cases expected.response with
    | ok response => exact .pure
    | error e => exact fun _ _ => ⟨rfl,rfl,rfl⟩
  have hread : Reaches some l seen (transport limits).generation replay (.ok replay.generation) replay [] :=
    .get_bind .pure
  exact .quiet_bind hread (.bind_quiet (.settle hexchange) .pure)

/-- The replay gives the recorded answer and has consumed no other step. -/
theorem replayed_step {k : Station (Host Silent) ReplayTransport} {e : Event Environment} {steps : List ReplayStep}
    (he : Resembles limits l k e) (hsteps : k.state.steps = record [e] ++ steps) :
    e.reply = (transport limits).driver.answer l k e.query ∧
      ((transport limits).driver.observe l k e).state.steps = steps := by
  obtain ⟨query,reply⟩ := e
  cases query with
  | exchange frame options =>
    obtain ⟨generation,answer⟩ := reply
    obtain ⟨hgeneration,hanswer,htimeout,hlength,hstop⟩ := he
    obtain ⟨expected,hexpected,hrequest,hresponse⟩ := stepOf_response (d := ⟨frame,options,⟨generation,answer⟩⟩) hanswer
    have hrecord : record [⟨.exchange frame options,⟨generation,answer⟩⟩] = [expected] := by
      simp [record,shown,deliveryOf,hexpected]
    rw [hrecord] at hsteps
    subst hrequest hresponse hgeneration
    have hreached : Reaches some l k.trace ((transport limits).driver (.exchange expected.request options)) k.state _ _ _ :=
      handover_expected hsteps htimeout hlength hstop
    obtain ⟨hresult,hstate,_⟩ := hreached k.trace (shown_some _)
    exact ⟨(congrArg Driver.value hresult).symm,congrArg ReplayTransport.steps hstate⟩
  | generation => exact ⟨he,hsteps⟩
  | capabilities => exact ⟨he,hsteps⟩
  | resetCard => exact ⟨he,hsteps⟩
  | _ => exact ⟨Eq.symm he,hsteps⟩

theorem replayable_serves {k : Station (Host Silent) ReplayTransport} {es : Trace Environment} {rest : List ReplayStep}
    (hes : Replayable limits l k es) (hsteps : k.state.steps = record es ++ rest) :
    (transport limits).driver.Serves l k es ∧
      (reached ((transport limits).driver.observe l) k es).state.steps = rest := by
  induction es generalizing k with
  | nil => exact ⟨trivial,hsteps⟩
  | cons e es ih =>
    obtain ⟨hfirst,hrest⟩ := hes
    suffices h : e.reply = (transport limits).driver.answer l k e.query ∧
        ((transport limits).driver.observe l k e).state.steps = record es ++ rest by
      obtain ⟨hserves,hleft⟩ := ih hrest h.2
      exact ⟨⟨h.1,hserves⟩,hleft⟩
    refine replayed_step hfirst ?_
    rw [hsteps,record,← List.singleton_append,deliveries_append,List.filterMap_append,List.append_assoc]
    rfl

/-- A recorded run is repeated by its replay, which leaves nothing of the record. -/
theorem record_replayed {τ α : Type} {p : Op τ α} [Determined p] {o : Oracle Environment} {h : Trace Environment} {s : τ}
    {k : Station (Host Silent) ReplayTransport} {rest : List ReplayStep}
    (hrun : Replayable limits l k (p o h s).events) (hsteps : k.state.steps = record (p o h s).events ++ rest) :
    p ((transport limits).driver.oracle l k) [] s = p o h s ∧
      (reached ((transport limits).driver.observe l) k (p o h s).events).state.steps = rest := by
  obtain ⟨hserves,hleft⟩ := replayable_serves hrun hsteps
  exact ⟨hserves.rerun,hleft⟩

end Recording

/-- Whatever the engine does over a replay follows the script, and its generation counts the resets. -/
theorem perform_followed (limits : TransportCapabilities) (l : Oracle (Host Silent))
    (k : Station (Host Silent) ReplayTransport) (h : Trace Environment) (card : Managed.Card)
    (operation : Managed.Operation) (options : ExchangeOptions) :
    Followed (reached ((transport limits).driver.observe l) k h).state
      (Managed.perform operation options ((transport limits).driver.oracle l k) h card).events
      (reached ((transport limits).driver.observe l) k
        (h ++ (Managed.perform operation options ((transport limits).driver.oracle l k) h card).events)).state := by
  rw [reached_append]
  exact serves_followed (Driver.run_serves k h card)

/-- The replay of a recorded operation repeats it and leaves nothing of the record. -/
theorem perform_replayed {limits : TransportCapabilities} {l : Oracle (Host Silent)}
    {k : Station (Host Silent) ReplayTransport} {o : Oracle Environment} {h : Trace Environment} {card : Managed.Card}
    {operation : Managed.Operation} {options : ExchangeOptions} {rest : List ReplayStep}
    (hrun : Replayable limits l k (Managed.perform operation options o h card).events)
    (hsteps : k.state.steps = record (Managed.perform operation options o h card).events ++ rest) :
    Managed.perform operation options ((transport limits).driver.oracle l k) [] card =
        Managed.perform operation options o h card ∧
      (reached ((transport limits).driver.observe l) k
        (Managed.perform operation options o h card).events).state.steps = rest :=
  record_replayed hrun hsteps

/-- A reader that reports 2048 bytes of free memory. -/
def recorded : Oracle Environment := scripted {generation := 1,replies := [.ok [0x00,0x08,0x00,0x91,0x00]]}

def connected : Managed.Card := {Managed.freshCard with generation := 1}

def recording : Trace Environment := (Managed.perform .freeMemory {} recorded [] connected).events

/-- A host without a reader. -/
def alone : Oracle (Host Silent)
  | _,.host query => scripted {} [] query

/-- The events of the recording are those of the host one by one. -/
theorem recording_replayable : Replayable {} alone ⟨{steps := record recording},[]⟩ recording := by
  repeat' first | exact trivial | rfl | decide | refine ⟨?_,?_⟩

theorem perform_replayed_freeMemory :
    Managed.perform .freeMemory {} ((transport {}).driver.oracle alone ⟨{steps := record recording},[]⟩) [] connected =
        Managed.perform .freeMemory {} recorded [] connected ∧
      (reached ((transport {}).driver.observe alone) ⟨{steps := record recording},[]⟩ recording).state.steps = [] :=
  @perform_replayed {} alone ⟨{steps := record recording},[]⟩ recorded [] connected .freeMemory {} [] recording_replayable
    (List.append_nil (record recording)).symm

example : (Managed.perform .freeMemory {} recorded [] connected).result = .ok (.memory 2048) ∧
    (record recording).length = 1 := by
  constructor <;> rfl

end ReplayTransport
end DesfireSdk.Transports
