import DesfireSdk.Interaction.Worker
import DesfireSdk.Python.AsyncCard

/-! Cancellation of the calls of one card, whose cancellation calls are interrupts of its worker. -/
namespace DesfireSdk.Python
open Interaction

def Work.stage : Work → Stage
  | .pending => .queued
  | .running => .running
  | .cancelled => .removed
  | .finished => .done

/-- What a step is to the worker: frames are its acts, and a cancellation call that reaches the reader
interrupts it. -/
def Event.seen : Event → Worker.Event Nat
  | .submitted i | .closing i => .submit i
  | .skipped i => .skip i
  | .started i => .start i
  | .frame i => .act i
  | .completed i => .finish i
  | .cancelled i .removed => .remove i
  | .cancelled i .requested => .request i
  | .callback i => .interrupt i
  | .refused i => .drop i
  | .closed _ => .drain
  | _ => .other

namespace AsyncCard

def stage (card : AsyncCard) (i : Nat) : Option Stage := (card.calls[i]?).map fun call => call.work.stage

/-- The worker of a card. -/
def board (card : AsyncCard) : Worker Nat where
  stage := card.stage
  queue := card.queue
  current := card.worker
  interrupts := card.cancellations

section Steps
variable {card card' : AsyncCard} {i : Nat} {call old : Call} {e : Event}

theorem stage_eq (hcall : card.calls[i]? = some call) : card.stage i = some call.work.stage := by
  rw [stage,hcall]
  rfl

theorem stage_update (hcall : card.calls[i]? = some old) :
    (card.update i call).stage = Function.update card.stage i (some call.work.stage) := by
  obtain ⟨hlength,_⟩ := List.getElem?_eq_some_iff.mp hcall
  funext j
  by_cases hj : j = i
  · subst hj
    rw [Function.update_self]
    exact stage_eq (List.getElem?_set_self hlength)
  · rw [Function.update_of_ne hj]
    unfold stage update
    rw [List.getElem?_set_ne (Ne.symm hj)]

/-- A call whose work stays as it is leaves the worker as it is. -/
theorem stage_update_same (hcall : card.calls[i]? = some old) (hwork : call.work = old.work) :
    (card.update i call).stage = card.stage := by
  rw [stage_update hcall,hwork,← stage_eq hcall,Function.update_eq_self]

theorem stage_submit (call : Call) :
    (card.submit call).stage = Function.update card.stage card.calls.length (some call.work.stage) := by
  funext j
  by_cases hj : j = card.calls.length
  · subst hj
    rw [Function.update_self]
    exact stage_eq List.getElem?_concat_length
  · rw [Function.update_of_ne hj]
    unfold stage submit
    rcases Nat.lt_or_gt_of_ne hj with hlt | hgt
    · rw [List.getElem?_append_left hlt]
    · rw [List.getElem?_eq_none (by simp; omega),List.getElem?_eq_none (by omega)]

/-- The executor cancels what is still queued. -/
theorem stage_shutdown (hinv : card.board.Inv) :
    card.shutdown.stage = fun i => if i ∈ card.queue then some .removed else card.stage i := by
  funext i
  have hmap : card.shutdown.stage i = (card.calls[i]?).map fun call =>
      (if i ∈ card.queue then {call with work := .cancelled} else call : Call).work.stage := by
    unfold stage shutdown
    rw [List.getElem?_mapIdx,Option.map_map]
    rfl
  rw [hmap]
  by_cases hi : i ∈ card.queue
  · have hstage : ∃ s, card.stage i = some s := by
      rcases hinv.queued i hi with h | h <;> exact ⟨_,h⟩
    obtain ⟨_,hstage⟩ := hstage
    obtain ⟨call,hcall,_⟩ := Option.map_eq_some_iff.mp hstage
    simp [hcall,hi,Work.stage]
  · simp [hi,stage]

theorem onCancelled_removed (hwork : call.work = .pending ∨ call.work = .cancelled) :
    call.onCancelled = (.removed,{call with work := .cancelled,task := .settled .removed}) := if_pos hwork

/-- Once its work was started a cancellation keeps it. -/
theorem onCancelled_started (hwork : ¬(call.work = .pending ∨ call.work = .cancelled)) :
    call.onCancelled.2.work = call.work ∧ (call.onCancelled.1 = .provider ∨ call.onCancelled.1 = .requested) := by
  unfold Call.onCancelled
  rw [if_neg hwork]
  cases call.bridge with
  | none => exact ⟨rfl,.inr rfl⟩
  | some bridge =>
    refine ⟨rfl,?_⟩
    by_cases hcancel : bridge.cancel.1 = true
    · exact .inl (if_pos hcancel)
    · exact .inr (if_neg hcancel)

theorem board_submit (call : Call) (hwork : call.work = .pending) : (card.submit call).board =
    {card.board with
      stage := Function.update card.board.stage card.calls.length (some .queued)
      queue := card.board.queue ++ [card.calls.length]} := by
  unfold board
  rw [stage_submit,hwork]
  rfl

theorem board_update (hcall : card.calls[i]? = some old) : (card.update i call).board =
    {card.board with stage := Function.update card.board.stage i (some call.work.stage)} := by
  unfold board
  rw [stage_update hcall]
  rfl

theorem board_update_same (hcall : card.calls[i]? = some old) (hwork : call.work = old.work) :
    (card.update i call).board = card.board := by
  unfold board
  rw [stage_update_same hcall hwork]
  rfl

theorem other_update (hcall : card.calls[i]? = some old) (hwork : call.work = old.work) :
    Worker.Next card.board .other (card.update i call).board := by
  rw [board_update_same hcall hwork]
  exact .other

/-- Every step is a step of a worker with interrupts. -/
theorem Next.refines (hinv : card.board.Inv) (h : Next card e card') :
    Worker.Next card.board e.seen card'.board := by
  have hnew : card.board.stage card.calls.length = none := by
    change (card.calls[card.calls.length]?).map _ = none
    rw [List.getElem?_eq_none (Nat.le_refl _)]
    rfl
  cases h with
  | submitted bridge _ _ _ =>
    rw [board_submit _ rfl]
    exact .submit card.calls.length hnew
  | closing _ _ =>
    have hsubmit : ({card.submit {closes := true} with closing := true} : AsyncCard).board =
        (card.submit {closes := true}).board := rfl
    rw [hsubmit,board_submit _ rfl]
    exact .submit card.calls.length hnew
  | skipped i rest call _ hqueue _ _ => exact .skip i rest hqueue
  | started i rest call hworker hqueue hcall hwork =>
    have hstage : card.board.stage i ≠ some .removed := by
      have hown : card.board.stage i = some call.work.stage := stage_eq hcall
      intro hremoved
      rw [hown] at hremoved
      cases hw : call.work <;> rw [hw] at hremoved <;> first | exact hwork hw | cases hremoved
    have hboard : ({card.update i {call with work := .running} with queue := rest,worker := some i} :
        AsyncCard).board = {(card.update i {call with work := .running}).board with
          queue := rest
          current := some i} := rfl
    rw [hboard,board_update hcall]
    exact .start i rest hworker hqueue hstage
  | frame i call hworker _ _ _ => exact .act i hworker
  | completed i call succeeded hworker hcall _ =>
    have hboard : ({card.update i {call with work := .finished} with
        worker := none
        opened := card.opened && !(call.closes && succeeded)} : AsyncCard).board =
          {(card.update i {call with work := .finished}).board with current := none} := rfl
    rw [hboard,board_update hcall]
    exact .finish i hworker
  | cancelled i call hcall _ _ =>
    have hown : card.board.stage i = some call.work.stage := stage_eq hcall
    by_cases hwork : call.work = .pending ∨ call.work = .cancelled
    · have hboard : (card.onCancelled i call).board = (card.update i call.onCancelled.2).board := by
        unfold onCancelled
        rw [onCancelled_removed hwork]
        rfl
      rw [hboard,onCancelled_removed hwork,board_update hcall]
      refine .remove i ?_
      rw [hown]
      rcases hwork with hwork | hwork <;> rw [hwork]
      · exact .inl rfl
      · exact .inr rfl
    · obtain ⟨hsame,hanswer⟩ := onCancelled_started hwork
      have hstarted : card.board.stage i = some .running ∨ card.board.stage i = some .done := by
        rw [hown]
        cases hw : call.work with
        | pending => exact absurd (.inl hw) hwork
        | cancelled => exact absurd (.inr hw) hwork
        | running => exact .inl rfl
        | finished => exact .inr rfl
      rcases hanswer with hanswer | hanswer
      · have hboard : (card.onCancelled i call).board = (card.update i call.onCancelled.2).board := by
          unfold onCancelled
          rw [hanswer]
          rfl
        rw [hboard,hanswer,board_update_same hcall hsame]
        exact .other
      · have hboard : (card.onCancelled i call).board = {(card.update i call.onCancelled.2).board with
            interrupts := card.board.interrupts ++ [i]} := by
          unfold onCancelled
          rw [hanswer]
          rfl
        rw [hboard,hanswer,board_update_same hcall hsame]
        exact .request i hstarted
  | callback i hrequested _ => exact .interrupt i hrequested
  | refused i hrequested _ => exact .drop i hrequested
  | closed i call hcall _ _ _ _ =>
    have hsame : (card.update i {call with task := .settled .returned}).board = card.board :=
      board_update_same hcall rfl
    have hboard : (card.update i {call with task := .settled .returned}).shutdown.board = {card.board with
        stage := fun j => if j ∈ card.board.queue then some .removed else card.board.stage j
        queue := []} := by
      rw [← hsame] at hinv ⊢
      unfold board
      rw [stage_shutdown hinv]
      rfl
    rw [hboard]
    exact .drain
  | resolving i call bridge _ _ hcall _ _ _ | provided i call bridge _ hcall _ _
  | resolved i call bridge _ _ hcall _ _ _ | interrupted i call hcall _ | unheeded i call _ hcall _
  | delivered i call hcall _ _ _ | quiescing i call hcall _ _ | quiesced i call _ hcall _ _ =>
    exact other_update hcall rfl
  | closeFailed i call hcall _ _ =>
    have hboard : ({card.update i {call with task := .settled .interrupted} with closing := false} :
        AsyncCard).board = (card.update i {call with task := .settled .interrupted}).board := rfl
    rw [hboard]
    exact other_update hcall rfl

end Steps
/-- A cancellation is handled before the work of its own task has finished, unless its provider takes it;
and no work finishes while a cancellation call for it is outstanding. -/
def Timely (card : AsyncCard) : Event → Prop
  | .cancelled i _ => ∀ call, card.calls[i]? = some call → call.work = .finished →
      ∃ bridge ∈ call.bridge, bridge.cancel.1 = true
  | .completed i => i ∉ card.cancellations
  | _ => True

section Requests
variable {card card' : AsyncCard} {call : Call} {e : Event}

/-- After its work finished only a provider keeps a cancellation from the card. -/
theorem onCancelled_finished (hwork : call.work = .finished) :
    call.onCancelled.1 = .requested ↔ ¬∃ bridge ∈ call.bridge, bridge.cancel.1 = true := by
  have hstarted : ¬(call.work = .pending ∨ call.work = .cancelled) := by simp [hwork]
  unfold Call.onCancelled
  rw [if_neg hstarted]
  cases hbridge : call.bridge with
  | none => simp
  | some bridge =>
    change (if bridge.cancel.1 = true then Call.Answer.provider else .requested) = .requested ↔ _
    by_cases hcancel : bridge.cancel.1 = true
    · simp [hcancel]
    · simp [hcancel]

theorem Timely.seen (hinv : card.board.Inv) (h : Next card e card') (htimely : Timely card e) :
    Worker.Timely card.board e.seen := by
  cases h with
  | completed i call _ _ _ _ => exact htimely
  | cancelled i call hcall _ _ =>
    cases hanswer : call.onCancelled.1 with
    | removed | provider =>
      rw [hanswer] at htimely
      exact trivial
    | requested =>
      have hown : card.board.stage i = some call.work.stage := stage_eq hcall
      have hrunning : call.work = .running := by
        cases hwork : call.work with
        | pending =>
          rw [onCancelled_removed (.inl hwork)] at hanswer
          cases hanswer
        | cancelled =>
          rw [onCancelled_removed (.inr hwork)] at hanswer
          cases hanswer
        | running => rfl
        | finished => exact absurd (htimely call hcall hwork) ((onCancelled_finished hwork).mp hanswer)
      refine (hinv.running i).mp ?_
      rw [hown,hrunning]
      rfl
  | _ => exact trivial

theorem not_timely_seen (hinv : card.board.Inv) (h : Next card e card') (htimely : ¬Timely card e) :
    ¬Worker.Timely card.board e.seen := by
  cases h with
  | completed i call _ _ _ _ => exact htimely
  | cancelled i call hcall _ _ =>
    unfold Timely at htimely
    push Not at htimely
    obtain ⟨call',hcall',hwork,hbridge⟩ := htimely
    obtain rfl := Option.some.inj (hcall.symm.trans hcall')
    have hanswer : call.onCancelled.1 = .requested := by
      refine (onCancelled_finished hwork).mpr ?_
      rintro ⟨bridge,hmem,hcancel⟩
      exact hbridge bridge hmem hcancel
    rw [hanswer]
    intro hcurrent
    have hrunning := (hinv.running i).mpr hcurrent
    have hown : card.board.stage i = some call.work.stage := stage_eq hcall
    rw [hown,hwork] at hrunning
    cases hrunning
  | _ => exact absurd trivial htimely

end Requests

section Runs
variable {events : List Event} {card : AsyncCard}

theorem board_empty : ({} : AsyncCard).board = {} := by
  unfold board
  congr 1

/-- The runs of a card from a sound state are runs of its worker. -/
theorem seen_runs {initial : AsyncCard} (hinitial : initial.board.Inv) (h : Runs Next initial events card) :
    Runs Worker.Next initial.board (events.map Event.seen) card.board :=
  h.simulates fun _ _ _ _ hruns hnext => hnext.refines (hinitial.runs hruns)

theorem recorded_of_runs (h : Runs Next {} events card) :
    Worker.Recorded (events.map Event.seen) card.board := by
  have hinitial : ({} : AsyncCard).board.Inv := by
    rw [board_empty]
    exact Worker.inv_empty
  have hruns := seen_runs hinitial h
  rw [board_empty] at hruns
  exact Worker.recorded_of_runs hruns

theorem seen_timely_runs (h : Runs (fun card e card' => Next card e card' ∧ Timely card e) {} events card) :
    Runs (fun w e w' => Worker.Next w e w' ∧ Worker.Timely w e) {} (events.map Event.seen) card.board := by
  rw [← board_empty]
  refine h.simulates fun events card e card' hruns hnext => ?_
  rw [board_empty] at hruns
  have hinv := (Worker.recorded_of_runs (hruns.mono fun _ _ _ h => h.1)).inv
  exact ⟨hnext.1.refines hinv,hnext.2.seen hinv hnext.1⟩

theorem seen_request {e : Event} {i : Nat} (h : e.seen = .request i) : e = .cancelled i .requested := by
  cases e with
  | cancelled j answer =>
    cases answer with
    | requested =>
      cases h
      rfl
    | removed | provider => cases h
  | _ => cases h

/-- In a run of timely steps a cancellation call that reaches the reader was requested for the work that
runs; a step that is not timely leaves a call that only ever finds other work; and what a cancellation took
from the queue never sends a frame. -/
theorem timely_cancellation_interrupts_own (hruns : Runs Next {} events card) :
    (Runs (fun card e card' => Next card e card' ∧ Timely card e) {} events card →
      ∀ i card', Next card (.callback i) card' → card.worker = some i ∧ Event.cancelled i .requested ∈ events) ∧
    (∀ e card', Next card e card' → ¬Timely card e →
      ∃ i ∈ card'.cancellations, ∀ events' card'', Runs Next card' events' card'' → card''.worker ≠ some i) ∧
    (∀ i, Event.cancelled i .removed ∈ events → Event.frame i ∉ events) := by
  have hrecorded := recorded_of_runs hruns
  refine ⟨?_,?_,?_⟩
  · intro htimely i card' hnext
    have hrequested : i ∈ card.cancellations := by
      cases hnext with
      | callback _ hrequested _ => exact hrequested
    have haimed := Worker.aimed_of_runs (seen_timely_runs htimely) i hrequested
    obtain ⟨e,hmem,hseen⟩ := List.mem_map.mp (hrecorded.requested i hrequested)
    exact ⟨haimed,seen_request hseen ▸ hmem⟩
  · intro e card' hnext htimely
    have hinv := hrecorded.inv
    have hstep := hnext.refines hinv
    obtain ⟨i,hrequested,hdone⟩ := hstep.untimely hinv (not_timely_seen hinv hnext htimely)
    refine ⟨i,hrequested,fun events' card'' hruns' => ?_⟩
    have hinv' := hinv.next hstep
    exact hinv'.stray hdone (seen_runs hinv' hruns')
  · intro i hremoved hframe
    refine hrecorded.silent (t := i) ?_ ?_
    · exact List.mem_map.mpr ⟨_,hremoved,rfl⟩
    · exact List.mem_map.mpr ⟨_,hframe,rfl⟩

/-- A card whose only call is cancelled while it runs. -/
def ownCancelled : AsyncCard where
  calls := [{work := .running,task := .cancelling}]
  worker := some 0
  cancellations := [0]

theorem ownCancelled_runs : Runs (fun card e card' => Next card e card' ∧ Timely card e) {}
    [.submitted 0,.started 0,.cancelled 0 .requested] ownCancelled := by
  have hsubmitted : Runs (fun card e card' => Next card e card' ∧ Timely card e) {} [.submitted 0]
      {calls := [{}],queue := [0]} := .step .start ⟨.submitted none (by rintro _ ⟨⟩) rfl rfl,trivial⟩
  have hstarted : Runs (fun card e card' => Next card e card' ∧ Timely card e) {} [.submitted 0,.started 0]
      {calls := [{work := .running}],worker := some 0} :=
    .step hsubmitted ⟨.started 0 [] {} rfl rfl rfl (by decide),trivial⟩
  refine .step hstarted ⟨.cancelled 0 {work := .running} rfl rfl rfl,?_⟩
  rintro _ ⟨⟩ ⟨⟩

theorem timely_cancellation_interrupts_own_call : ownCancelled.worker = some 0 ∧
    Event.cancelled 0 .requested ∈ [Event.submitted 0,.started 0,.cancelled 0 .requested] :=
  (timely_cancellation_interrupts_own (ownCancelled_runs.mono fun _ _ _ h => h.1)).1 ownCancelled_runs 0 _
    (.callback 0 List.mem_cons_self rfl)

/-- Two calls of two tasks: the first was cancelled while it ran, and finished before its cancellation call. -/
def strayCancelled : AsyncCard where
  calls := [{work := .finished,task := .cancelling},{work := .running}]
  worker := some 1
  cancellations := [0]

/-- The cancellation call of the first task reaches the reader while the operation of the second runs. -/
theorem stray_cancellation_interrupts_other :
    Runs Next {} [.submitted 0,.submitted 1,.started 0,.cancelled 0 .requested,.completed 0,.started 1]
        strayCancelled ∧
      Next strayCancelled (.callback 0) {strayCancelled with cancellations := []} ∧
      strayCancelled.worker = some 1 ∧ (strayCancelled.calls[1]?).map Call.task = some .awaiting := by
  have hfirst : Runs Next {} [.submitted 0] {calls := [{}],queue := [0]} :=
    .step .start (.submitted none (by rintro _ ⟨⟩) rfl rfl)
  have hsecond : Runs Next {} [.submitted 0,.submitted 1] {calls := [{},{}],queue := [0,1]} :=
    .step hfirst (.submitted none (by rintro _ ⟨⟩) rfl rfl)
  have hstarted : Runs Next {} [.submitted 0,.submitted 1,.started 0]
      {calls := [{work := .running},{}],queue := [1],worker := some 0} :=
    .step hsecond (.started 0 [1] {} rfl rfl rfl (by decide))
  have hcancelled : Runs Next {} [.submitted 0,.submitted 1,.started 0,.cancelled 0 .requested]
      {calls := [{work := .running,task := .cancelling},{}],queue := [1],worker := some 0,cancellations := [0]} :=
    .step hstarted (.cancelled 0 {work := .running} rfl rfl rfl)
  have hcompleted : Runs Next {}
      [.submitted 0,.submitted 1,.started 0,.cancelled 0 .requested,.completed 0]
      {calls := [{work := .finished,task := .cancelling},{}],queue := [1],cancellations := [0]} :=
    .step hcancelled (.completed 0 {work := .running,task := .cancelling} true rfl rfl (by rintro _ ⟨⟩))
  exact ⟨.step hcompleted (.started 1 [] {} rfl rfl rfl (by decide)),.callback 0 List.mem_cons_self rfl,rfl,rfl⟩

end Runs
end AsyncCard
end DesfireSdk.Python
