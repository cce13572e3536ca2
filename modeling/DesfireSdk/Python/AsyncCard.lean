import Mathlib.Data.List.Basic
import DesfireSdk.Interaction.Threads

/-!
# Asynchronous cards

Tasks of one event loop, the private worker of a card and the threads that run its cancellation calls.
-/
namespace DesfireSdk.Python
open Interaction

/-- The future of a call that was submitted to the card worker. -/
inductive Work
  | pending | running | cancelled | finished
  deriving DecidableEq, Repr

/-- The future of a provider coroutine on the event loop. -/
inductive Resolution
  | pending | cancelled | done (resolved : Bool)
  deriving DecidableEq, Repr

/-- One provider on the event loop, which the card worker waits for. -/
structure AsyncProviderBridge where
  future : Option Resolution := none
  cancelRequested : Bool := false
  resolutionFinished : Bool := false
  resolved : Bool := false
  deriving DecidableEq, Repr

namespace AsyncProviderBridge

/-- Starts the resolution. The provider may have answered before the bridge takes its future up, which no request
cancels any more; otherwise a request from before cancels it at once. -/
def resolve (bridge : AsyncProviderBridge) (answered : Option Bool) : AsyncProviderBridge :=
  {bridge with future := some (match answered with
    | some resolved => .done resolved
    | none => if bridge.cancelRequested then .cancelled else .pending)}

/-- The worker goes on after the resolution ended in some way. -/
def finish (bridge : AsyncProviderBridge) (result : Resolution) : AsyncProviderBridge :=
  {bridge with future := none,resolutionFinished := true,resolved := decide (result = .done true)}

/-- Whether native I/O is still impossible, and the bridge after the request. -/
def cancel (bridge : AsyncProviderBridge) : Bool × AsyncProviderBridge :=
  if bridge.resolutionFinished then (false,bridge)
  else match bridge.future with
    | none => (true,{bridge with cancelRequested := true})
    | some (.done _) => (false,{bridge with cancelRequested := true})
    | some _ => (true,{bridge with future := some .cancelled,cancelRequested := true})

end AsyncProviderBridge

/-- How a task comes back from its call. -/
inductive Ending
  | returned | removed | interrupted
  deriving DecidableEq, Repr

/-- Where a task waits inside its call: for the work, for the work after a cancellation, or for the
cancellation call. -/
inductive Task
  | awaiting | cancelling | quiescing (ending : Ending) | settled (ending : Ending)
  deriving DecidableEq, Repr

/-- One call that was submitted to the card worker. -/
structure Call where
  bridge : Option AsyncProviderBridge := none
  closes : Bool := false
  work : Work := .pending
  task : Task := .awaiting
  deriving DecidableEq, Repr

namespace Call

/-- What the cancellation of a waiting task leads to. -/
inductive Answer
  | removed | provider | requested
  deriving DecidableEq, Repr

/-- Removes queued work; otherwise cancels the provider, or requests the cancellation of the card. -/
def onCancelled (call : Call) : Answer × Call :=
  if call.work = .pending ∨ call.work = .cancelled then
    (.removed,{call with work := .cancelled,task := .settled .removed})
  else match call.bridge with
    | none => (.requested,{call with task := .cancelling})
    | some bridge =>
      (if bridge.cancel.1 then .provider else .requested,
        {call with bridge := some bridge.cancel.2,task := .cancelling})

/-- Native I/O of a call starts after its provider resolved the key. -/
def mayTransmit (call : Call) : Prop :=
  call.closes = false ∧ ∀ bridge ∈ call.bridge, bridge.resolutionFinished = true ∧ bridge.resolved = true

end Call

/-- A card with its calls in order of submission, the queue and the work of its one worker, and the
cancellation calls that no thread has run yet, each with the call it is for. -/
structure AsyncCard where
  calls : List Call := []
  queue : List Nat := []
  worker : Option Nat := none
  cancellations : List Nat := []
  opened : Bool := true
  closing : Bool := false
  closed : Bool := false
  deriving DecidableEq, Repr

inductive Event
  | submitted (i : Nat) | skipped (i : Nat) | started (i : Nat)
  | resolving (i : Nat) | provided (i : Nat) (resolved : Bool) | resolved (i : Nat)
  | frame (i : Nat) | completed (i : Nat)
  | cancelled (i : Nat) (answer : Call.Answer) | cancelledAgain (i : Nat)
  | delivered (i : Nat) | quiesced (i : Nat)
  | callback (i : Nat) | refused (i : Nat)
  | closing (i : Nat) | closed (i : Nat) | closeFailed (i : Nat)
  deriving DecidableEq, Repr

namespace AsyncCard

/-- Puts a call at the end of the queue of the worker. -/
def submit (card : AsyncCard) (call : Call) : AsyncCard :=
  {card with calls := card.calls ++ [call],queue := card.queue ++ [card.calls.length]}

/-- Another state of one call. -/
def update (card : AsyncCard) (i : Nat) (call : Call) : AsyncCard := {card with calls := card.calls.set i call}

/-- The handler of a cancelled task; a request addresses the card. -/
def onCancelled (card : AsyncCard) (i : Nat) (call : Call) : AsyncCard :=
  {card.update i call.onCancelled.2 with
    cancellations := if call.onCancelled.1 = .requested then card.cancellations ++ [i] else card.cancellations}

/-- Closes the executor, which cancels whatever is queued. -/
def shutdown (card : AsyncCard) : AsyncCard :=
  {card with
    calls := card.calls.mapIdx fun i call => if i ∈ card.queue then {call with work := .cancelled} else call
    queue := []
    closing := false
    closed := true}

/-- One step of the event loop, of the card worker or of a thread that runs a cancellation call. -/
inductive Next : AsyncCard → Event → AsyncCard → Prop
  | submitted {card : AsyncCard} (bridge : Option AsyncProviderBridge)
      (hbridge : ∀ b ∈ bridge, b = {}) (hclosed : card.closed = false) (hclosing : card.closing = false) :
      Next card (.submitted card.calls.length) (card.submit {bridge := bridge})
  | skipped {card : AsyncCard} (i : Nat) (rest : List Nat) (call : Call) (hworker : card.worker = none)
      (hqueue : card.queue = i :: rest) (hcall : card.calls[i]? = some call) (hwork : call.work = .cancelled) :
      Next card (.skipped i) {card with queue := rest}
  | started {card : AsyncCard} (i : Nat) (rest : List Nat) (call : Call) (hworker : card.worker = none)
      (hqueue : card.queue = i :: rest) (hcall : card.calls[i]? = some call) (hwork : call.work ≠ .cancelled) :
      Next card (.started i)
        {card.update i {call with work := .running} with queue := rest,worker := some i}
  | resolving {card : AsyncCard} (i : Nat) (call : Call) (bridge : AsyncProviderBridge) (answered : Option Bool)
      (hworker : card.worker = some i) (hcall : card.calls[i]? = some call) (hbridge : call.bridge = some bridge)
      (hfuture : bridge.future = none) (hfinished : bridge.resolutionFinished = false) :
      Next card (.resolving i) (card.update i {call with bridge := some (bridge.resolve answered)})
  | provided {card : AsyncCard} (i : Nat) (call : Call) (bridge : AsyncProviderBridge) (resolved : Bool)
      (hcall : card.calls[i]? = some call) (hbridge : call.bridge = some bridge)
      (hfuture : bridge.future = some .pending) :
      Next card (.provided i resolved)
        (card.update i {call with bridge := some {bridge with future := some (.done resolved)}})
  | resolved {card : AsyncCard} (i : Nat) (call : Call) (bridge : AsyncProviderBridge) (result : Resolution)
      (hworker : card.worker = some i) (hcall : card.calls[i]? = some call) (hbridge : call.bridge = some bridge)
      (hfuture : bridge.future = some result) (hresult : result ≠ .pending) :
      Next card (.resolved i) (card.update i {call with bridge := some (bridge.finish result)})
  | frame {card : AsyncCard} (i : Nat) (call : Call) (hworker : card.worker = some i)
      (hcall : card.calls[i]? = some call) (hopened : card.opened = true) (hmay : call.mayTransmit) :
      Next card (.frame i) card
  | completed {card : AsyncCard} (i : Nat) (call : Call) (succeeded : Bool) (hworker : card.worker = some i)
      (hcall : card.calls[i]? = some call) (hbridge : ∀ bridge ∈ call.bridge, bridge.future = none) :
      Next card (.completed i)
        {card.update i {call with work := .finished} with
          worker := none,opened := card.opened && !(call.closes && succeeded)}
  | cancelled {card : AsyncCard} (i : Nat) (call : Call) (hcall : card.calls[i]? = some call)
      (hcloses : call.closes = false) (htask : call.task = .awaiting) :
      Next card (.cancelled i call.onCancelled.1) (card.onCancelled i call)
  | interrupted {card : AsyncCard} (i : Nat) (call : Call) (hcall : card.calls[i]? = some call)
      (htask : call.task = .cancelling) :
      Next card (.cancelledAgain i) (card.update i {call with task := .quiescing .interrupted})
  | unheeded {card : AsyncCard} (i : Nat) (call : Call) (ending : Ending) (hcall : card.calls[i]? = some call)
      (htask : call.task = .quiescing ending) :
      Next card (.cancelledAgain i) (card.update i {call with task := .settled ending})
  | delivered {card : AsyncCard} (i : Nat) (call : Call) (hcall : card.calls[i]? = some call)
      (hcloses : call.closes = false) (hwork : call.work = .finished) (htask : call.task = .awaiting) :
      Next card (.delivered i) (card.update i {call with task := .settled .returned})
  | quiescing {card : AsyncCard} (i : Nat) (call : Call) (hcall : card.calls[i]? = some call)
      (hwork : call.work = .finished) (htask : call.task = .cancelling) :
      Next card (.delivered i) (card.update i {call with task := .quiescing .returned})
  | quiesced {card : AsyncCard} (i : Nat) (call : Call) (ending : Ending) (hcall : card.calls[i]? = some call)
      (htask : call.task = .quiescing ending) (hdone : i ∉ card.cancellations) :
      Next card (.quiesced i) (card.update i {call with task := .settled ending})
  | callback {card : AsyncCard} (i : Nat) (hrequested : i ∈ card.cancellations) (hopened : card.opened = true) :
      Next card (.callback i) {card with cancellations := card.cancellations.erase i}
  | refused {card : AsyncCard} (i : Nat) (hrequested : i ∈ card.cancellations) (hopened : card.opened = false) :
      Next card (.refused i) {card with cancellations := card.cancellations.erase i}
  | closing {card : AsyncCard} (hclosed : card.closed = false) (hclosing : card.closing = false) :
      Next card (.closing card.calls.length) {card.submit {closes := true} with closing := true}
  | closed {card : AsyncCard} (i : Nat) (call : Call) (hcall : card.calls[i]? = some call)
      (hcloses : call.closes = true) (htask : call.task = .awaiting) (hwork : call.work = .finished)
      (hopened : card.opened = false) :
      Next card (.closed i) (card.update i {call with task := .settled .returned}).shutdown
  | closeFailed {card : AsyncCard} (i : Nat) (call : Call) (hcall : card.calls[i]? = some call)
      (hcloses : call.closes = true) (htask : call.task = .awaiting) :
      Next card (.closeFailed i)
        {card.update i {call with task := .settled .interrupted} with closing := false}

end AsyncCard
end DesfireSdk.Python
