import DesfireSdk.Interaction.Threads

/-!
# Handles of the C interface

Managed and raw handles, the entries behind them, and the calls of any number of threads that open,
close, use and cancel them. A step is one access to a registry map, an operation lock or a flag.
-/
namespace DesfireSdk.CApi
open Interaction

/-- The two registries: managed cards and raw channels. -/
inductive Kind
  | card | raw
  deriving DecidableEq

structure Handle where
  kind : Kind
  value : UInt64
  deriving DecidableEq

/-- The identity of a shared entry. -/
abbrev EntryId := Nat

structure Entry (T : Type) where
  operation : RecursiveMutex T := .free
  active : Bool := false
  closed : Bool := false

/-- The next handle, the live handles, and the thread that owns the mutex of the map between two
steps. -/
structure Registry (T : Type) where
  next : UInt64 := 1
  live : UInt64 → Option EntryId := fun _ => none
  guard : Option T := none

/-- What is asked for under a handle. -/
inductive Call
  | invoke (timeout : UInt32)
  | close
  | cancel
  | notifyStateChange
  deriving DecidableEq

inductive Request
  | dfOpen (kind : Kind)
  | call (call : Call) (handle : Handle)

/-- Where a call stands. -/
inductive Frame
  | opening (kind : Kind)
  | registering (kind : Kind) (entry : EntryId)
  | looking (call : Call) (handle : Handle)
  | retained (call : Call) (handle : Handle) (entry : EntryId)
  | signalling (entry : EntryId)
  | locked (call : Call) (handle : Handle) (entry : EntryId)
  | tested (entry : EntryId)
  | marking (entry : EntryId)
  | running (entry : EntryId)
  | clearing (entry : EntryId)
  | finishing (entry : EntryId)
  | closing (handle : Handle) (entry : EntryId)
  | sealing (handle : Handle) (entry : EntryId)
  | erasing (handle : Handle) (entry : EntryId)
  | leaving (handle : Handle) (entry : EntryId)
  | unlocking (entry : EntryId)
  deriving DecidableEq

/-- Foreign callbacks run inside these, so that a thread may begin another call there. -/
def Frame.callsOut : Frame → Bool
  | .opening _ | .signalling _ | .running _ => true
  | _ => false

structure State (T : Type) where
  registry : Kind → Registry T := fun _ => {}
  entries : EntryId → Entry T := fun _ => {}
  allocated : EntryId := 0
  threads : T → List Frame := fun _ => []

inductive Event
  | began (request : Request)
  | opened (handle : Handle) (entry : EntryId)
  | resolved (handle : Handle) (entry : EntryId)
  | started (entry : EntryId)
  | ended (entry : EntryId)
  | released (entry : EntryId)
  | closed (handle : Handle) (entry : EntryId)
  | silent

/-- A thread begins a call, takes its next step, or meets a failure there: an exception, a lock attempt
that fails although the lock is free, or memory that runs out while a map stores a handle. -/
inductive Move
  | call (request : Request)
  | proceed
  | fail
  | exhaust

section Steps
variable {T : Type} [DecidableEq T]

namespace State

def setFrames (s : State T) (t : T) (frames : List Frame) : State T :=
  {s with threads := Function.update s.threads t frames}

def setEntry (s : State T) (entry : EntryId) (value : Entry T) : State T :=
  {s with entries := Function.update s.entries entry value}

def setRegistry (s : State T) (kind : Kind) (value : Registry T) : State T :=
  {s with registry := Function.update s.registry kind value}

/-- Another thread is inside the critical section of a registry. -/
def guarded (s : State T) (kind : Kind) : Bool := (s.registry kind).guard.isSome

end State

def Request.frame : Request → Frame
  | .dfOpen kind => .opening kind
  | .call asked handle => .looking asked handle

/-- The frame behind a successful lookup. -/
def Call.frame (handle : Handle) (entry : EntryId) : Call → Frame
  | .cancel | .notifyStateChange => .signalling entry
  | call => .retained call handle entry

/-- The next step of the innermost call of a thread; none while a registry is locked by another. -/
def proceed (t : T) (s : State T) (rest : List Frame) : Frame → Option (Event × State T)
  | .opening kind =>
    some (.silent,{s with allocated := s.allocated + 1}.setFrames t (.registering kind s.allocated :: rest))
  | .registering kind entry =>
    let registry := s.registry kind
    if s.guarded kind then none
    else if registry.next = UInt64.ofNat (2^64 - 1) then some (.silent,s.setFrames t rest)
    else some (.opened ⟨kind,registry.next⟩ entry,(s.setRegistry kind {registry with
      next := registry.next + 1
      live := Function.update registry.live registry.next (some entry)}).setFrames t rest)
  | .looking call handle =>
    if call = .invoke 0 then some (.silent,s.setFrames t rest)
    else if s.guarded handle.kind then none
    else match (s.registry handle.kind).live handle.value with
      | none => some (.silent,s.setFrames t rest)
      | some entry => some (.resolved handle entry,s.setFrames t (call.frame handle entry :: rest))
  | .retained call handle entry =>
    match (s.entries entry).operation.tryLock t with
    | none => some (.silent,s.setFrames t rest)
    | some operation => some (.silent,(s.setEntry entry {s.entries entry with operation}).setFrames t
        (.locked call handle entry :: rest))
  | .signalling _ => some (.silent,s.setFrames t rest)
  | .locked call handle entry =>
    if (s.entries entry).active then some (.silent,s.setFrames t (.unlocking entry :: rest))
    else if call = .close then some (.silent,s.setFrames t (.closing handle entry :: rest))
    else some (.silent,s.setFrames t (.tested entry :: rest))
  | .tested entry =>
    if (s.entries entry).closed then some (.silent,s.setFrames t (.unlocking entry :: rest))
    else some (.silent,s.setFrames t (.marking entry :: rest))
  | .marking entry => some (.started entry,
      (s.setEntry entry {s.entries entry with active := true}).setFrames t (.running entry :: rest))
  | .running entry => some (.ended entry,s.setFrames t (.clearing entry :: rest))
  | .clearing entry => some (.silent,
      (s.setEntry entry {s.entries entry with active := false}).setFrames t (.finishing entry :: rest))
  | .finishing entry => some (.released entry,(s.setEntry entry {s.entries entry with
      operation := (s.entries entry).operation.unlock}).setFrames t rest)
  | .closing handle entry =>
    if s.guarded handle.kind then none
    else some (.silent,(s.setRegistry handle.kind {s.registry handle.kind with guard := some t}).setFrames t
      (.sealing handle entry :: rest))
  | .sealing handle entry => some (.silent,
      (s.setEntry entry {s.entries entry with closed := true}).setFrames t (.erasing handle entry :: rest))
  | .erasing handle entry =>
    let registry := s.registry handle.kind
    match registry.live handle.value with
    | none => some (.silent,s.setFrames t (.leaving handle entry :: rest))
    | some _ => some (.closed handle entry,(s.setRegistry handle.kind {registry with
        live := Function.update registry.live handle.value none}).setFrames t (.leaving handle entry :: rest))
  | .leaving handle entry => some (.silent,(s.setRegistry handle.kind
      {s.registry handle.kind with guard := none}).setFrames t (.unlocking entry :: rest))
  | .unlocking entry => some (.silent,(s.setEntry entry {s.entries entry with
      operation := (s.entries entry).operation.unlock}).setFrames t rest)

/-- A failure in the innermost call: opening fails, a mutex throws or is not acquired, or a callback
throws. -/
def fail (t : T) (s : State T) (rest : List Frame) : Frame → Option (Event × State T)
  | .opening _ | .registering .. | .looking .. | .retained .. | .signalling _ => some (.silent,s.setFrames t rest)
  | .running entry => some (.ended entry,s.setFrames t (.clearing entry :: rest))
  | .closing _ entry => some (.silent,s.setFrames t (.unlocking entry :: rest))
  | _ => none

/-- The map cannot store the new handle, whose value is spent nevertheless. -/
def exhaust (t : T) (s : State T) (rest : List Frame) : Frame → Option (Event × State T)
  | .registering kind _ =>
    let registry := s.registry kind
    if s.guarded kind then none
    else if registry.next = UInt64.ofNat (2^64 - 1) then none
    else some (.silent,(s.setRegistry kind {registry with next := registry.next + 1}).setFrames t rest)
  | _ => none

/-- One step of one thread. -/
def step (t : T) (move : Move) (s : State T) : Option (Event × State T) :=
  match move,s.threads t with
  | .call request,[] => some (.began request,s.setFrames t [request.frame])
  | .call request,frame :: rest =>
    if frame.callsOut then some (.began request,s.setFrames t (request.frame :: frame :: rest)) else none
  | .proceed,frame :: rest => proceed t s rest frame
  | .fail,frame :: rest => fail t s rest frame
  | .exhaust,frame :: rest => exhaust t s rest frame
  | .proceed,[] | .fail,[] | .exhaust,[] => none

/-- The moves of a schedule in turn: what they log after a log, and the state they leave. -/
def play : List (T × Move) → List Event → State T → Option (List Event × State T)
  | [],log,s => some (log,s)
  | (t,move) :: moves,log,s =>
    match step t move s with
    | none => none
    | some (event,s') => play moves (log ++ [event]) s'

/-- Some thread makes a step. -/
def Next (s : State T) (event : Event) (s' : State T) : Prop :=
  ∃ t move, step t move s = some (event,s')

theorem play_runs {moves : List (T × Move)} {log log' : List Event} {initial s s' : State T}
    (hs : Runs Next initial log s) (h : play moves log s = some (log',s')) : Runs Next initial log' s' := by
  induction moves generalizing log s with
  | nil =>
    cases h
    exact hs
  | cons head moves ih =>
    obtain ⟨t,move⟩ := head
    simp only [play] at h
    cases hstep : step t move s with
    | none =>
      rw [hstep] at h
      cases h
    | some next =>
      rw [hstep] at h
      exact ih (.step hs ⟨t,move,hstep⟩) h

end Steps
end DesfireSdk.CApi
