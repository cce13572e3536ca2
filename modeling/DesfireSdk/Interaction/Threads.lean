import Mathlib.Algebra.Group.Int.Defs
import Mathlib.Algebra.Group.Nat.Defs
import Mathlib.Data.List.Basic
import Mathlib.Logic.Function.Basic

/-!
# Threads over shared objects

Labelled transitions with their runs, and a mutex that its owner may lock again.
-/
namespace Interaction

section Transitions
variable {S E : Type}

/-- The events of a run from an initial state in order, and the state it leaves. -/
inductive Runs (next : S → E → S → Prop) (initial : S) : List E → S → Prop
  | start : Runs next initial [] initial
  | step {events : List E} {s s' : S} {event : E} (h : Runs next initial events s) (hnext : next s event s') :
      Runs next initial (events ++ [event]) s'

/-- What holds initially and is kept by every step holds along every run. -/
theorem Runs.inv {next : S → E → S → Prop} {initial s : S} {events : List E} {I : List E → S → Prop}
    (h : Runs next initial events s) (hinitial : I [] initial)
    (hstep : ∀ events s event s', I events s → next s event s' → I (events ++ [event]) s') : I events s := by
  induction h with
  | start => exact hinitial
  | step _ hnext ih => exact hstep _ _ _ _ ih hnext

/-- Runs of one system are runs of another that can follow every step from a state it reached so. -/
theorem Runs.simulates {S' E' : Type} {next : S → E → S → Prop} {next' : S' → E' → S' → Prop} {f : S → S'}
    {g : E → E'} {initial s : S} {events : List E} (h : Runs next initial events s)
    (hstep : ∀ events s event s', Runs next' (f initial) events (f s) → next s event s' →
      next' (f s) (g event) (f s')) : Runs next' (f initial) (events.map g) (f s) := by
  induction h with
  | start => exact .start
  | step _ hnext ih =>
    rw [List.map_append]
    exact .step ih (hstep _ _ _ _ ih hnext)

theorem Runs.mono {next next' : S → E → S → Prop} {initial s : S} {events : List E}
    (h : Runs next initial events s) (hstep : ∀ s event s', next s event s' → next' s event s') :
    Runs next' initial events s := by
  induction h with
  | start => exact .start
  | step _ hnext ih => exact .step ih (hstep _ _ _ hnext)

end Transitions

/-- A mutex that is free, or held once and some more times by its owner. -/
inductive RecursiveMutex (T : Type)
  | free
  | held (owner : T) (more : Nat)
  deriving DecidableEq

namespace RecursiveMutex
variable {T : Type} [DecidableEq T] {m m' : RecursiveMutex T} {t t' : T}

/-- Locks the mutex unless another thread owns it. -/
def tryLock (t : T) : RecursiveMutex T → Option (RecursiveMutex T)
  | free => some (held t 0)
  | held owner more => if owner = t then some (held owner (more+1)) else none

/-- Gives back one lock. -/
def unlock : RecursiveMutex T → RecursiveMutex T
  | free => free
  | held _ 0 => free
  | held owner (more+1) => held owner more

/-- How often a thread holds the mutex. -/
def depth (t : T) : RecursiveMutex T → Nat
  | free => 0
  | held owner more => if owner = t then more+1 else 0

@[simp] theorem depth_free (t : T) : (free : RecursiveMutex T).depth t = 0 := rfl

theorem tryLock_held {owner : T} {more : Nat} (h : (held owner more).tryLock t = some m') :
    owner = t ∧ m' = held t (more+1) := by
  by_cases howner : owner = t
  · subst howner
    have hlocked := Option.some.inj ((if_pos rfl).symm.trans h)
    exact ⟨rfl,hlocked.symm⟩
  · cases (if_neg howner).symm.trans h

theorem tryLock_depth (h : m.tryLock t = some m') (t' : T) :
    m'.depth t' = m.depth t' + if t' = t then 1 else 0 := by
  cases m with
  | free =>
    obtain rfl := Option.some.inj h
    by_cases ht : t' = t
    · simp [depth,ht]
    · simp [depth,ht,Ne.symm ht]
  | held owner more =>
    obtain ⟨rfl,rfl⟩ := tryLock_held h
    by_cases ht : t' = owner
    · simp [depth,ht]
    · simp [depth,ht,Ne.symm ht]

/-- Whoever locks the mutex is the only one who may have held it. -/
theorem tryLock_unowned (h : m.tryLock t = some m') (ht : t' ≠ t) : m.depth t' = 0 := by
  cases m with
  | free => rfl
  | held owner more =>
    obtain ⟨rfl,rfl⟩ := tryLock_held h
    exact if_neg ht.symm

theorem owner_of_depth {owner : T} {more : Nat} (h : (held owner more).depth t ≠ 0) : owner = t := by
  by_contra howner
  exact h (if_neg howner)

theorem unlock_depth (h : m.depth t ≠ 0) (t' : T) :
    m.unlock.depth t' = m.depth t' - if t' = t then 1 else 0 := by
  cases m with
  | free => exact absurd rfl h
  | held owner more =>
    obtain rfl := owner_of_depth h
    by_cases ht : t' = owner
    · cases more <;> simp [unlock,depth,ht]
    · cases more <;> simp [unlock,depth,ht,Ne.symm ht]

/-- At most one thread holds the mutex. -/
theorem owner_unique (h : m.depth t ≠ 0) (h' : m.depth t' ≠ 0) : t = t' := by
  cases m with
  | free => exact absurd rfl h
  | held owner more => exact (owner_of_depth h).symm.trans (owner_of_depth h')

theorem eq_free (h : ∀ t, m.depth t = 0) : m = free := by
  cases m with
  | free => rfl
  | held owner more =>
    have hdepth := h owner
    rw [depth,if_pos rfl] at hdepth
    omega

end RecursiveMutex
end Interaction
