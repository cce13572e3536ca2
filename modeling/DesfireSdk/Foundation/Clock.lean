import Mathlib.Data.List.Basic
import DesfireSdk.Foundation.Delivery

/-! The clock of a run: its readings, and the frames that are handed over between them. -/
namespace DesfireSdk
open Interaction Program

/-- A clock reading, or a frame with the timeout it is given. -/
inductive Tick
  | read (reading : Int)
  | frame (timeout : Int)
  deriving DecidableEq, Repr

def tickOf : Event Environment → Option Tick
  | ⟨.now,reading⟩ => some (.read reading)
  | ⟨.exchange _ options,_⟩ => some (.frame options.timeout)
  | _ => none

/-- The clock of a run. -/
abbrev ticks (es : Trace Environment) : List Tick := shown tickOf es

/-- The readings in order. -/
def instants (ts : List Tick) : List Int :=
  ts.filterMap fun
    | .read reading => some reading
    | .frame _ => none

/-- The timeouts of all frames in order. -/
def timeouts (ts : List Tick) : List Int :=
  ts.filterMap fun
    | .read _ => none
    | .frame timeout => some timeout

/-- The frames that follow a reading of their own, with that reading. -/
def handed : List Tick → List (Int × Int)
  | .read reading :: .frame timeout :: ts => (reading,timeout) :: handed ts
  | _ :: ts => handed ts
  | [] => []

/-- The clock never runs backwards. -/
def Rising (ts : List Tick) : Prop := (instants ts).Pairwise (· ≤ ·)

instance (ts : List Tick) : Decidable (Rising ts) := inferInstanceAs (Decidable (List.Pairwise _ _))

section Lists
variable {ts ts' : List Tick}

theorem instants_append : instants (ts ++ ts') = instants ts ++ instants ts' := List.filterMap_append

theorem timeouts_append : timeouts (ts ++ ts') = timeouts ts ++ timeouts ts' := List.filterMap_append

@[simp] theorem instants_read (reading : Int) : instants (.read reading :: ts) = reading :: instants ts := rfl
@[simp] theorem instants_frame (timeout : Int) : instants (.frame timeout :: ts) = instants ts := rfl
@[simp] theorem timeouts_read (reading : Int) : timeouts (.read reading :: ts) = timeouts ts := rfl
@[simp] theorem timeouts_frame (timeout : Int) : timeouts (.frame timeout :: ts) = timeout :: timeouts ts := rfl

theorem Rising.tail {t : Tick} (h : Rising (t :: ts)) : Rising ts := by
  cases t with
  | read reading => exact (List.pairwise_cons.mp h).2
  | frame timeout => exact h

theorem Rising.first {reading : Int} (h : Rising (.read reading :: ts)) : ∀ later ∈ instants ts, reading ≤ later :=
  (List.pairwise_cons.mp h).1

theorem Rising.right (h : Rising (ts ++ ts')) : Rising ts' := by
  unfold Rising at h
  rw [instants_append] at h
  exact (List.pairwise_append.mp h).2.1

theorem Rising.left (h : Rising (ts ++ ts')) : Rising ts := by
  unfold Rising at h
  rw [instants_append] at h
  exact (List.pairwise_append.mp h).1

theorem Rising.across (h : Rising (ts ++ ts')) {early late : Int} (hearly : early ∈ instants ts)
    (hlate : late ∈ instants ts') : early ≤ late := by
  unfold Rising at h
  rw [instants_append] at h
  exact (List.pairwise_append.mp h).2.2 early hearly late hlate

/-- The clock does not start with a frame, so that no reading before it belongs to one. -/
def Fresh (ts : List Tick) : Prop := ∀ timeout rest, ts ≠ .frame timeout :: rest

theorem fresh_nil : Fresh [] := by
  rintro _ _ ⟨⟩

theorem fresh_read (reading : Int) (ts : List Tick) : Fresh (.read reading :: ts) := by
  rintro _ _ ⟨⟩

theorem handed_read (reading : Int) (h : Fresh ts) : handed (.read reading :: ts) = handed ts := by
  cases ts with
  | nil => rfl
  | cons t ts =>
    cases t with
    | read later => rfl
    | frame timeout => exact absurd rfl (h timeout ts)

theorem mem_instants_of_handed {p : Int × Int} (h : p ∈ handed ts) : p.1 ∈ instants ts := by
  fun_induction handed ts with
  | case1 reading timeout ts ih =>
    rcases List.mem_cons.mp h with rfl | h
    · exact List.mem_cons_self
    · exact List.mem_cons_of_mem _ (ih h)
  | case2 t ts _ ih =>
    cases t with
    | read reading => exact List.mem_cons_of_mem _ (ih h)
    | frame timeout => exact ih h
  | case3 => cases h

theorem handed_frame (timeout : Int) : handed (.frame timeout :: ts) = handed ts := by
  rw [handed]
  rintro _ _ _ ⟨⟩

/-- A frame never belongs to a reading of an earlier stretch, when the later one starts with a reading. -/
theorem handed_append (h : Fresh ts') : handed (ts ++ ts') = handed ts ++ handed ts' := by
  fun_induction handed ts with
  | case1 reading timeout ts ih =>
    simp only [List.cons_append,handed]
    rw [ih]
  | case2 t ts hnot ih =>
    cases t with
    | frame timeout =>
      rw [List.cons_append,handed_frame,ih]
    | read reading =>
      have hfresh : Fresh (ts ++ ts') := by
        intro timeout rest heq
        cases ts with
        | nil => exact h timeout rest heq
        | cons t ts =>
          obtain ⟨rfl,_⟩ := List.cons.inj heq
          exact hnot reading timeout ts rfl rfl
      rw [List.cons_append,handed_read reading hfresh,ih]
  | case3 => rfl

theorem handed_sublist (ts : List Tick) : ((handed ts).map Prod.fst).Sublist (instants ts) := by
  fun_induction handed ts with
  | case1 reading timeout ts ih => exact ih.cons_cons reading
  | case2 t ts _ ih =>
    cases t with
    | read reading => exact ih.cons reading
    | frame timeout => exact ih
  | case3 => exact .slnil

theorem Rising.handed (h : Rising ts) : (handed ts).Pairwise fun p q => p.1 ≤ q.1 :=
  List.pairwise_map.mp (h.sublist (handed_sublist ts))

/-- Every frame follows a reading of its own, and is given a positive timeout, at most the caller's and at
most that of any frame before it. -/
structure Paced (timeout : Int) (ts : List Tick) : Prop where
  own : timeouts ts = (DesfireSdk.handed ts).map Prod.snd
  bounded : ∀ given ∈ timeouts ts, 0 < given ∧ given ≤ timeout
  falling : (timeouts ts).Pairwise (· ≥ ·)

end Lists

/-- A question for the clock or for the card. -/
def timed : Query → Prop
  | .now | .exchange .. => True
  | _ => False

theorem tickOf_untimed {event : Event Environment} (h : ¬timed event.query) : tickOf event = none := by
  obtain ⟨query,reply⟩ := event
  cases query <;> first | rfl | exact absurd trivial h

theorem Cryptographic.ticks {es : Trace Environment} (h : Cryptographic es) : ticks es = [] := by
  refine List.filterMap_eq_nil_iff.mpr fun event hevent => tickOf_untimed ?_
  intro htimed
  have hprimitive := h event hevent
  obtain ⟨query,reply⟩ := event
  cases query <;> first | exact htimed | exact hprimitive

end DesfireSdk
