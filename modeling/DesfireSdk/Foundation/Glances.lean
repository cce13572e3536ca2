import DesfireSdk.Foundation.Delivery

/-!
# Frames between readings of the generation

A transaction reads the generation of the transport before and after every frame. A frame goes out under
the generation that the transport has at the hand-over, and no operation reads that one.
-/
namespace DesfireSdk
open Interaction Program

/-- A reading of the generation, or a frame with the generation it was handed over under. -/
inductive Glance
  | reading (generation : UInt64)
  | frame (generation : UInt64)
  deriving DecidableEq, Repr

def glanceOf : Event Environment → Option Glance
  | ⟨.generation,generation⟩ => some (.reading generation)
  | ⟨.exchange _ _,handover⟩ => some (.frame handover.generation)
  | _ => none

abbrev glances (es : Trace Environment) : List Glance := shown glanceOf es

def readingsOf : List Glance → List UInt64 := List.filterMap fun
  | .reading generation => some generation
  | .frame _ => none

def framesOf : List Glance → List UInt64 := List.filterMap fun
  | .reading _ => none
  | .frame generation => some generation

/-- Every frame is handed over under the generation that was read last. -/
def Attended : Option UInt64 → List Glance → Prop
  | _,[] => True
  | _,.reading generation :: rest => Attended (some generation) rest
  | last,.frame generation :: rest => last = some generation ∧ Attended last rest

instance decidableAttended : (last : Option UInt64) → (gs : List Glance) → Decidable (Attended last gs)
  | _,[] => inferInstanceAs (Decidable True)
  | _,.reading generation :: rest => decidableAttended (some generation) rest
  | last,.frame generation :: rest =>
    haveI := decidableAttended last rest
    inferInstanceAs (Decidable (last = some generation ∧ Attended last rest))

/-- Every frame between two readings of one generation is handed over under it. -/
def Reliable : Option UInt64 → List Glance → Prop
  | _,[] => True
  | _,.reading generation :: rest => Reliable (some generation) rest
  | last,.frame generation :: rest =>
    (last = (readingsOf rest).head? → last = some generation) ∧ Reliable last rest

instance decidableReliable : (last : Option UInt64) → (gs : List Glance) → Decidable (Reliable last gs)
  | _,[] => inferInstanceAs (Decidable True)
  | _,.reading generation :: rest => decidableReliable (some generation) rest
  | last,.frame generation :: rest =>
    haveI := decidableReliable last rest
    inferInstanceAs (Decidable ((last = (readingsOf rest).head? → last = some generation) ∧ Reliable last rest))

/-- This generation was read last before every frame. -/
def Backed (generation : UInt64) : Option UInt64 → List Glance → Prop
  | _,[] => True
  | _,.reading reading :: rest => Backed generation (some reading) rest
  | last,.frame _ :: rest => last = some generation ∧ Backed generation last rest

/-- So many frames, each between two readings of this generation. -/
inductive Flanked (generation : UInt64) : Nat → List Glance → Prop
  | none : Flanked generation 0 []
  | frame {n gs} (handed : UInt64) (hrest : Flanked generation n gs) :
      Flanked generation (n+1) (.reading generation :: .frame handed :: .reading generation :: gs)

/-- What follows so many frames. -/
def afterFrames : Nat → List Glance → List Glance
  | 0,gs => gs
  | _+1,[] => []
  | n+1,.reading _ :: rest => afterFrames (n+1) rest
  | n+1,.frame _ :: rest => afterFrames n rest

section Lists
variable {generation : UInt64} {last : Option UInt64} {gs gs' : List Glance}

theorem Backed.append (h : Backed generation last gs) (h' : ∀ last, Backed generation last gs') :
    Backed generation last (gs ++ gs') := by
  induction gs generalizing last with
  | nil => exact h' last
  | cons glance gs ih =>
    cases glance with
    | reading reading => exact ih h
    | frame other => exact ⟨h.1,ih h.2⟩

/-- Backed frames that are handed over under the last reading are handed over under that generation. -/
theorem Backed.attended (h : Backed generation last gs) (hattended : Attended last gs) :
    ∀ other ∈ framesOf gs, other = generation := by
  induction gs generalizing last with
  | nil => rintro _ ⟨⟩
  | cons glance gs ih =>
    cases glance with
    | reading reading => exact ih h hattended
    | frame first =>
      obtain ⟨hlast,hrest⟩ := h
      obtain ⟨hfirst,hrest'⟩ := hattended
      rw [hlast,Option.some_inj] at hfirst
      intro other hother
      rcases List.mem_cons.mp hother with rfl | hother
      · exact hfirst.symm
      · exact ih hrest hrest' other hother

theorem Flanked.append {m n : Nat} (h : Flanked generation m gs) (h' : Flanked generation n gs') :
    Flanked generation (m + n) (gs ++ gs') := by
  induction h with
  | none =>
    rw [Nat.zero_add]
    exact h'
  | @frame m gs handed hrest ih =>
    rw [Nat.add_right_comm]
    exact .frame handed ih

theorem Flanked.length {n : Nat} (h : Flanked generation n gs) : (framesOf gs).length = n := by
  induction h with
  | none => rfl
  | frame handed hrest ih => exact congrArg (· + 1) ih

/-- Frames between readings of one generation are handed over under it where such readings are reliable. -/
theorem Flanked.reliable {n : Nat} (h : Flanked generation n gs) (hreliable : Reliable last (gs ++ gs')) :
    ∀ other ∈ framesOf gs, other = generation := by
  induction h generalizing last with
  | none => rintro _ ⟨⟩
  | @frame n gs handed hrest ih =>
    obtain ⟨hfirst,hlater⟩ := hreliable
    intro other hother
    rcases List.mem_cons.mp hother with rfl | hother
    · exact (Option.some.inj (hfirst rfl)).symm
    · exact ih hlater other hother

/-- The reading after the last frame, and what comes then. -/
theorem Flanked.afterFrames_append {n : Nat} (h : Flanked generation (n+1) gs) :
    afterFrames (n+1) (gs ++ gs') = .reading generation :: gs' := by
  induction n generalizing gs with
  | zero =>
    cases h with
    | frame handed hrest =>
      cases hrest
      rfl
  | succ n ih =>
    cases h with
    | frame handed hrest =>
      have hlater := ih hrest
      exact hlater

/-- Readings before the first frame. -/
theorem afterFrames_readings {before : List Glance} (hbefore : framesOf before = []) (n : Nat) :
    afterFrames (n+1) (before ++ gs) = afterFrames (n+1) gs := by
  induction before with
  | nil => rfl
  | cons glance before ih =>
    cases glance with
    | reading reading => exact ih hbefore
    | frame other => cases hbefore

theorem Reliable.later {before : List Glance} (h : Reliable last (before ++ gs)) (hbefore : framesOf before = []) :
    ∃ last, Reliable last gs := by
  induction before generalizing last with
  | nil => exact ⟨last,h⟩
  | cons glance before ih =>
    cases glance with
    | reading reading => exact ih h hbefore
    | frame other => cases hbefore

theorem Cryptographic.glances {es : Trace Environment} (h : Cryptographic es) : glances es = [] := by
  refine List.filterMap_eq_nil_iff.mpr fun ⟨query,reply⟩ hevent => ?_
  have hquery := h _ hevent
  cases query <;> first | rfl | cases hquery

theorem framesOf_glances (es : Trace Environment) :
    framesOf (glances es) = (deliveries es).map fun d => d.handover.generation := by
  induction es with
  | nil => rfl
  | cons event es ih =>
    obtain ⟨query,reply⟩ := event
    cases query <;> first | exact congrArg (_ :: ·) ih | exact ih

end Lists

section Programs
variable {τ α β : Type} {o : Oracle Environment}

/-- A step that neither reads the generation nor hands over a frame, and leaves its object alone. -/
def Aside (o : Oracle Environment) (p : Op τ α) : Prop :=
  ∀ s, Ensures glanceOf o p s fun _ s' gs => s' = s ∧ gs = []

theorem Aside.pure (a : α) : Aside o (Pure.pure a : Op τ α) := fun _ => ensures_pure ⟨rfl,rfl⟩

theorem Aside.fail (f : Fault) : Aside o (Program.fail f : Op τ α) := fun _ => ensures_fail ⟨rfl,rfl⟩

theorem Aside.bind {p : Op τ α} {f : α → Op τ β} (hp : Aside o p) (hf : ∀ a, Aside o (f a)) : Aside o (p >>= f) := by
  intro s
  refine ensures_bind (hp s) ?_ ?_
  · exact fun _ _ _ h => h
  · rintro a _ _ ⟨rfl,rfl⟩
    exact hf a _

theorem Aside.refuse (c : Prop) [Decidable c] (e : Error) : Aside o (Op.refuse c e : Op τ Unit) := by
  unfold Op.refuse Program.refuse
  split
  · exact .fail _
  · exact .pure ()

theorem Aside.ofResult (r : Result α) : Aside o (Op.ofResult r : Op τ α) := by
  cases r with
  | error e => exact .fail _
  | ok a => exact .pure a

theorem Aside.capabilities : Aside o (Op.capabilities : Op τ TransportCapabilities) := by
  refine fun s => ensures_ask_bind fun h => ?_
  cases o h .capabilities with
  | none => exact ensures_fail ⟨rfl,rfl⟩
  | some limits => exact ensures_pure ⟨rfl,rfl⟩

theorem Aside.random (size : Nat) : Aside o (Op.random size : Op τ Bytes) :=
  fun _ => Op.ensures_random fun _ => ⟨rfl,rfl⟩

theorem Aside.cbc (key iv input : Bytes) (encrypt : Bool) : Aside o (Op.cbc key iv input encrypt : Op τ Bytes) :=
  fun _ => Op.ensures_cbc fun _ => ⟨rfl,rfl⟩

theorem Aside.cmac (key input : Bytes) : Aside o (Op.cmac key input : Op τ Bytes) :=
  fun _ => Op.ensures_cmac fun _ => ⟨rfl,rfl⟩

theorem Aside.secretOutput {p : Op τ Bytes} (hp : Aside o p) (message : String) (expected : Nat) :
    Aside o (Op.secretOutput message p expected) :=
  fun s => Op.ensures_secretOutput (hp s)

theorem Aside.mapError {p : Op τ α} (hp : Aside o p) (change : Error → Error) : Aside o (Op.mapError change p) := by
  refine fun s => Op.ensures_mapError ((hp s).mono fun r s' gs h => ?_)
  rcases r with (_ | _) | _ <;> exact h

end Programs
end DesfireSdk
