import DesfireSdk.Interaction.Program

/-!
# Runs of many operations on one object

An object lives through a sequence of operations. Each one meets an environment
of its own choice with a history of its own, so nothing relates what happens
between two operations.
-/
namespace Interaction
variable {S : Signature} {Ω τ ε α : Type}

/-- One operation with the environment it meets. -/
structure Step (S : Signature) (Ω : Type) where
  operation : Ω
  oracle : Oracle S
  history : Trace S

/-- The run of one step. -/
def Step.run (perform : Ω → Program S τ ε α) (step : Step S Ω) (s : τ) : Run S τ ε α :=
  perform step.operation step.oracle step.history s

/-- The object after all steps. -/
def final (perform : Ω → Program S τ ε α) : τ → List (Step S Ω) → τ
  | s,[] => s
  | s,step :: rest => final perform (step.run perform s).state rest

/-- The events of all steps in order. -/
def log (perform : Ω → Program S τ ε α) : τ → List (Step S Ω) → Trace S
  | _,[] => []
  | s,step :: rest => (step.run perform s).events ++ log perform (step.run perform s).state rest

/-- Every step has a property together with the object it starts from. -/
def Along (perform : Ω → Program S τ ε α) (P : τ → Step S Ω → Prop) : τ → List (Step S Ω) → Prop
  | _,[] => True
  | s,step :: rest => P s step ∧ Along perform P (step.run perform s).state rest

/-- Some step has a property together with the object it starts from. -/
def Sometime (perform : Ω → Program S τ ε α) (P : τ → Step S Ω → Prop) : τ → List (Step S Ω) → Prop
  | _,[] => False
  | s,step :: rest => P s step ∨ Sometime perform P (step.run perform s).state rest

/-- The objects that some steps lead to from an initial one. -/
inductive Reachable (perform : Ω → Program S τ ε α) (initial : τ → Prop) : τ → Prop
  | initial {s : τ} (h : initial s) : Reachable perform initial s
  | next {s : τ} (h : Reachable perform initial s) (step : Step S Ω) :
      Reachable perform initial (step.run perform s).state

section Rules
variable {perform : Ω → Program S τ ε α} {s s' : τ} {P Q : τ → Step S Ω → Prop}

theorem log_append (s : τ) (steps steps' : List (Step S Ω)) :
    log perform s (steps ++ steps') = log perform s steps ++ log perform (final perform s steps) steps' := by
  induction steps generalizing s with
  | nil => rfl
  | cons step rest ih => simp only [List.cons_append,log,final,ih,List.append_assoc]

/-- A property that every step has from every object. -/
theorem along_of_forall (h : ∀ s step, P s step) (s : τ) (steps : List (Step S Ω)) :
    Along perform P s steps := by
  induction steps generalizing s with
  | nil => trivial
  | cons step rest ih => exact ⟨h s step,ih _⟩

/-- An invariant that every such step keeps holds at the end. -/
theorem Along.final {I : τ → Prop} {steps : List (Step S Ω)} (h : Along perform P s steps)
    (hstep : ∀ s step, I s → P s step → I (step.run perform s).state) (hs : I s) :
    I (final perform s steps) := by
  induction steps generalizing s with
  | nil => exact hs
  | cons step rest ih => exact ih h.2 (hstep _ _ hs h.1)

theorem Along.and {steps : List (Step S Ω)} (h : Along perform P s steps)
    (h' : Along perform Q s steps) : Along perform (fun s step => P s step ∧ Q s step) s steps := by
  induction steps generalizing s with
  | nil => trivial
  | cons step rest ih => exact ⟨⟨h.1,h'.1⟩,ih h.2 h'.2⟩

/-- What holds of an initial object and is kept by every step holds of every reachable one. -/
theorem Reachable.inv {initial I : τ → Prop} (h : Reachable perform initial s)
    (hinitial : ∀ s, initial s → I s)
    (hstep : ∀ s (step : Step S Ω), I s → I (step.run perform s).state) : I s := by
  induction h with
  | initial h => exact hinitial _ h
  | next _ step ih => exact hstep _ step ih

end Rules
end Interaction
