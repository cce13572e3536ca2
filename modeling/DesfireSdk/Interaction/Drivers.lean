import DesfireSdk.Interaction.Determined

/-!
# Drivers

A driver answers the questions of one signature by programs over another. Over an environment
below it is an environment above, and a program that runs above leaves a trace of calls below.
-/
namespace Interaction
variable {S R : Signature} {σ : Type}

/-- A program over `R` for every question of `S`; it has no way to fail. -/
abbrev Driver (S R : Signature) (σ : Type) := (q : S.Query) → Program R σ Empty (S.Reply q)

/-- What a driver keeps, with all it has asked so far. -/
structure Station (R : Signature) (σ : Type) where
  state : σ
  trace : Trace R

namespace Driver

/-- The result of a program that cannot fail. -/
def value {α : Type} : Except Empty α → α
  | .ok a => a

variable (d : Driver S R σ) (l : Oracle R)

def serve (k : Station R σ) (q : S.Query) : Run R σ Empty (S.Reply q) := d q l k.trace k.state

def answer (k : Station R σ) (q : S.Query) : S.Reply q := value (d.serve l k q).result

def after (k : Station R σ) (q : S.Query) : Station R σ := ⟨(d.serve l k q).state,k.trace ++ (d.serve l k q).events⟩

def observe (k : Station R σ) (e : Event S) : Station R σ := d.after l k e.query

/-- The environment a driver makes of the one below. -/
def oracle (k : Station R σ) : Oracle S := fun h q => d.answer l (reached (d.observe l) k h) q

/-- What the driver asks below for the questions of a trace. -/
def calls : Station R σ → Trace S → Trace R
  | _,[] => []
  | k,e :: es => (d.serve l k e.query).events ++ calls (d.observe l k e) es

/-- Every answer of a trace is the driver's in its place. -/
def Serves : Station R σ → Trace S → Prop
  | _,[] => True
  | k,e :: es => e.reply = d.answer l k e.query ∧ Serves (d.observe l k e) es

variable {d l} {τ ε α ω : Type}

theorem serves_of_answers {k : Station R σ} {h es : Trace S} (hes : Answers (d.oracle l k) h es) :
    d.Serves l (reached (d.observe l) k h) es := by
  induction es generalizing h with
  | nil => trivial
  | cons e es ih =>
    obtain ⟨hreply,hrest⟩ := hes
    have hserves := ih hrest
    rw [reached_append] at hserves
    exact ⟨hreply,hserves⟩

/-- Answers that the driver gives in their place are answers of its environment. -/
theorem Serves.answers {k : Station R σ} {h es : Trace S} (hes : d.Serves l (reached (d.observe l) k h) es) :
    Answers (d.oracle l k) h es := by
  induction es generalizing h with
  | nil => trivial
  | cons e es ih =>
    obtain ⟨hreply,hrest⟩ := hes
    refine ⟨hreply,ih ?_⟩
    rw [reached_append]
    exact hrest

/-- A program whose recorded answers the driver gives again repeats its run. -/
theorem Serves.rerun {p : Program S τ ε α} [hp : Determined p] {o : Oracle S} {h : Trace S} {s : τ} {k : Station R σ}
    (hes : d.Serves l k (p o h s).events) : p (d.oracle l k) [] s = p o h s :=
  hp.rerun o _ h [] s (Serves.answers (h := []) hes)

/-- A run above is served in the order of its questions. -/
theorem run_serves {p : Program S τ ε α} [hp : Determined p] (k : Station R σ) (h : Trace S) (s : τ) :
    d.Serves l (reached (d.observe l) k h) (p (d.oracle l k) h s).events :=
  serves_of_answers (hp.answers _ h s)

theorem Serves.append {k : Station R σ} {es es' : Trace S} :
    d.Serves l k (es ++ es') ↔ d.Serves l k es ∧ d.Serves l (reached (d.observe l) k es) es' := by
  induction es generalizing k with
  | nil => simp [Serves,reached]
  | cons e es ih => simp [Serves,ih,reached,and_assoc]

/-- What is true of every answer in its place is true along a trace. -/
theorem Serves.forall {I : Station R σ → Prop} (hkept : ∀ k q, I k → I (d.after l k q)) {P : Event S → Prop}
    (hstep : ∀ k e, I k → e.reply = d.answer l k e.query → P e) {k : Station R σ} (hk : I k) {es : Trace S}
    (hes : d.Serves l k es) : ∀ e ∈ es, P e := by
  induction es generalizing k with
  | nil => simp
  | cons e es ih =>
    obtain ⟨hreply,hrest⟩ := hes
    have hlater := ih (hkept k e.query hk) hrest
    simp only [List.mem_cons,forall_eq_or_imp]
    exact ⟨hstep k e hk hreply,hlater⟩

/-- If each question shows below what it shows above, so does a trace. -/
theorem Serves.shown {above : Event S → Option ω} {below : Event R → Option ω}
    (hstep : ∀ k e, e.reply = d.answer l k e.query →
      Program.shown below (d.serve l k e.query).events = (above e).toList)
    {k : Station R σ} {es : Trace S} (hes : d.Serves l k es) :
    Program.shown below (d.calls l k es) = Program.shown above es := by
  induction es generalizing k with
  | nil => rfl
  | cons e es ih =>
    obtain ⟨hreply,hrest⟩ := hes
    have hfirst := hstep k e hreply
    have hsplit : Program.shown above (e :: es) = (above e).toList ++ Program.shown above es := by
      rw [← Program.shown_singleton,← Program.shown_append,List.singleton_append]
    rw [calls,Program.shown_append,hfirst,ih hrest,hsplit]

end Driver
end Interaction
