import DesfireSdk.Interaction.Machine

/-!
# Programs that their answers determine

A program learns nothing of its environment but the answers to its questions. The events of a run
hold all that decided it, and an environment with the same answers repeats it.
-/
namespace Interaction
variable {S : Signature}

/-- The answers of a trace are those of an oracle after a history. -/
def Answers (o : Oracle S) : Trace S → Trace S → Prop
  | _,[] => True
  | h,e :: es => e.reply = o h e.query ∧ Answers o (h ++ [e]) es

theorem answers_append {o : Oracle S} (h es es' : Trace S) :
    Answers o h (es ++ es') ↔ Answers o h es ∧ Answers o (h ++ es) es' := by
  induction es generalizing h with
  | nil => simp [Answers]
  | cons e es ih => simp [Answers,ih,and_assoc]

/-- The answers came from the oracle, and whoever gives them repeats the run. -/
class Determined {τ ε α : Type} (p : Program S τ ε α) : Prop where
  answers : ∀ o h s, Answers o h (p o h s).events
  rerun : ∀ o o' h h' s, Answers o' h' (p o h s).events → p o' h' s = p o h s

namespace Determined
open Program
variable {σ τ ε ε' α β : Type} {p q : Program S τ ε α}

instance pure (a : α) : Determined (pure a : Program S τ ε α) := ⟨fun _ _ _ => trivial,fun _ _ _ _ _ _ => rfl⟩

instance fail (e : ε) : Determined (fail e : Program S τ ε α) := ⟨fun _ _ _ => trivial,fun _ _ _ _ _ _ => rfl⟩

instance get : Determined (get : Program S τ ε τ) := ⟨fun _ _ _ => trivial,fun _ _ _ _ _ _ => rfl⟩

instance modify (f : τ → τ) : Determined (modify f : Program S τ ε Unit) :=
  ⟨fun _ _ _ => trivial,fun _ _ _ _ _ _ => rfl⟩

instance ask (query : S.Query) : Determined (ask query : Program S τ ε (S.Reply query)) where
  answers _ _ _ := ⟨rfl,trivial⟩
  rerun o o' h h' s hes := by
    have hreply : o h query = o' h' query := hes.1
    simp only [Program.ask,hreply]

instance bind {f : α → Program S τ ε β} [hp : Determined p] [hf : ∀ a, Determined (f a)] :
    Determined (p >>= f) where
  answers o h s := by
    have hfirst := hp.answers o h s
    rcases hrun : p o h s with ⟨e | a,s',es⟩ <;> rw [hrun] at hfirst
    · rw [bind_error hrun]
      exact hfirst
    · rw [bind_ok hrun]
      exact (answers_append _ _ _).mpr ⟨hfirst,(hf a).answers _ _ _⟩
  rerun o o' h h' s := by
    intro hes
    have hfirst := hp.rerun o o' h h' s
    rcases hrun : p o h s with ⟨e | a,s',es⟩ <;> rw [hrun] at hfirst
    · rw [bind_error hrun] at hes ⊢
      exact bind_error (hfirst hes)
    · rw [bind_ok hrun] at hes ⊢
      obtain ⟨hpart,hrest⟩ := (answers_append _ _ _).mp hes
      rw [bind_ok (hfirst hpart),(hf a).rerun o o' (h ++ es) (h' ++ es) s' hrest]

theorem sequence {f : α → Program S τ ε β} (hp : Determined p) (hf : ∀ a, Determined (f a)) : Determined (p >>= f) :=
  bind

instance settle {f : Except ε α → τ → Except ε' β × τ} [hp : Determined p] : Determined (settle f p) where
  answers := hp.answers
  rerun o o' h h' s hes := by
    have hrun : p o' h' s = p o h s := hp.rerun o o' h h' s hes
    simp only [Program.settle,hrun]

instance focus {view : σ → τ} {update : τ → σ → σ} [hp : Determined p] : Determined (focus view update p) where
  answers o h s := hp.answers o h (view s)
  rerun o o' h h' s hes := by
    have hrun : p o' h' (view s) = p o h (view s) := hp.rerun o o' h h' (view s) hes
    simp only [Program.focus,hrun]

instance within (t : τ) [Determined p] : Determined (within t p : Program S σ ε α) :=
  inferInstanceAs (Determined (Program.focus _ _ p))

instance ofExcept (r : Except ε α) : Determined (ofExcept r : Program S τ ε α) := by
  cases r
  · exact Determined.fail _
  · exact Determined.pure _

instance ite {c : Prop} {hc : Decidable c} [Determined p] [Determined q] : Determined (if c then p else q) := by
  split <;> assumption

instance refuse (c : Prop) {hc : Decidable c} (e : ε) : Determined (refuse c e : Program S τ ε Unit) :=
  inferInstanceAs (Determined (if c then Program.fail e else Pure.pure ()))

end Determined
end Interaction
