import DesfireSdk.Interaction.Program

/-! Programs that never ask some of the questions of their environment. -/
namespace Interaction.Program
variable {S : Signature} {σ τ ε ε' α β : Type}

/-- No run asks a forbidden question. -/
def Avoids (forbidden : S.Query → Prop) (p : Program S τ ε α) : Prop :=
  ∀ o h s, ∀ event ∈ (p o h s).events, ¬forbidden event.query

section Rules
variable {forbidden : S.Query → Prop} {p : Program S τ ε α} {f : α → Program S τ ε β}

theorem avoids_pure (a : α) : Avoids forbidden (pure a : Program S τ ε α) := by
  intro o h s event hevent
  cases hevent

theorem avoids_fail (e : ε) : Avoids forbidden (fail e : Program S τ ε α) := by
  intro o h s event hevent
  cases hevent

theorem avoids_get : Avoids forbidden (get : Program S τ ε τ) := by
  intro o h s event hevent
  cases hevent

theorem avoids_modify (change : τ → τ) : Avoids forbidden (modify change : Program S τ ε Unit) := by
  intro o h s event hevent
  cases hevent

theorem avoids_ofExcept (r : Except ε α) : Avoids forbidden (ofExcept r : Program S τ ε α) := by
  cases r with
  | error e => exact avoids_fail e
  | ok a => exact avoids_pure a

theorem avoids_ite {c : Prop} [Decidable c] {q : Program S τ ε α} (hp : Avoids forbidden p)
    (hq : Avoids forbidden q) : Avoids forbidden (if c then p else q) := by
  split
  · exact hp
  · exact hq

theorem avoids_refuse (c : Prop) [Decidable c] (e : ε) :
    Avoids forbidden (refuse c e : Program S τ ε Unit) :=
  avoids_ite (avoids_fail e) (avoids_pure ())

theorem avoids_ask {q : S.Query} (hq : ¬forbidden q) :
    Avoids forbidden (ask q : Program S τ ε (S.Reply q)) := by
  intro o h s event hevent
  have hasked : event = ⟨q,o h q⟩ := List.mem_singleton.mp hevent
  rw [hasked]
  exact hq

theorem avoids_bind (hp : Avoids forbidden p) (hf : ∀ a, Avoids forbidden (f a)) :
    Avoids forbidden (p >>= f) := by
  intro o h s event hevent
  have hfirst := hp o h s
  rcases hrun : p o h s with ⟨e | a,s',es⟩
  · rw [bind_error hrun] at hevent
    rw [hrun] at hfirst
    exact hfirst event hevent
  · rw [bind_ok hrun] at hevent
    rw [hrun] at hfirst
    rcases List.mem_append.mp hevent with hbefore | hafter
    · exact hfirst event hbefore
    · exact hf a o (h ++ es) s' event hafter

theorem avoids_settle {change : Except ε α → τ → Except ε' β × τ} (hp : Avoids forbidden p) :
    Avoids forbidden (settle change p) :=
  fun o h s => hp o h s

theorem avoids_focus {view : σ → τ} {update : τ → σ → σ} (hp : Avoids forbidden p) :
    Avoids forbidden (focus view update p) :=
  fun o h s => hp o h (view s)

theorem avoids_within {t : τ} (hp : Avoids forbidden p) :
    Avoids forbidden (within t p : Program S σ ε α) :=
  avoids_focus hp

end Rules
end Interaction.Program
