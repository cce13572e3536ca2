import DesfireSdk.Interaction.Program

/-! Two programs that differ late, compared run by run from one history and one object. -/
namespace Interaction
variable {S : Signature} {τ ε ε' α β : Type}

/-- A run together with the events that went before it. -/
def Run.behind (es : Trace S) (run : Run S τ ε α) : Run S τ ε α := ⟨run.result,run.state,es ++ run.events⟩

@[simp] theorem Run.behind_result (es : Trace S) (run : Run S τ ε α) : (run.behind es).result = run.result := rfl
@[simp] theorem Run.behind_events (es : Trace S) (run : Run S τ ε α) :
    (run.behind es).events = es ++ run.events := rfl

/-- A run whose result and object are rewritten. -/
def Run.settled (f : Except ε α → τ → Except ε' β × τ) (run : Run S τ ε α) : Run S τ ε' β :=
  ⟨(f run.result run.state).1,(f run.result run.state).2,run.events⟩

namespace Program

/-- The runs of two programs are related from every history. -/
def Compares (o : Oracle S) (p q : Program S τ ε α) (s : τ)
    (rel : Run S τ ε α → Run S τ ε α → Prop) : Prop :=
  ∀ h, rel (p o h s) (q o h s)

section Rules
variable {o : Oracle S} {s : τ} {rel : Run S τ ε β → Run S τ ε β → Prop}

theorem compares_refl {p : Program S τ ε β} (hrel : ∀ run, rel run run) : Compares o p p s rel :=
  fun h => hrel (p o h s)

/-- Two sequences with one first part. -/
theorem compares_bind {ω : Type} {view : Event S → Option ω} {p : Program S τ ε α}
    {f g : α → Program S τ ε β} {m : Except ε α → τ → List ω → Prop} (hp : Ensures view o p s m)
    (herror : ∀ e s' es, m (.error e) s' (shown view es) → rel ⟨.error e,s',es⟩ ⟨.error e,s',es⟩)
    (hok : ∀ a s' es, m (.ok a) s' (shown view es) →
      Compares o (f a) (g a) s' fun run run' => rel (run.behind es) (run'.behind es)) :
    Compares o (p >>= f) (p >>= g) s rel := by
  intro h
  have hfirst := hp h
  rcases hrun : p o h s with ⟨e | a,s',es⟩
  · rw [bind_error hrun,bind_error hrun]
    rw [hrun] at hfirst
    exact herror e s' es hfirst
  · rw [bind_ok hrun,bind_ok hrun]
    rw [hrun] at hfirst
    exact hok a s' es hfirst (h ++ es)

/-- A first part that returns one value and asks nothing. -/
theorem compares_known_bind {p : Program S τ ε α} {f g : α → Program S τ ε β} {a : α} {s' : τ}
    (hp : ∀ h, p o h s = ⟨.ok a,s',[]⟩) (hfg : Compares o (f a) (g a) s' rel) :
    Compares o (p >>= f) (p >>= g) s rel := by
  intro h
  rw [bind_ok (hp h),bind_ok (hp h),List.append_nil,List.nil_append,List.nil_append]
  exact hfg h

theorem compares_get_bind {f g : τ → Program S τ ε β} (hfg : Compares o (f s) (g s) s rel) :
    Compares o (get >>= f) (get >>= g) s rel :=
  compares_known_bind (fun _ => rfl) hfg

/-- Two checks that both pass. -/
theorem compares_refuse_bind {c c' : Prop} [Decidable c] [Decidable c'] {e e' : ε}
    {f g : Unit → Program S τ ε β} (hc : ¬c) (hc' : ¬c') (h : Compares o (f ()) (g ()) s rel) :
    Compares o (refuse c e >>= f) (refuse c' e' >>= g) s rel := by
  unfold refuse
  rw [if_neg hc,if_neg hc']
  exact compares_known_bind (fun _ => rfl) h

/-- One check on both sides. -/
theorem compares_refuse_same {c : Prop} [Decidable c] {e : ε} {f g : Unit → Program S τ ε β}
    (hrefused : rel ⟨.error e,s,[]⟩ ⟨.error e,s,[]⟩) (h : ¬c → Compares o (f ()) (g ()) s rel) :
    Compares o (refuse c e >>= f) (refuse c e >>= g) s rel := by
  by_cases hc : c
  · unfold refuse
    rw [if_pos hc]
    exact fun _ => hrefused
  · exact compares_refuse_bind hc hc (h hc)

theorem compares_ite {c : Prop} [Decidable c] {p p' q q' : Program S τ ε β}
    (hp : c → Compares o p p' s rel) (hq : ¬c → Compares o q q' s rel) :
    Compares o (if c then p else q) (if c then p' else q') s rel := by
  by_cases hc : c
  · rw [if_pos hc,if_pos hc]
    exact hp hc
  · rw [if_neg hc,if_neg hc]
    exact hq hc

theorem compares_settle {f : Except ε α → τ → Except ε β × τ} {p q : Program S τ ε α}
    (h : Compares o p q s fun run run' => rel (run.settled f) (run'.settled f)) :
    Compares o (settle f p) (settle f q) s rel :=
  h

end Rules
end Program
end Interaction
