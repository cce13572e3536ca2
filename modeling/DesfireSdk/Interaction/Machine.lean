import DesfireSdk.Interaction.Program

/-!
# Programs that face a machine

A machine keeps a state of the questions and answers of a run. An oracle that speaks for
it answers from that state, so a program meets the machine in one state and leaves it in
another.
-/
namespace Interaction
variable {S : Signature} {κ : Type}

/-- The state that a history leaves a machine in. -/
def reached (observe : κ → Event S → κ) (start : κ) (es : Trace S) : κ := es.foldl observe start

theorem reached_append (observe : κ → Event S → κ) (start : κ) (es es' : Trace S) :
    reached observe start (es ++ es') = reached observe (reached observe start es) es' :=
  List.foldl_append

/-- No answer to these questions moves the machine. -/
def Idle (observe : κ → Event S → κ) (moving : S.Query → Prop) : Prop :=
  ∀ event : Event S, ¬moving event.query → ∀ k, observe k event = k

theorem reached_idle {observe : κ → Event S → κ} {moving : S.Query → Prop} (hidle : Idle observe moving)
    (k : κ) {es : Trace S} (hes : ∀ event ∈ es, ¬moving event.query) : reached observe k es = k := by
  induction es with
  | nil => rfl
  | cons event es ih =>
    have hfirst : observe k event = k := hidle event (hes event List.mem_cons_self) k
    have hrest := ih fun event' h => hes event' (List.mem_cons_of_mem event h)
    change reached observe (observe k event) es = k
    rw [hfirst,hrest]

namespace Program
variable {σ τ ε ε' α β : Type}

/-- Every run from a history that left the machine in `k` meets the postcondition on its
result, its object and the machine. -/
def Facing (observe : κ → Event S → κ) (start : κ) (o : Oracle S) (k : κ) (p : Program S τ ε α) (s : τ)
    (post : Except ε α → τ → κ → Prop) : Prop :=
  ∀ h, reached observe start h = k →
    post (p o h s).result (p o h s).state (reached observe k (p o h s).events)

/-- The postcondition, or a failure that halts and leaves the machine in one of these states. -/
def Unless (halts : ε → Prop) (left : κ → Prop) (post : Except ε α → τ → κ → Prop) (r : Except ε α) (s : τ) (k : κ) :
    Prop :=
  post r s k ∨ (∃ e, r = .error e ∧ halts e) ∧ left k

namespace Unless
variable {halts : ε → Prop} {left left' : κ → Prop}

theorem halted {post : Except ε α → τ → κ → Prop} {e : ε} {s : τ} {k : κ} (he : halts e) (hk : left k) :
    Unless halts left post (.error e) s k :=
  .inr ⟨⟨e,rfl,he⟩,hk⟩

theorem mono {post : Except ε α → τ → κ → Prop} {post' : Except ε α → σ → κ → Prop} {r : Except ε α} {s : τ}
    {s' : σ} {k : κ} (h : Unless halts left post r s k) (hleft : ∀ k, left k → left' k)
    (himp : post r s k → post' r s' k) : Unless halts left' post' r s' k := by
  rcases h with hpost | ⟨hhalted,hk⟩
  · exact .inl (himp hpost)
  · exact .inr ⟨hhalted,hleft k hk⟩

end Unless

namespace Facing
variable {observe : κ → Event S → κ} {start k : κ} {o : Oracle S} {s : τ}

theorem mono {p : Program S τ ε α} {post post' : Except ε α → τ → κ → Prop}
    (hp : Facing observe start o k p s post) (himp : ∀ r s' k', post r s' k' → post' r s' k') :
    Facing observe start o k p s post' :=
  fun h hh => himp _ _ _ (hp h hh)

theorem pure {a : α} {post : Except ε α → τ → κ → Prop} (ha : post (.ok a) s k) :
    Facing observe start o k (Pure.pure a) s post :=
  fun _ _ => ha

theorem fail {e : ε} {post : Except ε α → τ → κ → Prop} (he : post (.error e) s k) :
    Facing observe start o k (Program.fail e) s post :=
  fun _ _ => he

/-- A sequence by the rule of its first part. -/
theorem bind {p : Program S τ ε α} {f : α → Program S τ ε β} {m : Except ε α → τ → κ → Prop}
    {post : Except ε β → τ → κ → Prop} (hp : Facing observe start o k p s m)
    (herror : ∀ e s' k', m (.error e) s' k' → post (.error e) s' k')
    (hok : ∀ a s' k', m (.ok a) s' k' → Facing observe start o k' (f a) s' post) :
    Facing observe start o k (p >>= f) s post := by
  intro h hh
  have hmid := hp h hh
  rcases hrun : p o h s with ⟨e | a,s',es⟩
  · rw [Program.bind_error hrun]
    rw [hrun] at hmid
    exact herror _ _ _ hmid
  · rw [bind_ok hrun]
    rw [hrun] at hmid
    have hthere : reached observe start (h ++ es) = reached observe k es := by
      rw [reached_append,hh]
    have hrest := hok _ _ _ hmid (h ++ es) hthere
    rw [← reached_append] at hrest
    exact hrest

/-- A sequence whose first part leaves one known result, object and machine. -/
theorem known_bind {p : Program S τ ε α} {f : α → Program S τ ε β} {a : α} {t : τ} {l : κ}
    {post : Except ε β → τ → κ → Prop}
    (hp : Facing observe start o k p s fun r s' k' => r = .ok a ∧ s' = t ∧ k' = l)
    (hf : Facing observe start o l (f a) t post) : Facing observe start o k (p >>= f) s post := by
  refine bind hp ?_ ?_
  · intro e s' l h
    cases h.1
  · intro b s' l h
    obtain ⟨hresult,rfl,rfl⟩ := h
    cases hresult
    exact hf

/-- The first part halts, or the sequence goes on from what it left. -/
theorem unless_bind {halts : ε → Prop} {left left' : κ → Prop} {p : Program S τ ε α} {f : α → Program S τ ε β}
    {m : α → τ → κ → Prop} {post : Except ε β → τ → κ → Prop}
    (hp : Facing observe start o k p s (Unless halts left' fun r s' k' => ∃ a, r = .ok a ∧ m a s' k'))
    (hleft : ∀ l, left' l → left l)
    (hf : ∀ a s' l, m a s' l → Facing observe start o l (f a) s' (Unless halts left post)) :
    Facing observe start o k (p >>= f) s (Unless halts left post) := by
  refine bind hp ?_ ?_
  · rintro e s' l (⟨_,hresult,_⟩ | ⟨⟨_,hresult,he⟩,hl⟩)
    · cases hresult
    · cases hresult
      exact .halted he (hleft l hl)
  · rintro a s' l (⟨_,hresult,hm⟩ | ⟨⟨_,hresult,_⟩,_⟩)
    · cases hresult
      exact hf a s' l hm
    · cases hresult

/-- The first part halts, or leaves one known result, object and machine. -/
theorem known_unless_bind {halts : ε → Prop} {left left' : κ → Prop} {p : Program S τ ε α}
    {f : α → Program S τ ε β} {a : α} {t : τ} {l : κ} {post : Except ε β → τ → κ → Prop}
    (hp : Facing observe start o k p s (Unless halts left' fun r s' k' => r = .ok a ∧ s' = t ∧ k' = l))
    (hleft : ∀ l, left' l → left l) (hf : Facing observe start o l (f a) t (Unless halts left post)) :
    Facing observe start o k (p >>= f) s (Unless halts left post) := by
  refine unless_bind (m := fun b s' k' => b = a ∧ s' = t ∧ k' = l)
    (hp.mono fun r s' k' h => h.mono (fun _ h => h) fun hknown => ⟨a,hknown.1,rfl,hknown.2⟩) hleft ?_
  rintro _ s' k' ⟨rfl,rfl,rfl⟩
  exact hf

theorem get_bind {f : τ → Program S τ ε β} {post : Except ε β → τ → κ → Prop}
    (hf : Facing observe start o k (f s) s post) : Facing observe start o k (get >>= f) s post :=
  known_bind (fun _ _ => ⟨rfl,rfl,rfl⟩) hf

theorem modify_bind {g : τ → τ} {f : Unit → Program S τ ε β} {post : Except ε β → τ → κ → Prop}
    (hf : Facing observe start o k (f ()) (g s) post) :
    Facing observe start o k (modify g >>= f) s post :=
  known_bind (fun _ _ => ⟨rfl,rfl,rfl⟩) hf

theorem refuse_bind {c : Prop} [Decidable c] {e : ε} {f : Unit → Program S τ ε β}
    {post : Except ε β → τ → κ → Prop} (hc : ¬c) (hf : Facing observe start o k (f ()) s post) :
    Facing observe start o k (refuse c e >>= f) s post := by
  simp only [refuse,if_neg hc]
  exact known_bind (fun _ _ => ⟨rfl,rfl,rfl⟩) hf

/-- Both ends of a check. -/
theorem refuse_cases {c : Prop} [Decidable c] {e : ε} {f : Unit → Program S τ ε β}
    {post : Except ε β → τ → κ → Prop} (hrefused : c → post (.error e) s k)
    (hpassed : ¬c → Facing observe start o k (f ()) s post) :
    Facing observe start o k (refuse c e >>= f) s post := by
  by_cases hc : c
  · simp only [refuse,if_pos hc]
    exact fun _ _ => hrefused hc
  · exact refuse_bind hc (hpassed hc)

theorem ofExcept_bind {r : Except ε α} {f : α → Program S τ ε β} {post : Except ε β → τ → κ → Prop}
    (herror : ∀ e, r = .error e → post (.error e) s k)
    (hok : ∀ a, r = .ok a → Facing observe start o k (f a) s post) :
    Facing observe start o k (ofExcept r >>= f) s post := by
  cases r with
  | error e => exact fun _ _ => herror e rfl
  | ok a => exact known_bind (fun _ _ => ⟨rfl,rfl,rfl⟩) (hok a rfl)

/-- The answer to a question comes from a history that left the machine in this state. -/
theorem ask_bind {q : S.Query} {f : S.Reply q → Program S τ ε β} {post : Except ε β → τ → κ → Prop}
    (hf : ∀ h, reached observe start h = k →
      Facing observe start o (observe k ⟨q,o h q⟩) (f (o h q)) s post) :
    Facing observe start o k (ask q >>= f) s post := by
  refine bind (m := fun r s' l => ∃ h, reached observe start h = k ∧ r = .ok (o h q) ∧ s' = s ∧
    l = observe k ⟨q,o h q⟩) ?_ ?_ ?_
  · intro h hh
    exact ⟨h,hh,rfl,rfl,rfl⟩
  · intro e s' l hasked
    obtain ⟨_,_,hresult,_⟩ := hasked
    cases hresult
  · intro reply s' l hasked
    obtain ⟨h,hh,hresult,rfl,rfl⟩ := hasked
    cases hresult
    exact hf h hh

/-- A question that leaves the machine alone. -/
theorem quiet_bind {moving : S.Query → Prop} (hidle : Idle observe moving) {q : S.Query}
    {f : S.Reply q → Program S τ ε β} {post : Except ε β → τ → κ → Prop} (hq : ¬moving q)
    (hf : ∀ h, Facing observe start o k (f (o h q)) s post) :
    Facing observe start o k (ask q >>= f) s post := by
  refine ask_bind fun h _ => ?_
  have hstill : observe k ⟨q,o h q⟩ = k := hidle ⟨q,o h q⟩ hq k
  rw [hstill]
  exact hf h

theorem settle {g : Except ε α → τ → Except ε' β × τ} {p : Program S τ ε α}
    {post : Except ε' β → τ → κ → Prop}
    (hp : Facing observe start o k p s fun r s' l => post (g r s').1 (g r s').2 l) :
    Facing observe start o k (Program.settle g p) s post :=
  hp

/-- A rewriting that keeps what halts. -/
theorem unless_settle {halts : ε → Prop} {halts' : ε' → Prop} {left : κ → Prop}
    {g : Except ε α → τ → Except ε' β × τ} {p : Program S τ ε α} {m : Except ε α → τ → κ → Prop}
    {post : Except ε' β → τ → κ → Prop} (hp : Facing observe start o k p s (Unless halts left m))
    (hg : ∀ e s, halts e → ∃ e', (g (.error e) s).1 = .error e' ∧ halts' e')
    (hpost : ∀ r s l, m r s l → post (g r s).1 (g r s).2 l) :
    Facing observe start o k (Program.settle g p) s (Unless halts' left post) := by
  refine settle (hp.mono fun r s' l h => ?_)
  rcases h with hm | ⟨⟨e,rfl,he⟩,hl⟩
  · exact .inl (hpost r s' l hm)
  · obtain ⟨e',hresult,he'⟩ := hg e s' he
    exact .inr ⟨⟨e',hresult,he'⟩,hl⟩

theorem focus {look : σ → τ} {update : τ → σ → σ} {p : Program S τ ε α}
    {post : Except ε α → σ → κ → Prop} {s : σ}
    (hp : Facing observe start o k p (look s) fun r t l => post r (update t s) l) :
    Facing observe start o k (Program.focus look update p) s post :=
  hp

theorem within {t : τ} {p : Program S τ ε α} {post : Except ε α → σ → κ → Prop} {s : σ}
    (hp : Facing observe start o k p t fun r _ l => post r s l) :
    Facing observe start o k (Program.within t p) s post :=
  hp

/-- A program that leaves the machine alone. -/
theorem of_yields {moving : S.Query → Prop} (hidle : Idle observe moving) {p : Program S τ ε α} {a : α}
    {t : τ} (hp : Yields o p s a t)
    (hstill : Ensures some o p s fun _ _ es => ∀ event ∈ es, ¬moving event.query) :
    Facing observe start o k p s fun r s' l => r = .ok a ∧ s' = t ∧ l = k := by
  intro h hh
  obtain ⟨hresult,hstate,_⟩ := hp h (shown_blind h)
  have hes := hstill h
  rw [shown_some] at hes
  exact ⟨hresult,hstate,reached_idle hidle k hes⟩

end Facing
end Program
end Interaction
