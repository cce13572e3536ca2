import Mathlib.Tactic.Common

/-!
# Programs that query an adaptive environment

A program reads and updates a local object, may fail, and asks an environment
questions whose answers depend on everything asked before. The questions and
answers of a run are recorded in order, so that what the environment saw is
part of the result.
-/
namespace Interaction

/-- The questions an environment answers and the type of each answer. -/
structure Signature where
  Query : Type
  Reply : Query → Type

/-- One question with the answer it received. -/
structure Event (S : Signature) where
  query : S.Query
  reply : S.Reply query

abbrev Trace (S : Signature) := List (Event S)

/-- An environment may use the complete history to choose an answer. -/
abbrev Oracle (S : Signature) := Trace S → (q : S.Query) → S.Reply q

/-- The result of a run, the object it leaves, and its own events. -/
structure Run (S : Signature) (τ ε α : Type) where
  result : Except ε α
  state : τ
  events : Trace S

/-- Runs against an oracle, from a history and a local object. -/
def Program (S : Signature) (τ ε α : Type) := Oracle S → Trace S → τ → Run S τ ε α

namespace Program
variable {S : Signature} {σ τ ε ε' α β γ : Type}

protected def pure (a : α) : Program S τ ε α := fun _ _ s => ⟨.ok a,s,[]⟩

protected def bind (p : Program S τ ε α) (f : α → Program S τ ε β) : Program S τ ε β :=
  fun o h s =>
    match p o h s with
    | ⟨.error e,s',es⟩ => ⟨.error e,s',es⟩
    | ⟨.ok a,s',es⟩ =>
      match f a o (h ++ es) s' with
      | ⟨r,s'',es'⟩ => ⟨r,s'',es ++ es'⟩

instance : Monad (Program S τ ε) where
  pure := Program.pure
  bind := Program.bind

def ask (q : S.Query) : Program S τ ε (S.Reply q) :=
  fun o h s => ⟨.ok (o h q),s,[⟨q,o h q⟩]⟩

def get : Program S τ ε τ := fun _ _ s => ⟨.ok s,s,[]⟩

def modify (f : τ → τ) : Program S τ ε Unit := fun _ _ s => ⟨.ok (),f s,[]⟩

def fail (e : ε) : Program S τ ε α := fun _ _ s => ⟨.error e,s,[]⟩

/-- Fails when the condition holds. -/
def refuse (c : Prop) [Decidable c] (e : ε) : Program S τ ε Unit :=
  if c then fail e else pure ()

/-- Rewrites the result and the object a program leaves. -/
def settle (f : Except ε α → τ → Except ε' β × τ) (p : Program S τ ε α) : Program S τ ε' β :=
  fun o h s =>
    match p o h s with
    | ⟨r,s',es⟩ =>
      match f r s' with
      | (r',s'') => ⟨r',s'',es⟩

/-- Returns the failure instead of failing. -/
def attempt (p : Program S τ ε α) : Program S τ ε' (Except ε α) := settle (fun r s => (.ok r,s)) p

/-- Runs on a component of the local object. -/
def focus (view : σ → τ) (update : τ → σ → σ) (p : Program S τ ε α) : Program S σ ε α :=
  fun o h s =>
    match p o h (view s) with
    | ⟨r,t,es⟩ => ⟨r,update t s,es⟩

/-- Runs on a fresh object that ends with the program. -/
def within (t : τ) (p : Program S τ ε α) : Program S σ ε α :=
  focus (fun _ => t) (fun _ s => s) p

def ofExcept : Except ε α → Program S τ ε α
  | .ok a => pure a
  | .error e => fail e

theorem bind_error {o : Oracle S} {h : Trace S} {s s' : τ} {es : Trace S} {e : ε}
    {p : Program S τ ε α} {f : α → Program S τ ε β} (hp : p o h s = ⟨.error e,s',es⟩) :
    (p >>= f) o h s = ⟨.error e,s',es⟩ := by
  change Program.bind p f o h s = _
  rw [Program.bind,hp]

theorem bind_ok {o : Oracle S} {h : Trace S} {s s' : τ} {es : Trace S} {a : α}
    {p : Program S τ ε α} {f : α → Program S τ ε β} (hp : p o h s = ⟨.ok a,s',es⟩) :
    (p >>= f) o h s = ⟨(f a o (h ++ es) s').result,(f a o (h ++ es) s').state,
      es ++ (f a o (h ++ es) s').events⟩ := by
  change Program.bind p f o h s = _
  rw [Program.bind,hp]

/-- What a view shows of a trace. -/
def shown {ω : Type} (view : Event S → Option ω) (es : Trace S) : List ω := es.filterMap view

/-- Every run from `s` meets the postcondition on its result, the object it leaves and
what the view shows of its events. -/
def Ensures {ω : Type} (view : Event S → Option ω) (o : Oracle S) (p : Program S τ ε α) (s : τ)
    (post : Except ε α → τ → List ω → Prop) : Prop :=
  ∀ h, post (p o h s).result (p o h s).state (shown view (p o h s).events)

section Rules
variable {ω : Type} {view : Event S → Option ω} {o : Oracle S} {s : τ}

theorem shown_append (es es' : Trace S) : shown view (es ++ es') = shown view es ++ shown view es' :=
  List.filterMap_append

theorem shown_singleton (e : Event S) : shown view [e] = (view e).toList := by
  cases hv : view e <;> simp [shown,hv]

theorem shown_some (es : Trace S) : shown some es = es :=
  List.filterMap_some

theorem Ensures.mono {p : Program S τ ε α} {post post' : Except ε α → τ → List ω → Prop}
    (hp : Ensures view o p s post) (himp : ∀ r s' ds, post r s' ds → post' r s' ds) :
    Ensures view o p s post' :=
  fun h => himp _ _ _ (hp h)

theorem Ensures.and {p : Program S τ ε α} {post post' : Except ε α → τ → List ω → Prop}
    (hp : Ensures view o p s post) (hp' : Ensures view o p s post') :
    Ensures view o p s (fun r s' ds => post r s' ds ∧ post' r s' ds) :=
  fun h => ⟨hp h,hp' h⟩

/-- A statement about one view is one about the complete trace. -/
theorem Ensures.full {p : Program S τ ε α} {post : Except ε α → τ → List ω → Prop}
    (hp : Ensures view o p s post) : Ensures some o p s (fun r s' es => post r s' (shown view es)) := by
  intro h
  rw [shown_some]
  exact hp h

/-- A statement about the complete trace gives one about any view. -/
theorem Ensures.through {p : Program S τ ε α} {post : Except ε α → τ → Trace S → Prop}
    {post' : Except ε α → τ → List ω → Prop} (hp : Ensures some o p s post)
    (himp : ∀ r s' es, post r s' es → post' r s' (shown view es)) : Ensures view o p s post' := by
  intro h
  have hfull := hp h
  rw [shown_some] at hfull
  exact himp _ _ _ hfull

theorem ensures_pure {a : α} {post : Except ε α → τ → List ω → Prop} (ha : post (.ok a) s []) :
    Ensures view o (pure a) s post :=
  fun _ => ha

theorem ensures_fail {e : ε} {post : Except ε α → τ → List ω → Prop} (he : post (.error e) s []) :
    Ensures view o (fail e) s post :=
  fun _ => he

theorem ensures_ofExcept {r : Except ε α} {post : Except ε α → τ → List ω → Prop}
    (hr : post r s []) : Ensures view o (ofExcept r) s post := by
  cases r <;> exact fun _ => hr

/-- A sequence by the rule of its first part. -/
theorem ensures_bind {p : Program S τ ε α} {f : α → Program S τ ε β}
    {m : Except ε α → τ → List ω → Prop} {post : Except ε β → τ → List ω → Prop}
    (hp : Ensures view o p s m) (herror : ∀ e s' ds, m (.error e) s' ds → post (.error e) s' ds)
    (hok : ∀ a s' ds, m (.ok a) s' ds →
      Ensures view o (f a) s' (fun r s'' ds' => post r s'' (ds ++ ds'))) :
    Ensures view o (p >>= f) s post := by
  intro h
  have hmid := hp h
  rcases hrun : p o h s with ⟨e | a,s',es⟩
  · rw [bind_error hrun]
    rw [hrun] at hmid
    exact herror _ _ _ hmid
  · rw [bind_ok hrun,shown_append]
    rw [hrun] at hmid
    exact hok _ _ _ hmid (h ++ es)

/-- A sequence after a part that leaves one known result, object and view. -/
theorem ensures_bind_known {p : Program S τ ε α} {f : α → Program S τ ε β} {a : α} {t : τ}
    {post : Except ε β → τ → List ω → Prop}
    (hp : Ensures view o p s (fun r s' ds => r = .ok a ∧ s' = t ∧ ds = []))
    (hf : Ensures view o (f a) t post) : Ensures view o (p >>= f) s post := by
  refine ensures_bind hp ?_ ?_
  · rintro _ _ _ ⟨⟨⟩,_⟩
  · rintro _ _ _ ⟨⟨⟩,rfl,rfl⟩
    exact hf

theorem ensures_pure_bind {a : α} {f : α → Program S τ ε β} {post : Except ε β → τ → List ω → Prop}
    (hf : Ensures view o (f a) s post) : Ensures view o (pure a >>= f) s post :=
  ensures_bind_known (fun _ => ⟨rfl,rfl,rfl⟩) hf

theorem ensures_get_bind {f : τ → Program S τ ε β} {post : Except ε β → τ → List ω → Prop}
    (hf : Ensures view o (f s) s post) : Ensures view o (get >>= f) s post :=
  ensures_bind_known (fun _ => ⟨rfl,rfl,rfl⟩) hf

theorem ensures_modify_bind {g : τ → τ} {f : Unit → Program S τ ε β}
    {post : Except ε β → τ → List ω → Prop} (hf : Ensures view o (f ()) (g s) post) :
    Ensures view o (modify g >>= f) s post :=
  ensures_bind_known (fun _ => ⟨rfl,rfl,rfl⟩) hf

theorem ensures_modify {g : τ → τ} {post : Except ε Unit → τ → List ω → Prop}
    (hp : post (.ok ()) (g s) []) : Ensures view o (modify g) s post :=
  fun _ => hp

theorem ensures_refuse_bind {c : Prop} [Decidable c] {e : ε} {f : Unit → Program S τ ε β}
    {post : Except ε β → τ → List ω → Prop} (hrefused : c → post (.error e) s [])
    (hpassed : ¬c → Ensures view o (f ()) s post) : Ensures view o (refuse c e >>= f) s post := by
  by_cases hc : c
  · refine ensures_bind (m := fun r s' ds => r = .error e ∧ s' = s ∧ ds = []) ?_ ?_ ?_
    · intro h
      simp only [refuse,if_pos hc]
      exact ⟨rfl,rfl,rfl⟩
    · rintro _ _ _ ⟨⟨⟩,rfl,rfl⟩
      exact hrefused hc
    · rintro _ _ _ ⟨⟨⟩,_⟩
  · simp only [refuse,if_neg hc]
    exact ensures_pure_bind (hpassed hc)

/-- Every reply the oracle may choose is covered. -/
theorem ensures_ask_bind {q : S.Query} {f : S.Reply q → Program S τ ε β}
    {post : Except ε β → τ → List ω → Prop}
    (hf : ∀ h, Ensures view o (f (o h q)) s
      (fun r s' ds => post r s' ((view ⟨q,o h q⟩).toList ++ ds))) :
    Ensures view o (ask q >>= f) s post := by
  refine ensures_bind
    (m := fun r s' ds => ∃ h, r = .ok (o h q) ∧ s' = s ∧ ds = (view ⟨q,o h q⟩).toList) ?_ ?_ ?_
  · exact fun h => ⟨h,rfl,rfl,shown_singleton _⟩
  · rintro _ _ _ ⟨h,⟨⟩,_⟩
  · rintro _ _ _ ⟨h,⟨⟩,rfl,rfl⟩
    exact hf h

theorem ensures_settle {f : Except ε α → τ → Except ε' β × τ} {p : Program S τ ε α}
    {post : Except ε' β → τ → List ω → Prop}
    (hp : Ensures view o p s (fun r s' ds => post (f r s').1 (f r s').2 ds)) :
    Ensures view o (settle f p) s post :=
  hp

theorem ensures_focus {look : σ → τ} {update : τ → σ → σ} {p : Program S τ ε α}
    {post : Except ε α → σ → List ω → Prop} {s : σ}
    (hp : Ensures view o p (look s) (fun r t ds => post r (update t s) ds)) :
    Ensures view o (focus look update p) s post :=
  hp

theorem ensures_within {t : τ} {p : Program S τ ε α} {post : Except ε α → σ → List ω → Prop}
    {s : σ} (hp : Ensures view o p t (fun r _ ds => post r s ds)) :
    Ensures view o (within t p) s post :=
  hp

theorem ensures_ite {c : Prop} [Decidable c] {p q : Program S τ ε α}
    {post : Except ε α → τ → List ω → Prop} (hp : c → Ensures view o p s post)
    (hq : ¬c → Ensures view o q s post) : Ensures view o (if c then p else q) s post := by
  by_cases hc : c
  · simpa only [if_pos hc] using hp hc
  · simpa only [if_neg hc] using hq hc

end Rules

/-- The program leaves its object as it was. -/
def Keeps (p : Program S τ ε α) : Prop := ∀ o h s, (p o h s).state = s

/-- Every value the program returns has the property. -/
def Returns (p : Program S τ ε α) (property : α → Prop) : Prop :=
  ∀ o h s a, (p o h s).result = .ok a → property a

section Frames
variable {p : Program S τ ε α} {f : α → Program S τ ε β}

theorem Keeps.ensures {ω : Type} {view : Event S → Option ω} {o : Oracle S} {s : τ} (h : Keeps p) :
    Ensures view o p s fun _ s' _ => s' = s :=
  fun h' => h o h' s

theorem keeps_pure (a : α) : Keeps (pure a : Program S τ ε α) := fun _ _ _ => rfl

theorem keeps_fail (e : ε) : Keeps (fail e : Program S τ ε α) := fun _ _ _ => rfl

theorem keeps_ask (q : S.Query) : Keeps (ask q : Program S τ ε (S.Reply q)) := fun _ _ _ => rfl

theorem keeps_ofExcept (r : Except ε α) : Keeps (ofExcept r : Program S τ ε α) := by
  cases r <;> exact fun _ _ _ => rfl

theorem keeps_refuse (c : Prop) [Decidable c] (e : ε) : Keeps (refuse c e : Program S τ ε Unit) := by
  unfold refuse
  split
  · exact keeps_fail e
  · exact keeps_pure ()

theorem keeps_bind (hp : Keeps p) (hf : ∀ a, Keeps (f a)) : Keeps (p >>= f) := by
  intro o h s
  have hstate := hp o h s
  rcases hrun : p o h s with ⟨e | a,s',es⟩ <;> rw [hrun] at hstate <;> subst hstate
  · rw [bind_error hrun]
  · rw [bind_ok hrun]
    exact hf a o _ _

theorem keeps_within (t : τ) : Keeps (within t p : Program S σ ε α) := fun _ _ _ => rfl

/-- Rewriting the result alone leaves the object to the program. -/
theorem keeps_settle {g : Except ε α → τ → Except ε' β × τ} (hg : ∀ r s, (g r s).2 = s)
    (hp : Keeps p) : Keeps (settle g p) := by
  intro o h s
  exact (hg _ _).trans (hp o h s)

theorem returns_pure {a : α} {property : α → Prop} (ha : property a) :
    Returns (pure a : Program S τ ε α) property := by
  rintro o h s _ ⟨⟩
  exact ha

theorem returns_bind {property : β → Prop} (hf : ∀ a, Returns (f a) property) :
    Returns (p >>= f) property := by
  intro o h s b hb
  rcases hrun : p o h s with ⟨e | a,s',es⟩
  · rw [bind_error hrun] at hb
    cases hb
  · rw [bind_ok hrun] at hb
    exact hf a o _ _ b hb

end Frames

/-- Every run after a history that shows `seen` ends in the same way and shows the same events. -/
def Reaches {ω : Type} (view : Event S → Option ω) (o : Oracle S) (seen : List ω)
    (p : Program S τ ε α) (s : τ) (r : Except ε α) (s' : τ) (ds : List ω) : Prop :=
  ∀ h, shown view h = seen →
    (p o h s).result = r ∧ (p o h s).state = s' ∧ shown view (p o h s).events = ds

/-- Every run after a history that shows `seen` meets the postcondition. -/
def After {ω : Type} (view : Event S → Option ω) (o : Oracle S) (seen : List ω) (p : Program S τ ε α)
    (s : τ) (post : Except ε α → τ → List ω → Prop) : Prop :=
  ∀ h, shown view h = seen → post (p o h s).result (p o h s).state (shown view (p o h s).events)

namespace After
variable {ω : Type} {view : Event S → Option ω} {o : Oracle S} {seen : List ω} {s : τ}

theorem mono {p : Program S τ ε α} {post post' : Except ε α → τ → List ω → Prop}
    (hp : After view o seen p s post) (himp : ∀ r s' ds, post r s' ds → post' r s' ds) :
    After view o seen p s post' :=
  fun h hh => himp _ _ _ (hp h hh)

theorem pure {a : α} {post : Except ε α → τ → List ω → Prop} (ha : post (.ok a) s []) :
    After view o seen (Pure.pure a) s post :=
  fun _ _ => ha

theorem fail {e : ε} {post : Except ε α → τ → List ω → Prop} (he : post (.error e) s []) :
    After view o seen (Program.fail e) s post :=
  fun _ _ => he

/-- A sequence by the rule of its first part. -/
theorem bind {p : Program S τ ε α} {f : α → Program S τ ε β} {m : Except ε α → τ → List ω → Prop}
    {post : Except ε β → τ → List ω → Prop} (hp : After view o seen p s m)
    (herror : ∀ e s' ds, m (.error e) s' ds → post (.error e) s' ds)
    (hok : ∀ a s' ds, m (.ok a) s' ds →
      After view o (seen ++ ds) (f a) s' (fun r s'' ds' => post r s'' (ds ++ ds'))) :
    After view o seen (p >>= f) s post := by
  intro h hh
  have hmid := hp h hh
  rcases hrun : p o h s with ⟨e | a,s',es⟩
  · rw [Program.bind_error hrun]
    rw [hrun] at hmid
    exact herror _ _ _ hmid
  · rw [bind_ok hrun,shown_append]
    rw [hrun] at hmid
    exact hok _ _ _ hmid (h ++ es) (by rw [shown_append,hh])

/-- A sequence whose first part leaves one known result and object and shows nothing. -/
theorem known_bind {p : Program S τ ε α} {f : α → Program S τ ε β} {a : α} {t : τ}
    {post : Except ε β → τ → List ω → Prop}
    (hp : After view o seen p s (fun r s' ds => r = .ok a ∧ s' = t ∧ ds = []))
    (hf : After view o seen (f a) t post) : After view o seen (p >>= f) s post := by
  refine bind hp ?_ ?_
  · rintro _ _ _ ⟨⟨⟩,_⟩
  · rintro _ _ _ ⟨⟨⟩,rfl,rfl⟩
    rwa [List.append_nil]

theorem get_bind {f : τ → Program S τ ε β} {post : Except ε β → τ → List ω → Prop}
    (hf : After view o seen (f s) s post) : After view o seen (get >>= f) s post :=
  known_bind (fun _ _ => ⟨rfl,rfl,rfl⟩) hf

theorem modify_bind {g : τ → τ} {f : Unit → Program S τ ε β} {post : Except ε β → τ → List ω → Prop}
    (hf : After view o seen (f ()) (g s) post) : After view o seen (modify g >>= f) s post :=
  known_bind (fun _ _ => ⟨rfl,rfl,rfl⟩) hf

theorem refuse_bind {c : Prop} [Decidable c] {e : ε} {f : Unit → Program S τ ε β}
    {post : Except ε β → τ → List ω → Prop} (hrefused : c → post (.error e) s [])
    (hpassed : ¬c → After view o seen (f ()) s post) :
    After view o seen (refuse c e >>= f) s post := by
  by_cases hc : c
  · refine bind (m := fun r s' ds => r = .error e ∧ s' = s ∧ ds = []) ?_ ?_ ?_
    · intro h _
      simp only [refuse,if_pos hc]
      exact ⟨rfl,rfl,rfl⟩
    · rintro _ _ _ ⟨⟨⟩,rfl,rfl⟩
      exact hrefused hc
    · rintro _ _ _ ⟨⟨⟩,_⟩
  · simp only [refuse,if_neg hc]
    exact known_bind (fun _ _ => ⟨rfl,rfl,rfl⟩) (hpassed hc)

/-- A question whose answer depends on what the history shows. -/
theorem ask_bind {q : S.Query} {f : S.Reply q → Program S τ ε β}
    {post : Except ε β → τ → List ω → Prop}
    (hf : ∀ h, shown view h = seen → After view o (seen ++ (view ⟨q,o h q⟩).toList) (f (o h q)) s
      (fun r s' ds => post r s' ((view ⟨q,o h q⟩).toList ++ ds))) :
    After view o seen (Program.ask q >>= f) s post := by
  refine bind (m := fun r s' ds => ∃ h, shown view h = seen ∧ r = .ok (o h q) ∧ s' = s ∧
    ds = (view ⟨q,o h q⟩).toList) ?_ ?_ ?_
  · exact fun h hh => ⟨h,hh,rfl,rfl,shown_singleton _⟩
  · rintro _ _ _ ⟨h,_,⟨⟩,_⟩
  · rintro _ _ _ ⟨h,hh,⟨⟩,rfl,rfl⟩
    exact hf h hh

/-- A question that shows nothing. -/
theorem quiet_bind {q : S.Query} {f : S.Reply q → Program S τ ε β}
    {post : Except ε β → τ → List ω → Prop} (hview : ∀ reply, view ⟨q,reply⟩ = none)
    (hf : ∀ h, shown view h = seen → After view o seen (f (o h q)) s post) :
    After view o seen (Program.ask q >>= f) s post := by
  refine ask_bind fun h hh => ?_
  rw [hview,Option.toList_none,List.append_nil]
  exact hf h hh

theorem settle {f : Except ε α → τ → Except ε' β × τ} {p : Program S τ ε α}
    {post : Except ε' β → τ → List ω → Prop}
    (hp : After view o seen p s (fun r s' ds => post (f r s').1 (f r s').2 ds)) :
    After view o seen (Program.settle f p) s post :=
  hp

end After

/-- A view that shows nothing. -/
def blind : Event S → Option Empty := fun _ => none

theorem shown_blind (es : Trace S) : shown blind es = [] := by
  induction es with
  | nil => rfl
  | cons e es ih => exact ih

/-- Every run from `s` returns `a` and leaves `s'`. -/
abbrev Yields (o : Oracle S) (p : Program S τ ε α) (s : τ) (a : α) (s' : τ) : Prop :=
  Reaches blind o [] p s (.ok a) s' []

namespace Reaches
variable {ω : Type} {view : Event S → Option ω} {o : Oracle S} {seen ds ds' : List ω} {s s' s'' : τ}
  {a : α} {r : Except ε β}

theorem pure : Reaches (ε := ε) view o seen (Pure.pure a) s (.ok a) s [] :=
  fun _ _ => ⟨rfl,rfl,rfl⟩

theorem fail {e : ε} : Reaches view o seen (Program.fail e) s (.error e : Except ε α) s [] :=
  fun _ _ => ⟨rfl,rfl,rfl⟩

theorem bind {p : Program S τ ε α} {f : α → Program S τ ε β}
    (hp : Reaches view o seen p s (.ok a) s' ds)
    (hf : Reaches view o (seen ++ ds) (f a) s' r s'' ds') :
    Reaches view o seen (p >>= f) s r s'' (ds ++ ds') := by
  intro h hh
  obtain ⟨hresult,hstate,hshown⟩ := hp h hh
  obtain ⟨hresult',hstate',hshown'⟩ := hf (h ++ (p o h s).events) (by rw [shown_append,hh,hshown])
  rw [bind_ok (show p o h s = ⟨.ok a,s',(p o h s).events⟩ by rw [← hresult,← hstate])]
  exact ⟨hresult',hstate',by rw [shown_append,hshown,hshown']⟩

/-- A sequence whose first part fails. -/
theorem bind_error {p : Program S τ ε α} {f : α → Program S τ ε β} {e : ε}
    (hp : Reaches view o seen p s (.error e) s' ds) :
    Reaches view o seen (p >>= f) s (.error e) s' ds := by
  intro h hh
  obtain ⟨hresult,hstate,hshown⟩ := hp h hh
  rw [Program.bind_error (show p o h s = ⟨.error e,s',(p o h s).events⟩ by rw [← hresult,← hstate])]
  exact ⟨rfl,rfl,hshown⟩

/-- A sequence whose first part shows nothing. -/
theorem quiet_bind {p : Program S τ ε α} {f : α → Program S τ ε β}
    (hp : Reaches view o seen p s (.ok a) s' [])
    (hf : Reaches view o seen (f a) s' r s'' ds) : Reaches view o seen (p >>= f) s r s'' ds :=
  bind hp (by rwa [List.append_nil])

/-- A sequence whose second part shows nothing. -/
theorem bind_quiet {p : Program S τ ε α} {f : α → Program S τ ε β}
    (hp : Reaches view o seen p s (.ok a) s' ds)
    (hf : Reaches view o (seen ++ ds) (f a) s' r s'' []) : Reaches view o seen (p >>= f) s r s'' ds := by
  have hboth := bind hp hf
  rwa [List.append_nil] at hboth

theorem get_bind {f : τ → Program S τ ε β} (hf : Reaches view o seen (f s) s r s' ds) :
    Reaches view o seen (get >>= f) s r s' ds :=
  quiet_bind (fun _ _ => ⟨rfl,rfl,rfl⟩) hf

theorem modify_bind {g : τ → τ} {f : Unit → Program S τ ε β}
    (hf : Reaches view o seen (f ()) (g s) r s' ds) :
    Reaches view o seen (modify g >>= f) s r s' ds :=
  quiet_bind (fun _ _ => ⟨rfl,rfl,rfl⟩) hf

theorem refuse_bind {c : Prop} [Decidable c] {e : ε} {f : Unit → Program S τ ε β} (hc : ¬c)
    (hf : Reaches view o seen (f ()) s r s' ds) :
    Reaches view o seen (refuse c e >>= f) s r s' ds := by
  simp only [refuse,if_neg hc]
  exact quiet_bind pure hf

/-- A question whose answer the shown history decides. -/
theorem ask {q : S.Query} {reply : S.Reply q} (ho : ∀ h, shown view h = seen → o h q = reply) :
    Reaches (ε := ε) view o seen (Program.ask q) s (.ok reply) s (view ⟨q,reply⟩).toList := by
  intro h hh
  refine ⟨congrArg Except.ok (ho h hh),rfl,?_⟩
  rw [← ho h hh]
  exact shown_singleton _

/-- A question that shows nothing. -/
theorem ask_bind {q : S.Query} {f : S.Reply q → Program S τ ε β} {a : S.Reply q}
    (ho : ∀ h, shown view h = seen → o h q = a) (hview : view ⟨q,a⟩ = none)
    (hf : Reaches view o seen (f a) s r s' ds) :
    Reaches view o seen (Program.ask q >>= f) s r s' ds := by
  have hasked := ask (ε := ε) (s := s) ho
  rw [hview] at hasked
  exact quiet_bind hasked hf

/-- A question in a run whose complete history is known. -/
theorem asked_bind {q : S.Query} {f : S.Reply q → Program S τ ε β} {reply : S.Reply q}
    {seen events : Trace S} (ho : o seen q = reply)
    (hf : Reaches some o (seen ++ [⟨q,reply⟩]) (f reply) s r s' events) :
    Reaches some o seen (Program.ask q >>= f) s r s' (⟨q,reply⟩ :: events) := by
  have hasked : Reaches (ε := ε) some o seen (Program.ask q) s (.ok reply) s [⟨q,reply⟩] := by
    refine ask fun h hh => ?_
    rw [shown_some] at hh
    rw [hh,ho]
  exact bind hasked hf

theorem settle {f : Except ε α → τ → Except ε' β × τ} {p : Program S τ ε α} {r : Except ε α}
    (hp : Reaches view o seen p s r s' ds) :
    Reaches view o seen (Program.settle f p) s (f r s').1 (f r s').2 ds := by
  intro h hh
  obtain ⟨hresult,hstate,hshown⟩ := hp h hh
  exact ⟨by rw [← hresult,← hstate]; rfl,by rw [← hresult,← hstate]; rfl,hshown⟩

theorem focus {v : σ → τ} {u : τ → σ → σ} {p : Program S τ ε α} {r : Except ε α} {s : σ} {t : τ}
    (hp : Reaches view o seen p (v s) r t ds) :
    Reaches view o seen (Program.focus v u p) s r (u t s) ds := by
  intro h hh
  obtain ⟨hresult,hstate,hshown⟩ := hp h hh
  exact ⟨hresult,by rw [← hstate]; rfl,hshown⟩

theorem within {t t' : τ} {p : Program S τ ε α} {r : Except ε α} {s : σ}
    (hp : Reaches view o seen p t r t' ds) :
    Reaches view o seen (Program.within t p) s r s ds :=
  fun h hh => ⟨(hp h hh).1,rfl,(hp h hh).2.2⟩

/-- What every run returns and leaves, with what every run shows. -/
theorem of_yields (seen : List ω) {p : Program S τ ε α} (hp : Yields o p s a s')
    (hshown : Ensures view o p s fun _ _ es => es = ds) :
    Reaches view o seen p s (.ok a) s' ds :=
  fun h _ => ⟨(hp h (shown_blind h)).1,(hp h (shown_blind h)).2.1,hshown h⟩

/-- What holds of every run holds of this one. -/
theorem meets {p : Program S τ ε α} {r : Except ε α} {P : Except ε α → τ → List ω → Prop}
    (hp : Reaches view o seen p s r s' ds) (hpost : Ensures view o p s P) (h : Trace S)
    (hh : shown view h = seen) : P r s' ds := by
  obtain ⟨hresult,hstate,hshown⟩ := hp h hh
  rw [← hresult,← hstate,← hshown]
  exact hpost h

end Reaches

theorem Yields.ensures {o : Oracle S} {s s' : τ} {a : α} {p : Program S τ ε α} (hp : Yields o p s a s') :
    Ensures blind o p s fun r t ds => r = .ok a ∧ t = s' ∧ ds = [] :=
  fun h => hp h (shown_blind h)

theorem Yields.of_ensures {o : Oracle S} {s s' : τ} {a : α} {p : Program S τ ε α}
    (hp : Ensures blind o p s fun r t _ => r = .ok a ∧ t = s') : Yields o p s a s' :=
  fun h _ => ⟨(hp h).1,(hp h).2,shown_blind _⟩

end Program
end Interaction
