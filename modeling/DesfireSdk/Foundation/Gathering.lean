import DesfireSdk.Foundation.Fields

/-!
# Loops that gather distinct values

A loop that reads one value from each of its elements, keeps the values in order, and stops with an
error at the first element that has no value or repeats an earlier one.
-/
namespace DesfireSdk.Gathering
variable {α β σ ε : Type}

/-- What one iteration does with an element: `kept` are the values before it. -/
inductive Gathered (read : α → Option β) (kept : σ → List β) (Inv : σ → Prop) (s : σ) (a : α) : Except ε σ → Prop
  | kept {b s'} (hread : read a = some b) (hnew : b ∉ kept s) (hinv : Inv s') (hkept : kept s' = kept s ++ [b]) :
      Gathered read kept Inv s a (.ok s')
  | repeated {b e} (hread : read a = some b) (hseen : b ∈ kept s) : Gathered read kept Inv s a (.error e)
  | unreadable {e} (hread : read a = none) : Gathered read kept Inv s a (.error e)

variable {read : α → Option β} {kept : σ → List β} {Inv : σ → Prop} {step : σ → α → Except ε σ}

/-- A loop that succeeds has kept the values of all elements in their order. -/
theorem values_of_foldlM (hstep : ∀ s a, Inv s → Gathered read kept Inv s a (step s a)) {s s' : σ} (hs : Inv s)
    (hdistinct : (kept s).Nodup) {elements : List α} (hrun : elements.foldlM step s = .ok s') :
    ∃ values, kept s' = kept s ++ values ∧ elements.map read = values.map some ∧ (kept s ++ values).Nodup := by
  induction elements generalizing s with
  | nil =>
    cases hrun
    exact ⟨[],(List.append_nil _).symm,rfl,by rwa [List.append_nil]⟩
  | cons a elements ih =>
    have hcase := hstep s a hs
    rw [List.foldlM_cons] at hrun
    generalize step s a = r at hcase hrun
    cases hcase with
    | @kept b s₁ hread hnew hinv hkept =>
      have hdistinct' : (kept s₁).Nodup := by
        rw [hkept]
        refine List.nodup_append.mpr ⟨hdistinct,by simp,?_⟩
        intro old hold new hmem hsame
        rw [List.mem_singleton.mp hmem] at hsame
        exact hnew (hsame ▸ hold)
      obtain ⟨values,hvalues,hreads,hnodup⟩ := ih hinv hdistinct' hrun
      rw [hkept,List.append_assoc] at hvalues hnodup
      exact ⟨b :: values,hvalues,by rw [List.map_cons,List.map_cons,hread,hreads],hnodup⟩
    | repeated => cases hrun
    | unreadable => cases hrun

/-- The loop succeeds when every element has a value and no value is repeated. -/
theorem foldlM_of_values (hstep : ∀ s a, Inv s → Gathered read kept Inv s a (step s a)) {s : σ} (hs : Inv s)
    {elements : List α} {values : List β} (hreads : elements.map read = values.map some)
    (hdistinct : (kept s ++ values).Nodup) : ∃ s', elements.foldlM step s = .ok s' ∧ kept s' = kept s ++ values := by
  induction elements generalizing s values with
  | nil =>
    have hnone : values = [] := by simpa using hreads.symm
    rw [hnone]
    exact ⟨s,rfl,(List.append_nil _).symm⟩
  | cons a elements ih =>
    cases values with
    | nil => cases hreads
    | cons b values =>
      obtain ⟨hread,hreads⟩ := List.cons.inj hreads
      have hcase := hstep s a hs
      rw [List.foldlM_cons]
      generalize step s a = r at hcase
      cases hcase with
      | @kept c s₁ hread' hnew hinv hkept =>
        have hsame : b = c := Option.some.inj (hread.symm.trans hread')
        have hkept' : kept s₁ ++ values = kept s ++ (b :: values) := by rw [hkept,hsame,List.append_assoc]; rfl
        rw [← hkept'] at hdistinct ⊢
        exact ih hinv hreads hdistinct
      | @repeated c e hread' hseen =>
        have hsame : b = c := Option.some.inj (hread.symm.trans hread')
        have hnew := (List.nodup_append.mp hdistinct).2.2 c hseen b (by simp)
        exact absurd hsame.symm hnew
      | unreadable hread' =>
        rw [hread'] at hread
        cases hread

/-- From nothing kept, the loop succeeds with exactly the values of all elements, when they are distinct. -/
theorem foldlM_gathers (hstep : ∀ s a, Inv s → Gathered read kept Inv s a (step s a)) {s : σ} (hs : Inv s)
    (hempty : kept s = []) (elements : List α) (values : List β) :
    (elements.foldlM step s).map kept = .ok values ↔ elements.map read = values.map some ∧ values.Nodup := by
  constructor
  · intro hmap
    cases hrun : elements.foldlM step s with
    | error e =>
      rw [hrun] at hmap
      cases hmap
    | ok s' =>
      rw [hrun] at hmap
      have hkept : kept s' = values := Except.ok.inj hmap
      obtain ⟨values',hvalues,hreads,hdistinct⟩ := values_of_foldlM hstep hs (by rw [hempty]; exact List.nodup_nil) hrun
      rw [hempty,List.nil_append] at hvalues hdistinct
      rw [← hkept,hvalues]
      exact ⟨hreads,hdistinct⟩
  · rintro ⟨hreads,hdistinct⟩
    obtain ⟨s',hrun,hkept⟩ := foldlM_of_values hstep hs hreads (by rwa [hempty,List.nil_append])
    rw [hrun]
    rw [hempty,List.nil_append] at hkept
    exact congrArg Except.ok hkept

/-- A loop whose iterations all fail with one error fails with that error. -/
theorem foldlM_error {e : ε} (hstep : ∀ s a e', step s a = .error e' → e' = e) {s : σ} {elements : List α} {e' : ε}
    (h : elements.foldlM step s = .error e') : e' = e := by
  induction elements generalizing s with
  | nil => cases h
  | cons a elements ih =>
    rw [List.foldlM_cons] at h
    cases hfirst : step s a with
    | error e'' =>
      rw [hfirst] at h
      cases h
      exact hstep s a e' hfirst
    | ok s' =>
      rw [hfirst] at h
      exact ih h

/-- The values of elements that all have one. -/
theorem reads_of_good {value : α → β} {Good : β → Prop} [DecidablePred Good]
    (hread : ∀ a, read a = if Good (value a) then some (value a) else none) {elements : List α}
    (hgood : ∀ a ∈ elements, Good (value a)) : elements.map read = (elements.map value).map some := by
  rw [List.map_map]
  apply List.map_congr_left
  intro a hmem
  rw [hread a,if_pos (hgood a hmem)]
  rfl

/-- The closed form of a loop whose values are all or some of those of a total function. -/
theorem closed_form [DecidableEq β] (value : α → β) (Good : β → Prop) [DecidablePred Good] {e : ε} {start : σ}
    (hstep : ∀ s a, Inv s → Gathered read kept Inv s a (step s a)) (hstart : Inv start) (hempty : kept start = [])
    (hread : ∀ a, read a = if Good (value a) then some (value a) else none)
    (herror : ∀ s a e', step s a = .error e' → e' = e) (elements : List α) :
    (if (∀ b ∈ elements.map value, Good b) ∧ (elements.map value).Nodup then .ok (elements.map value) else .error e) =
      (elements.foldlM step start).map kept := by
  by_cases hgood : (∀ b ∈ elements.map value, Good b) ∧ (elements.map value).Nodup
  · have hreads := reads_of_good hread fun a hmem => hgood.1 _ (List.mem_map_of_mem hmem)
    rw [if_pos hgood,(foldlM_gathers hstep hstart hempty elements _).mpr ⟨hreads,hgood.2⟩]
  · rw [if_neg hgood]
    cases hrun : elements.foldlM step start with
    | error e' =>
      rw [foldlM_error herror hrun]
      rfl
    | ok s' =>
      have hmap : (elements.foldlM step start).map kept = .ok (kept s') := by rw [hrun]; rfl
      obtain ⟨hreads,hdistinct⟩ := (foldlM_gathers hstep hstart hempty elements _).mp hmap
      have hall : ∀ a ∈ elements, Good (value a) := by
        intro a hmem
        have hsome : read a ∈ (kept s').map some := hreads ▸ List.mem_map_of_mem hmem
        obtain ⟨b,_,hb⟩ := List.mem_map.mp hsome
        by_contra hbad
        rw [hread a,if_neg hbad] at hb
        cases hb
      rw [reads_of_good hread hall] at hreads
      have hsame := (List.map_inj_right fun _ _ h => Option.some.inj h).mp hreads
      rw [← hsame] at hdistinct
      refine absurd ⟨?_,hdistinct⟩ hgood
      intro b hmem
      obtain ⟨a,ha,rfl⟩ := List.mem_map.mp hmem
      exact hall a ha

end DesfireSdk.Gathering
