import DesfireSdk.Managed.Invariant

/-! How the effects of managed steps compose. -/
namespace DesfireSdk.Managed
open Interaction Program

section Composition
variable {α β : Type} {card card' card'' : Card} {releasing releasing' : Prop} {Released : α → Prop}
  {Released' : β → Prop} {es es' : Trace Environment}

theorem Admits.after {r : Except Fault α} (h : Admits card releasing r es') (hes : deliveries es = []) :
    Admits card releasing r (es ++ es') := by
  refine ⟨h.usable,fun hpending => (h.gate hpending).imp_right fun ⟨hds,he⟩ => ⟨?_,he⟩⟩
  rw [deliveries_append,hes,hds,List.append_nil]

/-- Questions about neither the card nor a key may come first. -/
theorem Settled.quietly {r : Except Fault α} (h : Settled card releasing Released r card' es')
    (es : Trace Environment) (hes : Untouched es) : Settled card releasing Released r card' (es ++ es') := by
  cases h with
  | refused he hes' => exact .refused he (untouched_append.mpr ⟨hes,hes'⟩)
  | wiped hadmits => exact .wiped (hadmits.after hes.deliveries)
  | kept hadmits hr hs hgate => exact .kept (hadmits.after hes.deliveries) hr hs hgate

/-- Questions without a frame may come first when the state is usable. -/
theorem Settled.after {r : Except Fault α} (h : Settled card releasing Released r card' es')
    (hinv : card.Inv) (husable : card.usable = true) (hes : deliveries es = []) :
    Settled card releasing Released r card' (es ++ es') := by
  cases h with
  | refused he hes' =>
    refine .unmoved hinv (by simp [he]) (.failed husable ?_)
    rw [deliveries_append,hes,hes'.deliveries,List.append_nil]
  | wiped hadmits => exact .wiped (hadmits.after hes)
  | kept hadmits hr hs hgate => exact .kept (hadmits.after hes) hr hs hgate

/-- A successful step that does not release the gate started behind an open one. -/
theorem Settled.opens {a : α} (h : Settled card False Released (.ok a) card' es) :
    card.Open ∧ Successor card card' := by
  cases h with
  | kept hadmits _ hs =>
    refine ⟨⟨hadmits.usable,?_⟩,hs⟩
    cases hpending : card.authenticationResetPending with
    | false => rfl
    | true => rcases hadmits.gate hpending with h | ⟨_,_,⟨⟩⟩; exact h.elim

theorem Settled.bind {a : α} {r : Except Fault β} (h : Settled card False Released (.ok a) card' es)
    (h' : Settled card' False Released' r card'' es') :
    Settled card False Released' r card'' (es ++ es') := by
  obtain ⟨hopen,hs⟩ := h.opens
  cases h' with
  | refused he => exact .moved hopen (.error (by simp [he])) hs
  | wiped =>
    rw [hs.bound.invalidate]
    exact .wiped hopen.admits
  | kept _ hr hs' => exact .moved hopen hr (hs.trans hs')

/-- A failed step keeps its effect whatever type its value would have had. -/
theorem Settled.failure {f : Fault} (h : Settled card releasing Released (.error f : Except Fault α) card' es) :
    Settled card releasing Released' (.error f : Except Fault β) card' es := by
  cases h with
  | refused he hes => exact .refused he hes
  | wiped hadmits => exact .wiped ⟨hadmits.usable,fun h => (hadmits.gate h).imp_right (by simp)⟩
  | @kept f _ _ hadmits hr hs hgate =>
    have hgate' : card.authenticationResetPending = true →
        releasing ∨ (deliveries es = [] ∧ ∃ e, (.error f : Except Fault β) = .error (.error e)) := by
      intro hpending
      refine (hadmits.gate hpending).imp_right fun ⟨hds,e,he⟩ => ⟨hds,e,?_⟩
      cases he
      rfl
    refine .kept ⟨hadmits.usable,hgate'⟩ ⟨?_,?_⟩ hs fun hpending => (hgate hpending).imp_right (by simp)
    · rintro ⟨⟩
      exact hr.1 rfl
    · rintro e ⟨⟩
      exact hr.2 e rfl

theorem Settled.mapped {r : Except Fault α} {f : α → β} (h : Settled card releasing Released r card' es)
    (hreleased : ∀ a, r = .ok a → Released a → Released' (f a)) :
    Settled card releasing Released' (r.map f) card' es := by
  cases r with
  | error _ => exact h.failure
  | ok a =>
    cases h with
    | kept hadmits _ hs hgate =>
      refine .kept ⟨hadmits.usable,fun hpending => (hadmits.gate hpending).imp_right (by simp)⟩
        (.ok _) hs fun hpending => (hgate hpending).imp_right ?_
      rintro ⟨_,⟨⟩,ha⟩
      exact ⟨_,rfl,hreleased a rfl ha⟩

/-- Erasing the state after a failure ends it. -/
theorem Settled.erased {e e' : Error}
    (h : Settled card releasing Released (.error (.error e) : Except Fault α) card' es)
    (husable : card.usable = true) :
    Settled card releasing Released' (.error (.error e') : Except Fault β) card'.invalidate es := by
  have hbound : card.Bound card' := by
    cases h with
    | refused => exact .rfl
    | wiped => exact ⟨rfl,rfl⟩
    | kept _ _ hs => exact hs.bound
  rw [hbound.invalidate]
  cases h with
  | refused _ hes => exact .wiped (.failed husable hes.deliveries)
  | wiped hadmits => exact .wiped ⟨husable,fun h => (hadmits.gate h).imp_right (by simp)⟩
  | kept hadmits => exact .wiped ⟨husable,fun h => (hadmits.gate h).imp_right (by simp)⟩

end Composition

section Rules
variable {α β : Type} {o : Oracle Environment} {card : Card} {releasing : Prop} {Released : α → Prop}
  {Released' : β → Prop}

theorem settled_bind {p : Op Card α} {f : α → Op Card β}
    (hp : Ensures some o p card (Settled card False Released))
    (hf : ∀ a card', card'.Inv → card'.Open →
      Ensures some o (f a) card' (Settled card' False Released')) :
    Ensures some o (p >>= f) card (Settled card False Released') := by
  refine ensures_bind hp (fun _ _ _ h => h.failure) fun a card' es h => ?_
  obtain ⟨hopen,hs⟩ := h.opens
  exact (hf a card' hs.inv (hs.opens hopen)).mono fun _ _ _ h' => h.bind h'

/-- A catch clause never runs after a step that settles. -/
theorem settled_caught {cleanup : Card → Card} {e : Error} {p : Op Card α}
    (hp : Ensures some o p card (Settled card releasing Released)) :
    Ensures some o p card fun r card' es => Settled card releasing Released
      (Op.afterThrow cleanup e r card').1 (Op.afterThrow cleanup e r card').2 es := by
  refine hp.mono ?_
  rintro ((_ | _) | _) _ _ h
  · exact h
  · exact h.not_thrown.elim
  · exact h

/-- A pure check that ends the state when it fails. -/
theorem settled_ofResult {r : Result α} (hinv : card.Inv) (hopen : card.Open) :
    Ensures some o (Op.onError (fun _ => Card.invalidate) (Op.ofResult r)) card
      (Settled card releasing Released) := by
  refine Op.ensures_onError (Op.ensures_ofResult ?_)
  cases r with
  | error e => exact .wiped hopen.admits
  | ok a => exact .moved hopen (.ok a) (.rfl hinv hopen.usable)

theorem settled_refuseAfter_bind {c : Prop} [Decidable c] {e : Error} {f : Unit → Op Card α}
    (hopen : card.Open)
    (hf : Ensures some o (f ()) card (Settled card releasing Released)) :
    Ensures some o (Op.refuseAfter Card.invalidate c e >>= f) card (Settled card releasing Released) :=
  Op.ensures_refuseAfter_bind (fun _ => .wiped hopen.admits) fun _ => hf

/-- What an operation under the card lock may do. -/
inductive Operated (card : Card) (releasing : Prop) (Released : α → Prop) :
    Except Fault α → Card → Trace Environment → Prop
  | unlocked : Operated card releasing Released (.error .thrown) card [⟨.admission .card,.failed⟩]
  | settled {r card' es} (h : Settled card releasing Released r card' es) :
      Operated card releasing Released r card' es

theorem admitted_operated {refusal : Error} {p : Op Card α} (hrefusal : refusal.outcome = .notSent)
    (hp : Ensures some o p card (Settled card releasing Released)) :
    Ensures some o (admitted refusal p) card (Operated card releasing Released) := by
  refine (admitted_runs hp).mono ?_
  rintro _ _ _ (_ | _ | h)
  · exact .unlocked
  · exact .settled (.refused hrefusal (by simp [external]))
  · exact .settled (h.quietly [⟨.admission .card,Admission.entered⟩] (by simp [external]))

end Rules
end DesfireSdk.Managed
