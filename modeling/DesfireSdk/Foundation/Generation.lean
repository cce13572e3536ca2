import DesfireSdk.Foundation.Delivery

/-!
Transport generations as an operation reads them. A removal or a reconnection advances
the generation for good, so an operation notices it exactly when it reads the generation
again after its last frame.
-/
namespace DesfireSdk
open Interaction Program

def readingOf : Event Environment → Option UInt64
  | ⟨.generation,generation⟩ => some generation
  | _ => none

/-- The generations a run read, in order. -/
abbrev readings (es : Trace Environment) : List UInt64 := shown readingOf es

/-- From a point that is no later than the last reply on, the transport reports other generations. -/
def Changes (generation : UInt64) (es : Trace Environment) : Prop :=
  ∃ before after, es = before ++ after ∧ (∀ reading ∈ readings after, reading ≠ generation) ∧
    ∃ front frame options handover rest,
      es = front ++ ⟨.exchange frame options,handover⟩ :: rest ∧ deliveries rest = [] ∧ rest <:+ after

/-- The generation was read again after the last frame. -/
def Confirmed (generation : UInt64) (es : Trace Environment) : Prop :=
  ∃ before after, es = before ++ ⟨.generation,generation⟩ :: after ∧ deliveries after = []

section Evidence
variable {generation : UInt64} {es es' : Trace Environment}

theorem Confirmed.after (h : Confirmed generation es') (es : Trace Environment) :
    Confirmed generation (es ++ es') := by
  obtain ⟨before,after,rfl,hquiet⟩ := h
  exact ⟨es ++ before,after,(List.append_assoc ..).symm,hquiet⟩

theorem Confirmed.before (h : Confirmed generation es) (hes' : deliveries es' = []) :
    Confirmed generation (es ++ es') := by
  obtain ⟨before,after,rfl,hquiet⟩ := h
  refine ⟨before,after ++ es',by simp,?_⟩
  rw [deliveries_append,hquiet,hes',List.append_nil]

/-- A reading after the last frame shows every change. -/
theorem Confirmed.unchanged (h : Confirmed generation es) : ¬Changes generation es := by
  rintro ⟨_,after,_,hother,front,frame,options,handover,rest,hframe,hrest,hsuffix⟩
  obtain ⟨before,quiet,rfl,hquiet⟩ := h
  have hread : ⟨.generation,generation⟩ ∈ rest := by
    rcases List.append_eq_append_iff.mp hframe with ⟨middle,rfl,hmiddle⟩ | ⟨middle,rfl,hmiddle⟩
    · -- the frame would come after the reading
      cases middle with
      | nil => cases hmiddle
      | cons event middle =>
        rw [List.cons_append,List.cons_eq_cons] at hmiddle
        obtain ⟨rfl,rfl⟩ := hmiddle
        rw [deliveries_append] at hquiet
        cases (List.append_eq_nil_iff.mp hquiet).2
    · cases middle with
      | nil => cases hmiddle
      | cons event middle =>
        obtain ⟨rfl,rfl⟩ := List.cons_eq_cons.mp hmiddle
        simp
  refine hother generation ?_ rfl
  exact List.mem_filterMap.mpr ⟨_,hsuffix.subset hread,rfl⟩

theorem Changes.handed (h : Changes generation es) : deliveries es ≠ [] := by
  obtain ⟨_,_,_,_,front,frame,options,handover,rest,rfl,_⟩ := h
  rw [deliveries_append]
  simp [shown,deliveryOf]

end Evidence

section Programs
variable {τ α β : Type} {p : Op τ α} {f : α → Op τ β}

/-- The operation keeps the recorded generation of its object. -/
def RecordKept (recorded : τ → UInt64) (p : Op τ α) : Prop :=
  ∀ o h s, recorded (p o h s).state = recorded s

/-- A success that hands over no frame. -/
def Quiet (p : Op τ α) : Prop := ∀ o h s a, (p o h s).result = .ok a → deliveries (p o h s).events = []

/-- A success was confirmed under the recorded generation. -/
def Sighted (recorded : τ → UInt64) (p : Op τ α) : Prop :=
  ∀ o h s a, (p o h s).result = .ok a → Confirmed (recorded s) (p o h s).events

/-- A success was confirmed under this generation, whatever the object records. -/
abbrev Witnessed (generation : UInt64) (p : Op τ α) : Prop := Sighted (fun _ => generation) p

variable {recorded : τ → UInt64}

theorem recordKept_of_keeps (hp : Keeps p) : RecordKept recorded p := by
  intro o h s
  rw [hp o h s]

theorem recordKept_modify {change : τ → τ} (hchange : ∀ s, recorded (change s) = recorded s) :
    RecordKept recorded (Program.modify change : Op τ Unit) :=
  fun _ _ s => hchange s

theorem recordKept_bind (hp : RecordKept recorded p) (hf : ∀ a, RecordKept recorded (f a)) :
    RecordKept recorded (p >>= f) := by
  intro o h s
  have hstate := hp o h s
  rcases hrun : p o h s with ⟨e | a,s',es⟩ <;> rw [hrun] at hstate
  · rw [bind_error hrun]
    exact hstate
  · rw [bind_ok hrun]
    exact (hf a o _ s').trans hstate

theorem recordKept_settle {γ : Type} {change : Except Fault α → τ → Except Fault γ × τ}
    (hchange : ∀ r s, recorded (change r s).2 = recorded s) (hp : RecordKept recorded p) :
    RecordKept recorded (Program.settle change p) := by
  intro o h s
  exact (hchange _ _).trans (hp o h s)

theorem quiet_pure (a : α) : Quiet (pure a : Op τ α) := fun _ _ _ _ _ => rfl

theorem quiet_modify (change : τ → τ) : Quiet (Program.modify change : Op τ Unit) :=
  fun _ _ _ _ _ => rfl

theorem quiet_ask {q : Query} (hq : ∀ reply, deliveryOf ⟨q,reply⟩ = none) :
    Quiet (Program.ask (S := Environment) q : Op τ (Query.Reply q)) := by
  intro o h s a _
  change ([⟨q,o h q⟩] : Trace Environment).filterMap deliveryOf = []
  simp [hq]

theorem quiet_failure (f : Fault) : Quiet (Program.fail f : Op τ α) := by
  rintro o h s a ⟨⟩

theorem quiet_ofResult (r : Result α) : Quiet (Op.ofResult r : Op τ α) := by
  intro o h s a _
  cases r <;> rfl

theorem quiet_refuse (c : Prop) [Decidable c] (f : Fault) : Quiet (Program.refuse c f : Op τ Unit) := by
  intro o h s a _
  unfold Program.refuse
  split <;> rfl

theorem quiet_bind (hp : Quiet p) (hf : ∀ a, Quiet (f a)) : Quiet (p >>= f) := by
  intro o h s b hb
  rcases hrun : p o h s with ⟨e | a,s',es⟩
  · rw [bind_error hrun] at hb
    cases hb
  · have hes := hp o h s a (by rw [hrun])
    rw [bind_ok hrun] at hb ⊢
    rw [hrun] at hes
    rw [deliveries_append,hes,hf a o _ _ b hb,List.append_nil]

theorem quiet_settle {γ : Type} {change : Except Fault α → τ → Except Fault γ × τ}
    (hchange : ∀ r s c, (change r s).1 = .ok c → ∃ a, r = .ok a) (hp : Quiet p) :
    Quiet (Program.settle change p) := by
  intro o h s c hc
  obtain ⟨a,ha⟩ := hchange _ _ c hc
  exact hp o h s a ha

/-- What comes before a confirmed part. -/
theorem sighted_bind (hp : RecordKept recorded p) (hf : ∀ a, Sighted recorded (f a)) :
    Sighted recorded (p >>= f) := by
  intro o h s b hb
  have hstate := hp o h s
  rcases hrun : p o h s with ⟨e | a,s',es⟩ <;> rw [hrun] at hstate
  · rw [bind_error hrun] at hb
    cases hb
  · rw [bind_ok hrun] at hb ⊢
    have hconfirmed := hf a o _ _ b hb
    rw [hstate] at hconfirmed
    exact hconfirmed.after es

/-- What comes after a confirmed part without a further frame. -/
theorem sighted_bind_quiet (hp : Sighted recorded p) (hf : ∀ a, Quiet (f a)) :
    Sighted recorded (p >>= f) := by
  intro o h s b hb
  rcases hrun : p o h s with ⟨e | a,s',es⟩
  · rw [bind_error hrun] at hb
    cases hb
  · have hconfirmed := hp o h s a (by rw [hrun])
    rw [bind_ok hrun] at hb ⊢
    rw [hrun] at hconfirmed
    exact hconfirmed.before (hf a o _ _ b hb)

/-- A confirmed part with a rest that hands over no frame or is confirmed itself. -/
theorem sighted_bind_either (hp : RecordKept recorded p) (hsighted : Sighted recorded p)
    (hf : ∀ a, Quiet (f a) ∨ Sighted recorded (f a)) : Sighted recorded (p >>= f) := by
  intro o h s b hb
  have hstate := hp o h s
  rcases hrun : p o h s with ⟨e | a,s',es⟩ <;> rw [hrun] at hstate
  · rw [bind_error hrun] at hb
    cases hb
  · have hconfirmed := hsighted o h s a (by rw [hrun])
    rw [bind_ok hrun] at hb ⊢
    rw [hrun] at hconfirmed
    rcases hf a with hquiet | hlater
    · exact hconfirmed.before (hquiet o _ _ b hb)
    · have hagain := hlater o _ _ b hb
      rw [hstate] at hagain
      exact hagain.after es

theorem sighted_settle {γ : Type} {change : Except Fault α → τ → Except Fault γ × τ}
    (hchange : ∀ r s c, (change r s).1 = .ok c → ∃ a, r = .ok a) (hp : Sighted recorded p) :
    Sighted recorded (Program.settle change p) := by
  intro o h s c hc
  obtain ⟨a,ha⟩ := hchange _ _ c hc
  exact hp o h s a ha

theorem witnessed_bind {generation : UInt64} (hf : ∀ a, Witnessed generation (f a)) :
    Witnessed generation (p >>= f) :=
  sighted_bind (fun _ _ _ => rfl) hf

/-- On an object of its own the generation is the one that object records. -/
theorem witnessed_within {σ : Type} (t : τ) (hp : Sighted recorded p) :
    Witnessed (recorded t) (Program.within t p : Op σ α) :=
  fun o h _ => hp o h t

theorem witnessed_reading {generation : UInt64} {e : Error} {f : Unit → Op τ β} (hf : ∀ a, Quiet (f a)) :
    Witnessed generation
      (Op.generation >>= fun reading => Op.refuse (reading ≠ generation) e >>= f) := by
  intro o h s b hb
  have hread : (Op.generation : Op τ UInt64) o h s =
    ⟨.ok (o h .generation),s,[⟨.generation,o h .generation⟩]⟩ := rfl
  rw [bind_ok hread] at hb ⊢
  dsimp only at hb ⊢
  generalize (o h .generation : UInt64) = reading at hb ⊢
  by_cases hsame : reading = generation
  · subst hsame
    have hquiet : Quiet (Op.refuse (reading ≠ reading) e >>= f) := quiet_bind (quiet_refuse _ _) hf
    exact ⟨[],_,rfl,hquiet _ _ _ b hb⟩
  · have hrefused : (Op.refuse (reading ≠ generation) e : Op τ Unit) o
        (h ++ [⟨.generation,reading⟩]) s = ⟨.error (.error e),s,[]⟩ := by
      unfold Op.refuse Program.refuse
      rw [if_pos hsame]
      rfl
    rw [bind_error hrefused] at hb
    cases hb

theorem sighted_get {f : τ → Op τ β} (hf : ∀ s, Witnessed (recorded s) (f s)) :
    Sighted recorded (Program.get >>= f) := by
  intro o h s b hb
  have hget : (Program.get : Op τ τ) o h s = ⟨.ok s,s,[]⟩ := rfl
  rw [bind_ok hget] at hb ⊢
  exact hf s o _ s b hb

theorem sighted_fail (e : Error) : Sighted recorded (Op.reject e : Op τ α) := by
  rintro o h s a ⟨⟩

theorem sighted_ite {c : Prop} [Decidable c] {q : Op τ α} (hp : Sighted recorded p)
    (hq : Sighted recorded q) : Sighted recorded (if c then p else q) := by
  split
  · exact hp
  · exact hq

end Programs

namespace Op
variable {τ α β : Type} {p : Op τ α} {recorded : τ → UInt64}

theorem changeError_success {change : Error → Error} (r : Except Fault α) (s : τ) (a : α)
    (h : (changeError change r s).1 = .ok a) : ∃ a, r = .ok a := by
  rcases r with (_ | _) | a' <;> cases h
  exact ⟨_,rfl⟩

theorem afterError_success {cleanup : Error → τ → τ} (r : Except Fault α) (s : τ) (a : α)
    (h : (afterError cleanup r s).1 = .ok a) : ∃ a, r = .ok a := by
  rcases r with (_ | _) | a' <;> cases h
  exact ⟨_,rfl⟩

theorem map_success {f : α → β} (r : Except Fault α) (s : τ) (b : β)
    (h : ((r.map f,s) : Except Fault β × τ).1 = .ok b) : ∃ a, r = .ok a := by
  cases r with
  | error e => cases h
  | ok a => exact ⟨a,rfl⟩

theorem afterThrow_success {cleanup : τ → τ} {e : Error} (r : Except Fault α) (s : τ) (a : α)
    (h : (afterThrow cleanup e r s).1 = .ok a) : ∃ a, r = .ok a := by
  rcases r with (_ | _) | a' <;> cases h
  exact ⟨_,rfl⟩

theorem recordKept_onError {cleanup : Error → τ → τ} (hcleanup : ∀ e s, recorded (cleanup e s) = recorded s)
    (hp : RecordKept recorded p) : RecordKept recorded (onError cleanup p) := by
  refine recordKept_settle ?_ hp
  rintro ((e | _) | _) s
  · exact hcleanup e s
  · rfl
  · rfl

theorem recordKept_mapError {change : Error → Error} (hp : RecordKept recorded p) :
    RecordKept recorded (mapError change p) := by
  refine recordKept_settle ?_ hp
  rintro ((_ | _) | _) s <;> rfl

theorem quiet_refuseAfter {cleanup : τ → τ} (c : Prop) [Decidable c] (e : Error) :
    Quiet (refuseAfter cleanup c e) := by
  intro o h s a _
  unfold refuseAfter
  split <;> rfl

end Op
end DesfireSdk
