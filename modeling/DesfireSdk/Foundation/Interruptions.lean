import DesfireSdk.Foundation.Delivery
import DesfireSdk.Interaction.Machine

/-!
# Interruptions

An operation may end early because its deadline is over or its stop is requested. What can make it do so
shows in its run: the clock, the stop requests, and what it called and was told of an interruption.
-/
namespace DesfireSdk
open Interaction Program

/-- The deadline of an operation is over, or its stop is requested. -/
def Interrupts : Fault → Prop
  | .error e => e.code = .timeout ∨ e.code = .cancelled
  | .thrown => False

instance : DecidablePred Interrupts
  | .error e => inferInstanceAs (Decidable (e.code = .timeout ∨ e.code = .cancelled))
  | .thrown => inferInstanceAs (Decidable False)

theorem not_interrupts {e : Error} (htimeout : e.code ≠ .timeout) (hcancelled : e.code ≠ .cancelled) :
    ¬Interrupts (.error e) := by
  rintro (h | h)
  · exact htimeout h
  · exact hcancelled h

section Interruptions
variable {κ τ α : Type} {observe : κ → Event Environment → κ} {start k : κ} {o : Oracle Environment} {s : τ}
  {p : Op τ α} {left : κ → Prop} {m : Except Fault α → τ → κ → Prop}

/-- A changed error keeps its category, and so what it says about an interruption. -/
theorem unless_mapError {f : Error → Error} (hf : ∀ e, (f e).code = e.code)
    (hp : Facing observe start o k p s (Unless Interrupts left m)) (hm : ∀ r s l, m r s l → ∃ a, r = .ok a) :
    Facing observe start o k (Op.mapError f p) s (Unless Interrupts left m) := by
  refine Facing.unless_settle hp ?_ ?_
  · intro fault s he
    cases fault with
    | thrown => exact he.elim
    | error e =>
      refine ⟨.error (f e),rfl,?_⟩
      simp only [Interrupts,hf]
      exact he
  · intro r s l h
    obtain ⟨a,rfl⟩ := hm r s l h
    exact h

theorem unless_onError {cleanup : Error → τ → τ}
    (hp : Facing observe start o k p s (Unless Interrupts left m)) (hm : ∀ r s l, m r s l → ∃ a, r = .ok a) :
    Facing observe start o k (Op.onError cleanup p) s (Unless Interrupts left m) := by
  refine Facing.unless_settle hp ?_ ?_
  · intro fault s he
    cases fault with
    | thrown => exact he.elim
    | error e => exact ⟨.error e,rfl,he⟩
  · intro r s l h
    obtain ⟨a,rfl⟩ := hm r s l h
    exact h

theorem unless_catchAll {cleanup : τ → τ} {e : Error}
    (hp : Facing observe start o k p s (Unless Interrupts left m)) (hm : ∀ r s l, m r s l → ∃ a, r = .ok a) :
    Facing observe start o k (Op.catchAll cleanup e p) s (Unless Interrupts left m) := by
  refine Facing.unless_settle hp ?_ ?_
  · intro fault s he
    cases fault with
    | thrown => exact he.elim
    | error e' => exact ⟨.error e',rfl,he⟩
  · intro r s l h
    obtain ⟨a,rfl⟩ := hm r s l h
    exact h

theorem unless_recover {error : τ → Error}
    (hp : Facing observe start o k p s (Unless Interrupts left m)) (hm : ∀ r s l, m r s l → ∃ a, r = .ok a) :
    Facing observe start o k (Op.recover error p) s (Unless Interrupts left m) := by
  refine Facing.unless_settle hp ?_ ?_
  · intro fault s he
    cases fault with
    | thrown => exact he.elim
    | error e => exact ⟨.error e,rfl,he⟩
  · intro r s l h
    obtain ⟨a,rfl⟩ := hm r s l h
    exact h

end Interruptions

/-- A reading of the clock, or the sign that an operation has to stop. -/
inductive Pulse
  | reading (now : Int)
  | halt
  deriving DecidableEq, Repr

/-- A reported interruption is such a sign. -/
def reported {α : Type} : Except Fault α → Option Pulse
  | .error f => if Interrupts f then some .halt else none
  | .ok _ => none

def pulseOf : Event Environment → Option Pulse
  | ⟨.now,now⟩ => some (.reading now)
  | ⟨.stopRequested _,stop⟩ => if stop = true then some .halt else none
  | ⟨.exchange _ _,handover⟩ => reported handover.answer
  | ⟨.random _,reply⟩ => reported reply
  | ⟨.cbc _ _ _ _,reply⟩ => reported reply
  | ⟨.cmac _ _,reply⟩ => reported reply
  | _ => none

/-- Nothing stops the operation: from `low` on the clock never runs backwards, and all is over before `high`. -/
def Undisturbed (high : Int) : Int → List Pulse → Prop
  | _,[] => True
  | low,.reading now :: ps => low ≤ now ∧ now < high ∧ Undisturbed high now ps
  | _,.halt :: _ => False

instance decidableUndisturbed (high : Int) : (low : Int) → (ps : List Pulse) → Decidable (Undisturbed high low ps)
  | _,[] => inferInstanceAs (Decidable True)
  | low,.reading now :: ps =>
    haveI := decidableUndisturbed high now ps
    inferInstanceAs (Decidable (low ≤ now ∧ now < high ∧ Undisturbed high now ps))
  | _,.halt :: _ => inferInstanceAs (Decidable False)

/-- The last reading. -/
def latest : Int → List Pulse → Int
  | low,[] => low
  | _,.reading now :: ps => latest now ps
  | low,.halt :: ps => latest low ps

theorem undisturbed_append {high low : Int} {ps ps' : List Pulse} :
    Undisturbed high low (ps ++ ps') ↔ Undisturbed high low ps ∧ Undisturbed high (latest low ps) ps' := by
  induction ps generalizing low with
  | nil => simp [Undisturbed,latest]
  | cons p ps ih =>
    cases p with
    | reading now => simp only [List.cons_append,Undisturbed,latest,ih,and_assoc]
    | halt => simp [Undisturbed]

theorem latest_append {low : Int} {ps ps' : List Pulse} : latest low (ps ++ ps') = latest (latest low ps) ps' := by
  induction ps generalizing low with
  | nil => rfl
  | cons p ps ih => cases p <;> exact ih

/-- An undisturbed run is not interrupted, and what it returns fits the time it is left with. -/
def Smooth {τ α : Type} (o : Oracle Environment) (high low : Int) (p : Op τ α) (s : τ) (m : α → τ → Int → Prop) : Prop :=
  Ensures pulseOf o p s fun r s' ps => Undisturbed high low ps →
    (∀ f, r = .error f → ¬Interrupts f) ∧ ∀ a, r = .ok a → m a s' (latest low ps)

namespace Smooth
variable {σ τ α β : Type} {o : Oracle Environment} {high low : Int} {p : Op τ α} {f : α → Op τ β} {s : τ}
  {m : α → τ → Int → Prop} {m' : β → τ → Int → Prop} {e : Error}

theorem mono {m' : α → τ → Int → Prop} (hp : Smooth o high low p s m) (himp : ∀ a s' now, m a s' now → m' a s' now) :
    Smooth o high low p s m' :=
  Ensures.mono hp fun _ _ _ h hund => ⟨(h hund).1,fun a ha => himp _ _ _ ((h hund).2 a ha)⟩

theorem pure {a : α} (hm : m a s low) : Smooth o high low (Pure.pure a) s m := by
  refine ensures_pure fun _ => ⟨?_,?_⟩
  · rintro _ ⟨⟩
  · rintro _ ⟨⟩
    exact hm

theorem fail {fault : Fault} (hfault : ¬Interrupts fault) : Smooth o high low (Program.fail fault) s m := by
  refine ensures_fail fun _ => ⟨?_,?_⟩
  · rintro _ ⟨⟩
    exact hfault
  · rintro _ ⟨⟩

theorem bind (hp : Smooth o high low p s m) (hf : ∀ a s' now, m a s' now → Smooth o high now (f a) s' m') :
    Smooth o high low (p >>= f) s m' := by
  refine ensures_bind hp ?_ ?_
  · intro fault s' ps h hund
    refine ⟨?_,?_⟩
    · rintro _ ⟨⟩
      exact (h hund).1 fault rfl
    · rintro _ ⟨⟩
  · intro a s' ps h
    by_cases hund : Undisturbed high low ps
    · refine Ensures.mono (hf a s' _ ((h hund).2 a rfl)) fun r s'' ps' hrest hall => ?_
      rw [latest_append]
      exact hrest (undisturbed_append.mp hall).2
    · intro h' hall
      exact absurd (undisturbed_append.mp hall).1 hund

theorem refuse {c : Prop} [Decidable c] {m : Unit → τ → Int → Prop} (he : ¬Interrupts (.error e)) (hm : m () s low) :
    Smooth o high low (Op.refuse c e) s m := by
  unfold Op.refuse Program.refuse
  split
  · exact .fail he
  · exact .pure hm

theorem refuse_bind {c : Prop} [Decidable c] {f : Unit → Op τ β} (he : ¬Interrupts (.error e))
    (hf : ¬c → Smooth o high low (f ()) s m') : Smooth o high low (Op.refuse c e >>= f) s m' := by
  refine Op.ensures_refuse_bind (fun _ _ => ⟨?_,?_⟩) hf
  · rintro _ ⟨⟩
    exact he
  · rintro _ ⟨⟩

/-- A check that does not refuse. -/
theorem pass_bind {c : Prop} [Decidable c] {f : Unit → Op τ β} (hc : ¬c) (hf : Smooth o high low (f ()) s m') :
    Smooth o high low (Op.refuse c e >>= f) s m' :=
  Op.ensures_refuse_bind (fun h => absurd h hc) fun _ => hf

theorem throw_bind {c : Prop} [Decidable c] {f : Unit → Op τ β}
    (hf : ¬c → Smooth o high low (f ()) s m') : Smooth o high low (Program.refuse c .thrown >>= f) s m' := by
  refine ensures_refuse_bind (fun _ _ => ⟨?_,?_⟩) hf
  · rintro _ ⟨⟩
    exact id
  · rintro _ ⟨⟩

theorem get_bind {f : τ → Op τ β} (hf : Smooth o high low (f s) s m') : Smooth o high low (get >>= f) s m' :=
  ensures_get_bind hf

theorem modify_bind {g : τ → τ} {f : Unit → Op τ β} (hf : Smooth o high low (f ()) (g s) m') :
    Smooth o high low (modify g >>= f) s m' :=
  ensures_modify_bind hf

theorem ofResult {r : Result α} (he : ∀ e, r = .error e → ¬Interrupts (.error e)) (hm : ∀ a, r = .ok a → m a s low) :
    Smooth o high low (Op.ofResult r) s m := by
  cases r with
  | error e => exact .fail (he e rfl)
  | ok a => exact .pure (hm a rfl)

theorem ofResult_bind {r : Result α} (he : ∀ e, r = .error e → ¬Interrupts (.error e))
    (hf : ∀ a, r = .ok a → Smooth o high low (f a) s m') : Smooth o high low (Op.ofResult r >>= f) s m' := by
  refine Op.ensures_ofResult_bind (fun e h _ => ⟨?_,?_⟩) hf
  · rintro _ ⟨⟩
    exact he e h
  · rintro _ ⟨⟩

theorem value_bind {r : Result α} (hf : ∀ a, r = .ok a → Smooth o high low (f a) s m') :
    Smooth o high low (Op.value r >>= f) s m' := by
  refine Op.ensures_value_bind (fun _ _ _ => ⟨?_,?_⟩) hf
  · rintro _ ⟨⟩
    exact id
  · rintro _ ⟨⟩

theorem now_bind {f : Int → Op τ β} (hf : ∀ now, low ≤ now → now < high → Smooth o high now (f now) s m') :
    Smooth o high low (Op.now >>= f) s m' := by
  refine Op.ensures_now_bind fun now => ?_
  by_cases hnow : low ≤ now ∧ now < high
  · exact Ensures.mono (hf now hnow.1 hnow.2) fun r s' ps hrest hall => hrest hall.2.2
  · intro h hall
    exact absurd ⟨hall.1,hall.2.1⟩ hnow

theorem stopRequested_bind {token : StopToken} {f : Bool → Op τ β} (hf : Smooth o high low (f false) s m') :
    Smooth o high low (Op.stopRequested token >>= f) s m' := by
  refine Op.ensures_stopRequested_bind fun stop => ?_
  cases stop with
  | false => exact hf
  | true => exact fun h hall => hall.elim

theorem generation_bind {f : UInt64 → Op τ β} (hf : ∀ g, Smooth o high low (f g) s m') :
    Smooth o high low (Op.generation >>= f) s m' :=
  Op.ensures_generation_bind hf

theorem admission_bind {gate : Gate} {f : Admission → Op τ β} (hf : ∀ a, Smooth o high low (f a) s m') :
    Smooth o high low (Op.admission gate >>= f) s m' :=
  Op.ensures_admission_bind hf

theorem capabilities_bind {f : TransportCapabilities → Op τ β} (hf : ∀ limits, Smooth o high low (f limits) s m') :
    Smooth o high low (Op.capabilities >>= f) s m' := by
  refine Op.ensures_capabilities_bind (fun _ => ⟨?_,?_⟩) fun _ limits _ => hf limits
  · rintro _ ⟨⟩
    exact id
  · rintro _ ⟨⟩

/-- A question whose answer reports its own interruptions. -/
theorem answered {r : Except Fault α} :
    Undisturbed high low (reported r).toList → (∀ f, r = .error f → ¬Interrupts f) ∧
      ∀ a, r = .ok a → s = s ∧ latest low (reported r).toList = low := by
  cases r with
  | ok a => exact fun _ => ⟨by rintro _ ⟨⟩,fun _ _ => ⟨rfl,rfl⟩⟩
  | error fault =>
    intro hund
    refine ⟨?_,by rintro _ ⟨⟩⟩
    rintro _ ⟨⟩ hinterrupts
    simp only [reported,if_pos hinterrupts,Option.toList_some] at hund
    exact hund

theorem transportExchange {frame : Bytes} {options : ExchangeOptions} :
    Smooth o high low (Op.transportExchange frame options) s fun _ s' now => s' = s ∧ now = low :=
  Op.ensures_transportExchange fun reply => answered (r := reply.answer)

theorem random {size : Nat} : Smooth o high low (Op.random size) s fun _ s' now => s' = s ∧ now = low :=
  Op.ensures_random fun reply => answered (r := reply)

theorem cbc {key iv input : Bytes} {encrypt : Bool} :
    Smooth o high low (Op.cbc key iv input encrypt) s fun _ s' now => s' = s ∧ now = low :=
  Op.ensures_cbc fun h => answered (r := o h (.cbc key iv input encrypt))

theorem cmac {key input : Bytes} : Smooth o high low (Op.cmac key input) s fun _ s' now => s' = s ∧ now = low :=
  Op.ensures_cmac fun h => answered (r := o h (.cmac key input))

theorem secretOutput {p : Op τ Bytes} {m : Bytes → τ → Int → Prop} {message : String} {expected : Nat}
    (hp : Smooth o high low p s m) : Smooth o high low (Op.secretOutput message p expected) s m := by
  refine Op.ensures_secretOutput (Ensures.mono hp fun r s' ps h hund => ?_)
  obtain ⟨hfault,hm⟩ := h hund
  cases r with
  | error fault => exact ⟨hfault,hm⟩
  | ok output =>
    simp only [Op.sized]
    split
    · exact ⟨hfault,hm⟩
    · refine ⟨?_,by rintro _ ⟨⟩⟩
      rintro _ ⟨⟩
      exact not_interrupts (by simp) (by simp)

theorem mapError {change : Error → Error} (hchange : ∀ e, (change e).code = e.code) (hp : Smooth o high low p s m) :
    Smooth o high low (Op.mapError change p) s m := by
  refine Op.ensures_mapError (Ensures.mono hp fun r s' ps h hund => ?_)
  obtain ⟨hfault,hm⟩ := h hund
  rcases r with (e | _) | a
  · refine ⟨?_,by rintro _ ⟨⟩⟩
    rintro _ ⟨⟩
    have he : ¬Interrupts (.error e) := hfault _ rfl
    simpa only [Interrupts,hchange] using he
  · exact ⟨hfault,hm⟩
  · exact ⟨hfault,hm⟩

theorem catchAll {e : Error} (he : ¬Interrupts (.error e)) (hp : Smooth o high low p s m) :
    Smooth o high low (Op.catchAll id e p) s m := by
  refine Op.ensures_catchAll (Ensures.mono hp fun r s' ps h hund => ?_)
  obtain ⟨hfault,hm⟩ := h hund
  rcases r with (_ | _) | a
  · exact ⟨hfault,hm⟩
  · refine ⟨?_,by rintro _ ⟨⟩⟩
    rintro _ ⟨⟩
    exact he
  · exact ⟨hfault,hm⟩

theorem recover {error : τ → Error} (he : ∀ s, ¬Interrupts (.error (error s))) (hp : Smooth o high low p s m) :
    Smooth o high low (Op.recover error p) s m := by
  refine ensures_settle (Ensures.mono hp fun r s' ps h hund => ?_)
  obtain ⟨hfault,hm⟩ := h hund
  rcases r with (_ | _) | a
  · exact ⟨hfault,hm⟩
  · refine ⟨?_,by rintro _ ⟨⟩⟩
    rintro _ ⟨⟩
    exact he s'
  · exact ⟨hfault,hm⟩

theorem returning {β : Type} {g : α → β} {m : β → τ → Int → Prop} (hp : Smooth o high low p s fun a => m (g a)) :
    Smooth o high low (Op.returning g p) s m := by
  refine Op.ensures_returning (Ensures.mono hp fun r s' ps h hund => ?_)
  obtain ⟨hfault,hm⟩ := h hund
  cases r with
  | error f =>
    refine ⟨?_,by rintro _ ⟨⟩⟩
    rintro _ ⟨⟩
    exact hfault f rfl
  | ok a =>
    refine ⟨by rintro _ ⟨⟩,?_⟩
    rintro _ ⟨⟩
    exact hm a rfl

theorem within {t : σ} {p : Op σ α} {m : α → τ → Int → Prop} (hp : Smooth o high low p t fun a _ now => m a s now) :
    Smooth o high low (Program.within t p) s m :=
  ensures_within hp

theorem ite {c : Prop} [Decidable c] {p q : Op τ α} (hp : c → Smooth o high low p s m)
    (hq : ¬c → Smooth o high low q s m) : Smooth o high low (if c then p else q) s m :=
  ensures_ite hp hq

/-- An undisturbed run that can end early only by an interruption does not. -/
theorem facing {κ : Type} {observe : κ → Event Environment → κ} {start k : κ} {left : κ → Prop}
    {post : Except Fault α → τ → κ → Prop} {high low : Int} {m : α → τ → Int → Prop} (hp : Smooth o high low p s m)
    (hfacing : Facing observe start o k p s (Unless Interrupts left post)) {h : Trace Environment}
    (hh : reached observe start h = k) (hund : Undisturbed high low (shown pulseOf (p o h s).events)) :
    post (p o h s).result (p o h s).state (reached observe k (p o h s).events) := by
  obtain hpost | ⟨⟨fault,hresult,hinterrupts⟩,_⟩ := hfacing h hh
  · exact hpost
  · exact absurd hinterrupts ((hp h hund).1 fault hresult)

end Smooth
end DesfireSdk
