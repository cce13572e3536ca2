import DesfireSdk.Foundation.Calm
import DesfireSdk.Interaction.Runs
import DesfireSdk.Native.Raw.Evidence

/-!
# Delivery evidence across the calls of one transaction

A transaction lives through any sequence of frame and chained exchanges. Its flag
is set by the replies it received, not by the frames it handed over.
-/
namespace DesfireSdk.Native.Raw
open Interaction Program

/-- A call on a live transaction. -/
inductive Call
  | exchangeFrame (command : Byte) (data : Bytes)
  | exchange (request : Request)

namespace Call

def perform : Call → Op Transaction Response
  | exchangeFrame command data => Transaction.exchangeFrame command data
  | exchange request => Transaction.exchange request

/-- The frames that the calls of a run handed over. -/
abbrev handed (t : Transaction) (steps : List (Step Environment Call)) : List Delivery :=
  deliveries (log perform t steps)

end Call

/-- Some frame may have reached the card. -/
def InDoubt (ds : List Delivery) : Prop := ∃ d ∈ ds, ¬d.Withheld

/-- Some frame was answered. -/
def Confirmed (ds : List Delivery) : Prop := ∃ d ∈ ds, d.Answered

theorem confirmed_append (ds ds' : List Delivery) :
    Confirmed (ds ++ ds') ↔ Confirmed ds ∨ Confirmed ds' := by
  simp only [Confirmed,List.mem_append,or_and_right,exists_or]

theorem inDoubt_append (ds ds' : List Delivery) :
    InDoubt (ds ++ ds') ↔ InDoubt ds ∨ InDoubt ds' := by
  simp only [InDoubt,List.mem_append,or_and_right,exists_or]

namespace Transaction

/-- The flag after some frames were handed over. -/
def Flagged (t t' : Transaction) (ds : List Delivery) : Prop :=
  t'.sentAnyFrame = true ↔ t.sentAnyFrame = true ∨ Confirmed ds

theorem Flagged.untouched (t : Transaction) : t.Flagged t [] := by
  simp [Flagged,Confirmed]

theorem Flagged.failed {t : Transaction} {d : Delivery} {f : Fault}
    (hanswer : d.handover.answer = .error f) : t.Flagged t [d] := by
  simp [Flagged,Confirmed,Delivery.Answered,hanswer]

theorem Flagged.answered {t : Transaction} {d : Delivery} {bytes : Bytes}
    (hanswer : d.handover.answer = .ok bytes) : t.Flagged t.markSent [d] := by
  simp [Flagged,Confirmed,Delivery.Answered,hanswer]

theorem Flagged.trans {t t₁ t₂ : Transaction} {ds ds' : List Delivery} (h : t.Flagged t₁ ds)
    (h' : t₁.Flagged t₂ ds') : t.Flagged t₂ (ds ++ ds') := by
  unfold Flagged at *
  rw [h',h,confirmed_append,or_assoc]

theorem FrameCase.flagged {o : Oracle Environment} {t t' : Transaction} {command : Byte} {data : Bytes}
    {r : Except Fault Response} {ds : List Delivery} (hframe : t.FrameCase o command data r t' ds) :
    t.Flagged t' ds := by
  cases hframe with
  | threw | unsent => exact .untouched t
  | failed d hd f hanswer => exact .failed hanswer
  | discarded d hd bytes hanswer | replied d hd bytes hanswer => exact .answered hanswer

theorem ChainRun.flagged {o : Oracle Environment} {request : Request} {perFrame n : Nat} {first : Bool} {chain : Chain}
    {t t' : Transaction} {r : Except Fault Response} {ds : List Delivery}
    (hrun : ChainRun o request perFrame n first chain t r t' ds) : t.Flagged t' ds := by
  induction hrun with
  | exhausted e he => exact .untouched _
  | stopped hframe | refused hframe | finished hframe => exact hframe.flagged
  | continued hframe hbound hquiet hstatus hrest ih => exact hframe.flagged.trans ih

theorem ExchangeRun.flagged {o : Oracle Environment} {request : Request} {t t' : Transaction}
    {r : Except Fault Response} {ds : List Delivery} (hrun : ExchangeRun o request t r t' ds) :
    t.Flagged t' ds := by
  cases hrun with
  | threw | unsent => exact .untouched t
  | chained _ _ _ _ _ _ _ _ _ hrun => exact hrun.flagged

/-- Every call keeps the flag in step with the replies, and its error with the flag. -/
theorem call_evidence (o : Oracle Environment) (call : Call) (t : Transaction) :
    Delivers o call.perform t fun r t' ds => t.Flagged t' ds ∧
      ∀ e, r = .error (.error e) → e.outcome = .notSent → t.sentAnyFrame = false ∧ ¬InDoubt ds := by
  have hdoubt : ∀ ds : List Delivery, (∀ d ∈ ds, d.Withheld) → ¬InDoubt ds := by
    intro ds hall ⟨d,hd,hsent⟩
    exact hsent (hall d hd)
  cases call with
  | exchangeFrame command data =>
    refine (exchangeFrame_cases o command data t).mono fun r t' ds hframe => ⟨hframe.flagged,?_⟩
    rintro e rfl he
    obtain ⟨hflag,hall⟩ := hframe.evidence.notSent e rfl he
    exact ⟨hflag,hdoubt ds hall⟩
  | exchange request =>
    refine (exchange_runs o request t).mono fun r t' ds hrun => ⟨hrun.flagged,?_⟩
    intro e hr he
    obtain ⟨hflag,hall⟩ := hrun.evidence.notSent e hr he
    exact ⟨hflag,hdoubt ds hall⟩

/-- After any calls the flag says whether one of their frames was answered. -/
theorem final_flagged (t : Transaction) (steps : List (Step Environment Call)) :
    t.Flagged (final Call.perform t steps) (Call.handed t steps) := by
  induction steps generalizing t with
  | nil => exact .untouched t
  | cons step rest ih =>
    have hstep := (call_evidence step.oracle step.operation t step.history).1
    have hrest := hstep.trans (ih _)
    rw [← shown_append] at hrest
    exact hrest

/-- Whatever call comes next, its error does not deny a frame of this transaction that
may have reached the card. -/
def Truthful (t : Transaction) (steps : List (Step Environment Call)) : Prop :=
  ∀ (next : Step Environment Call) (e : Error),
    (next.run Call.perform (final Call.perform t steps)).result = .error (.error e) →
    InDoubt (Call.handed t (steps ++ [next])) → e.outcome ≠ .notSent

theorem handed_append (t : Transaction) (steps : List (Step Environment Call))
    (next : Step Environment Call) :
    Call.handed t (steps ++ [next]) =
      Call.handed t steps ++ deliveries (next.run Call.perform (final Call.perform t steps)).events := by
  simp only [Call.handed,log_append,log,List.append_nil,deliveries,shown_append]

/-- A request that every transaction refuses before it asks the transport. -/
def refused : Request := {command := 0x00,data := [],maximumResponse := 0}

/-- After any calls on a new transaction, later errors are truthful exactly when one of the
frames was answered if one of them may have reached the card. -/
theorem denies_nothing_iff {t : Transaction} (hnew : t.sentAnyFrame = false)
    (steps : List (Step Environment Call)) :
    t.Truthful steps ↔ (InDoubt (Call.handed t steps) → Confirmed (Call.handed t steps)) := by
  have hflag := final_flagged t steps
  simp only [Flagged,hnew,Bool.false_eq_true,false_or] at hflag
  constructor
  · intro htruthful hdoubt
    by_contra hnone
    have hunset : (final Call.perform t steps).sentAnyFrame = false := by
      rw [← hflag] at hnone
      exact Bool.not_eq_true _ ▸ hnone
    refine htruthful ⟨.exchange refused,scripted {},[]⟩
      (normalizeDelivery (invalid "Native response limit must be positive")
        (final Call.perform t steps).sentAnyFrame) rfl ?_ ?_
    · rw [handed_append,inDoubt_append]
      exact .inl hdoubt
    · rw [hunset]
      rfl
  · intro hconfirmed next e hr hdoubt he
    obtain ⟨hunset,hrest⟩ :=
      (call_evidence next.oracle next.operation (final Call.perform t steps) next.history).2 e hr he
    rw [handed_append,inDoubt_append] at hdoubt
    rcases hdoubt with hdoubt | hdoubt
    · have hset := hflag.mpr (hconfirmed hdoubt)
      rw [hunset] at hset
      cases hset
    · exact hrest hdoubt

/-- One frame whose delivery the transport does not know. -/
def lostFrame : Step Environment Call :=
  ⟨.exchangeFrame 0x60 [],
    scripted {replies := [.error (.error ⟨.timeout,"Reader timed out",.unknown,0⟩)]},[]⟩

theorem denies_nothing_iff_lostFrame :
    (⟨.direct,1,0,false⟩ : Transaction).Truthful [lostFrame] ↔
      (InDoubt (Call.handed ⟨.direct,1,0,false⟩ [lostFrame]) →
        Confirmed (Call.handed ⟨.direct,1,0,false⟩ [lostFrame])) :=
  denies_nothing_iff rfl [lostFrame]

/-- The frame is handed over, its delivery is unknown, and the next call denies it. -/
theorem lostFrame_denied : ¬(⟨.direct,1,0,false⟩ : Transaction).Truthful [lostFrame] := by
  intro htruthful
  refine htruthful ⟨.exchangeFrame 0x60 [],fun h q => match q with
    | .stopRequested _ => true
    | q => scripted {} h q,[]⟩ ⟨.cancelled,"Native operation cancelled",.notSent,0⟩ rfl ?_ rfl
  refine ⟨⟨[0x60],⟨1⟩,⟨0,.error (.error ⟨.timeout,"Reader timed out",.unknown,0⟩)⟩⟩,List.mem_cons_self,?_⟩
  rintro ⟨e,hanswer,he⟩
  cases hanswer
  cases he

end Transaction
end DesfireSdk.Native.Raw
