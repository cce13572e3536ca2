import DesfireSdk.Native.Raw.Frames

/-! The delivery evidence that a complete exchange returns. -/
namespace DesfireSdk.Native.Raw
open Interaction Program

/-- The last frame got a complete reply with this status. -/
def Replied (framing : Framing) (status : Byte) (ds : List Delivery) : Prop :=
  ∃ before d bytes final, ds = before ++ [d] ∧ d.handover.answer = .ok bytes ∧
    decode bytes framing = .ok final ∧ final.status = status

theorem not_replied_nil {framing : Framing} {status : Byte} : ¬Replied framing status [] := by
  rintro ⟨before,d,_,_,hds,_⟩
  exact List.append_ne_nil_of_right_ne_nil before (List.cons_ne_nil d []) hds.symm

theorem Replied.unique {framing : Framing} {status status' : Byte} {ds : List Delivery}
    (h : Replied framing status ds) (h' : Replied framing status' ds) : status = status' := by
  obtain ⟨before,d,bytes,final,rfl,hanswer,hdecode,rfl⟩ := h
  obtain ⟨before',d',bytes',final',hds,hanswer',hdecode',rfl⟩ := h'
  obtain ⟨rfl,hlast⟩ := List.append_inj' hds rfl
  cases hlast
  cases hanswer.symm.trans hanswer'
  cases hdecode.symm.trans hdecode'
  rfl

/-- The last reply belongs to the later frames, if there are any. -/
theorem Replied.last {framing : Framing} {status : Byte} {ds ds' : List Delivery}
    (h : Replied framing status (ds ++ ds')) (hne : ds' ≠ []) : Replied framing status ds' := by
  obtain ⟨before,d,bytes,final,hds,hreply⟩ := h
  obtain ⟨before',d',rfl⟩ : ∃ l a, ds' = l ++ [a] := 
    ⟨_,_,(List.dropLast_concat_getLast hne).symm⟩
  rw [← List.append_assoc] at hds
  obtain ⟨_,hlast⟩ := List.append_inj' hds rfl
  cases hlast
  exact ⟨before',d,bytes,final,rfl,hreply⟩

theorem Replied.single {framing : Framing} {status : Byte} {d : Delivery}
    (h : Replied framing status [d]) : ∃ bytes final, d.handover.answer = .ok bytes ∧
      decode bytes framing = .ok final ∧ final.status = status := by
  obtain ⟨before,d',bytes,final,hds,hreply⟩ := h
  obtain ⟨_,hlast⟩ := List.append_inj' (show [] ++ [d] = before ++ [d'] from hds) rfl
  cases hlast
  exact ⟨bytes,final,hreply⟩

namespace Transaction

/-- What a result says about the frames that were handed over. -/
structure Evidence (t : Transaction) (r : Except Fault Response) (ds : List Delivery) : Prop where
  replied : ∀ response, r = .ok response → response.status ≠ additionalFrameStatus ∧
    ∃ before d bytes final, ds = before ++ [d] ∧ d.handover.answer = .ok bytes ∧
      decode bytes t.framing = .ok final ∧ final.status = response.status
  notSent : ∀ e, r = .error (.error e) → e.outcome = .notSent →
    t.sentAnyFrame = false ∧ ∀ d ∈ ds, d.Withheld
  rejected : ∀ e, r = .error (.error e) → e.outcome = .rejected →
    ∃ d ∈ ds, ∃ e' : Error, d.handover.answer = .error (.error e') ∧ e'.outcome = .rejected

theorem priorOutcome_eq_notSent {t : Transaction} :
    t.priorOutcome = .notSent ↔ t.sentAnyFrame = false := by
  cases hsent : t.sentAnyFrame <;> simp [priorOutcome,hsent]

theorem priorOutcome_ne_rejected (t : Transaction) : t.priorOutcome ≠ .rejected := by
  unfold priorOutcome
  split <;> simp

theorem transportFailure_notSent {t : Transaction} {f : Fault}
    (h : (t.transportFailure f).outcome = .notSent) :
    t.sentAnyFrame = false ∧ ∃ e : Error, f = .error e ∧ e.outcome = .notSent := by
  cases f with
  | thrown => cases h
  | error e =>
    cases hsent : t.sentAnyFrame with
    | true =>
      simp only [transportFailure,normalizeDelivery,hsent,if_true] at h
      exact absurd h e.afterDelivery_outcome
    | false =>
      simp only [transportFailure,normalizeDelivery,hsent] at h
      exact ⟨rfl,e,rfl,h⟩

theorem transportFailure_rejected {t : Transaction} {f : Fault}
    (h : (t.transportFailure f).outcome = .rejected) :
    ∃ e : Error, f = .error e ∧ e.outcome = .rejected := by
  cases f with
  | thrown => cases h
  | error e =>
    refine ⟨e,rfl,?_⟩
    simp only [transportFailure,normalizeDelivery] at h
    split at h
    · exact (e.afterDelivery_rejected).mp h
    · exact h

theorem Evidence.unknown {t : Transaction} {ds : List Delivery} {e : Error}
    (he : e.outcome = .unknown) : t.Evidence (.error (.error e)) ds where
  replied := by simp
  notSent := by rintro _ ⟨⟩ h; simp [he] at h
  rejected := by rintro _ ⟨⟩ h; simp [he] at h

theorem Evidence.unsent {t : Transaction} {e : Error} (he : e.outcome = t.priorOutcome) :
    t.Evidence (.error (.error e)) [] where
  replied := by simp
  notSent := by
    rintro _ ⟨⟩ h
    exact ⟨priorOutcome_eq_notSent.mp (he ▸ h),by simp⟩
  rejected := by
    rintro _ ⟨⟩ h
    exact absurd (he ▸ h) (priorOutcome_ne_rejected t)

theorem Evidence.threw (t : Transaction) : t.Evidence (.error .thrown) [] where
  replied := by simp
  notSent := by simp
  rejected := by simp

theorem FrameCase.evidence {o : Oracle Environment} {t t' : Transaction} {command : Byte} {data : Bytes} {f : Fault}
    {ds : List Delivery} (hframe : t.FrameCase o command data (.error f) t' ds) :
    t.Evidence (.error f) ds := by
  cases hframe with
  | threw => exact .threw t
  | unsent e he => exact .unsent he
  | discarded d hd bytes hanswer e he => exact .unknown he
  | failed d hd f hanswer =>
    refine ⟨by simp,?_,?_⟩
    · rintro _ ⟨⟩ h
      obtain ⟨hsent,e,rfl,he⟩ := transportFailure_notSent h
      exact ⟨hsent,by simpa using ⟨e,hanswer,he⟩⟩
    · rintro _ ⟨⟩ h
      obtain ⟨e,rfl,he⟩ := transportFailure_rejected h
      exact ⟨d,by simp,e,hanswer,he⟩

theorem ChainRun.evidence {o : Oracle Environment} {request : Request} {perFrame n : Nat} {first : Bool} {chain : Chain}
    {t t' : Transaction} {r : Except Fault Response} {ds : List Delivery}
    (hrun : ChainRun o request perFrame n first chain t r t' ds) : t.Evidence r ds := by
  induction hrun with
  | exhausted e he => exact .unknown he
  | stopped hframe => exact hframe.evidence
  | refused hframe e he => exact .unknown he
  | finished hframe hbound hall hstatus =>
    cases hframe with
    | replied d hd bytes hanswer _ hresponse =>
      refine ⟨?_,by simp,by simp⟩
      rintro _ ⟨⟩
      exact ⟨hstatus,[],d,bytes,_,rfl,hanswer,hresponse,rfl⟩
  | continued hframe hbound hquiet hstatus hrest ih =>
    cases hframe with
    | replied d hd bytes hanswer response hresponse =>
      refine ⟨?_,?_,?_⟩
      · intro response' hr
        obtain ⟨hne,before,d',bytes',final,rfl,hlast⟩ := ih.replied response' hr
        exact ⟨hne,d :: before,d',bytes',final,rfl,hlast⟩
      · intro e hr he
        exact absurd (ih.notSent e hr he).1 (by simp)
      · intro e hr he
        obtain ⟨d',hd',hrejected⟩ := ih.rejected e hr he
        exact ⟨d',by simp [hd'],hrejected⟩

theorem ExchangeRun.evidence {o : Oracle Environment} {request : Request} {t t' : Transaction}
    {r : Except Fault Response} {ds : List Delivery} (hrun : ExchangeRun o request t r t' ds) :
    t.Evidence r ds := by
  cases hrun with
  | threw => exact .threw t
  | unsent e he => exact .unsent he
  | chained _ _ _ _ _ _ _ _ _ hrun => exact hrun.evidence

/-- A failed frame with a complete reply has an unknown outcome. -/
theorem FrameCase.accepted {o : Oracle Environment} {t t' : Transaction} {command : Byte} {data : Bytes}
    {e : Error} {ds : List Delivery} (hframe : t.FrameCase o command data (.error (.error e)) t' ds)
    {status : Byte} (hreplied : Replied t.framing status ds) : e.outcome = .unknown := by
  cases hframe with
  | unsent => exact absurd hreplied not_replied_nil
  | discarded d hd bytes hanswer e he => exact he
  | failed d hd f hanswer =>
    obtain ⟨bytes,_,hbytes,_⟩ := hreplied.single
    rw [hanswer] at hbytes
    cases hbytes

/-- An exchange fails without knowledge after a complete reply that ends it. -/
theorem ChainRun.accepted {o : Oracle Environment} {request : Request} {perFrame n : Nat} {first : Bool}
    {chain : Chain} {t t' : Transaction} {e : Error} {ds : List Delivery}
    (hrun : ChainRun o request perFrame n first chain t (.error (.error e)) t' ds) {status : Byte}
    (hstatus : status ≠ additionalFrameStatus) (hreplied : Replied t.framing status ds) :
    e.outcome = .unknown := by
  generalize hr : (.error (.error e) : Except Fault Response) = r at hrun
  induction hrun with
  | exhausted e he => cases hr; exact he
  | stopped hframe => cases hr; exact hframe.accepted hreplied
  | refused hframe e he => cases hr; exact he
  | finished => cases hr
  | @continued n first chain t response t₁ ds₁ r t' later hframe hbound hquiet hmore hrest ih =>
    cases hframe with
    | replied d hd bytes hanswer _ hresponse =>
      by_cases hlater : later = []
      · subst hlater
        obtain ⟨bytes',final,hanswer',hfinal,rfl⟩ := hreplied.single
        cases hanswer.symm.trans hanswer'
        cases hresponse.symm.trans hfinal
        exact absurd hmore hstatus
      · exact ih (hreplied.last hlater) hr

theorem ExchangeRun.accepted {o : Oracle Environment} {request : Request} {t t' : Transaction} {e : Error}
    {ds : List Delivery} (hrun : ExchangeRun o request t (.error (.error e)) t' ds) {status : Byte}
    (hstatus : status ≠ additionalFrameStatus) (hreplied : Replied t.framing status ds) :
    e.outcome = .unknown := by
  cases hrun with
  | unsent => exact absurd hreplied not_replied_nil
  | chained _ _ _ _ _ _ _ _ _ hrun => exact hrun.accepted hstatus hreplied

theorem ExchangeRun.replied {o : Oracle Environment} {request : Request} {t t' : Transaction}
    {response : Response} {ds : List Delivery} (hrun : ExchangeRun o request t (.ok response) t' ds) :
    response.status ≠ additionalFrameStatus ∧ Replied t.framing response.status ds :=
  hrun.evidence.replied response rfl

end Transaction
end DesfireSdk.Native.Raw
