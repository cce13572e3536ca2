import DesfireSdk.Foundation.Delivery
import DesfireSdk.Iso7816.Checked

/-! What the result of an ISO exchange says about the frames that were handed over. -/
namespace DesfireSdk.Iso7816
open Interaction Program

/-- The last reply is complete and carries this status word. -/
def Concluded (status : UInt16) (ds : List Delivery) : Prop :=
  ∃ before d bytes reply, ds = before ++ [d] ∧ d.handover.answer = .ok bytes ∧
    Raw.decode bytes = .ok reply ∧ reply.status = status

/-- The data of the complete replies in order. -/
def received (ds : List Delivery) : Bytes := ds.flatMap fun d =>
  match d.handover.answer with
  | .ok bytes => match Raw.decode bytes with
    | .ok reply => reply.data
    | .error _ => []
  | .error _ => []

/-- The evidence of a result, after earlier frames with their data or before any. -/
structure Evidence {α : Type} (reply : α → Raw.Response) (assembled : Bytes) (sent : Bool)
    (r : Except Fault α) (ds : List Delivery) : Prop where
  replied : ∀ a, r = .ok a → Concluded (reply a).status ds ∧ (reply a).data = assembled ++ received ds
  notSent : ∀ e, r = .error (.error e) → e.outcome = .notSent → sent = false ∧ ∀ d ∈ ds, d.Withheld

theorem received_append (ds ds' : List Delivery) : received (ds ++ ds') = received ds ++ received ds' :=
  List.flatMap_append

theorem received_reply {d : Delivery} {bytes : Bytes} {reply : Raw.Response}
    (hanswer : d.handover.answer = .ok bytes) (hreply : Raw.decode bytes = .ok reply) :
    received [d] = reply.data := by
  simp [received,hanswer,hreply]

theorem Concluded.after {status : UInt16} {ds : List Delivery} (h : Concluded status ds)
    (ds' : List Delivery) : Concluded status (ds' ++ ds) := by
  obtain ⟨before,d,bytes,reply,rfl,hanswer,hreply,hstatus⟩ := h
  exact ⟨ds' ++ before,d,bytes,reply,(List.append_assoc ..).symm,hanswer,hreply,hstatus⟩

namespace Evidence
variable {α : Type} {reply : α → Raw.Response} {assembled : Bytes} {sent : Bool} {ds : List Delivery}

theorem known {e : Error} (he : e.outcome ≠ .notSent) :
    Evidence reply assembled sent (.error (.error e)) ds where
  replied := by rintro _ ⟨⟩
  notSent := by
    rintro _ ⟨⟩ h
    exact absurd h he

theorem unsent {e : Error} (he : e.outcome = if sent then .unknown else .notSent) :
    Evidence reply assembled sent (.error (.error e)) [] where
  replied := by rintro _ ⟨⟩
  notSent := by
    rintro _ ⟨⟩ h
    cases sent with
    | true => rw [he] at h; cases h
    | false => exact ⟨rfl,by simp⟩

theorem threw : Evidence reply assembled sent (.error .thrown) ds where
  replied := by rintro _ ⟨⟩
  notSent := by rintro _ ⟨⟩

/-- A later frame of the same exchange was handed over after an answered one. -/
theorem later {r : Except Fault α} {ds' : List Delivery}
    (h : Evidence reply (assembled ++ received ds') true r ds) :
    Evidence reply assembled sent r (ds' ++ ds) where
  replied := by
    intro a hr
    obtain ⟨hconcluded,hdata⟩ := h.replied a hr
    refine ⟨hconcluded.after ds',?_⟩
    rw [hdata,received_append,List.append_assoc]
  notSent := by
    intro e hr he
    have hsent := (h.notSent e hr he).1
    cases hsent

end Evidence

namespace Raw
variable {o : Oracle Environment} {τ : Type} {s : τ}

/-- The controls of one more frame, or an error with the evidence of the frames before. -/
theorem budget_next {messages : BudgetMessages} {budget : Budget} {sent : Bool} :
    Delivers o (budget.next messages sent) s fun r _ ds => ds = [] ∧ r ≠ .error .thrown ∧
      ∀ e, r = .error (.error e) → e.outcome = if sent then .unknown else .notSent := by
  refine Op.ensures_generation_bind fun _ => ?_
  refine Op.ensures_refuse_bind (fun _ => ⟨rfl,by simp,by rintro _ ⟨⟩; rfl⟩) fun _ => ?_
  refine Op.ensures_stopRequested_bind fun _ => ?_
  refine Op.ensures_refuse_bind (fun _ => ⟨rfl,by simp,by rintro _ ⟨⟩; rfl⟩) fun _ => ?_
  refine Op.ensures_now_bind fun _ => ?_
  refine Op.ensures_refuse_bind (fun _ => ⟨rfl,by simp,by rintro _ ⟨⟩; rfl⟩) fun _ => ?_
  exact ensures_pure ⟨rfl,by simp,by simp⟩

/-- One frame: its reply, or an error that denies it only if the transport does. -/
theorem transport_next {request : Bytes} {options : ExchangeOptions} {sent : Bool} :
    Delivers o (Op.mapError (fun e => if sent then e.afterDelivery else e)
      (Op.catchAll id ⟨.transport,"ISO transport threw during exchange",.unknown,0⟩
        (Op.transportExchange request options))) s fun r s' ds => s' = s ∧ r ≠ .error .thrown ∧
      ∃ d : Delivery, ds = [d] ∧ d.frame = request ∧ (∀ bytes, r = .ok bytes → d.handover.answer = .ok bytes) ∧
        ∀ e, r = .error (.error e) → e.outcome = .notSent → sent = false ∧ d.Withheld := by
  refine Op.ensures_mapError (Op.ensures_catchAll (Op.ensures_transportExchange fun handover => ?_))
  cases hanswer : handover.answer with
  | ok bytes => exact ⟨rfl,by simp,_,rfl,rfl,by rintro _ ⟨⟩; exact hanswer,by simp⟩
  | error f =>
    cases f with
    | thrown =>
      refine ⟨rfl,by simp,_,rfl,rfl,by simp,?_⟩
      rintro _ ⟨⟩ he
      cases sent <;> cases he
    | error e =>
      refine ⟨rfl,by simp,_,rfl,rfl,by simp,?_⟩
      rintro _ ⟨⟩ he
      cases sent with
      | true => exact absurd he e.afterDelivery_outcome
      | false => exact ⟨rfl,e,hanswer,he⟩

theorem decode_error {frame : Bytes} {e : Error} (h : decode frame = .error e) : e.outcome = .unknown := by
  unfold decode at h
  split at h <;> cases h
  rfl

theorem exchangeLoop_evidence (apdu : Apdu) (limits : Limits) (transportLimits : TransportCapabilities)
    (budget : Budget) (n : Nat) (p : Progress) (attempted : Bool) :
    Delivers o (exchangeLoop apdu limits transportLimits budget n p) attempted fun r _ ds =>
      Evidence id p.assembled p.sent r ds ∧ r ≠ .error .thrown := by
  induction n generalizing p attempted with
  | zero => exact Op.ensures_reject ⟨.known (by simp [malformed]),by simp⟩
  | succ n ih =>
    refine ensures_bind budget_next ?_ ?_
    · rintro (e | _) _ _ ⟨rfl,hthrown,he⟩
      · exact ⟨.unsent (he e rfl),by simp⟩
      · exact absurd rfl hthrown
    rintro remaining _ _ ⟨rfl,_,_⟩
    refine Op.ensures_refuse_bind (fun _ => ⟨.unsent rfl,by simp⟩) fun _ => ?_
    refine ensures_modify_bind (ensures_bind transport_next ?_ ?_)
    · rintro (e | _) _ _ ⟨_,hthrown,d,rfl,_,_,he⟩
      · refine ⟨⟨by rintro _ ⟨⟩,?_⟩,by simp⟩
        rintro _ ⟨⟩ hnotSent
        obtain ⟨hsent,hwithheld⟩ := he e rfl hnotSent
        exact ⟨hsent,by simpa using hwithheld⟩
      · exact absurd rfl hthrown
    rintro frame _ _ ⟨_,_,d,rfl,_,hanswer,_⟩
    refine Op.ensures_generation_bind fun _ => ?_
    refine Op.ensures_refuse_bind (fun _ => ⟨.known (by simp),by simp⟩) fun _ => ?_
    refine Op.ensures_refuse_bind (fun _ => ⟨.known (by simp [malformed]),by simp⟩) fun _ => ?_
    refine Op.ensures_ofResult_bind (fun e he => ⟨.known (by simp [decode_error he]),by simp⟩) ?_
    intro response hresponse
    refine Op.ensures_refuse_bind (fun _ => ⟨.known (by simp [malformed]),by simp⟩) fun hempty => ?_
    have hdata : received [d] = response.data := received_reply (hanswer frame rfl) hresponse
    refine ensures_ite (fun hcorrected => ?_) fun _ => ?_
    · have hnone : received [d] = [] := by
        rw [hdata]
        by_contra hsome
        exact hempty ⟨hcorrected.1,hsome⟩
      refine Op.ensures_refuse_bind (fun _ => ⟨.known (by simp [malformed]),by simp⟩) fun _ => ?_
      refine ensures_bind (m := fun r _ ds => ds = [] ∧ r ≠ .error .thrown ∧
        ∀ e, r = .error (.error e) → e.outcome ≠ .notSent) ?_ ?_ ?_
      · refine Op.ensures_mapError (Op.ensures_ofResult ?_)
        cases encode {apdu with le := some _} with
        | ok encoded => exact ⟨rfl,by simp,by simp⟩
        | error e => exact ⟨rfl,by simp,by rintro _ ⟨⟩; exact e.afterDelivery_outcome⟩
      · rintro (e | _) _ _ ⟨rfl,hthrown,he⟩
        · exact ⟨.known (he e rfl),by simp⟩
        · exact absurd rfl hthrown
      · rintro encoded _ _ ⟨rfl,_,_⟩
        refine (ih _ _).mono fun r _ ds h => ⟨?_,h.2⟩
        have hlater : Evidence id (p.assembled ++ received [d]) true r ds := by
          rw [hnone,List.append_nil]
          exact h.1
        exact hlater.later
    · refine Op.ensures_refuse_bind (fun _ => ⟨.known (by simp [malformed]),by simp⟩) fun _ => ?_
      refine ensures_ite (fun _ => ensures_pure ⟨⟨?_,by rintro _ ⟨⟩⟩,by simp⟩) fun _ => ?_
      · rintro _ ⟨⟩
        refine ⟨⟨[],d,frame,response,rfl,hanswer frame rfl,hresponse,rfl⟩,?_⟩
        exact congrArg (p.assembled ++ ·) hdata.symm
      · refine Op.ensures_refuse_bind (fun _ => ⟨.known (by simp [malformed]),by simp⟩) fun _ => ?_
        refine (ih _ _).mono fun r _ ds h => ⟨?_,h.2⟩
        have hlater : Evidence id (p.assembled ++ received [d]) true r ds := by
          rw [hdata]
          exact h.1
        exact hlater.later

theorem encode_error {apdu : Apdu} {e : Error} (h : encode apdu = .error e) : e.outcome = .notSent := by
  unfold encode at h
  split at h
  · cases h; rfl
  · dsimp only at h
    split at h <;> cases h
    rfl

theorem Channel.exchange_evidence (o : Oracle Environment) (apdu : Apdu) (options : ExchangeOptions)
    (limits : Limits) (s : τ) :
    Delivers o (Channel.exchange apdu options limits) s fun r _ ds =>
      Evidence id [] false r ds := by
  have hframes : Delivers o (Channel.exchangeFrames apdu options limits) false fun r attempted ds =>
      Evidence id [] false r ds ∧ (r = .error .thrown → attempted = false ∧ ds = []) := by
    refine Op.ensures_refuse_bind (fun _ => ⟨.unsent rfl,by simp⟩) fun _ => ?_
    refine Op.ensures_capabilities_bind ⟨.threw,fun _ => ⟨rfl,rfl⟩⟩ fun _ transportLimits _ => ?_
    refine Op.ensures_refuse_bind (fun _ => ⟨.unsent rfl,by simp⟩) fun _ => ?_
    refine Op.ensures_refuse_bind (fun _ => ⟨.unsent rfl,by simp⟩) fun _ => ?_
    refine Op.ensures_ofResult_bind (fun e he => ⟨.unsent (encode_error he),by simp⟩) fun initial _ => ?_
    refine Op.ensures_refuse_bind (fun _ => ⟨.unsent rfl,by simp⟩) fun _ => ?_
    refine ensures_bind (m := fun r s' ds => (∃ budget, r = .ok budget) ∧ s' = false ∧ ds = []) ?_ ?_ ?_
    · refine Op.ensures_generation_bind fun _ => Op.ensures_now_bind fun _ => ?_
      exact ensures_pure ⟨⟨_,rfl⟩,rfl,rfl⟩
    · rintro _ _ _ ⟨⟨_,⟨⟩⟩,_⟩
    · rintro budget _ _ ⟨_,rfl,rfl⟩
      refine (exchangeLoop_evidence apdu limits transportLimits budget _ {request := initial} false).mono ?_
      exact fun r _ ds h => ⟨h.1,fun hr => absurd hr h.2⟩
  refine Op.ensures_admission_bind fun _ => ?_
  refine Program.ensures_refuse_bind (fun _ => .threw) fun _ => ?_
  refine Op.ensures_refuse_bind (fun _ => .unsent rfl) fun _ => ?_
  refine ensures_within (ensures_settle (hframes.mono ?_))
  rintro ((e | _) | response) attempted ds ⟨hevidence,hthrown⟩
  · exact hevidence
  · obtain ⟨rfl,rfl⟩ := hthrown rfl
    exact .unsent rfl
  · exact hevidence

end Raw

/-- A checked reply as the raw one it was made of. -/
def Checked.Response.raw (response : Checked.Response) : Raw.Response := ⟨response.data,response.status⟩

theorem Checked.Channel.exchange_evidence {τ : Type} (o : Oracle Environment) (command : Checked.Command)
    (options : ExchangeOptions) (limits : Checked.Limits) (s : τ) :
    Delivers o (Checked.Channel.exchange command options limits) s fun r _ ds =>
      Evidence Checked.Response.raw [] false r ds := by
  refine Op.ensures_refuse_bind (fun _ => .unsent rfl) fun _ => ?_
  refine ensures_bind (Raw.Channel.exchange_evidence o _ _ _ s) ?_ ?_
  · rintro f _ ds h
    exact ⟨by rintro _ ⟨⟩,by rintro e ⟨⟩ he; exact h.notSent e rfl he⟩
  · rintro response _ ds h
    refine ensures_pure ⟨?_,by rintro _ ⟨⟩⟩
    rintro _ ⟨⟩
    rw [List.append_nil]
    exact h.replied response rfl

end DesfireSdk.Iso7816
