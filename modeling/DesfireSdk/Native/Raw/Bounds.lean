import DesfireSdk.Interaction.Comparison
import DesfireSdk.Native.Raw.Chaining

/-! The response bound of a chained exchange matters only to replies that exceed it. -/
namespace DesfireSdk.Native.Raw
open Interaction Program
namespace Transaction
variable {o : Oracle Environment} {request : Request} {bound : Nat}

/-- All data that the replies to some frames carry. -/
def repliedData (framing : Framing) (ds : List Delivery) : Bytes :=
  joined (ds.filterMap (replyOf framing))

theorem repliedData_append (framing : Framing) (ds ds' : List Delivery) :
    repliedData framing (ds ++ ds') = repliedData framing ds ++ repliedData framing ds' := by
  unfold repliedData
  rw [List.filterMap_append,joined_append]

/-- The request under another response bound. -/
def rebounded (request : Request) (bound : Nat) : Request := {request with maximumResponse := bound}

/-- The same course, where the replies of the second run fit a bound behind what was assembled. -/
def Unbounded (framing : Framing) (assembled bound : Nat)
    (run run' : Run Environment Transaction Fault Response) : Prop :=
  assembled + (repliedData framing (deliveries run'.events)).length ≤ bound → run = run'

theorem unbounded_refl (framing : Framing) (assembled bound : Nat)
    (run : Run Environment Transaction Fault Response) : Unbounded framing assembled bound run run :=
  fun _ => rfl

/-- One reply moves its data from the replies to what was assembled. -/
theorem Unbounded.behind {framing : Framing} {assembled : Nat} {es : Trace Environment}
    {run run' : Run Environment Transaction Fault Response}
    (h : Unbounded framing (assembled + (repliedData framing (deliveries es)).length) bound run run') :
    Unbounded framing assembled bound (run.behind es) (run'.behind es) := by
  intro hfits
  rw [Run.behind_events,deliveries_append,repliedData_append,List.length_append] at hfits
  rw [h (by omega)]

/-- The loop takes one course under two bounds while the replies fit the smaller one. -/
theorem exchangeLoop_unbounded (hbound : request.maximumResponse ≤ bound) (perFrame frames : Nat)
    (first : Bool) (chain : Chain) (t : Transaction) :
    Compares o (exchangeLoop request perFrame frames first chain)
      (exchangeLoop (rebounded request bound) perFrame frames first chain) t
      (Unbounded t.framing chain.response.length request.maximumResponse) := by
  induction frames generalizing first chain t with
  | zero => exact compares_refl (unbounded_refl _ _ _)
  | succ frames ih =>
    refine compares_bind (exchangeFrame_cases o chain.command _ t) (fun _ _ _ _ => unbounded_refl _ _ _ _) ?_
    intro response t' es hframe
    generalize hds : shown deliveryOf es = ds at hframe
    cases hframe with
    | replied d hd bytes hanswer _ hresponse hroom =>
    have hdata : repliedData t.framing (deliveries es) = response.data := by
      rw [show deliveries es = [d] from hds]
      simp [repliedData,replyOf_eq hanswer hresponse]
    by_cases hfits : chain.response.length + response.data.length ≤ request.maximumResponse
    · have hsmall : ¬sizeSub request.maximumResponse chain.response.length < response.data.length := by
        rw [sizeSub_of_le (by omega)]
        omega
      have hlarge : ¬sizeSub bound chain.response.length < response.data.length := by
        rw [sizeSub_of_le (by omega)]
        omega
      refine compares_refuse_bind hsmall hlarge ?_
      refine compares_refuse_same (unbounded_refl _ _ _ _) fun _ => ?_
      refine compares_ite (fun _ => compares_refl fun _ _ => rfl) fun _ => ?_
      intro h
      have hrest := ih false ⟨chain.uploaded + currentSize request perFrame first chain.uploaded,
        additionalFrameStatus,chain.response ++ response.data⟩ t.markSent h
      apply Unbounded.behind
      rw [hdata,← List.length_append]
      exact hrest
    · -- The replies of the second run already exceed the bound.
      intro h hreplies
      rw [Run.behind_events,deliveries_append,repliedData_append,hdata,List.length_append] at hreplies
      omega

/-- A whole exchange takes one course under two bounds while the replies fit the smaller one. -/
theorem exchange_unbounded (hpositive : 0 < request.maximumResponse) (hbound : request.maximumResponse ≤ bound)
    (t : Transaction) :
    Compares o (exchange request) (exchange (rebounded request bound)) t
      (Unbounded t.framing 0 request.maximumResponse) := by
  have hlimits : Ensures deliveryOf o Op.capabilities t fun _ t' ds => t' = t ∧ ds = [] := by
    refine ensures_ask_bind fun h => ?_
    cases o h .capabilities with
    | none => exact ensures_fail ⟨rfl,rfl⟩
    | some limits => exact ensures_pure ⟨rfl,rfl⟩
  apply compares_get_bind
  refine compares_refuse_bind (Nat.ne_of_gt hpositive) (Nat.ne_of_gt (Nat.lt_of_lt_of_le hpositive hbound)) ?_
  refine compares_bind hlimits (fun _ _ _ _ => unbounded_refl _ _ _ _) ?_
  rintro limits _ es ⟨rfl,hes⟩
  refine compares_refuse_same (unbounded_refl _ _ _ _) fun _ => ?_
  refine compares_refuse_same (unbounded_refl _ _ _ _) fun _ => ?_
  refine compares_refuse_same (unbounded_refl _ _ _ _) fun _ => ?_
  refine compares_refuse_same (unbounded_refl _ _ _ _) fun _ => ?_
  intro h
  apply Unbounded.behind
  rw [show deliveries es = [] from hes]
  exact exchangeLoop_unbounded hbound _ _ true ⟨0,request.command,[]⟩ _ h

end Transaction
end DesfireSdk.Native.Raw
