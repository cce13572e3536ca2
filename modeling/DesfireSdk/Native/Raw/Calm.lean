import DesfireSdk.Foundation.Calm
import DesfireSdk.Native.Raw.Frames

/-! Native exchanges that a roomy reader answers without data. -/
namespace DesfireSdk.Native.Raw
open Interaction Program

/-- A reader with room for the request, which accepts it in one frame or in the two that a
required first frame makes. -/
def answering (request : Request) : Script where
  limits := {
    framing := .native
    maxTransmit := request.data.length + 2
    maxNativeFrame := request.data.length + 2 }
  replies := if request.firstFrameDataSize.isSome then [.ok [additionalFrameStatus],.ok [0x00]]
    else [.ok [0x00]]

namespace Transaction
variable {script : Script} {seen : List Delivery} {t : Transaction}

/-- A transaction of the calm environment with time left. -/
structure Fresh (script : Script) (t : Transaction) : Prop where
  framing : t.framing = .direct
  deadline : 0 < t.deadline
  generation : t.generation = script.generation

theorem Fresh.markSent (h : t.Fresh script) : t.markSent.Fresh script :=
  ⟨h.framing,h.deadline,h.generation⟩

theorem remainingOptions_calm (seen : List Delivery) (hfresh : t.Fresh script) :
    ∃ options, Reaches deliveryOf (scripted script) seen remainingOptions t (.ok options) t [] := by
  refine ⟨⟨ceilMilliseconds (nanoseconds (t.deadline - 0))⟩,
    Reaches.get_bind (Op.calm_now_bind (Op.reaches_refuse_bind ?_ ?_))⟩
  · have := hfresh.deadline
    omega
  refine Op.calm_generation_bind (Op.reaches_refuse_bind (fun h => h hfresh.generation.symm) ?_)
  refine Op.calm_stopRequested_bind (Op.reaches_refuse_bind (by simp) ?_)
  exact Reaches.pure

theorem exchangeFrame_calm (seen : List Delivery) (hfresh : t.Fresh script) (command status : Byte)
    (data : Bytes)
    (hnative : data.length + 1 ≤ script.limits.maxNativeFrame)
    (htransmit : data.length + 1 ≤ script.limits.maxTransmit) (hreceive : 1 ≤ script.limits.maxReceive)
    (hreply : script.replies[seen.length]? = some (.ok [status])) :
    ∃ d : Delivery, d.Answered ∧
      Reaches deliveryOf (scripted script) seen (exchangeFrame command data) t (.ok ⟨status,[]⟩)
        t.markSent [d] := by
  obtain ⟨options,hoptions⟩ := remainingOptions_calm seen hfresh
  refine ⟨⟨command :: data,options,⟨script.generation,.ok [status]⟩⟩,⟨_,rfl⟩,?_⟩
  refine Reaches.quiet_bind hoptions (Reaches.get_bind (Op.calm_capabilities_bind ?_))
  refine Op.reaches_refuse_bind (by omega) ?_
  refine Reaches.quiet_bind (Op.reaches_mapError (Op.reaches_ofResult (a := command :: data) ?_)) ?_
  · rw [hfresh.framing]
    rfl
  refine Op.reaches_refuse_bind (by simp; omega) ?_
  have hsent : Reaches deliveryOf (scripted script) seen
      (Op.transportExchange (command :: data) options) t _ t _ := Op.calm_transportExchange hreply
  refine Reaches.bind_quiet (Op.reaches_mapError (Op.reaches_catchAll hsent)) ?_
  refine Reaches.modify_bind (Op.calm_generation_bind ?_)
  refine Op.reaches_refuse_bind (fun h => h hfresh.generation.symm) ?_
  refine Op.reaches_refuse_bind (by simp; omega) ?_
  refine Op.reaches_ofResult ?_
  rw [hfresh.framing]
  rfl

/-- The last frame of a chain, accepted without data. -/
theorem exchangeLoop_last (seen : List Delivery) (hfresh : t.Fresh script) (request : Request)
    (perFrame n : Nat) (first : Bool) (chain : Chain)
    (hall : request.data.length ≤ chain.uploaded + currentSize request perFrame first chain.uploaded)
    (hnative : request.data.length + 2 ≤ script.limits.maxNativeFrame)
    (htransmit : request.data.length + 2 ≤ script.limits.maxTransmit)
    (hreceive : 1 ≤ script.limits.maxReceive) (hresponse : chain.response = [])
    (hreply : script.replies[seen.length]? = some (.ok [0x00])) :
    ∃ d : Delivery, d.Answered ∧
      Reaches deliveryOf (scripted script) seen (exchangeLoop request perFrame (n+1) first chain) t
        (.ok ⟨0x00,[]⟩) t.markSent [d] := by
  have hchunk : (chunk request perFrame first chain).length ≤ request.data.length := by
    simp only [chunk,List.length_take,List.length_drop]
    omega
  obtain ⟨d,hanswered,hframe⟩ := exchangeFrame_calm seen hfresh chain.command _
    (chunk request perFrame first chain) (by omega) (by omega) hreceive hreply
  refine ⟨d,hanswered,Reaches.bind_quiet hframe ?_⟩
  refine Op.reaches_refuse_bind (by simp) ?_
  refine Op.reaches_refuse_bind (by omega) ?_
  rw [if_pos (by simp [additionalFrameStatus])]
  refine Op.reaches_refuse_bind (by omega) ?_
  rw [hresponse]
  exact Reaches.pure

/-- The request is answered without data. -/
theorem exchange_calm {request : Request} (hfresh : t.Fresh (answering request))
    (hmaximum : request.maximumResponse ≠ 0)
    (hfirst : ∀ size ∈ request.firstFrameDataSize, 0 < size ∧ size < request.data.length)
    (hsingle : request.singleContinuationFrame = true → request.firstFrameDataSize.isSome) :
    ∃ ds : List Delivery, (∃ d ∈ ds, d.Answered) ∧
      Reaches deliveryOf (scripted (answering request)) [] (exchange request) t (.ok ⟨0x00,[]⟩)
        t.markSent ds := by
  have hperFrame : dataPerFrame t.framing (answering request).limits = request.data.length + 1 := by
    rw [hfresh.framing]
    simp [dataPerFrame,answering,framingOverhead]
  have hloop : ∃ ds : List Delivery, (∃ d ∈ ds, d.Answered) ∧
      Reaches deliveryOf (scripted (answering request)) []
        (exchangeLoop request (request.data.length + 1) maximumChainFrames true ⟨0,request.command,[]⟩)
        t (.ok ⟨0x00,[]⟩) t.markSent ds := by
    cases hsize : request.firstFrameDataSize with
    | none =>
      obtain ⟨d,hanswered,hlast⟩ := exchangeLoop_last [] hfresh request
        (request.data.length + 1) 4095 true ⟨0,request.command,[]⟩
        (by simp [currentSize,hsize,sizeSub]) (by simp [answering])
        (by simp [answering]) (by simp [answering]) rfl (by simp [answering,hsize])
      exact ⟨[d],⟨d,by simp,hanswered⟩,hlast⟩
    | some size =>
      obtain ⟨hpositive,hshort⟩ := hfirst size hsize
      have hchunk : (chunk request (request.data.length + 1) true ⟨0,request.command,[]⟩).length ≤
          request.data.length := by
        simp only [chunk,List.length_take,List.length_drop]
        omega
      obtain ⟨d,hanswered,hframe⟩ := exchangeFrame_calm [] hfresh request.command
        additionalFrameStatus (chunk request (request.data.length + 1) true ⟨0,request.command,[]⟩)
        (by simp only [answering]; omega) (by simp only [answering]; omega) (by simp [answering])
        (by simp [answering,hsize])
      obtain ⟨d',_,hlast⟩ := exchangeLoop_last [d] hfresh.markSent request
        (request.data.length + 1) 4094 false ⟨size,additionalFrameStatus,[]⟩
        (by simp [currentSize,sizeSub_of_le (Nat.le_of_lt hshort)]; omega) (by simp [answering])
        (by simp [answering]) (by simp [answering]) rfl (by simp [answering,hsize])
      refine ⟨[d] ++ [d'],⟨d,by simp,hanswered⟩,Reaches.bind hframe ?_⟩
      refine Op.reaches_refuse_bind (by simp) ?_
      refine Op.reaches_refuse_bind (by simp) ?_
      rw [if_neg (by simp)]
      simpa [currentSize,hsize] using hlast
  obtain ⟨ds,hanswered,hloop⟩ := hloop
  refine ⟨ds,hanswered,Reaches.get_bind (Op.reaches_refuse_bind hmaximum ?_)⟩
  refine Op.calm_capabilities_bind ?_
  rw [hperFrame]
  refine Op.reaches_refuse_bind ?_ (Op.reaches_refuse_bind (by omega) (Op.reaches_refuse_bind ?_
    (Op.reaches_refuse_bind ?_ hloop)))
  · rw [hfresh.framing]
    simp [answering,framingOverhead]
  · rintro ⟨size,hsize,hbad⟩
    have := hfirst size hsize
    omega
  · rintro ⟨hrequired,hnone | ⟨size,hsize,hbad⟩⟩
    · simpa [hnone] using hsingle hrequired
    · have := hfirst size hsize
      rw [sizeSub_of_le (by omega)] at hbad
      omega

end Transaction

theorem begin_calm {τ : Type} (request : Request) (s : τ) :
    ∃ t : Transaction, t.Fresh (answering request) ∧
      Reaches deliveryOf (scripted (answering request)) [] (RawNativeChannel.begin ⟨.direct⟩ {}) s
        (.ok t) s [] := by
  refine ⟨⟨.direct,5000000000,0,false⟩,⟨rfl,by decide,rfl⟩,?_⟩
  refine Op.reaches_refuse_bind (by decide) (Op.calm_stopRequested_bind ?_)
  refine Op.reaches_refuse_bind (by simp) (Op.calm_admission_bind ?_)
  refine Op.reaches_refuse_bind (by simp) (Op.reaches_refuse_bind (by simp) ?_)
  exact Op.calm_now_bind (Op.calm_generation_bind Reaches.pure)

end DesfireSdk.Native.Raw
