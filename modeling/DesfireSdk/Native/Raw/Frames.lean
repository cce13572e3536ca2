import DesfireSdk.Native.Raw.Channel

/-! What one physical frame can do to a transaction, and what a chained exchange can do. -/
namespace DesfireSdk.Native.Raw
open Interaction Program

theorem normalizeDelivery_notSent {e : Error} {sent : Bool} (h : e.outcome = .notSent) :
    (normalizeDelivery e sent).outcome = if sent then .unknown else .notSent := by
  cases sent <;> simp [normalizeDelivery,Error.afterDelivery,h]

@[simp] theorem normalizeDelivery_code (e : Error) (sent : Bool) :
    (normalizeDelivery e sent).code = e.code := by
  unfold normalizeDelivery Error.afterDelivery
  split
  · split <;> rfl
  · rfl

namespace Transaction

/-- The evidence of one transport failure under a transaction. -/
def transportFailure (t : Transaction) : Fault → Error
  | .error e => normalizeDelivery e t.sentAnyFrame
  | .thrown => ⟨.internal,"Native transport threw",.unknown,0⟩

def markSent (t : Transaction) : Transaction := {t with sentAnyFrame := true}

@[simp] theorem markSent_framing (t : Transaction) : t.markSent.framing = t.framing := rfl
@[simp] theorem markSent_generation (t : Transaction) : t.markSent.generation = t.generation := rfl
@[simp] theorem markSent_sentAnyFrame (t : Transaction) : t.markSent.sentAnyFrame = true := rfl
@[simp] theorem markSent_markSent (t : Transaction) : t.markSent.markSent = t.markSent := rfl

/-- The one frame a call may hand over. -/
def Carries (t : Transaction) (command : Byte) (data : Bytes) (d : Delivery) : Prop :=
  d.frame = wire t.framing command data ∧ FitsFraming t.framing data

/-- Why a reply is not read: the card changed, the reader declared less room, or it is no reply. -/
def Spoiled (o : Oracle Environment) (t : Transaction) (bytes : Bytes) : Prop :=
  (∃ h h', o h .generation ≠ o h' .generation) ∨
    (∃ h limits, o h .capabilities = some limits ∧ limits.maxReceive < bytes.length) ∨
    ∃ e, decode bytes t.framing = .error e

/-- Every way a call for one frame can end. -/
inductive FrameCase (o : Oracle Environment) (t : Transaction) (command : Byte) (data : Bytes) :
    Except Fault Response → Transaction → List Delivery → Prop
  | threw : FrameCase o t command data (.error .thrown) t []
  | unsent (e : Error) (he : e.outcome = t.priorOutcome) (hcode : e.code ≠ .cardRejected) :
      FrameCase o t command data (.error (.error e)) t []
  | failed (d : Delivery) (hd : t.Carries command data d) (f : Fault)
      (hanswer : d.handover.answer = .error f) :
      FrameCase o t command data (.error (.error (t.transportFailure f))) t [d]
  | discarded (d : Delivery) (hd : t.Carries command data d) (bytes : Bytes)
      (hanswer : d.handover.answer = .ok bytes) (e : Error) (he : e.outcome = .unknown)
      (hspoiled : Spoiled o t bytes) :
      FrameCase o t command data (.error (.error e)) t.markSent [d]
  | replied (d : Delivery) (hd : t.Carries command data d) (bytes : Bytes)
      (hanswer : d.handover.answer = .ok bytes) (response : Response)
      (hresponse : decode bytes t.framing = .ok response)
      (hroom : ∃ h limits, o h .capabilities = some limits ∧ bytes.length ≤ limits.maxReceive) :
      FrameCase o t command data (.ok response) t.markSent [d]

theorem FrameCase.generation {o : Oracle Environment} {t t' : Transaction} {command : Byte} {data : Bytes}
    {r : Except Fault Response} {ds : List Delivery} (h : FrameCase o t command data r t' ds) :
    t'.generation = t.generation := by
  cases h <;> rfl

/-- The controls for one more frame, or the evidence of a frame that was not handed over. -/
inductive ControlCase (o : Oracle Environment) (t : Transaction) :
    Except Fault ExchangeOptions → Transaction → List Delivery → Prop
  | refused (e : Error) (he : e.outcome = t.priorOutcome) (hcode : e.code ≠ .cardRejected) :
      ControlCase o t (.error (.error e)) t []
  | granted (now : Int) (hnow : now < t.deadline) (hsampled : ∃ h, o h .generation = t.generation) :
      ControlCase o t (.ok ⟨ceilMilliseconds (nanoseconds (t.deadline - now))⟩) t []

theorem sampled_cases (o : Oracle Environment) (t : Transaction) :
    Delivers o Op.generation t fun r t' ds => ∃ h, r = .ok (o h .generation) ∧ t' = t ∧ ds = [] :=
  fun h => ⟨h,rfl,rfl,rfl⟩

theorem remainingOptions_cases (o : Oracle Environment) (t : Transaction) :
    Delivers o remainingOptions t (ControlCase o t) := by
  refine ensures_get_bind (Op.ensures_now_bind fun now => ?_)
  refine Op.ensures_refuse_bind (fun _ => .refused _ rfl (by simp)) fun hnow => ?_
  refine ensures_bind (sampled_cases o t) ?_ ?_
  · rintro _ _ _ ⟨_,⟨⟩,_⟩
  rintro generation _ _ ⟨h',⟨⟩,rfl,rfl⟩
  refine Op.ensures_refuse_bind (fun _ => .refused _ rfl (by simp)) fun hsame => ?_
  refine Op.ensures_stopRequested_bind fun stop => ?_
  refine Op.ensures_refuse_bind (fun _ => .refused _ rfl (by simp)) fun _ => ?_
  exact ensures_pure (.granted now (by omega) ⟨h',Decidable.not_not.mp hsame⟩)

inductive EncodeCase (t : Transaction) (command : Byte) (data : Bytes) :
    Except Fault Bytes → Transaction → List Delivery → Prop
  | refused (e : Error) (he : e.outcome = t.priorOutcome) (hcode : e.code ≠ .cardRejected) :
      EncodeCase t command data (.error (.error e)) t []
  | encoded (hfits : FitsFraming t.framing data) :
      EncodeCase t command data (.ok (wire t.framing command data)) t []

theorem encode_cases (o : Oracle Environment) (command : Byte) (data : Bytes) (t : Transaction) :
    Delivers o (Op.mapError (fun e => normalizeDelivery e t.sentAnyFrame)
      (Op.ofResult (encode command data t.framing))) t (EncodeCase t command data) := by
  refine Op.ensures_mapError (Op.ensures_ofResult ?_)
  cases hencode : encode command data t.framing with
  | error e =>
    obtain ⟨houtcome,hcode⟩ := encode_error hencode
    exact .refused _ (normalizeDelivery_notSent houtcome) (by simp [hcode])
  | ok frame =>
    obtain ⟨rfl,hfits⟩ := encode_ok hencode
    exact .encoded hfits

/-- One call of the transport with the evidence this transaction reports for it. -/
inductive TransportCase (t : Transaction) (frame : Bytes) (options : ExchangeOptions) :
    Except Fault Bytes → Transaction → List Delivery → Prop
  | failed (handover : Handover) (f : Fault) (hanswer : handover.answer = .error f) :
      TransportCase t frame options (.error (.error (t.transportFailure f))) t
        [⟨frame,options,handover⟩]
  | replied (handover : Handover) (bytes : Bytes) (hanswer : handover.answer = .ok bytes) :
      TransportCase t frame options (.ok bytes) t [⟨frame,options,handover⟩]

theorem transport_cases (o : Oracle Environment) (frame : Bytes) (options : ExchangeOptions)
    (t : Transaction) :
    Delivers o (Op.mapError (fun e => normalizeDelivery e t.sentAnyFrame)
      (Op.catchAll id ⟨.internal,"Native transport threw",.unknown,0⟩
        (Op.transportExchange frame options))) t (TransportCase t frame options) := by
  refine Op.ensures_mapError (Op.ensures_catchAll (Op.ensures_transportExchange fun handover => ?_))
  cases hanswer : handover.answer with
  | ok bytes => exact .replied handover bytes hanswer
  | error f =>
    have hfailed : TransportCase t frame options _ t _ := .failed handover f hanswer
    have hunknown : normalizeDelivery (transportFailure t .thrown) t.sentAnyFrame =
        transportFailure t .thrown := by
      cases t.sentAnyFrame <;> rfl
    cases f with
    | error e => exact hfailed
    | thrown =>
      change TransportCase t frame options (.error (.error
        (normalizeDelivery (transportFailure t .thrown) t.sentAnyFrame))) t _
      rw [hunknown]
      exact hfailed

theorem exchangeFrame_cases (o : Oracle Environment) (command : Byte) (data : Bytes)
    (t : Transaction) : Delivers o (exchangeFrame command data) t (FrameCase o t command data) := by
  have hinvalid (message : String) :
      (normalizeDelivery (invalid message) t.sentAnyFrame).code ≠ .cardRejected := by
    simp [invalid]
  refine ensures_bind (remainingOptions_cases o t) ?_ ?_
  · rintro _ _ _ ⟨e,he,hcode⟩
    exact .unsent e he hcode
  rintro _ _ _ (_ | ⟨now,hnow,h₀,hsampled⟩)
  refine ensures_get_bind (Op.ensures_capabilities_bind .threw fun h limits hlimits => ?_)
  refine Op.ensures_refuse_bind
    (fun _ => .unsent _ (normalizeDelivery_notSent rfl) (hinvalid _)) fun hnative => ?_
  refine ensures_bind (encode_cases o command data t) ?_ ?_
  · rintro _ _ _ ⟨e,he,hcode⟩
    exact .unsent e he hcode
  rintro _ _ _ (_ | ⟨hfits⟩)
  refine Op.ensures_refuse_bind
    (fun _ => .unsent _ (normalizeDelivery_notSent rfl) (hinvalid _)) fun htransmit => ?_
  refine ensures_bind (transport_cases o _ _ t) ?_ ?_
  · rintro _ _ _ ⟨handover,f,hanswer⟩
    exact .failed ⟨_,_,handover⟩ ⟨rfl,hfits⟩ f hanswer
  rintro bytes _ _ (_ | ⟨handover,_,hanswer⟩)
  refine ensures_modify_bind ?_
  refine ensures_bind (sampled_cases o t.markSent) ?_ ?_
  · rintro _ _ _ ⟨_,⟨⟩,_⟩
  rintro generation _ _ ⟨h',⟨⟩,rfl,rfl⟩
  refine Op.ensures_refuse_bind (fun hchanged => .discarded ⟨_,_,handover⟩ ⟨rfl,hfits⟩ bytes hanswer
    _ rfl (.inl ⟨h',h₀,hsampled ▸ hchanged⟩)) fun _ => ?_
  refine Op.ensures_refuse_bind (fun hlong => .discarded ⟨_,_,handover⟩ ⟨rfl,hfits⟩ bytes hanswer
    _ rfl (.inr (.inl ⟨h,limits,hlimits,hlong⟩))) fun hreceive => ?_
  refine Op.ensures_ofResult ?_
  cases hdecode : decode bytes t.framing with
  | error e =>
    exact .discarded ⟨_,_,handover⟩ ⟨rfl,hfits⟩ bytes hanswer e (decode_error hdecode)
      (.inr (.inr ⟨e,hdecode⟩))
  | ok response =>
    exact .replied ⟨_,_,handover⟩ ⟨rfl,hfits⟩ bytes hanswer response hdecode
      ⟨h,limits,hlimits,Nat.le_of_not_lt hreceive⟩

/-- The data a frame of a chained exchange carries. -/
def chunk (request : Request) (perFrame : Nat) (first : Bool) (chain : Chain) : Bytes :=
  (request.data.drop chain.uploaded).take (currentSize request perFrame first chain.uploaded)

def Chain.accept (chain : Chain) (request : Request) (perFrame : Nat) (first : Bool)
    (response : Response) : Chain where
  uploaded := chain.uploaded + currentSize request perFrame first chain.uploaded
  command := additionalFrameStatus
  response := chain.response ++ response.data

@[simp] theorem Chain.accept_uploaded (chain : Chain) (request : Request) (perFrame : Nat)
    (first : Bool) (response : Response) :
    (chain.accept request perFrame first response).uploaded =
      chain.uploaded + currentSize request perFrame first chain.uploaded := rfl

@[simp] theorem Chain.accept_command (chain : Chain) (request : Request) (perFrame : Nat)
    (first : Bool) (response : Response) :
    (chain.accept request perFrame first response).command = additionalFrameStatus := rfl

/-- A reply with too much data, or one that does not ask for the rest of the request. -/
def Unfit (request : Request) (perFrame : Nat) (first : Bool) (chain : Chain) (response : Response) :
    Prop :=
  sizeSub request.maximumResponse chain.response.length < response.data.length ∨
    (chain.accept request perFrame first response).uploaded < request.data.length ∧
      (response.data ≠ [] ∨ response.status ≠ additionalFrameStatus)

/-- Every way the frames of a chained exchange can go on from a position. -/
inductive ChainRun (o : Oracle Environment) (request : Request) (perFrame : Nat) : Nat → Bool → Chain → Transaction →
    Except Fault Response → Transaction → List Delivery → Prop
  | exhausted {first chain t} (e : Error) (he : e.outcome = .unknown) :
      ChainRun o request perFrame 0 first chain t (.error (.error e)) t []
  | stopped {n first chain t f t' ds}
      (hframe : t.FrameCase o chain.command (chunk request perFrame first chain) (.error f) t' ds) :
      ChainRun o request perFrame (n+1) first chain t (.error f) t' ds
  | refused {n first chain t response t' ds}
      (hframe : t.FrameCase o chain.command (chunk request perFrame first chain) (.ok response) t' ds)
      (e : Error) (he : e.outcome = .unknown) (hunfit : Unfit request perFrame first chain response) :
      ChainRun o request perFrame (n+1) first chain t (.error (.error e)) t' ds
  | finished {n first chain t response t' ds}
      (hframe : t.FrameCase o chain.command (chunk request perFrame first chain) (.ok response) t' ds)
      (hbound : response.data.length ≤ sizeSub request.maximumResponse chain.response.length)
      (hall : request.data.length ≤ (chain.accept request perFrame first response).uploaded)
      (hstatus : response.status ≠ additionalFrameStatus) :
      ChainRun o request perFrame (n+1) first chain t
        (.ok ⟨response.status,(chain.accept request perFrame first response).response⟩) t' ds
  | continued {n first chain t response t₁ ds₁ r t' ds}
      (hframe : t.FrameCase o chain.command (chunk request perFrame first chain) (.ok response) t₁ ds₁)
      (hbound : response.data.length ≤ sizeSub request.maximumResponse chain.response.length)
      (hquiet : (chain.accept request perFrame first response).uploaded < request.data.length →
        response.data = [])
      (hstatus : response.status = additionalFrameStatus)
      (hrest : ChainRun o request perFrame n false (chain.accept request perFrame first response) t₁ r t' ds) :
      ChainRun o request perFrame (n+1) first chain t r t' (ds₁ ++ ds)

theorem exchangeLoop_runs (o : Oracle Environment) (request : Request) (perFrame n : Nat)
    (first : Bool) (chain : Chain) (t : Transaction) :
    Delivers o (exchangeLoop request perFrame n first chain) t
      (ChainRun o request perFrame n first chain t) := by
  induction n generalizing first chain t with
  | zero => exact Op.ensures_reject (.exhausted _ rfl)
  | succ n ih =>
    refine ensures_bind (exchangeFrame_cases o chain.command (chunk request perFrame first chain) t)
      (fun _ _ _ hframe => .stopped hframe) fun response t₁ ds₁ hframe => ?_
    refine Op.ensures_refuse_bind (fun hlong => ?_) fun hbound => ?_
    · simpa using ChainRun.refused hframe _ rfl (.inl hlong)
    refine Op.ensures_refuse_bind (fun hunfit => ?_) fun hfit => ?_
    · simpa using ChainRun.refused hframe _ rfl (.inr hunfit)
    have hquiet : (chain.accept request perFrame first response).uploaded < request.data.length →
        response.data = [] := fun hrest => Decidable.not_not.mp fun hdata => hfit ⟨hrest,.inl hdata⟩
    refine ensures_ite (fun hstatus => ?_) fun hstatus => ?_
    · refine Op.ensures_refuse_bind (fun hrest => ?_) fun hall => ?_
      · simpa using ChainRun.refused hframe _ rfl (.inr ⟨hrest,.inr hstatus⟩)
      · refine ensures_pure ?_
        rw [List.append_nil]
        exact ChainRun.finished hframe (by omega) (Nat.le_of_not_lt hall) hstatus
    · exact (ih false _ t₁).mono fun r t' ds hrest =>
        .continued hframe (by omega) hquiet (Decidable.not_not.mp hstatus) hrest

/-- Every way a complete exchange can go. -/
inductive ExchangeRun (o : Oracle Environment) (request : Request) (t : Transaction) :
    Except Fault Response → Transaction → List Delivery → Prop
  | threw : ExchangeRun o request t (.error .thrown) t []
  | unsent (e : Error) (he : e.outcome = t.priorOutcome) (hcode : e.code ≠ .cardRejected) :
      ExchangeRun o request t (.error (.error e)) t []
  | chained {r t' ds} (h : Trace Environment) (limits : TransportCapabilities)
      (hlimits : o h .capabilities = some limits) (hmaximum : request.maximumResponse ≠ 0)
      (htransmit : framingOverhead t.framing < limits.maxTransmit) (hnative : 2 ≤ limits.maxNativeFrame)
      (hpositive : 0 < dataPerFrame t.framing limits)
      (hfirst : ∀ size ∈ request.firstFrameDataSize,
        0 < size ∧ size < request.data.length ∧ size ≤ dataPerFrame t.framing limits)
      (hsingle : request.singleContinuationFrame → ∃ size ∈ request.firstFrameDataSize,
        request.data.length - size ≤ dataPerFrame t.framing limits)
      (hrun : ChainRun o request (dataPerFrame t.framing limits) maximumChainFrames true
        ⟨0,request.command,[]⟩ t r t' ds) :
      ExchangeRun o request t r t' ds

theorem exchange_runs (o : Oracle Environment) (request : Request) (t : Transaction) :
    Delivers o (exchange request) t (ExchangeRun o request t) := by
  have hunsent (message : String) :
      ExchangeRun o request t (.error (.error (normalizeDelivery (invalid message) t.sentAnyFrame))) t [] :=
    .unsent _ (normalizeDelivery_notSent rfl) (by simp [invalid])
  refine ensures_get_bind ?_
  refine Op.ensures_refuse_bind (fun _ => hunsent _) fun hmaximum => ?_
  refine Op.ensures_capabilities_bind .threw fun h limits hlimits => ?_
  refine Op.ensures_refuse_bind (fun _ => hunsent _) fun hcarry => ?_
  refine Op.ensures_refuse_bind (fun _ => hunsent _) fun hpositive => ?_
  refine Op.ensures_refuse_bind (fun _ => hunsent _) fun hfirst => ?_
  refine Op.ensures_refuse_bind (fun _ => hunsent _) fun hsingle => ?_
  refine (exchangeLoop_runs o request _ _ _ _ t).mono fun r t' ds hrun => ?_
  have hbounds : ∀ size ∈ request.firstFrameDataSize,
      0 < size ∧ size < request.data.length ∧ size ≤ dataPerFrame t.framing limits := by
    intro size hsize
    have hgood : ¬(size = 0 ∨ request.data.length ≤ size ∨ dataPerFrame t.framing limits < size) :=
      fun hbad => hfirst ⟨size,hsize,hbad⟩
    omega
  refine .chained h limits hlimits hmaximum (by omega) (by omega) (by omega) hbounds ?_ hrun
  intro hrequired
  cases hsize : request.firstFrameDataSize with
  | none => exact absurd ⟨hrequired,.inl hsize⟩ hsingle
  | some size =>
    have hle := hbounds size hsize
    have hfits : ¬dataPerFrame t.framing limits < sizeSub request.data.length size :=
      fun hbad => hsingle ⟨hrequired,.inr ⟨size,hsize,hbad⟩⟩
    rw [sizeSub_of_le (by omega)] at hfits
    exact ⟨size,rfl,by omega⟩

end Transaction
end DesfireSdk.Native.Raw
