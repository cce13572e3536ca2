import DesfireSdk.Native.Raw.Uploads

/-!
# Uploads that start are finished, up to the frame limit

A cooperative card acknowledges every frame of an upload and accepts the last one.
Over such a card an exchange is complete, or it is refused before its first frame,
unless the upload takes more frames than the loop has.
-/
namespace DesfireSdk.Native.Raw
open Interaction Program

/-- The request data that some frames carried. -/
def payload (framing : Framing) (frames : List Bytes) : Bytes :=
  (frames.filterMap (openFrame framing)).flatMap Prod.snd

theorem payload_append (framing : Framing) (frames frames' : List Bytes) :
    payload framing (frames ++ frames') = payload framing frames ++ payload framing frames' := by
  simp only [payload,List.filterMap_append,List.flatMap_append]

theorem payload_wire {framing : Framing} {command : Byte} {data : Bytes} (h : FitsFraming framing data) :
    payload framing [wire framing command data] = data := by
  simp [payload,openFrame_wire h]

/-- The data that handed over frames carried. -/
def uploaded (framing : Framing) (ds : List Delivery) : Bytes := payload framing (ds.map Delivery.frame)

theorem uploaded_append (framing : Framing) (ds ds' : List Delivery) :
    uploaded framing (ds ++ ds') = uploaded framing ds ++ uploaded framing ds' := by
  rw [uploaded,List.map_append,payload_append]
  rfl

/-- A reply with a status and no data. -/
def statusReply : Framing → Byte → Bytes
  | .direct,status => [status]
  | .isoWrapped,status => [0x91,status]

theorem decode_statusReply (framing : Framing) (status : Byte) :
    decode (statusReply framing status) framing = .ok ⟨status,[]⟩ := by
  cases framing <;> rfl

theorem length_statusReply (framing : Framing) (status : Byte) :
    (statusReply framing status).length = statusSize framing := by
  cases framing <;> rfl

/-- The status of a card that waits for the rest of a request. -/
def acknowledgement (request : Request) (received : Bytes) : Byte :=
  if received.length < request.data.length then additionalFrameStatus else 0x00

/-- After `start`, nothing disturbs the exchange and the card accepts every frame. -/
structure Cooperative (o : Oracle Environment) (limits : TransportCapabilities) (start : List Delivery)
    (t : Transaction) (request : Request) : Prop where
  capabilities : ∀ h, o h .capabilities = some limits
  generation : ∀ h, o h .generation = t.generation
  time : ∀ h, (o h .now : Int) < t.deadline
  calm : ∀ h, o h (.stopRequested .operation) = false
  answer : ∀ h sent frame options, deliveries h = start ++ sent →
    (o h (.exchange frame options)).answer = .ok (statusReply t.framing
      (acknowledgement request (uploaded t.framing sent ++ payload t.framing [frame])))

theorem Cooperative.markSent {o : Oracle Environment} {limits : TransportCapabilities}
    {start : List Delivery} {t : Transaction} {request : Request}
    (hcoop : Cooperative o limits start t request) : Cooperative o limits start t.markSent request :=
  ⟨hcoop.capabilities,hcoop.generation,hcoop.time,hcoop.calm,hcoop.answer⟩

namespace Transaction
variable {o : Oracle Environment} {limits : TransportCapabilities} {start sent : List Delivery}
  {t : Transaction} {request : Request}

theorem remainingOptions_cooperates (hcoop : Cooperative o limits start t request) (seen : List Delivery) :
    After deliveryOf o seen remainingOptions t fun r t' ds => (∃ options, r = .ok options) ∧ t' = t ∧ ds = [] := by
  refine After.get_bind (After.quiet_bind (fun _ => rfl) fun h _ => ?_)
  refine After.refuse_bind (fun hlate => absurd (hcoop.time h) (Int.not_lt.mpr hlate)) fun _ => ?_
  refine After.quiet_bind (fun _ => rfl) fun h' _ => ?_
  refine After.refuse_bind (fun hchanged => absurd (hcoop.generation h') hchanged) fun _ => ?_
  refine After.quiet_bind (fun _ => rfl) fun h'' _ => ?_
  refine After.refuse_bind (fun hstopped => ?_) fun _ => After.pure ⟨⟨_,rfl⟩,rfl,rfl⟩
  rw [hcoop.calm h''] at hstopped
  cases hstopped

/-- The reply to one frame, if the reader has room for it. -/
structure Acknowledged (limits : TransportCapabilities) (request : Request) (t : Transaction)
    (sent : List Delivery) (data : Bytes) (r : Except Fault Response) (ds : List Delivery) : Prop where
  carried : uploaded t.framing ds = data
  nonempty : ds ≠ []
  replied : statusSize t.framing ≤ limits.maxReceive →
    r = .ok ⟨acknowledgement request (uploaded t.framing sent ++ data),[]⟩
  crowded : limits.maxReceive < statusSize t.framing →
    ∃ e : Error, r = .error (.error e) ∧ e.outcome = .unknown

theorem exchangeFrame_cooperates (hcoop : Cooperative o limits start t request) (command : Byte)
    (sent : List Delivery) (data : Bytes) (hnative : data.length + 1 ≤ limits.maxNativeFrame)
    (htransmit : data.length + framingOverhead t.framing ≤ limits.maxTransmit)
    (hfits : FitsFraming t.framing data) :
    After deliveryOf o (start ++ sent) (exchangeFrame command data) t fun r t' ds =>
      t' = t.markSent ∧ Acknowledged limits request t sent data r ds := by
  have hencode : encode command data t.framing = .ok (wire t.framing command data) := by
    cases hresult : encode command data t.framing with
    | ok frame => rw [(encode_ok hresult).1]
    | error e =>
      cases hframing : t.framing with
      | direct => rw [hframing] at hresult; cases hresult
      | isoWrapped =>
        have := hfits hframing
        rw [hframing] at hresult
        simp only [encode,encodeIsoWrapped] at hresult
        split at hresult
        · omega
        · cases hresult
  refine After.bind (remainingOptions_cooperates hcoop _) ?_ ?_
  · rintro _ _ _ ⟨⟨_,⟨⟩⟩,_⟩
  rintro controls t' _ ⟨_,hsame,rfl⟩
  rw [List.append_nil,hsame]
  refine After.get_bind (After.known_bind (a := limits) (t := t) ?_ ?_)
  · refine After.quiet_bind (fun _ => rfl) fun h _ => ?_
    rw [hcoop.capabilities h]
    exact After.pure ⟨rfl,rfl,rfl⟩
  refine After.refuse_bind (fun hsmall => by omega) fun _ => ?_
  refine After.known_bind (a := wire t.framing command data) (t := t) ?_ ?_
  · rw [hencode]
    exact fun h _ => ⟨rfl,rfl,rfl⟩
  refine After.refuse_bind (fun hlong => ?_) fun _ => ?_
  · have := length_wire_le t.framing command data
    omega
  refine After.bind (m := fun r t' ds => t' = t ∧ ∃ d : Delivery, ds = [d] ∧
    d.frame = wire t.framing command data ∧ r = .ok (statusReply t.framing
      (acknowledgement request (uploaded t.framing sent ++ data)))) ?_ ?_ ?_
  · refine After.settle (After.settle (After.ask_bind fun h hh => ?_))
    have hanswer := hcoop.answer h sent (wire t.framing command data) controls hh
    rw [payload_wire hfits] at hanswer
    rw [hanswer]
    exact After.pure ⟨rfl,_,rfl,rfl,rfl⟩
  · rintro _ _ _ ⟨_,_,_,_,⟨⟩⟩
  rintro _ t' _ ⟨hsame,d,rfl,hframe,⟨⟩⟩
  rw [hsame]
  have hcarried : uploaded t.framing [d] = data := by
    rw [uploaded,List.map_singleton,hframe,payload_wire hfits]
  refine After.modify_bind (After.quiet_bind (fun _ => rfl) fun h _ => ?_)
  refine After.refuse_bind (fun hchanged => absurd (hcoop.generation h) hchanged) fun _ => ?_
  refine After.refuse_bind (fun hlong => ?_) fun hroom => ?_
  · rw [length_statusReply] at hlong
    exact ⟨rfl,hcarried,List.cons_ne_nil _ _,fun hroom => absurd hroom (by omega),fun _ => ⟨_,rfl,rfl⟩⟩
  · rw [length_statusReply] at hroom
    rw [decode_statusReply]
    exact After.pure ⟨rfl,hcarried,List.cons_ne_nil _ _,fun _ => rfl,fun hlong => absurd hlong hroom⟩

/-- The rest of an upload is delivered and accepted if frames and room are left for it. -/
structure Ended (framing : Framing) (enough : Prop) (rest : Bytes) (r : Except Fault Response)
    (ds : List Delivery) : Prop where
  accepted : enough → r = .ok ⟨0x00,[]⟩ ∧ uploaded framing ds = rest
  broken : ¬enough → ∃ e : Error, r = .error (.error e) ∧ e.outcome = .unknown

theorem exchangeLoop_cooperates {perFrame n : Nat} {first : Bool} {chain : Chain}
    (hcoop : Cooperative o limits start t request) (hpositive : 0 < perFrame)
    (hperFrame : perFrame ≤ dataPerFrame t.framing limits)
    (hnative : 2 ≤ limits.maxNativeFrame) (htransmit : framingOverhead t.framing < limits.maxTransmit)
    (hp : Positioned request perFrame first chain) (hresponse : chain.response = [])
    (hsent : (uploaded t.framing sent).length = chain.uploaded)
    (hdue : 0 < framesLeft request perFrame first chain.uploaded) :
    After deliveryOf o (start ++ sent) (exchangeLoop request perFrame n first chain) t fun r _ ds =>
      Ended t.framing (framesLeft request perFrame first chain.uploaded ≤ n ∧
        statusSize t.framing ≤ limits.maxReceive) (request.data.drop chain.uploaded) r ds := by
  induction n generalizing first chain sent t with
  | zero =>
    exact After.fail ⟨fun henough => absurd henough.1 (by omega),fun _ => ⟨_,rfl,rfl⟩⟩
  | succ n ih =>
    have hlimits := dataPerFrame_le t.framing limits
    have hsize := hp.currentSize_le
    have hchunk := hp.length_chunk
    have hfits : FitsFraming t.framing (chunk request perFrame first chain) := by
      intro hwrapped
      rw [hwrapped] at hperFrame
      simp only [dataPerFrame] at hperFrame
      omega
    have hstep := framesLeft_step hp hpositive hdue ⟨additionalFrameStatus,[]⟩
    have hrest := hp.chunk_append ⟨additionalFrameStatus,[]⟩
    refine After.bind (exchangeFrame_cooperates hcoop chain.command sent
      (chunk request perFrame first chain) (by omega) (by omega) hfits) ?_ ?_
    · rintro f _ ds ⟨_,hack⟩
      have hcrowded : limits.maxReceive < statusSize t.framing := by
        by_contra hroom
        cases hack.replied (Nat.le_of_not_lt hroom)
      exact ⟨fun henough => absurd henough.2 (by omega),fun _ => hack.crowded hcrowded⟩
    rintro response t' ds ⟨hmarked,hack⟩
    have hroom : statusSize t.framing ≤ limits.maxReceive := by
      by_contra hcrowded
      obtain ⟨e,⟨⟩,_⟩ := hack.crowded (by omega)
    have hreceived : (uploaded t.framing sent ++ chunk request perFrame first chain).length =
        chain.uploaded + currentSize request perFrame first chain.uploaded := by
      rw [List.length_append,hsent,hchunk]
    obtain rfl : response = ⟨acknowledgement request
        (uploaded t.framing sent ++ chunk request perFrame first chain),[]⟩ := by
      simpa using hack.replied hroom
    rw [hmarked]
    refine After.refuse_bind (fun hlong => by simp at hlong) fun _ => ?_
    by_cases hmore : chain.uploaded + currentSize request perFrame first chain.uploaded < request.data.length
    · -- the card asks for the next part, and the loop goes on from there
      have hstatus : acknowledgement request
          (uploaded t.framing sent ++ chunk request perFrame first chain) = additionalFrameStatus := by
        rw [acknowledgement,hreceived,if_pos hmore]
      rw [hstatus]
      refine After.refuse_bind (fun hunfit => by simp at hunfit) fun _ => ?_
      rw [if_neg (by simp),List.append_assoc]
      have hnext : 0 < framesLeft request perFrame false
          (chain.accept request perFrame first ⟨additionalFrameStatus,[]⟩).uploaded :=
        (framesLeft_pos request hpositive _).mpr hmore
      have hp' : Positioned request perFrame false
          (chain.accept request perFrame first ⟨additionalFrameStatus,[]⟩) := hp.accept (Nat.zero_le _)
      refine (ih hcoop.markSent hperFrame htransmit hp' (by simp [Chain.accept,hresponse]) ?_
        hnext).mono fun r _ ds' hended => ?_
      · rw [markSent_framing,uploaded_append,hack.carried,hreceived]
        rfl
      · refine ⟨fun henough => ?_,fun hshort => hended.broken fun henough => hshort ?_⟩
        · obtain ⟨hr,hds⟩ := hended.accepted ⟨by omega,henough.2⟩
          refine ⟨hr,?_⟩
          rw [uploaded_append,hack.carried,← hrest]
          exact congrArg _ hds
        · exact ⟨by have := henough.1; omega,henough.2⟩
    · -- the card has all data, and the loop returns
      have hstatus : acknowledgement request
          (uploaded t.framing sent ++ chunk request perFrame first chain) = 0x00 := by
        rw [acknowledgement,hreceived,if_neg hmore]
      rw [hstatus]
      refine After.refuse_bind (fun hunfit => absurd hunfit.1 hmore) fun _ => ?_
      rw [if_pos (by simp [additionalFrameStatus])]
      refine After.refuse_bind (fun hunfit => absurd hunfit hmore) fun _ => After.pure ?_
      have hlast : ¬0 < framesLeft request perFrame false
          (chain.accept request perFrame first ⟨additionalFrameStatus,[]⟩).uploaded :=
        (framesLeft_pos request hpositive _).not.mpr hmore
      refine ⟨fun _ => ⟨by rw [hresponse]; rfl,?_⟩,fun hshort => absurd ⟨by omega,hroom⟩ hshort⟩
      have hnone : request.data.drop
          (chain.accept request perFrame first ⟨additionalFrameStatus,[]⟩).uploaded = [] :=
        List.drop_of_length_le (Nat.le_of_not_lt hmore)
      rw [List.append_nil,hack.carried,← hrest,hnone,List.append_nil]

/-- The checks an exchange makes before its first frame pass. -/
structure Admitted (framing : Framing) (limits : TransportCapabilities) (request : Request) : Prop where
  maximum : request.maximumResponse ≠ 0
  transmit : framingOverhead framing < limits.maxTransmit
  native : 2 ≤ limits.maxNativeFrame
  capacity : 0 < dataPerFrame framing limits
  boundary : ∀ size ∈ request.firstFrameDataSize,
    0 < size ∧ size < request.data.length ∧ size ≤ dataPerFrame framing limits
  single : request.singleContinuationFrame → ∃ size ∈ request.firstFrameDataSize,
    request.data.length - size ≤ dataPerFrame framing limits

/-- Frames and room are left for the complete upload. -/
def Enough (framing : Framing) (limits : TransportCapabilities) (request : Request) : Prop :=
  framesNeeded request.firstFrameDataSize request.data.length (dataPerFrame framing limits) ≤
    maximumChainFrames ∧ statusSize framing ≤ limits.maxReceive

/-- An exchange over a cooperative card is refused before its first frame, or it is admitted
and ends as its frame count allows. -/
theorem exchange_cooperates (hcoop : Cooperative o limits start t request) :
    After deliveryOf o start (exchange request) t fun r _ ds =>
      (¬Admitted t.framing limits request ∧
        ∃ e : Error, r = .error (.error e) ∧ e.outcome = t.priorOutcome ∧ ds = []) ∨
      (Admitted t.framing limits request ∧
        Ended t.framing (Enough t.framing limits request) request.data r ds) := by
  have hrefused : ∀ (message : String), ¬Admitted t.framing limits request →
      (¬Admitted t.framing limits request ∧ ∃ e : Error,
        (.error (.error (normalizeDelivery (invalid message) t.sentAnyFrame)) : Except Fault Response) =
          .error (.error e) ∧ e.outcome = t.priorOutcome ∧ ([] : List Delivery) = []) ∨
      (Admitted t.framing limits request ∧ Ended t.framing (Enough t.framing limits request)
        request.data (.error (.error (normalizeDelivery (invalid message) t.sentAnyFrame))) []) :=
    fun _ hbad => .inl ⟨hbad,_,rfl,normalizeDelivery_notSent rfl,rfl⟩
  refine After.get_bind (After.refuse_bind (fun hzero => hrefused _ fun h => h.maximum hzero) fun hmaximum => ?_)
  refine After.known_bind (a := limits) (t := t) ?_ ?_
  · refine After.quiet_bind (fun _ => rfl) fun h _ => ?_
    rw [hcoop.capabilities h]
    exact After.pure ⟨rfl,rfl,rfl⟩
  refine After.refuse_bind (fun hsmall => hrefused _ fun h => ?_) fun hcarry => ?_
  · have := h.transmit
    have := h.native
    omega
  refine After.refuse_bind (fun hzero => hrefused _ fun h => ?_) fun hpositive => ?_
  · exact absurd hzero (Nat.pos_iff_ne_zero.mp h.capacity)
  refine After.refuse_bind (fun hbad => hrefused _ fun h => ?_) fun hfirst => ?_
  · obtain ⟨size,hsize,hbad⟩ := hbad
    have := h.boundary size hsize
    omega
  have hboundary : ∀ size ∈ request.firstFrameDataSize,
      0 < size ∧ size < request.data.length ∧ size ≤ dataPerFrame t.framing limits := by
    intro size hsize
    have hgood : ¬(size = 0 ∨ request.data.length ≤ size ∨ dataPerFrame t.framing limits < size) :=
      fun hbad => hfirst ⟨size,hsize,hbad⟩
    omega
  refine After.refuse_bind (fun hbad => hrefused _ fun h => ?_) fun hsingle => ?_
  · obtain ⟨hrequired,hnone | ⟨size,hsize,hlong⟩⟩ := hbad
    · obtain ⟨size,hsize,_⟩ := h.single hrequired
      rw [hnone] at hsize
      cases hsize
    · obtain ⟨size',hsize',hshort⟩ := h.single hrequired
      cases hsize.symm.trans hsize'
      have := h.boundary size hsize
      rw [sizeSub_of_le (by omega)] at hlong
      omega
  have hadmitted : Admitted t.framing limits request := by
    refine ⟨hmaximum,by omega,by omega,by omega,hboundary,fun hrequired => ?_⟩
    cases hsize : request.firstFrameDataSize with
    | none => exact absurd ⟨hrequired,.inl hsize⟩ hsingle
    | some size =>
      have hle := hboundary size hsize
      have hfits : ¬dataPerFrame t.framing limits < sizeSub request.data.length size :=
        fun hbad => hsingle ⟨hrequired,.inr ⟨size,hsize,hbad⟩⟩
      rw [sizeSub_of_le (by omega)] at hfits
      exact ⟨size,rfl,by omega⟩
  have hp : Positioned request (dataPerFrame t.framing limits) true ⟨0,request.command,[]⟩ :=
    ⟨Nat.zero_le _,Nat.zero_le _,fun _ => rfl,fun size hsize => by
      have := hboundary size hsize
      omega⟩
  have hdue : 0 < framesLeft request (dataPerFrame t.framing limits) true 0 := by
    simp only [framesLeft,framesNeeded,if_true]
    omega
  have hloop := exchangeLoop_cooperates (n := maximumChainFrames) hcoop hadmitted.capacity
    (Nat.le_refl _) hadmitted.native hadmitted.transmit hp rfl
    (show (uploaded t.framing []).length = 0 from rfl) hdue
  rw [List.append_nil] at hloop
  exact hloop.mono fun r _ ds hended => .inr ⟨hadmitted,hended⟩

/-- The exchange is refused before its first frame, or all data is delivered and accepted. -/
def Settles (t : Transaction) (request : Request) (r : Except Fault Response) (ds : List Delivery) :
    Prop :=
  (∃ e : Error, r = .error (.error e) ∧ e.outcome = .notSent ∧ ds = []) ∨
    (r = .ok ⟨0x00,[]⟩ ∧ uploaded t.framing ds = request.data)

/-- Over a cooperative card nothing is left half sent exactly when an upload that passes the
checks fits the frame limit, and the reader has room for a status. -/
theorem settles_iff (hnew : t.sentAnyFrame = false) (h : Trace Environment)
    (hcoop : Cooperative o limits (deliveries h) t request) :
    Settles t request (exchange request o h t).result (deliveries (exchange request o h t).events) ↔
      (Admitted t.framing limits request → Enough t.framing limits request) := by
  have hprior : t.priorOutcome = .notSent := by simp [priorOutcome,hnew]
  rcases exchange_cooperates hcoop h rfl with ⟨hbad,e,hr,he,hds⟩ | ⟨hadmitted,hended⟩
  · exact ⟨fun _ hadmitted => absurd hadmitted hbad,fun _ => .inl ⟨e,hr,he.trans hprior,hds⟩⟩
  · constructor
    · intro hsettles _
      by_contra hshort
      obtain ⟨e,hr,he⟩ := hended.broken hshort
      rcases hsettles with ⟨e',hr',he',_⟩ | ⟨hr',_⟩
      · cases hr.symm.trans hr'
        rw [he] at he'
        cases he'
      · cases hr.symm.trans hr'
    · intro henough
      exact .inr (hended.accepted (henough hadmitted))

/-- The environment in which only the card's acknowledgements depend on what happened. -/
def cooperating (limits : TransportCapabilities) (t : Transaction) (request : Request) :
    Oracle Environment := fun h q =>
  match q with
  | .exchange frame _ => ⟨t.generation,.ok (statusReply t.framing
      (acknowledgement request (uploaded t.framing (deliveries h) ++ payload t.framing [frame])))⟩
  | q => scripted {limits,generation := t.generation} h q

theorem cooperating_cooperates (limits : TransportCapabilities) {t : Transaction}
    (hdeadline : 0 < t.deadline) (request : Request) :
    Cooperative (cooperating limits t request) limits [] t request where
  capabilities _ := rfl
  generation _ := rfl
  time _ := hdeadline
  calm _ := rfl
  answer h sent frame options hsent := by
    simp only [cooperating,hsent,List.nil_append]

/-- A write of three frames over a common reader. -/
def threeFrames : Request := {command := 0x8D,data := zeros 150}

theorem settles_iff_threeFrames :
    Settles ⟨.direct,1,0,false⟩ threeFrames
        (exchange threeFrames (cooperating {} ⟨.direct,1,0,false⟩ threeFrames) [] ⟨.direct,1,0,false⟩).result
        (deliveries (exchange threeFrames (cooperating {} ⟨.direct,1,0,false⟩ threeFrames) []
          ⟨.direct,1,0,false⟩).events) ∧
      framesNeeded none threeFrames.data.length (dataPerFrame .direct {}) = 3 := by
  have hcount : framesNeeded none threeFrames.data.length (dataPerFrame .direct {}) = 3 := by
    simp only [threeFrames,length_zeros]
    decide
  have hsettles := settles_iff (t := ⟨.direct,1,0,false⟩) rfl []
    (cooperating_cooperates {} (t := ⟨.direct,1,0,false⟩) (by decide) threeFrames)
  exact ⟨hsettles.mpr fun _ => ⟨Nat.le_trans (Nat.le_of_eq hcount) (by decide),by decide⟩,hcount⟩

/-- A write of one byte more than 4096 frames of a common reader carry. -/
def longWrite : Request := {command := 0x8D,data := zeros (4096 * 59 + 1)}

/-- The write is left half sent by the frame limit. -/
theorem longWrite_unsettled :
    ¬Settles ⟨.direct,1,0,false⟩ longWrite
      (exchange longWrite (cooperating {} ⟨.direct,1,0,false⟩ longWrite) [] ⟨.direct,1,0,false⟩).result
      (deliveries (exchange longWrite (cooperating {} ⟨.direct,1,0,false⟩ longWrite) []
        ⟨.direct,1,0,false⟩).events) := by
  have hadmitted : Admitted .direct {} longWrite :=
    ⟨by decide,by decide,by decide,by decide,by rintro _ ⟨⟩,by rintro ⟨⟩⟩
  have hshort : ¬Enough .direct {} longWrite := by
    rintro ⟨hframes,_⟩
    simp only [longWrite,length_zeros] at hframes
    revert hframes
    decide
  rcases exchange_cooperates (cooperating_cooperates {} (t := ⟨.direct,1,0,false⟩) (by decide) longWrite)
    [] rfl with ⟨hbad,_⟩ | ⟨_,hended⟩
  · exact absurd hadmitted hbad
  · obtain ⟨e,hr,he⟩ := hended.broken hshort
    rintro (⟨e',hr',he',_⟩ | ⟨hr',_⟩)
    · cases hr.symm.trans hr'
      rw [he] at he'
      cases he'
    · cases hr.symm.trans hr'

end Transaction
end DesfireSdk.Native.Raw
