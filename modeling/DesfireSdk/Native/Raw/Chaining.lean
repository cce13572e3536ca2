import DesfireSdk.Foundation.Calm
import DesfireSdk.Native.Raw.Frames

/-!
# A chained exchange loses, duplicates and reorders nothing

The frames of one exchange carry consecutive parts of the request, the kept replies
come back in order, and every bound of the transport and of the caller is respected.
-/
namespace DesfireSdk.Native.Raw
open Interaction Program

/-- Commands of successive frames: the given one first, additional frames after it. -/
def stamped (command : Byte) : List Bytes → List (Byte × Bytes)
  | [] => []
  | chunk :: chunks => (command,chunk) :: stamped additionalFrameStatus chunks

/-- The decoded reply to one frame. -/
def replyOf (framing : Framing) (d : Delivery) : Option Response :=
  match d.handover.answer with
  | .ok bytes => (decode bytes framing).toOption
  | .error _ => none

theorem replyOf_eq {framing : Framing} {d : Delivery} {bytes : Bytes} {response : Response}
    (hanswer : d.handover.answer = .ok bytes) (hresponse : decode bytes framing = .ok response) :
    replyOf framing d = some response := by
  simp [replyOf,hanswer,hresponse,Except.toOption]

/-- All response data in order. -/
def joined (replies : List Response) : Bytes := (replies.map Response.data).flatten

@[simp] theorem joined_nil : joined [] = [] := rfl
@[simp] theorem joined_cons (reply : Response) (replies : List Response) :
    joined (reply :: replies) = reply.data ++ joined replies := rfl
@[simp] theorem joined_append (replies replies' : List Response) :
    joined (replies ++ replies') = joined replies ++ joined replies' := by
  simp [joined]

/-- The frames carry consecutive parts of some bytes under one command. -/
def Carried (framing : Framing) (command : Byte) (bytes : Bytes) (ds : List Delivery) : Prop :=
  ∃ chunks : List Bytes, chunks.flatten <+: bytes ∧
    ds.map Delivery.frame = (stamped command chunks).map fun p => wire framing p.1 p.2

/-- The response joins the data of the replies to all frames, and carries the status of the last. -/
def Answered (framing : Framing) (response : Response) (ds : List Delivery) : Prop :=
  ∃ accepted final, ds.map (replyOf framing) = (accepted ++ [final]).map some ∧
    response = ⟨final.status,joined (accepted ++ [final])⟩

theorem carried_nil (framing : Framing) (command : Byte) (bytes : Bytes) :
    Carried framing command bytes [] := ⟨[],List.nil_prefix,rfl⟩

namespace Transaction

/-- The next part of the request fits the request and the frame. -/
structure Positioned (request : Request) (perFrame : Nat) (first : Bool) (chain : Chain) : Prop where
  uploaded : chain.uploaded ≤ request.data.length
  response : chain.response.length ≤ request.maximumResponse
  fresh : first = true → chain.uploaded = 0
  boundary : ∀ size ∈ request.firstFrameDataSize, size ≤ request.data.length ∧ size ≤ perFrame

namespace Positioned
variable {request : Request} {perFrame : Nat} {first : Bool} {chain : Chain}

theorem currentSize_le (hp : Positioned request perFrame first chain) :
    currentSize request perFrame first chain.uploaded ≤ request.data.length - chain.uploaded ∧
      currentSize request perFrame first chain.uploaded ≤ perFrame := by
  have hrest := sizeSub_of_le hp.uploaded
  unfold currentSize
  split
  · rename_i size hsize
    have := hp.boundary size hsize
    have := hp.fresh rfl
    omega
  · omega

theorem length_chunk (hp : Positioned request perFrame first chain) :
    (chunk request perFrame first chain).length = currentSize request perFrame first chain.uploaded := by
  have := hp.currentSize_le
  simp only [chunk,List.length_take,List.length_drop]
  omega

theorem chunk_append (_ : Positioned request perFrame first chain) (response : Response) :
    chunk request perFrame first chain ++
      request.data.drop (chain.accept request perFrame first response).uploaded =
        request.data.drop chain.uploaded := by
  rw [chunk,Chain.accept,← List.drop_drop,List.take_append_drop]

theorem accept (hp : Positioned request perFrame first chain) {response : Response}
    (hbound : response.data.length ≤ sizeSub request.maximumResponse chain.response.length) :
    Positioned request perFrame false (chain.accept request perFrame first response) where
  uploaded := by
    have := hp.currentSize_le
    have := hp.uploaded
    simp only [Chain.accept]
    omega
  response := by
    rw [sizeSub_of_le hp.response] at hbound
    have := hp.response
    simp only [Chain.accept,List.length_append]
    omega
  fresh := fun h => Bool.noConfusion h
  boundary := hp.boundary

end Positioned

/-- What the frames and replies of a chain have to do with the request. -/
structure ChainTrace (framing : Framing) (request : Request) (perFrame n : Nat) (first : Bool)
    (chain : Chain) (r : Except Fault Response) (ds : List Delivery) (chunks : List Bytes)
    (accepted : List Response) : Prop where
  frames : ds.map (fun d => openFrame framing d.frame) = (stamped chain.command chunks).map some
  wires : ds.map Delivery.frame = (stamped chain.command chunks).map fun p => wire framing p.1 p.2
  upload : chunks.flatten <+: request.data.drop chain.uploaded
  count : chunks.length ≤ n
  fits : ∀ chunk ∈ chunks, chunk.length ≤ perFrame
  sizes : ∀ chunk ∈ chunks.head?, chunk.length = currentSize request perFrame first chain.uploaded
  second : first = true → ∀ chunk ∈ chunks[1]?,
    chunk.length = min perFrame (request.data.length - currentSize request perFrame first chain.uploaded)
  replies : (ds.take accepted.length).map (replyOf framing) = accepted.map some
  proceed : ∀ reply ∈ accepted, reply.status = additionalFrameStatus
  stop : ds.length ≤ accepted.length + 1
  bound : chain.response.length + (joined accepted).length ≤ request.maximumResponse
  success : ∀ response, r = .ok response →
    chunks.flatten = request.data.drop chain.uploaded ∧
    ∃ final, ds.map (replyOf framing) = (accepted ++ [final]).map some ∧
      final.status ≠ additionalFrameStatus ∧
      response = ⟨final.status,chain.response ++ joined (accepted ++ [final])⟩ ∧
      response.data.length ≤ request.maximumResponse

namespace ChainTrace
variable {framing : Framing} {request : Request} {perFrame n : Nat} {first : Bool} {chain : Chain}

theorem withheld (hp : Positioned request perFrame first chain) (f : Fault) :
    ChainTrace framing request perFrame n first chain (.error f) [] [] [] where
  frames := rfl
  wires := rfl
  upload := List.nil_prefix
  count := Nat.zero_le n
  fits := by simp
  sizes := by simp
  second := by simp
  replies := rfl
  proceed := by simp
  stop := Nat.zero_le _
  bound := hp.response
  success := by simp

theorem abandoned (hp : Positioned request perFrame first chain) {t : Transaction} {d : Delivery}
    (hd : t.Carries chain.command (chunk request perFrame first chain) d) (f : Fault) :
    ChainTrace t.framing request perFrame (n+1) first chain (.error f) [d]
      [chunk request perFrame first chain] [] where
  frames := by simp [stamped,hd.1,openFrame_wire hd.2]
  wires := by simp [stamped,hd.1]
  upload := by simpa [chunk] using List.take_prefix _ _
  count := by simp
  fits := by simpa [hp.length_chunk] using hp.currentSize_le.2
  sizes := by simp [hp.length_chunk]
  second := by simp
  replies := rfl
  proceed := by simp
  stop := Nat.le_refl 1
  bound := hp.response
  success := by simp

theorem complete (hp : Positioned request perFrame first chain) {t : Transaction} {d : Delivery}
    (hd : t.Carries chain.command (chunk request perFrame first chain) d) {response : Response}
    (hreply : replyOf t.framing d = some response)
    (hbound : response.data.length ≤ sizeSub request.maximumResponse chain.response.length)
    (hall : request.data.length ≤ (chain.accept request perFrame first response).uploaded)
    (hstatus : response.status ≠ additionalFrameStatus) :
    ChainTrace t.framing request perFrame (n+1) first chain
      (.ok ⟨response.status,(chain.accept request perFrame first response).response⟩) [d]
      [chunk request perFrame first chain] [] where
  __ := abandoned (n := n) hp hd .thrown
  success := by
    rintro _ ⟨⟩
    have hrest := hp.chunk_append response
    rw [List.drop_of_length_le hall,List.append_nil] at hrest
    refine ⟨by simpa using hrest,response,by simp [hreply],hstatus,by simp [Chain.accept],?_⟩
    exact (hp.accept hbound).response

theorem extend (hp : Positioned request perFrame first chain) {t : Transaction} {d : Delivery}
    (hd : t.Carries chain.command (chunk request perFrame first chain) d) {response : Response}
    (hreply : replyOf t.framing d = some response)
    (hstatus : response.status = additionalFrameStatus) {r : Except Fault Response}
    {ds : List Delivery} {chunks : List Bytes} {accepted : List Response}
    (hrest : ChainTrace t.framing request perFrame n false
      (chain.accept request perFrame first response) r ds chunks accepted) :
    ChainTrace t.framing request perFrame (n+1) first chain r (d :: ds)
      (chunk request perFrame first chain :: chunks) (response :: accepted) where
  frames := by simpa [stamped,hd.1,openFrame_wire hd.2] using hrest.frames
  wires := by simpa [stamped,hd.1] using hrest.wires
  upload := by
    rw [List.flatten_cons,← hp.chunk_append response]
    exact (List.prefix_append_right_inj _).mpr hrest.upload
  count := by simpa using hrest.count
  fits := by
    simp only [List.forall_mem_cons]
    exact ⟨by rw [hp.length_chunk]; exact hp.currentSize_le.2,hrest.fits⟩
  sizes := by simp [hp.length_chunk]
  second := by
    intro hfirst chunk hchunk
    have hsize := hrest.sizes chunk (by simpa [List.head?_eq_getElem?] using hchunk)
    have hfresh := hp.fresh hfirst
    have hpos := hp.currentSize_le
    have hnext : (chain.accept request perFrame first response).uploaded =
        currentSize request perFrame first chain.uploaded := by
      rw [Chain.accept_uploaded,hfresh,Nat.zero_add]
    rw [hsize,hnext]
    change min perFrame (sizeSub _ _) = _
    rw [sizeSub_of_le (by omega)]
  replies := by simpa [hreply] using hrest.replies
  proceed := by simpa [hstatus] using hrest.proceed
  stop := by simpa using hrest.stop
  bound := by
    have := hrest.bound
    simp only [Chain.accept,List.length_append,joined_cons] at this ⊢
    omega
  success := by
    intro response' hr
    obtain ⟨hupload,final,hreplies,hfinal,hdata,hmaximum⟩ := hrest.success response' hr
    refine ⟨?_,final,?_,hfinal,?_,hmaximum⟩
    · rw [List.flatten_cons,hupload,hp.chunk_append response]
    · simpa [hreply] using hreplies
    · simpa [Chain.accept] using hdata

end ChainTrace

theorem ChainRun.trace {o : Oracle Environment} {request : Request} {perFrame n : Nat} {first : Bool} {chain : Chain}
    {t t' : Transaction} {r : Except Fault Response} {ds : List Delivery}
    (hrun : ChainRun o request perFrame n first chain t r t' ds)
    (hp : Positioned request perFrame first chain) :
    ∃ chunks accepted,
      ChainTrace t.framing request perFrame n first chain r ds chunks accepted := by
  induction hrun with
  | exhausted e he => exact ⟨_,_,.withheld hp _⟩
  | stopped hframe =>
    cases hframe with
    | threw | unsent => exact ⟨_,_,.withheld hp _⟩
    | failed d hd | discarded d hd => exact ⟨_,_,.abandoned hp hd _⟩
  | refused hframe e he =>
    cases hframe with
    | replied d hd => exact ⟨_,_,.abandoned hp hd _⟩
  | finished hframe hbound hall hstatus =>
    cases hframe with
    | replied d hd bytes hanswer _ hresponse =>
      exact ⟨_,_,.complete hp hd (replyOf_eq hanswer hresponse) hbound hall hstatus⟩
  | continued hframe hbound hquiet hstatus hrest ih =>
    cases hframe with
    | replied d hd bytes hanswer _ hresponse =>
      obtain ⟨chunks,accepted,htrace⟩ := ih (hp.accept hbound)
      exact ⟨_,_,.extend hp hd (replyOf_eq hanswer hresponse) hstatus htrace⟩

/-- A lossless exchange: `chunks` are the payloads of its frames and `accepted` the replies
after which another frame was due. -/
structure Lossless (framing : Framing) (limits : TransportCapabilities) (request : Request)
    (r : Except Fault Response) (ds : List Delivery) (chunks : List Bytes)
    (accepted : List Response) : Prop where
  frames : ds.map (fun d => openFrame framing d.frame) = (stamped request.command chunks).map some
  upload : chunks.flatten <+: request.data
  boundary : ∀ size ∈ request.firstFrameDataSize, ∀ chunk ∈ chunks[0]?, chunk.length = size
  single : request.singleContinuationFrame = true →
    ∀ chunk₀ ∈ chunks[0]?, ∀ chunk₁ ∈ chunks[1]?, chunk₀ ++ chunk₁ = request.data
  native : ∀ chunk ∈ chunks, chunk.length + 1 ≤ limits.maxNativeFrame
  transmit : ∀ d ∈ ds, d.frame.length ≤ limits.maxTransmit
  short : framing = .isoWrapped → ∀ d ∈ ds, d.frame.length ≤ 261
  count : ds.length ≤ 4096
  replies : (ds.take accepted.length).map (replyOf framing) = accepted.map some
  proceed : ∀ reply ∈ accepted, reply.status = additionalFrameStatus
  stop : ds.length ≤ accepted.length + 1
  room : (joined accepted).length ≤ request.maximumResponse
  success : ∀ response, r = .ok response →
    chunks.flatten = request.data ∧
    ∃ final, ds.map (replyOf framing) = (accepted ++ [final]).map some ∧
      final.status ≠ additionalFrameStatus ∧
      response = ⟨final.status,joined (accepted ++ [final])⟩ ∧
      response.data.length ≤ request.maximumResponse

theorem length_stamped (command : Byte) (chunks : List Bytes) :
    (stamped command chunks).length = chunks.length := by
  induction chunks generalizing command with
  | nil => rfl
  | cons chunk chunks ih => simp [stamped,ih]

theorem mem_stamped {command : Byte} {chunks : List Bytes} {p : Byte × Bytes}
    (h : p ∈ stamped command chunks) : p.2 ∈ chunks := by
  induction chunks generalizing command with
  | nil => cases h
  | cons chunk chunks ih =>
    rcases List.mem_cons.mp h with rfl | h
    · exact List.mem_cons_self
    · exact List.mem_cons_of_mem _ (ih h)

theorem lossless_unsent (framing : Framing) (limits : TransportCapabilities) (request : Request)
    (f : Fault) : Lossless framing limits request (.error f) [] [] [] where
  frames := rfl
  upload := List.nil_prefix
  boundary := by simp
  single := by simp
  native := by simp
  transmit := by simp
  short := by simp
  count := Nat.zero_le _
  replies := rfl
  proceed := by simp
  stop := Nat.zero_le _
  room := Nat.zero_le _
  success := by simp

theorem dataPerFrame_le (framing : Framing) (limits : TransportCapabilities) :
    dataPerFrame framing limits ≤ limits.maxNativeFrame - 1 ∧
      dataPerFrame framing limits ≤ limits.maxTransmit - framingOverhead framing := by
  cases framing <;> simp only [dataPerFrame] <;> omega

theorem currentSize_required {request : Request} {perFrame uploaded size : Nat}
    (h : size ∈ request.firstFrameDataSize) : currentSize request perFrame true uploaded = size := by
  simp [currentSize,Option.mem_def.mp h]

/-- The first two frames of a bounded upload take the whole request. -/
theorem take_append_of_single {data chunk₀ chunk₁ : Bytes} {chunks : List Bytes}
    (hupload : (chunk₀ :: chunk₁ :: chunks).flatten <+: data)
    (hsize : chunk₀.length + chunk₁.length = data.length) : chunk₀ ++ chunk₁ = data := by
  rw [List.flatten_cons,List.flatten_cons,← List.append_assoc] at hupload
  have hfront := (List.prefix_append _ _).trans hupload
  exact hfront.eq_of_length (by simpa using hsize)

theorem ChainTrace.lossless {framing : Framing} {limits : TransportCapabilities} {request : Request}
    {r : Except Fault Response} {ds : List Delivery} {chunks : List Bytes} {accepted : List Response}
    (htransmit : framingOverhead framing < limits.maxTransmit) (hnative : 2 ≤ limits.maxNativeFrame)
    (hfirst : ∀ size ∈ request.firstFrameDataSize,
      0 < size ∧ size < request.data.length ∧ size ≤ dataPerFrame framing limits)
    (hsingle : request.singleContinuationFrame → ∃ size ∈ request.firstFrameDataSize,
      request.data.length - size ≤ dataPerFrame framing limits)
    (htrace : ChainTrace framing request (dataPerFrame framing limits) maximumChainFrames true
      ⟨0,request.command,[]⟩ r ds chunks accepted) :
    Lossless framing limits request r ds chunks accepted := by
  have hperFrame := dataPerFrame_le framing limits
  have hsize₀ : ∀ size ∈ request.firstFrameDataSize, ∀ chunk ∈ chunks[0]?, chunk.length = size := by
    intro size hsize chunk hchunk
    rw [htrace.sizes chunk (by rwa [List.head?_eq_getElem?]),currentSize_required hsize]
  have hwire : ∀ d ∈ ds, ∃ p ∈ stamped request.command chunks, wire framing p.1 p.2 = d.frame := by
    intro d hd
    have hmem := List.mem_map_of_mem (f := Delivery.frame) hd
    rw [htrace.wires] at hmem
    exact List.mem_map.mp hmem
  exact {
    frames := htrace.frames
    upload := by simpa using htrace.upload
    boundary := hsize₀
    single := by
      intro hrequired chunk₀ hchunk₀ chunk₁ hchunk₁
      obtain ⟨size,hsize,hrest⟩ := hsingle hrequired
      have hsecond := htrace.second rfl chunk₁ hchunk₁
      have hbounds := hfirst size hsize
      rw [currentSize_required hsize] at hsecond
      obtain ⟨chunk₂,chunks',rfl⟩ : ∃ a l, chunks = a :: l := by
        cases chunks with
        | nil => cases hchunk₀
        | cons a l => exact ⟨a,l,rfl⟩
      obtain ⟨chunk₃,chunks'',rfl⟩ : ∃ a l, chunks' = a :: l := by
        cases chunks' with
        | nil => cases hchunk₁
        | cons a l => exact ⟨a,l,rfl⟩
      cases hchunk₀
      cases hchunk₁
      have hlength := hsize₀ size hsize _ rfl
      exact take_append_of_single (by simpa using htrace.upload) (by omega)
    native := fun chunk hchunk => by
      have := htrace.fits chunk hchunk
      omega
    transmit := fun d hd => by
      obtain ⟨p,hp,hframe⟩ := hwire d hd
      have := htrace.fits p.2 (mem_stamped hp)
      have := length_wire_le framing p.1 p.2
      rw [← hframe]
      omega
    short := by
      rintro rfl d hd
      obtain ⟨p,hp,hframe⟩ := hwire d hd
      rw [← hframe]
      exact length_wire_isoWrapped
    count := by
      have hlength := congrArg List.length htrace.wires
      simp only [List.length_map,length_stamped] at hlength
      rw [hlength]
      exact htrace.count
    replies := htrace.replies
    proceed := htrace.proceed
    stop := htrace.stop
    room := by simpa using htrace.bound
    success := by simpa using htrace.success }

/-- An exchange hands over nothing but its command and its data. -/
theorem ExchangeRun.carried {o : Oracle Environment} {request : Request} {t t' : Transaction}
    {r : Except Fault Response} {ds : List Delivery} (hrun : ExchangeRun o request t r t' ds) :
    Carried t.framing request.command request.data ds := by
  cases hrun with
  | threw | unsent => exact carried_nil _ _ _
  | chained h' limits hlimits hmaximum htransmit hnative hpositive hfirst hsingle hrun =>
    have hp : Positioned request (dataPerFrame t.framing limits) true ⟨0,request.command,[]⟩ :=
      ⟨Nat.zero_le _,Nat.zero_le _,fun _ => rfl,fun size hsize => by
        have := hfirst size hsize
        omega⟩
    obtain ⟨chunks,accepted,htrace⟩ := hrun.trace hp
    exact ⟨chunks,by simpa using htrace.upload,htrace.wires⟩

/-- A response is what all replies carried, with the status of the last one. -/
theorem ExchangeRun.answered {o : Oracle Environment} {request : Request} {t t' : Transaction}
    {response : Response} {ds : List Delivery} (hrun : ExchangeRun o request t (.ok response) t' ds) :
    Answered t.framing response ds := by
  cases hrun with
  | chained h' limits hlimits hmaximum htransmit hnative hpositive hfirst hsingle hrun =>
    have hp : Positioned request (dataPerFrame t.framing limits) true ⟨0,request.command,[]⟩ :=
      ⟨Nat.zero_le _,Nat.zero_le _,fun _ => rfl,fun size hsize => by
        have := hfirst size hsize
        omega⟩
    obtain ⟨chunks,accepted,htrace⟩ := hrun.trace hp
    obtain ⟨_,final,hreplies,_,hresponse,_⟩ := htrace.success response rfl
    exact ⟨accepted,final,hreplies,hresponse⟩

theorem ExchangeRun.lossless {o : Oracle Environment} {limits : TransportCapabilities}
    (hlimits : ∀ h, o h .capabilities = some limits) {request : Request} {t t' : Transaction}
    {r : Except Fault Response} {ds : List Delivery} (hrun : ExchangeRun o request t r t' ds) :
    ∃ chunks accepted, Lossless t.framing limits request r ds chunks accepted := by
  cases hrun with
  | threw => exact ⟨_,_,lossless_unsent ..⟩
  | unsent => exact ⟨_,_,lossless_unsent ..⟩
  | chained h' limits' hlimits' hmaximum htransmit hnative hpositive hfirst hsingle hrun =>
    obtain rfl : limits = limits' := Option.some.inj ((hlimits h').symm.trans hlimits')
    have hp : Positioned request (dataPerFrame t.framing limits) true ⟨0,request.command,[]⟩ :=
      ⟨Nat.zero_le _,Nat.zero_le _,fun _ => rfl,fun size hsize => by
        have := hfirst size hsize
        omega⟩
    obtain ⟨chunks,accepted,htrace⟩ := hrun.trace hp
    exact ⟨chunks,accepted,htrace.lossless htransmit hnative hfirst hsingle⟩

/-- Over a transport with constant limits every exchange is lossless, whatever the card replies. -/
theorem exchange_lossless (o : Oracle Environment) (limits : TransportCapabilities)
    (hlimits : ∀ h, o h .capabilities = some limits) (request : Request) (t : Transaction)
    (h : Trace Environment) :
    ∃ chunks accepted, Lossless t.framing limits request (exchange request o h t).result
      (deliveries (exchange request o h t).events) chunks accepted :=
  (exchange_runs o request t h).lossless hlimits

/-- A three-frame upload over a direct connection that carries four data bytes a frame. -/
theorem exchange_lossless_upload :
    ∃ chunks accepted, Lossless .direct {maxNativeFrame := 5}
      {command := 0x3D,data := [1,2,3,4,5,6,7,8,9]}
      (exchange {command := 0x3D,data := [1,2,3,4,5,6,7,8,9]}
        (scripted {limits := {maxNativeFrame := 5},replies := [[0xAF],[0xAF],[0x00]].map .ok}) []
        ⟨.direct,1,0,false⟩).result
      (deliveries (exchange {command := 0x3D,data := [1,2,3,4,5,6,7,8,9]}
        (scripted {limits := {maxNativeFrame := 5},replies := [[0xAF],[0xAF],[0x00]].map .ok}) []
        ⟨.direct,1,0,false⟩).events) chunks accepted :=
  exchange_lossless _ {maxNativeFrame := 5} (fun _ => rfl) _ ⟨.direct,1,0,false⟩ []

end Transaction
end DesfireSdk.Native.Raw
