import DesfireSdk.Native.Raw.Chaining

/-!
# How many frames an upload takes

A chained exchange reads a definite error in the last frame of its upload, and
takes the same answer to an earlier frame for a broken continuation.
-/
namespace DesfireSdk.Native.Raw
open Interaction Program

/-- The frames that carry the rest of an upload. -/
def continuationFrames (perFrame rest : Nat) : Nat := (rest + perFrame - 1) / perFrame

/-- The frames that an upload of this size takes, the first one included. -/
def framesNeeded (firstFrame : Option Nat) (size perFrame : Nat) : Nat :=
  1 + continuationFrames perFrame (size - firstFrame.getD (min perFrame size))

theorem continuationFrames_zero {perFrame : Nat} (hpositive : 0 < perFrame) :
    continuationFrames perFrame 0 = 0 :=
  Nat.div_eq_of_lt (by omega)

/-- One more frame takes as much of the rest as it can carry. -/
theorem continuationFrames_step {perFrame rest : Nat} (hpositive : 0 < perFrame) (hrest : 0 < rest) :
    continuationFrames perFrame rest = 1 + continuationFrames perFrame (rest - min perFrame rest) := by
  unfold continuationFrames
  by_cases hlast : rest ≤ perFrame
  · have hnone : (rest - min perFrame rest + perFrame - 1) / perFrame = 0 :=
      Nat.div_eq_of_lt (by omega)
    have hone : (rest + perFrame - 1) / perFrame = 1 :=
      Nat.div_eq_of_lt_le (by omega) (by omega)
    omega
  · have hsplit : rest + perFrame - 1 = (rest - min perFrame rest + perFrame - 1) + perFrame := by omega
    rw [hsplit,Nat.add_div_right _ hpositive,Nat.add_comm]

theorem continuationFrames_pos {perFrame rest : Nat} (hpositive : 0 < perFrame) (hrest : 0 < rest) :
    0 < continuationFrames perFrame rest := by
  rw [continuationFrames_step hpositive hrest]
  omega

/-- The bytes of a reply without data. -/
def statusSize : Framing → Nat
  | .direct => 1
  | .isoWrapped => 2

theorem length_of_decode {framing : Framing} {bytes : Bytes} {response : Response}
    (h : decode bytes framing = .ok response) : bytes.length = response.data.length + statusSize framing := by
  cases framing with
  | direct => cases bytes <;> cases h; rfl
  | isoWrapped =>
    simp only [decode,decodeIsoWrapped] at h
    split at h <;> cases h
    simp only [List.length_take,statusSize]
    omega

theorem replyOf_some {framing : Framing} {d : Delivery} {response : Response}
    (h : replyOf framing d = some response) :
    ∃ bytes, d.handover.answer = .ok bytes ∧ decode bytes framing = .ok response := by
  unfold replyOf at h
  cases hanswer : d.handover.answer with
  | error f => rw [hanswer] at h; cases h
  | ok bytes =>
    simp only [hanswer] at h
    cases hdecode : decode bytes framing with
    | error e => rw [hdecode] at h; cases h
    | ok reply =>
      rw [hdecode] at h
      cases h
      exact ⟨bytes,rfl,hdecode⟩

/-- The transport reports one set of limits and one generation. -/
structure Steady (o : Oracle Environment) (limits : TransportCapabilities) : Prop where
  capabilities : ∀ h, o h .capabilities = some limits
  generation : ∀ h h', o h .generation = o h' .generation

/-- One frame is answered with a status and no data. -/
def AnsweredAt (framing : Framing) (status : Byte) (k : Nat) (ds : List Delivery) : Prop :=
  ∃ d, ds[k]? = some d ∧ replyOf framing d = some ⟨status,[]⟩

theorem AnsweredAt.single {framing : Framing} {status : Byte} {k : Nat} {d : Delivery}
    (h : AnsweredAt framing status k [d]) : k = 0 ∧ replyOf framing d = some ⟨status,[]⟩ := by
  obtain ⟨d',hd,hreply⟩ := h
  cases k with
  | zero => cases hd; exact ⟨rfl,hreply⟩
  | succ k => cases hd

theorem not_answeredAt_nil {framing : Framing} {status : Byte} {k : Nat} :
    ¬AnsweredAt framing status k [] := by
  rintro ⟨d,hd,_⟩
  cases hd

/-- The frame is the last one of an upload, and the reader has room for a status. -/
def Final (framing : Framing) (limits : TransportCapabilities) (needed k : Nat) : Prop :=
  k + 1 = needed ∧ statusSize framing ≤ limits.maxReceive

/-- What a definite error in one frame of an upload makes of the exchange: its report, or an
error that does not know it. -/
def Reported {α : Type} (framing : Framing) (limits : TransportCapabilities) (needed k : Nat)
    (report r : Except Fault α) : Prop :=
  (Final framing limits needed k ∧ r = report) ∨
    (¬Final framing limits needed k ∧ ∃ e : Error, r = .error (.error e) ∧ e.outcome = .unknown)

theorem Reported.failed {α : Type} {framing : Framing} {limits : TransportCapabilities} {needed k : Nat}
    {report : Except Fault α} {e : Error} (hearly : ¬Final framing limits needed k)
    (he : e.outcome = .unknown) : Reported framing limits needed k report (.error (.error e)) :=
  .inr ⟨hearly,e,rfl,he⟩

theorem Reported.map {α β : Type} {framing : Framing} {limits : TransportCapabilities} {needed k : Nat}
    {report r : Except Fault α} (f : α → β) (h : Reported framing limits needed k report r) :
    Reported framing limits needed k (report.map f) (r.map f) := by
  rcases h with ⟨hfinal,rfl⟩ | ⟨hearly,e,rfl,he⟩
  · exact .inl ⟨hfinal,rfl⟩
  · exact .failed hearly he

/-- A report that is no error of unknown outcome appears exactly for the last frame. -/
theorem Reported.iff {α : Type} {framing : Framing} {limits : TransportCapabilities} {needed k : Nat}
    {report r : Except Fault α} (h : Reported framing limits needed k report r)
    (hknown : ∀ e : Error, report = .error (.error e) → e.outcome ≠ .unknown) :
    r = report ↔ Final framing limits needed k := by
  rcases h with ⟨hfinal,rfl⟩ | ⟨hearly,e,rfl,he⟩
  · exact ⟨fun _ => hfinal,fun _ => rfl⟩
  · exact ⟨fun hr => absurd he (hknown e hr.symm),fun hfinal => absurd hfinal hearly⟩

namespace Transaction

/-- The frames of the upload that are due at a position. -/
def framesLeft (request : Request) (perFrame : Nat) (first : Bool) (uploaded : Nat) : Nat :=
  if first then framesNeeded request.firstFrameDataSize request.data.length perFrame
  else continuationFrames perFrame (request.data.length - uploaded)

section Positions
variable {request : Request} {perFrame : Nat} {first : Bool} {chain : Chain}

/-- A frame of the upload leaves one frame less, and none exactly when all data is sent. -/
theorem framesLeft_step (hp : Positioned request perFrame first chain) (hpositive : 0 < perFrame)
    (hdue : 0 < framesLeft request perFrame first chain.uploaded) (response : Response) :
    framesLeft request perFrame first chain.uploaded =
      1 + framesLeft request perFrame false (chain.accept request perFrame first response).uploaded := by
  have hrest := sizeSub_of_le hp.uploaded
  cases first with
  | true =>
    have hfresh := hp.fresh rfl
    simp only [framesLeft,framesNeeded,Chain.accept,hfresh,if_true,Bool.false_eq_true,if_false,Nat.zero_add]
    congr 2
    cases hsize : request.firstFrameDataSize with
    | none =>
      simp only [currentSize,hsize,Option.getD_none]
      rw [sizeSub_of_le (Nat.zero_le _),Nat.sub_zero]
    | some size => simp only [currentSize,hsize,Option.getD_some]
  | false =>
    simp only [framesLeft,Bool.false_eq_true,if_false] at hdue ⊢
    have hmore : 0 < request.data.length - chain.uploaded := by
      by_contra hnone
      rw [Nat.eq_zero_of_not_pos hnone,continuationFrames_zero hpositive] at hdue
      cases hdue
    rw [continuationFrames_step hpositive hmore]
    congr 2
    simp only [Chain.accept,currentSize,hrest]
    omega

theorem framesLeft_pos (request : Request) (hpositive : 0 < perFrame) (uploaded : Nat) :
    0 < framesLeft request perFrame false uploaded ↔ uploaded < request.data.length := by
  simp only [framesLeft,Bool.false_eq_true,if_false]
  constructor
  · intro hdue
    by_contra hnone
    rw [Nat.sub_eq_zero_of_le (Nat.le_of_not_lt hnone),continuationFrames_zero hpositive] at hdue
    cases hdue
  · intro hmore
    exact continuationFrames_pos hpositive (by omega)

end Positions

/-- A frame that fails was not answered, or the reader has no room for a status. -/
theorem FrameCase.reported {o : Oracle Environment} {limits : TransportCapabilities}
    (hsteady : Steady o limits) {t t' : Transaction} {command : Byte} {data : Bytes} {f : Fault}
    {ds : List Delivery} (hframe : t.FrameCase o command data (.error f) t' ds) {left k : Nat}
    {status : Byte} {report : Except Fault Response} (hanswered : AnsweredAt t.framing status k ds) :
    Reported t.framing limits left k report (.error f) := by
  cases hframe with
  | threw | unsent => exact absurd hanswered not_answeredAt_nil
  | failed d hd f hanswer =>
    obtain ⟨_,hreply⟩ := hanswered.single
    simp [replyOf,hanswer] at hreply
  | discarded d hd bytes hanswer e he hspoiled =>
    obtain ⟨_,hreply⟩ := hanswered.single
    obtain ⟨_,hbytes,hdecode⟩ := replyOf_some hreply
    cases hanswer.symm.trans hbytes
    refine .failed ?_ he
    rcases hspoiled with ⟨h,h',hchanged⟩ | ⟨h,limits',hlimits,hlong⟩ | ⟨e',hbad⟩
    · exact absurd (hsteady.generation h h') hchanged
    · cases (hsteady.capabilities h).symm.trans hlimits
      rw [length_of_decode hdecode] at hlong
      intro hfinal
      exact absurd hfinal.2 (by simp only [List.length_nil] at hlong; omega)
    · rw [hdecode] at hbad
      cases hbad

theorem ChainRun.reported {o : Oracle Environment} {limits : TransportCapabilities}
    (hsteady : Steady o limits) {request : Request} {perFrame n : Nat} {first : Bool} {chain : Chain}
    {t t' : Transaction} {r : Except Fault Response} {ds : List Delivery}
    (hrun : ChainRun o request perFrame n first chain t r t' ds)
    (hp : Positioned request perFrame first chain) (hpositive : 0 < perFrame) {k : Nat} {status : Byte}
    (hanswered : AnsweredAt t.framing status k ds)
    (hdue : k < framesLeft request perFrame first chain.uploaded)
    (hstatus : status ≠ additionalFrameStatus) :
    Reported t.framing limits (framesLeft request perFrame first chain.uploaded) k
      (.ok ⟨status,chain.response⟩) r := by
  induction hrun generalizing k with
  | exhausted e he => exact absurd hanswered not_answeredAt_nil
  | stopped hframe => exact hframe.reported hsteady hanswered
  | @refused n first chain t response t' ds hframe e he hunfit =>
    refine .failed ?_ he
    cases hframe with
    | replied d hd bytes hanswer _ hresponse =>
      obtain ⟨rfl,hreply⟩ := hanswered.single
      cases (replyOf_eq hanswer hresponse).symm.trans hreply
      have hstep := framesLeft_step hp hpositive hdue ⟨status,[]⟩
      rcases hunfit with hlong | ⟨hmore,_⟩
      · cases hlong
      · have hrest := (framesLeft_pos request hpositive _).mpr hmore
        intro hfinal
        have := hfinal.1
        omega
  | @finished n first chain t response t' ds hframe hbound hall _ =>
    cases hframe with
    | replied d hd bytes hanswer _ hresponse hroom =>
      obtain ⟨rfl,hreply⟩ := hanswered.single
      cases (replyOf_eq hanswer hresponse).symm.trans hreply
      have hstep := framesLeft_step hp hpositive hdue ⟨status,[]⟩
      have hnone := (framesLeft_pos request hpositive
        (chain.accept request perFrame first ⟨status,[]⟩).uploaded).not.mpr (Nat.not_lt.mpr hall)
      obtain ⟨h,limits',hlimits,hfits⟩ := hroom
      cases (hsteady.capabilities h).symm.trans hlimits
      rw [length_of_decode hresponse,List.length_nil,Nat.zero_add] at hfits
      refine .inl ⟨⟨by omega,hfits⟩,?_⟩
      simp [Chain.accept]
  | @continued n first chain t response t₁ ds₁ r t' ds hframe hbound hquiet hmore hrest ih =>
    cases hframe with
    | replied d hd bytes hanswer _ hresponse =>
      have hstep := framesLeft_step hp hpositive (by omega) response
      cases k with
      | zero =>
        obtain ⟨_,⟨⟩,hreply⟩ := hanswered
        cases (replyOf_eq hanswer hresponse).symm.trans hreply
        exact absurd hmore hstatus
      | succ k =>
        have hdue' : k < framesLeft request perFrame false
            (chain.accept request perFrame first response).uploaded := by omega
        have hdata := hquiet ((framesLeft_pos request hpositive _).mp (by omega))
        have hsame : (chain.accept request perFrame first response).response = chain.response := by
          simp [Chain.accept,hdata]
        have hfinal : Final t.framing limits (framesLeft request perFrame first chain.uploaded) (k+1) ↔
            Final t.framing limits (framesLeft request perFrame false
              (chain.accept request perFrame first response).uploaded) k := by
          unfold Final
          constructor <;> rintro ⟨hlast,hroom⟩ <;> exact ⟨by omega,hroom⟩
        have hreported := ih (hp.accept hbound) hanswered hdue'
        rw [hsame] at hreported
        unfold Reported at hreported ⊢
        rw [hfinal]
        exact hreported

/-- A definite error in a frame of the upload is read exactly in the last one. -/
theorem ExchangeRun.reported {o : Oracle Environment} {limits : TransportCapabilities}
    (hsteady : Steady o limits) {request : Request} {t t' : Transaction} {r : Except Fault Response}
    {ds : List Delivery} (hrun : ExchangeRun o request t r t' ds) {k : Nat} {status : Byte}
    (hanswered : AnsweredAt t.framing status k ds)
    (hdue : k < framesNeeded request.firstFrameDataSize request.data.length
      (dataPerFrame t.framing limits)) (hstatus : status ≠ additionalFrameStatus) :
    Reported t.framing limits (framesNeeded request.firstFrameDataSize request.data.length
      (dataPerFrame t.framing limits)) k (.ok ⟨status,[]⟩) r := by
  cases hrun with
  | threw | unsent => exact absurd hanswered not_answeredAt_nil
  | chained h limits' hlimits hmaximum htransmit hnative hpositive hfirst hsingle hrun =>
    cases (hsteady.capabilities h).symm.trans hlimits
    have hp : Positioned request (dataPerFrame t.framing limits) true ⟨0,request.command,[]⟩ :=
      ⟨Nat.zero_le _,Nat.zero_le _,fun _ => rfl,fun size hsize => by
        have := hfirst size hsize
        omega⟩
    exact hrun.reported hsteady hp hpositive hanswered hdue hstatus

end Transaction
end DesfireSdk.Native.Raw
