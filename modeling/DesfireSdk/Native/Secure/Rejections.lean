import DesfireSdk.Native.Raw.Uploads
import DesfireSdk.Native.Secure.Cases

/-! What the secure channel makes of a definite error in one frame of its upload. -/
namespace DesfireSdk.Native.Secure
open Interaction Program Security Raw
open Raw.Transaction (dataPerFrame)

variable {o : Oracle Environment} {limits : TransportCapabilities} {channel : RawNativeChannel}
  {request : Request} {k : Nat} {status : Byte}

/-- The raw exchange of a rejected upload fails without knowledge, or returns the status. -/
theorem reported_cases {needed : Nat} {framing : Framing} {r : Except Fault Response}
    (h : Reported framing limits needed k (.ok ⟨status,[]⟩) r) :
    (∀ f, r = .error f →
      Reported framing limits needed k (.error (.error (Secure.rejected status)) : Except Fault Bytes)
        (.error f)) ∧
    ∀ response, r = .ok response → response.status = status ∧ Final framing limits needed k := by
  rcases h with ⟨hfinal,rfl⟩ | ⟨hearly,e,rfl,he⟩
  · refine ⟨?_,?_⟩
    · rintro f ⟨⟩
    · rintro response ⟨⟩
      exact ⟨rfl,hfinal⟩
  · refine ⟨?_,?_⟩
    · rintro f ⟨⟩
      exact .failed hearly he
    · rintro response ⟨⟩

section Protected
variable {σ : Type} [SecureSession σ] {s s' : σ} {size : Nat}
  {Prep : Except Fault Bytes → σ → Trace Environment → Prop}
  {Acc : σ → Response → Except Fault Bytes → σ → Trace Environment → Prop}

theorem ProtectedRun.reported (hsteady : Steady o limits)
    (hprep : ∀ r s₁ es, Prep r s₁ es → deliveries es = [] ∧ ∀ wire, r = .ok wire → wire.length = size)
    (hacc : ∀ s₁ response r s₂ es, Acc s₁ response r s₂ es → deliveries es = [])
    {r : Except Fault Bytes} {es : Trace Environment}
    (hrun : ProtectedRun o channel request s Prep Acc r s' es)
    (hanswered : AnsweredAt channel.framing status k (deliveries es))
    (hdue : k < framesNeeded request.firstFrameDataSize size (dataPerFrame channel.framing limits))
    (hzero : status ≠ 0x00) (hmore : status ≠ additionalFrameStatus) :
    Reported channel.framing limits
      (framesNeeded request.firstFrameDataSize size (dataPerFrame channel.framing limits)) k
      (.error (.error (Secure.rejected status))) r := by
  have hraw : ∀ {wire s₁ es₁ t t' r' ds}, Prep (.ok wire) s₁ es₁ → t.framing = channel.framing →
      Transaction.ExchangeRun o (rawRequest request wire) t r' t' ds →
      AnsweredAt channel.framing status k ds →
      Reported channel.framing limits
        (framesNeeded request.firstFrameDataSize size (dataPerFrame channel.framing limits)) k
        (.ok ⟨status,[]⟩) r' := by
    intro wire s₁ es₁ t t' r' ds hprepared hframing hrun hanswered
    obtain rfl := (hprep _ _ _ hprepared).2 wire rfl
    rw [← hframing] at hanswered hdue ⊢
    exact hrun.reported hsteady hanswered hdue hmore
  cases hrun with
  | refused e he hcode es hes =>
    rw [hes] at hanswered
    exact absurd hanswered not_answeredAt_nil
  | unprepared h₀ hprepared =>
    rw [deliveries_append,h₀,(hprep _ _ _ hprepared).1] at hanswered
    exact absurd hanswered not_answeredAt_nil
  | failed h₀ hprepared hframing hsent hrun =>
    rw [deliveries_append,deliveries_append,h₀,(hprep _ _ _ hprepared).1] at hanswered
    exact (reported_cases (hraw hprepared hframing hrun hanswered)).1 _ rfl
  | rejected h₀ hprepared hframing hsent hrun hstatus =>
    rw [deliveries_append,deliveries_append,h₀,(hprep _ _ _ hprepared).1] at hanswered
    obtain ⟨rfl,hfinal⟩ := (reported_cases (hraw hprepared hframing hrun hanswered)).2 _ rfl
    exact .inl ⟨hfinal,rfl⟩
  | unaccepted h₀ hprepared hframing hsent hrun hstatus haccepted
  | outsized h₀ hprepared hframing hsent hrun hstatus haccepted
  | done h₀ hprepared hframing hsent hrun hstatus haccepted =>
    rw [deliveries_append,deliveries_append,deliveries_append,h₀,(hprep _ _ _ hprepared).1,
      hacc _ _ _ _ _ haccepted,List.append_nil] at hanswered
    obtain ⟨rfl,_⟩ := (reported_cases (hraw hprepared hframing hrun hanswered)).2 _ rfl
    exact absurd hstatus hzero

end Protected

theorem UnprotectedRun.reported (hsteady : Steady o limits) {r : Except Fault Bytes} {ds : List Delivery}
    (hrun : UnprotectedRun o channel request r ds) (hanswered : AnsweredAt channel.framing status k ds)
    (hdue : k < framesNeeded request.firstFrameDataSize (clearPayload request).length
      (dataPerFrame channel.framing limits))
    (hzero : status ≠ 0x00) (hmore : status ≠ additionalFrameStatus) :
    Reported channel.framing limits (framesNeeded request.firstFrameDataSize
      (clearPayload request).length (dataPerFrame channel.framing limits)) k
      (.error (.error (Secure.rejected status))) r := by
  have hraw : ∀ {t t' r'}, t.framing = channel.framing →
      Transaction.ExchangeRun o (rawRequest request (clearPayload request)) t r' t' ds →
      Reported channel.framing limits (framesNeeded request.firstFrameDataSize
        (clearPayload request).length (dataPerFrame channel.framing limits)) k (.ok ⟨status,[]⟩) r' := by
    intro t t' r' hframing hrun
    rw [← hframing] at hanswered hdue ⊢
    exact hrun.reported hsteady hanswered hdue hmore
  cases hrun with
  | refused => exact absurd hanswered not_answeredAt_nil
  | failed hframing hsent hrun => exact (reported_cases (hraw hframing hrun)).1 _ rfl
  | rejected hframing hsent hrun hstatus =>
    obtain ⟨rfl,hfinal⟩ := (reported_cases (hraw hframing hrun)).2 _ rfl
    exact .inl ⟨hfinal,rfl⟩
  | outsized hframing hsent hrun hstatus | done hframing hsent hrun hstatus =>
    obtain ⟨rfl,_⟩ := (reported_cases (hraw hframing hrun)).2 _ rfl
    exact absurd hstatus hzero

theorem ev2_prepared {s s' : Ev2.Session} {r : Except Fault Bytes} {es : Trace Environment}
    (h : Ev2Prepare request s r s' es) :
    deliveries es = [] ∧ ∀ wire, r = .ok wire → wire.length = protectedLength request := by
  refine ⟨h.cryptographic.deliveries,?_⟩
  rintro wire rfl
  exact h.prepared.length

theorem aes_prepared {s s' : StandardAes.Session} {r : Except Fault Bytes} {es : Trace Environment}
    {size : Nat} (h : StandardAes.Session.PrepareCase s size r s' es) :
    deliveries es = [] ∧ ∀ wire, r = .ok wire → wire.length = size := by
  refine ⟨h.cryptographic.deliveries,?_⟩
  rintro wire rfl
  cases h
  assumption

end DesfireSdk.Native.Secure
