import DesfireSdk.Native.Raw.Evidence
import DesfireSdk.Native.Secure.Channel

/-! Every way a protected or an unprotected exchange of one command can go. -/
namespace DesfireSdk.Native.Secure
open Interaction Program

section Begin
variable {τ : Type}

/-- The ways to start an exclusive operation; none of them hands a frame over. -/
inductive BeginCase (channel : Raw.RawNativeChannel) (s : τ) :
    Except Fault Raw.Transaction → τ → List Delivery → Prop
  | refused (e : Error) (he : e.outcome = .notSent) (hcode : e.code ≠ .cardRejected) :
      BeginCase channel s (.error (.error e)) s []
  | begun (t : Raw.Transaction) (hframing : t.framing = channel.framing)
      (hsent : t.sentAnyFrame = false) : BeginCase channel s (.ok t) s []

theorem begin_cases (o : Oracle Environment) (channel : Raw.RawNativeChannel)
    (options : ExchangeOptions) (s : τ) :
    Delivers o (channel.begin options) s (BeginCase channel s) := by
  refine Op.ensures_refuse_bind (fun _ => .refused _ rfl (by simp [invalid])) fun _ => ?_
  refine Op.ensures_stopRequested_bind fun _ => ?_
  refine Op.ensures_refuse_bind (fun _ => .refused _ rfl (by simp)) fun _ => ?_
  refine Op.ensures_admission_bind fun _ => ?_
  refine Op.ensures_refuse_bind (fun _ => .refused _ rfl (by simp)) fun _ => ?_
  refine Op.ensures_refuse_bind (fun _ => .refused _ rfl (by simp)) fun _ => ?_
  refine Op.ensures_now_bind fun _ => Op.ensures_generation_bind fun _ => ?_
  exact ensures_pure (.begun _ rfl rfl)

end Begin

theorem validate_error {request : Request} {e : Error} (h : validate request = .error e) :
    e.outcome = .notSent ∧ e.code = .invalidArgument := by
  unfold validate at h
  split at h
  · cases h; exact ⟨rfl,rfl⟩
  · split at h
    · cases h; exact ⟨rfl,rfl⟩
    · split at h <;> cases h
      exact ⟨rfl,rfl⟩

theorem checkResponseSize_error {response : Bytes} {request : Request} {e : Error}
    (h : checkResponseSize response request = .error e) : e.outcome = .unknown := by
  unfold checkResponseSize at h
  split at h <;> cases h
  rfl

theorem checkResponseSize_ok {response checked : Bytes} {request : Request}
    (h : checkResponseSize response request = .ok checked) :
    checked = response ∧ request.minimumResponse ≤ response.length ∧
      response.length ≤ request.maximumResponse := by
  unfold checkResponseSize at h
  split at h <;> cases h
  exact ⟨rfl,by omega,by omega⟩

section Protected
variable {σ : Type} [SecureSession σ]

/-- The session a failure of a guarded step leaves. -/
def afterFault (s : σ) : Fault → σ
  | .error _ => SecureSession.invalidate s
  | .thrown => s

/-- Every way a protected exchange can go, by what its session does in `Prep` and `Acc`. -/
inductive ProtectedRun (o : Oracle Environment) (channel : Raw.RawNativeChannel) (request : Request)
    (s : σ) (Prep : Except Fault Bytes → σ → Trace Environment → Prop)
    (Acc : σ → Raw.Response → Except Fault Bytes → σ → Trace Environment → Prop) :
    Except Fault Bytes → σ → Trace Environment → Prop
  | refused (e : Error) (he : e.outcome = .notSent) (hcode : e.code ≠ .cardRejected)
      (es : Trace Environment) (hes : deliveries es = []) :
      ProtectedRun o channel request s Prep Acc (.error (.error e)) s es
  | unprepared {es₀ f s₁ es₁} (h₀ : deliveries es₀ = []) (hprep : Prep (.error f) s₁ es₁) :
      ProtectedRun o channel request s Prep Acc (.error f) (afterFault s₁ f) (es₀ ++ es₁)
  | failed {es₀ wire s₁ es₁ f es₂} {t t' : Raw.Transaction} (h₀ : deliveries es₀ = []) (hprep : Prep (.ok wire) s₁ es₁)
      (hframing : t.framing = channel.framing) (hsent : t.sentAnyFrame = false)
      (hrun : t.ExchangeRun o (rawRequest request wire) (.error f) t' (deliveries es₂)) :
      ProtectedRun o channel request s Prep Acc (.error f) (afterFault s₁ f) (es₀ ++ (es₁ ++ es₂))
  | rejected {es₀ wire s₁ es₁ response es₂} {t t' : Raw.Transaction} (h₀ : deliveries es₀ = [])
      (hprep : Prep (.ok wire) s₁ es₁) (hframing : t.framing = channel.framing)
      (hsent : t.sentAnyFrame = false)
      (hrun : t.ExchangeRun o (rawRequest request wire) (.ok response) t' (deliveries es₂))
      (hstatus : response.status ≠ 0x00) :
      ProtectedRun o channel request s Prep Acc (.error (.error (Secure.rejected response.status)))
        (SecureSession.invalidate s₁) (es₀ ++ (es₁ ++ es₂))
  | unaccepted {es₀ wire s₁ es₁ response es₂ f s₂ es₃} {t t' : Raw.Transaction} (h₀ : deliveries es₀ = [])
      (hprep : Prep (.ok wire) s₁ es₁) (hframing : t.framing = channel.framing)
      (hsent : t.sentAnyFrame = false)
      (hrun : t.ExchangeRun o (rawRequest request wire) (.ok response) t' (deliveries es₂))
      (hstatus : response.status = 0x00) (hacc : Acc s₁ response (.error f) s₂ es₃) :
      ProtectedRun o channel request s Prep Acc (.error f) (afterFault s₂ f)
        (es₀ ++ (es₁ ++ (es₂ ++ es₃)))
  | outsized {es₀ wire s₁ es₁ response es₂ clear s₂ es₃} {t t' : Raw.Transaction} (h₀ : deliveries es₀ = [])
      (hprep : Prep (.ok wire) s₁ es₁) (hframing : t.framing = channel.framing)
      (hsent : t.sentAnyFrame = false)
      (hrun : t.ExchangeRun o (rawRequest request wire) (.ok response) t' (deliveries es₂))
      (hstatus : response.status = 0x00) (hacc : Acc s₁ response (.ok clear) s₂ es₃) (e : Error)
      (he : e.outcome = .unknown) :
      ProtectedRun o channel request s Prep Acc (.error (.error e)) (SecureSession.invalidate s₂)
        (es₀ ++ (es₁ ++ (es₂ ++ es₃)))
  | done {es₀ wire s₁ es₁ response es₂ clear s₂ es₃} {t t' : Raw.Transaction} (h₀ : deliveries es₀ = [])
      (hprep : Prep (.ok wire) s₁ es₁) (hframing : t.framing = channel.framing)
      (hsent : t.sentAnyFrame = false)
      (hrun : t.ExchangeRun o (rawRequest request wire) (.ok response) t' (deliveries es₂))
      (hstatus : response.status = 0x00) (hacc : Acc s₁ response (.ok clear) s₂ es₃)
      (hsize : request.minimumResponse ≤ clear.length ∧ clear.length ≤ request.maximumResponse) :
      ProtectedRun o channel request s Prep Acc (.ok clear)
        (if request.invalidatesSession then SecureSession.invalidate s₂ else s₂)
        (es₀ ++ (es₁ ++ (es₂ ++ es₃)))

theorem exchangeProtected_runs {o : Oracle Environment} {channel : Raw.RawNativeChannel}
    {request : Request} {options : ExchangeOptions} {s : σ}
    {Prep : Except Fault Bytes → σ → Trace Environment → Prop}
    {Acc : σ → Raw.Response → Except Fault Bytes → σ → Trace Environment → Prop}
    (hprep : Ensures some o (prepare request) s Prep)
    (hacc : ∀ s₁ response, Ensures some o (accept request response) s₁ (Acc s₁ response)) :
    Ensures some o (exchangeProtected channel request options) s
      (ProtectedRun o channel request s Prep Acc) := by
  refine Op.ensures_ofResult_bind (fun e he => ?_) fun _ _ => ?_
  · obtain ⟨houtcome,hcode⟩ := validate_error he
    exact .refused e houtcome (by simp [hcode]) [] rfl
  refine ensures_bind (begin_cases o channel options s).full ?_ ?_
  · rintro _ _ es₀ hcase
    generalize hds : shown deliveryOf es₀ = ds₀ at hcase
    cases hcase with
    | refused e he hcode => exact .refused e he hcode es₀ hds
  rintro t s₀ es₀ hcase
  generalize h₀ : shown deliveryOf es₀ = ds₀ at hcase
  cases hcase with
  | begun _ hframing hsent =>
  refine ensures_bind (Op.ensures_onError (hprep.mono ?_)) ?_ ?_
    (m := fun r s' es => (∃ wire, r = .ok wire ∧ Prep (.ok wire) s' es) ∨
      ∃ f s₁, r = .error f ∧ s' = afterFault s₁ f ∧ Prep (.error f) s₁ es)
  · rintro (f | wire) s₁ es₁ h
    · cases f with
      | error e => exact .inr ⟨_,s₁,rfl,rfl,h⟩
      | thrown => exact .inr ⟨_,s₁,rfl,rfl,h⟩
    · exact .inl ⟨wire,rfl,h⟩
  · rintro _ _ es₁ (⟨_,⟨⟩,_⟩ | ⟨f,s₁,⟨⟩,rfl,h⟩)
    exact .unprepared h₀ h
  rintro wire s₁ es₁ (⟨_,⟨⟩,hprepared⟩ | ⟨_,_,⟨⟩,_⟩)
  refine ensures_bind (Op.ensures_onError (ensures_within
    ((Raw.Transaction.exchange_runs o (rawRequest request wire) t).full.mono ?_))) ?_ ?_
    (m := fun r s' es => (∃ response t', r = .ok response ∧ s' = s₁ ∧
      t.ExchangeRun o (rawRequest request wire) (.ok response) t' (deliveries es)) ∨
      ∃ f t', r = .error f ∧ s' = afterFault s₁ f ∧
        t.ExchangeRun o (rawRequest request wire) (.error f) t' (deliveries es))
  · rintro (f | response) t' es₂ h
    · cases f with
      | error e => exact .inr ⟨_,t',rfl,rfl,h⟩
      | thrown => exact .inr ⟨_,t',rfl,rfl,h⟩
    · exact .inl ⟨response,t',rfl,rfl,h⟩
  · rintro _ _ es₂ (⟨_,_,⟨⟩,_⟩ | ⟨f,t',⟨⟩,rfl,h⟩)
    exact .failed h₀ hprepared hframing hsent h
  rintro response s₁ es₂ (⟨_,t',⟨⟩,rfl,hrun⟩ | ⟨_,_,⟨⟩,_⟩)
  refine Op.ensures_refuseAfter_bind (fun hstatus => ?_) fun hstatus => ?_
  · rw [List.append_nil]
    exact .rejected h₀ hprepared hframing hsent hrun hstatus
  have hstatus := Decidable.not_not.mp hstatus
  refine ensures_bind (Op.ensures_onError ((hacc s₁ response).mono ?_)) ?_ ?_
    (m := fun r s' es => (∃ clear, r = .ok clear ∧ Acc s₁ response (.ok clear) s' es) ∨
      ∃ f s₂, r = .error f ∧ s' = afterFault s₂ f ∧ Acc s₁ response (.error f) s₂ es)
  · rintro (f | clear) s₂ es₃ h
    · cases f with
      | error e => exact .inr ⟨_,s₂,rfl,rfl,h⟩
      | thrown => exact .inr ⟨_,s₂,rfl,rfl,h⟩
    · exact .inl ⟨clear,rfl,h⟩
  · rintro _ _ es₃ (⟨_,⟨⟩,_⟩ | ⟨f,s₂,⟨⟩,rfl,h⟩)
    exact .unaccepted h₀ hprepared hframing hsent hrun hstatus h
  rintro clear s₂ es₃ (⟨_,⟨⟩,haccepted⟩ | ⟨_,_,⟨⟩,_⟩)
  refine ensures_bind (Op.ensures_onError (Op.ensures_ofResult ?_)) ?_ ?_
    (m := fun r s' es => es = [] ∧ ((r = .ok clear ∧ s' = s₂ ∧
      request.minimumResponse ≤ clear.length ∧ clear.length ≤ request.maximumResponse) ∨
      ∃ e, e.outcome = .unknown ∧ r = .error (.error e) ∧ s' = SecureSession.invalidate s₂))
  · cases hcheck : checkResponseSize clear request with
    | error e => exact ⟨rfl,.inr ⟨e,checkResponseSize_error hcheck,rfl,rfl⟩⟩
    | ok checked =>
      obtain ⟨rfl,hsize⟩ := checkResponseSize_ok hcheck
      exact ⟨rfl,.inl ⟨rfl,rfl,hsize⟩⟩
  · rintro _ _ _ ⟨rfl,⟨⟨⟩,_⟩ | ⟨e,he,⟨⟩,rfl⟩⟩
    rw [List.append_nil]
    exact .outsized h₀ hprepared hframing hsent hrun hstatus haccepted e he
  rintro _ _ _ ⟨rfl,⟨⟨⟩,rfl,hsize⟩ | ⟨_,_,⟨⟩,_⟩⟩
  refine ensures_modify_bind ?_
  refine ensures_pure ?_
  simp only [List.append_nil]
  exact .done h₀ hprepared hframing hsent hrun hstatus haccepted hsize

end Protected
end DesfireSdk.Native.Secure
