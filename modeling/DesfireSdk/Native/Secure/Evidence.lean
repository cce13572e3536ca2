import DesfireSdk.Native.Secure.Cases
import DesfireSdk.Security.Ev2.Evaluation

/-! What an error of a secure exchange says about the frames the transport answered. -/
namespace DesfireSdk.Native.Secure
open Interaction Program Security

/-- An error of the exchange never denies a frame that the transport answered. -/
def Truthful {σ : Type} [SecureSession σ] (s : σ) (request : Request) : Prop :=
  ∀ (o : Oracle Environment) (h : Trace Environment) (channel : Raw.RawNativeChannel)
    (options : ExchangeOptions) (e : Error),
    (exchangeProtected channel request options o h s).result = .error (.error e) →
      (∃ d ∈ deliveries (exchangeProtected channel request options o h s).events, d.Answered) →
        e.outcome ≠ .notSent

/-- The required first frame can be cut from a message of this length. -/
def Request.Splits (request : Request) (length : Nat) : Prop :=
  (∀ size ∈ request.firstFrameDataSize, 0 < size ∧ size < length) ∧
    (request.singleContinuationFrame = true → request.firstFrameDataSize.isSome)

section Generic
variable {σ : Type} [SecureSession σ] {o : Oracle Environment} {channel : Raw.RawNativeChannel}
  {request : Request} {s : σ}

theorem splits_of_chained {t t' : Raw.Transaction} {wire : Bytes} {response : Raw.Response}
    {ds : List Delivery}
    (hrun : t.ExchangeRun o (rawRequest request wire) (.ok response) t' ds) :
    request.Splits wire.length := by
  cases hrun with
  | chained _ _ _ _ _ _ _ hfirst hsingle _ =>
    refine ⟨fun size hsize => ⟨(hfirst size hsize).1,(hfirst size hsize).2.1⟩,fun hs => ?_⟩
    obtain ⟨size,hsize,_⟩ := hsingle hs
    exact Option.isSome_of_mem hsize

theorem answered_of_notSent {t t' : Raw.Transaction} {wire : Raw.Request} {e : Error}
    {ds : List Delivery} (hrun : t.ExchangeRun o wire (.error (.error e)) t' ds)
    (he : e.outcome = .notSent) : ∀ d ∈ ds, ¬d.Answered := by
  intro d hd hanswered
  obtain ⟨e',herror,_⟩ := (hrun.evidence.notSent e rfl he).2 d hd
  obtain ⟨bytes,hbytes⟩ := hanswered
  rw [herror] at hbytes
  cases hbytes

/-- What a session must guarantee for the exchange to be truthful: nothing is handed over while
a message is protected or verified, and a verification that follows fails with evidence. -/
structure Guarded (o : Oracle Environment) (s : σ) (request : Request) (Good : Bytes → σ → Prop) :
    Prop where
  prepare : Ensures some o (prepare request) s fun r s' es =>
    deliveries es = [] ∧ ∀ wire, r = .ok wire → Good wire s'
  accept : ∀ wire s' response, Good wire s' → request.Splits wire.length →
    response.status = 0x00 → Ensures some o (accept request response) s' fun r _ es =>
      deliveries es = [] ∧ ∀ e, r = .error (.error e) → e.outcome ≠ .notSent

theorem Guarded.truthful {Good : Bytes → σ → Prop} (hguarded : ∀ o, Guarded o s request Good) :
    Truthful s request := by
  intro o h channel options e hresult hanswered
  have hruns : Ensures some o (exchangeProtected channel request options) s
      (ProtectedRun o channel request s _ fun s' response r _ es => ∀ wire, Good wire s' →
        request.Splits wire.length → response.status = 0x00 →
          deliveries es = [] ∧ ∀ e, r = .error (.error e) → e.outcome ≠ .notSent) :=
    exchangeProtected_runs (hguarded o).prepare fun s' response h wire hgood hsplits hstatus =>
      (hguarded o).accept wire s' response hgood hsplits hstatus h
  have hrun := hruns h
  rw [hresult,shown_some] at hrun
  intro he
  generalize (exchangeProtected channel request options o h s).events = es at hrun hanswered
  generalize (exchangeProtected channel request options o h s).state = s' at hrun
  obtain ⟨d,hd,hanswered⟩ := hanswered
  cases hrun with
  | refused _ _ _ es hes => simp [hes] at hd
  | unprepared h₀ hprep => simp [deliveries,shown_append,h₀,hprep.1] at hd
  | failed h₀ hprep hframing hsent hrun =>
    simp only [deliveries,shown_append,h₀,hprep.1,List.nil_append] at hd
    exact answered_of_notSent hrun he d hd hanswered
  | rejected => cases he
  | unaccepted h₀ hprep hframing hsent hrun hstatus hacc =>
    exact (hacc _ (hprep.2 _ rfl) (splits_of_chained hrun) hstatus).2 e rfl he
  | outsized _ _ _ _ _ _ _ _ hunknown => rw [hunknown] at he; cases he

end Generic

theorem known_cases {mode : Model.CommunicationMode} (h : mode.known = true) :
    mode = .plain ∨ mode = .mac ∨ mode = .full := by
  cases mode <;> simp_all [Model.CommunicationMode.known]

theorem validate_ok {request : Request} (h : validate request = .ok ()) :
    request.requestMode.known = true ∧ request.responseMode.known = true := by
  unfold validate at h
  split at h
  · cases h
  split at h
  · cases h
  split at h
  · cases h
  exact ⟨by simpa using ‹¬request.requestMode.known = false›,
    by simpa using ‹¬request.responseMode.known = false›⟩

section StandardAes
variable {o : Oracle Environment} {s : StandardAes.Session} {request : Request}

theorem standardAes_guarded (hvalid : validate request = .ok ()) :
    Guarded o s request (fun _ s' => s'.phase = .awaitingResponse) where
  prepare := prepare_aesCases.mono fun r s' es h =>
    ⟨h.cryptographic.deliveries,by rintro wire rfl; cases h; rfl⟩
  accept := by
    intro wire s' response hphase _ hstatus
    have hverify : Ensures some o (StandardAes.Session.verifyResponse response) s' fun r _ es =>
        deliveries es = [] ∧ ∀ e, r = .error (.error e) → e.outcome ≠ .notSent :=
      (StandardAes.Session.verifyResponse_cases o response s').mono fun r _ es h => by
        refine ⟨h.cryptographic.deliveries,?_⟩
        rintro e rfl
        cases h with
        | misused hmisused => exact absurd hphase hmisused
        | refused _ _ he => exact he
    unfold accept
    rcases known_cases (validate_ok hvalid).2 with hmode | hmode | hmode <;> simp only [hmode]
    · exact ensures_ite (fun _ => ensures_pure ⟨rfl,by simp⟩) fun _ => hverify
    · exact hverify
    · refine (StandardAes.Session.verifyAndDecryptFullResponse_cases o response _ s').mono ?_
      intro r _ es h
      refine ⟨h.cryptographic.deliveries,?_⟩
      rintro e rfl
      cases h with
      | misused hmisused => exact absurd hphase hmisused
      | refused _ _ he => exact he

end StandardAes

section Ev2
variable {o : Oracle Environment} {s : Ev2.Session} {request : Request}

/-- A counter is left, the sizes pass, and the required first frame can be cut. -/
def Sendable (s : Ev2.Session) (request : Request) : Prop :=
  s.counter ≠ Ev2.counterMax ∧ Fits request ∧ request.Splits (protectedLength request)

theorem ev2_guarded (hsound : Paired request ∨ ¬Sendable s request) :
    Guarded o s request (Prepared s request) where
  prepare := prepare_ev2Cases.mono fun r s' es h =>
    ⟨h.cryptographic.deliveries,by rintro wire rfl; exact h.prepared⟩
  accept := by
    intro wire s' response hprepared hsplits _
    rcases hsound with hpaired | hsendable
    · exact (accept_ev2Cases response).mono fun r _ es h =>
        ⟨h.cryptographic.deliveries,fun e hr => h.evident hpaired hprepared.phase hr⟩
    · rw [hprepared.length] at hsplits
      exact absurd ⟨hprepared.counter,hprepared.fits,hsplits⟩ hsendable

end Ev2
end DesfireSdk.Native.Secure
