import DesfireSdk.Native.Secure.Exchange
import DesfireSdk.Security.Ev2.Steps
import DesfireSdk.Security.StandardAes.Steps

/-! What either session family does to protect a request and to read its answer. -/
namespace DesfireSdk.Native.Secure
open Interaction Program Security

/-- Every way an unprotected exchange of one command can go. -/
inductive UnprotectedRun (o : Oracle Environment) (channel : Raw.RawNativeChannel) (request : Request) :
    Except Fault Bytes → List Delivery → Prop
  | refused (e : Error) (he : e.outcome = .notSent) (hcode : e.code ≠ .cardRejected) :
      UnprotectedRun o channel request (.error (.error e)) []
  | failed {t t' : Raw.Transaction} {f ds} (hframing : t.framing = channel.framing)
      (hsent : t.sentAnyFrame = false)
      (hrun : t.ExchangeRun o (rawRequest request (clearPayload request)) (.error f) t' ds) :
      UnprotectedRun o channel request (.error f) ds
  | rejected {t t' : Raw.Transaction} {response ds} (hframing : t.framing = channel.framing)
      (hsent : t.sentAnyFrame = false)
      (hrun : t.ExchangeRun o (rawRequest request (clearPayload request)) (.ok response) t' ds)
      (hstatus : response.status ≠ 0x00) :
      UnprotectedRun o channel request (.error (.error (Secure.rejected response.status))) ds
  | outsized {t t' : Raw.Transaction} {response ds} (hframing : t.framing = channel.framing)
      (hsent : t.sentAnyFrame = false)
      (hrun : t.ExchangeRun o (rawRequest request (clearPayload request)) (.ok response) t' ds)
      (hstatus : response.status = 0x00) (e : Error) (he : e.outcome = .unknown) :
      UnprotectedRun o channel request (.error (.error e)) ds
  | done {t t' : Raw.Transaction} {response ds} (hframing : t.framing = channel.framing)
      (hsent : t.sentAnyFrame = false)
      (hrun : t.ExchangeRun o (rawRequest request (clearPayload request)) (.ok response) t' ds)
      (hstatus : response.status = 0x00) : UnprotectedRun o channel request (.ok response.data) ds

theorem exchangeUnprotected_runs {τ : Type} (o : Oracle Environment) (channel : Raw.RawNativeChannel)
    (request : Request) (options : ExchangeOptions) (s : τ) :
    Delivers o (exchangeUnprotected channel request options) s fun r s' ds =>
      s' = s ∧ UnprotectedRun o channel request r ds := by
  refine Op.ensures_ofResult_bind (fun e he => ?_) fun _ _ => ?_
  · obtain ⟨houtcome,hcode⟩ := validate_error he
    exact ⟨rfl,.refused e houtcome (by simp [hcode])⟩
  refine ensures_bind (m := fun r s' ds => s' = s ∧
    ((∃ e : Error, r = .error (.error e) ∧ e.outcome = .notSent ∧ e.code ≠ .cardRejected ∧ ds = []) ∨
      ∃ (t t' : Raw.Transaction), t.framing = channel.framing ∧ t.sentAnyFrame = false ∧
        t.ExchangeRun o (rawRequest request (clearPayload request)) r t' ds)) ?_ ?_ ?_
  · refine ensures_bind (begin_cases o channel options s) ?_ ?_
    · rintro _ _ _ ⟨e,he,hcode⟩
      exact ⟨rfl,.inl ⟨e,rfl,he,hcode,rfl⟩⟩
    · rintro t _ _ (_ | ⟨_,hframing,hsent⟩)
      refine ensures_within ((Raw.Transaction.exchange_runs o _ t).mono fun r t' ds hrun => ?_)
      exact ⟨rfl,.inr ⟨t,t',hframing,hsent,hrun⟩⟩
  · rintro f _ ds ⟨rfl,⟨e,⟨⟩,he,hcode,rfl⟩ | ⟨t,t',hframing,hsent,hrun⟩⟩
    · exact ⟨rfl,.refused e he hcode⟩
    · exact ⟨rfl,.failed hframing hsent hrun⟩
  rintro response _ ds ⟨rfl,⟨e,⟨⟩,_⟩ | ⟨t,t',hframing,hsent,hrun⟩⟩
  refine Op.ensures_refuse_bind (fun hstatus => ?_) fun hstatus => ?_
  · rw [List.append_nil]
    exact ⟨rfl,.rejected hframing hsent hrun hstatus⟩
  have hstatus := Decidable.not_not.mp hstatus
  refine Op.ensures_ofResult ?_
  rw [List.append_nil]
  cases hcheck : checkResponseSize response.data request with
  | error e => exact ⟨rfl,.outsized hframing hsent hrun hstatus e (checkResponseSize_error hcheck)⟩
  | ok checked =>
    obtain ⟨rfl,_⟩ := checkResponseSize_ok hcheck
    exact ⟨rfl,.done hframing hsent hrun hstatus⟩

/-- A Plain answer of a command that ends the session is not read by the session. -/
def Unread (request : Request) : Prop :=
  request.responseMode = .plain ∧ request.invalidatesSession = true

section Ev2
open Ev2.Session (PlainFits MacFits FullFits)
variable {o : Oracle Environment} {s s' : Ev2.Session} {request : Request}

/-- The preparation of a request in its mode. -/
def Ev2Prepare (request : Request) (s : Ev2.Session) :
    Except Fault Bytes → Ev2.Session → Trace Environment → Prop :=
  match request.requestMode with
  | .plain => Ev2.Session.PlainCase s request.header request.data
  | .mac => Ev2.Session.MacCase s request.command request.header request.data
  | _ => Ev2.Session.FullCase s request.command request.header request.data

/-- The reading of an answer in its mode. -/
inductive Ev2Accept (request : Request) (s : Ev2.Session) (response : Raw.Response) :
    Except Fault Bytes → Ev2.Session → Trace Environment → Prop
  | unread (h : Unread request) : Ev2Accept request s response (.ok response.data) s []
  | plain {r s' es} (hmode : request.responseMode = .plain) (hkept : request.invalidatesSession = false)
      (h : Ev2.Session.AcceptCase s response r s' es) : Ev2Accept request s response r s' es
  | mac {r s' es} (hmode : request.responseMode = .mac)
      (h : Ev2.Session.VerifyCase s response r s' es) : Ev2Accept request s response r s' es
  | full {r s' es} (hplain : request.responseMode ≠ .plain) (hmac : request.responseMode ≠ .mac)
      (h : Ev2.Session.DecryptCase s response (expectedSize request) r s' es) :
      Ev2Accept request s response r s' es

/-- The session's own size checks for a request pass. -/
def Fits (request : Request) : Prop :=
  match request.requestMode with
  | .plain => PlainFits request.header request.data
  | .mac => MacFits request.header request.data
  | _ => FullFits request.header request.data

/-- The length of a request after EV2 protection. -/
def protectedLength (request : Request) : Nat :=
  match request.requestMode with
  | .plain => request.header.length + request.data.length
  | .mac => request.header.length + request.data.length + Ev2.transmittedMacSize
  | _ => if request.data = [] then request.header.length + Ev2.transmittedMacSize
    else request.header.length + (Padding.pad (0x00 : Byte) 0x80 Ev2.aesBlockSize request.data).length +
      Ev2.transmittedMacSize

/-- The phase an EV2 session waits in for the answer to a request. -/
def awaited (request : Request) : Ev2.Phase :=
  if request.requestMode = .plain then .awaitingPlainResponse else .awaitingResponse

/-- The answer is read the way the request was protected, or it is not read at all. -/
def Paired (request : Request) : Prop :=
  (request.requestMode = .plain ↔ request.responseMode = .plain) ∨
    (request.invalidatesSession = true ∧ request.responseMode = .plain)

/-- A prepared request with its length and the phase it leaves. -/
structure Prepared (s : Ev2.Session) (request : Request) (wire : Bytes) (s' : Ev2.Session) : Prop where
  counter : s.counter ≠ Ev2.counterMax
  fits : Fits request
  length : wire.length = protectedLength request
  phase : s'.phase = awaited request

theorem length_macCase {command : Byte} {header data wire : Bytes} {s' : Ev2.Session}
    {es : Trace Environment} (h : Ev2.Session.MacCase s command header data (.ok wire) s' es) :
    s.Open ∧ MacFits header data ∧ s'.phase = .awaitingResponse ∧
      wire.length = header.length + data.length + Ev2.transmittedMacSize := by
  cases h with
  | turned h => cases h
  | prepared hopen hfits mac hmac =>
    refine ⟨hopen,hfits,rfl,?_⟩
    simp only [List.length_append,Ev2.length_oddBytes,hmac,Ev2.aesBlockSize,Ev2.transmittedMacSize]

/-- A prepared message has the length and leaves the phase of its mode. -/
theorem Ev2Prepare.prepared {wire : Bytes} {es : Trace Environment}
    (h : Ev2Prepare request s (.ok wire) s' es) : Prepared s request wire s' := by
  have hfull : request.requestMode ≠ .plain → request.requestMode ≠ .mac →
      Ev2.Session.FullCase s request.command request.header request.data (.ok wire) s' es →
      Prepared s request wire s' := by
    intro hplain hmac hcase
    have hawaited : awaited request = .awaitingResponse := if_neg hplain
    cases hcase with
    | turned hturned => cases hturned
    | bare hopen hdata hbare =>
      obtain ⟨_,hfits,hphase,hlength⟩ := length_macCase hbare
      refine ⟨hopen.counter,?_,?_,hphase.trans hawaited.symm⟩
      · cases hmode : request.requestMode <;> simp_all [Fits,FullFits]
      · cases hmode : request.requestMode <;> simp_all [protectedLength]
    | enciphered hopen hdata hpad iv ciphertext hiv hciphertext hmacCase =>
      obtain ⟨_,hfits,hphase,hlength⟩ := length_macCase hmacCase
      have hfits' := Ev2.Session.macFits_of_length hfits hciphertext.symm
      refine ⟨hopen.counter,?_,?_,hphase.trans hawaited.symm⟩
      · cases hmode : request.requestMode <;> simp_all [Fits,FullFits]
      · cases hmode : request.requestMode <;> simp_all [protectedLength]
  unfold Ev2Prepare at h
  cases hmode : request.requestMode with
  | plain =>
    simp only [hmode] at h
    cases h with
    | turned h => cases h
    | prepared hopen hfits =>
      exact ⟨hopen.counter,by simpa only [Fits,hmode],by simp [protectedLength,hmode],
        by simp [awaited,hmode,Ev2.Session.reserve]⟩
  | mac =>
    simp only [hmode] at h
    obtain ⟨hopen,hfits,hphase,hlength⟩ := length_macCase h
    exact ⟨hopen.counter,by simpa only [Fits,hmode],by simp [protectedLength,hmode,hlength],
      by simp [awaited,hmode,hphase]⟩
  | full | other =>
    simp only [hmode] at h
    exact hfull (by simp [hmode]) (by simp [hmode]) h

/-- Only an open session prepares anything. -/
theorem Ev2Prepare.opened {wire : Bytes} {es : Trace Environment}
    (h : Ev2Prepare request s (.ok wire) s' es) : s.Open := by
  have hfull (hcase : Ev2.Session.FullCase s request.command request.header request.data (.ok wire) s' es) :
      s.Open := by
    cases hcase with
    | turned hturned => cases hturned
    | bare hopen => exact hopen
    | enciphered hopen => exact hopen
  unfold Ev2Prepare at h
  cases hmode : request.requestMode with
  | plain =>
    simp only [hmode] at h
    cases h with
    | turned hturned => cases hturned
    | prepared hopen => exact hopen
  | mac =>
    simp only [hmode] at h
    exact (length_macCase h).1
  | full | other =>
    simp only [hmode] at h
    exact hfull h

/-- An answer that is read the way the request was protected fails with evidence. -/
theorem Ev2Accept.evident {response : Raw.Response} {r : Except Fault Bytes} {es : Trace Environment}
    (h : Ev2Accept request s response r s' es) (hpaired : Paired request)
    (hphase : s.phase = awaited request) {e : Error} (hr : r = .error (.error e)) :
    e.outcome ≠ .notSent := by
  have hverify : request.responseMode ≠ .plain → s.phase = .awaitingResponse := by
    intro hprotected
    rcases hpaired with hpaired | ⟨_,hplain⟩
    · rw [hphase,awaited,if_neg (fun hplain => hprotected (hpaired.mp hplain))]
    · exact absurd hplain hprotected
  subst hr
  cases h with
  | plain hmode hkept h =>
    have hplain : request.requestMode = .plain := by
      rcases hpaired with hpaired | ⟨hinvalidates,_⟩
      · exact hpaired.mpr hmode
      · rw [hkept] at hinvalidates
        cases hinvalidates
    rw [awaited,if_pos hplain] at hphase
    cases h with
    | misused hmisused => exact absurd hphase hmisused
    | refused _ _ _ he => exact he
  | mac hmode h =>
    cases h with
    | misused hmisused => exact absurd (hverify (by simp [hmode])) hmisused
    | refused _ _ he => exact he
  | full hplain hmac h =>
    cases h with
    | unverified h =>
      cases h with
      | misused hmisused => exact absurd (hverify hplain) hmisused
      | refused _ _ he => exact he
    | refused _ _ he => simp [he]

theorem prepare_ev2Cases : Ensures some o (prepare request) s (Ev2Prepare request s) := by
  unfold prepare Ev2Prepare
  cases request.requestMode
  · exact Ev2.Session.preparePlain_cases o _ _ _ s
  · exact Ev2.Session.prepareMac_cases o _ _ _ s
  all_goals exact Ev2.Session.prepareFull_cases o _ _ _ s

theorem accept_ev2Cases (response : Raw.Response) :
    Ensures some o (accept request response) s (Ev2Accept request s response) := by
  unfold accept
  cases hmode : request.responseMode
  · refine ensures_ite (fun h => ensures_pure (.unread ⟨hmode,h⟩)) fun h => ?_
    exact (Ev2.Session.acceptPlainResponse_cases o response s).mono fun _ _ _ hcase =>
      .plain hmode (by simpa using h) hcase
  · exact (Ev2.Session.verifyResponse_cases o response s).mono fun _ _ _ hcase => .mac hmode hcase
  all_goals
    exact (Ev2.Session.verifyAndDecryptFullResponse_cases o response _ s).mono fun _ _ _ hcase =>
      .full (by simp [hmode]) (by simp [hmode]) hcase

theorem Ev2Prepare.cryptographic {r : Except Fault Bytes} {es : Trace Environment}
    (h : Ev2Prepare request s r s' es) : Cryptographic es := by
  unfold Ev2Prepare at h
  generalize request.requestMode = mode at h
  cases mode
  · exact Ev2.Session.PlainCase.cryptographic h
  · exact Ev2.Session.MacCase.cryptographic h
  all_goals exact Ev2.Session.FullCase.cryptographic h

theorem Ev2Accept.cryptographic {response : Raw.Response} {r : Except Fault Bytes}
    {es : Trace Environment} (h : Ev2Accept request s response r s' es) : Cryptographic es := by
  cases h with
  | unread => simp
  | plain _ _ h => exact h.cryptographic
  | mac _ h => exact h.cryptographic
  | full _ _ h => exact h.cryptographic

theorem verified_ready {response : Raw.Response} {clear : Bytes} {es : Trace Environment}
    (h : Ev2.Session.VerifyCase s response (.ok clear) s' es) : s'.phase = .ready := by
  cases h
  rfl

/-- An answer that was read leaves the session ready. -/
theorem Ev2Accept.ready {response : Raw.Response} {clear : Bytes} {es : Trace Environment}
    (h : Ev2Accept request s response (.ok clear) s' es) (hread : ¬Unread request) :
    s'.phase = .ready := by
  cases h with
  | unread h => exact absurd h hread
  | plain _ _ h => cases h; rfl
  | mac _ h => exact verified_ready h
  | full _ _ h =>
    cases h with
    | empty h | decrypted h => exact verified_ready h

end Ev2

section StandardAes
variable {o : Oracle Environment} {s s' : StandardAes.Session} {request : Request}

/-- The reading of an answer in its mode. -/
inductive AesAccept (request : Request) (s : StandardAes.Session) (response : Raw.Response) :
    Except Fault Bytes → StandardAes.Session → Trace Environment → Prop
  | unread (h : Unread request) : AesAccept request s response (.ok response.data) s []
  | verified {r s' es} (hmode : request.responseMode = .plain ∨ request.responseMode = .mac)
      (hread : ¬Unread request) (h : StandardAes.Session.VerifyCase s response r s' es) :
      AesAccept request s response r s' es
  | full {r s' es} (hplain : request.responseMode ≠ .plain) (hmac : request.responseMode ≠ .mac)
      (h : StandardAes.Session.DecryptCase s response (expectedSize request) r s' es) :
      AesAccept request s response r s' es

/-- The length of a request after Standard AES protection. -/
def aesProtectedLength (request : Request) : Nat :=
  match request.requestMode with
  | .plain => StandardAes.Session.cmacLength request.header request.data false
  | .mac => StandardAes.Session.cmacLength request.header request.data (request.data ≠ [])
  | _ => StandardAes.Session.fullLength request.command request.header request.data

theorem prepare_aesCases :
    Ensures some o (prepare request) s
      (StandardAes.Session.PrepareCase s (aesProtectedLength request)) := by
  unfold prepare aesProtectedLength
  cases request.requestMode
  · exact StandardAes.Session.prepareCmacCommand_cases o _ _ _ _ s
  · exact StandardAes.Session.prepareCmacCommand_cases o _ _ _ _ s
  all_goals exact StandardAes.Session.prepareFull_cases o _ _ _ s

theorem accept_aesCases (response : Raw.Response) :
    Ensures some o (accept request response) s (AesAccept request s response) := by
  unfold accept
  cases hmode : request.responseMode
  · refine ensures_ite (fun h => ensures_pure (.unread ⟨hmode,h⟩)) fun h => ?_
    exact (StandardAes.Session.verifyResponse_cases o response s).mono fun _ _ _ hcase =>
      .verified (.inl hmode) (fun hunread => h hunread.2) hcase
  · exact (StandardAes.Session.verifyResponse_cases o response s).mono fun _ _ _ hcase =>
      .verified (.inr hmode) (fun hunread => by simp [Unread,hmode] at hunread) hcase
  all_goals
    exact (StandardAes.Session.verifyAndDecryptFullResponse_cases o response _ s).mono
      fun _ _ _ hcase => .full (by simp [hmode]) (by simp [hmode]) hcase

theorem AesAccept.cryptographic {response : Raw.Response} {r : Except Fault Bytes}
    {es : Trace Environment} (h : AesAccept request s response r s' es) : Cryptographic es := by
  cases h with
  | unread => simp
  | verified _ _ h => exact h.cryptographic
  | full _ _ h => exact h.cryptographic

theorem AesAccept.ready {response : Raw.Response} {clear : Bytes} {es : Trace Environment}
    (h : AesAccept request s response (.ok clear) s' es) (hread : ¬Unread request) :
    s'.phase = .ready := by
  cases h with
  | unread h => exact absurd h hread
  | verified _ _ h => cases h; rfl
  | full _ _ h => cases h; rfl

end StandardAes
end DesfireSdk.Native.Secure
