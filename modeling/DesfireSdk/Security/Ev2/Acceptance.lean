import DesfireSdk.Foundation.Calm
import DesfireSdk.Security.Ev2.Evaluation

/-! Which responses an EV2 session accepts, and the data it returns for them. -/
namespace DesfireSdk.Security.Ev2
open Interaction Program

namespace Session
variable {o : Oracle Environment} {P : Primitives} {s : Session} {response : Native.Raw.Response}
  {expectedSize : Option Nat}

/-- The last eight bytes are the odd bytes of the CMAC over status, counter, transaction identifier
and ciphertext. -/
def Authentic (P : Primitives) (s : Session) (response : Native.Raw.Response) (ciphertext : Bytes) : Prop :=
  response.data = ciphertext ++ shortMac P s.macKey (s.macInput response.status ciphertext)

/-- An authentic response whose ciphertext stands for the data. -/
def Accepted (P : Primitives) (s : Session) (response : Native.Raw.Response) (expectedSize : Option Nat)
    (data : Bytes) : Prop :=
  ∃ ciphertext, s.Authentic P response ciphertext ∧ Plaintext P s expectedSize ciphertext data

theorem authentic_of_macOf
    (hmac : macOf response = shortMac P s.macKey (s.macInput response.status (dataOf response))) :
    s.Authentic P response (dataOf response) := by
  have hsplit : dataOf response ++ macOf response = response.data := List.take_append_drop _ _
  rw [Authentic,← hmac,hsplit]

/-- What a verification returns is authentic. -/
theorem verifyResponse_authentic (hP : Computes o P) (hphase : s.phase = .awaitingResponse) :
    Ensures blind o (verifyResponse response) s fun r s' _ =>
      ∀ ciphertext, r = .ok ciphertext → s.Authentic P response ciphertext ∧ s' = s.resume := by
  refine ensures_get_bind ?_
  refine Op.ensures_refuse_bind (fun h => absurd hphase h) fun _ => ?_
  refine Op.ensures_refuseAfter_bind (fun _ => ?_) fun _ => ?_
  · intro ciphertext hok
    cases hok
  refine Op.ensures_refuseAfter_bind (fun _ => ?_) fun _ => ?_
  · intro ciphertext hok
    cases hok
  refine Op.ensures_refuseAfter_bind (fun _ => ?_) fun _ => ?_
  · intro ciphertext hok
    cases hok
  refine Op.ensures_catchAll ?_
  refine ensures_bind_known (Yields.ensures (Op.reaches_mapError (hP.yields_mac s.macKeySize))) ?_
  refine ensures_bind_known (Yields.ensures
    (Op.reaches_onError (Op.reaches_ofResult (truncateMac_eq (P.length_mac ..))))) ?_
  refine Op.ensures_refuseAfter_bind (fun _ => ?_) fun hequal => ?_
  · intro ciphertext hok
    cases hok
  refine ensures_modify_bind (ensures_pure ?_)
  intro ciphertext hok
  cases hok
  refine ⟨authentic_of_macOf ?_,rfl⟩
  simpa [constantTimeEqual_eq,macOf,dataOf,shortMac] using hequal

/-- What a Full response decrypts to is accepted data. -/
theorem verifyAndDecryptFullResponse_accepted (hP : Computes o P) (hphase : s.phase = .awaitingResponse) :
    Ensures blind o (verifyAndDecryptFullResponse response expectedSize) s fun r _ _ =>
      ∀ data, r = .ok data → s.Accepted P response expectedSize data := by
  refine ensures_bind (verifyResponse_authentic hP hphase) ?_ ?_
  · intro f s' es _ data hok
    cases hok
  intro ciphertext s' es hverified
  obtain ⟨hauthentic,rfl⟩ := hverified ciphertext rfl
  refine ensures_get_bind ?_
  refine ensures_ite (fun hempty => ?_) fun hempty => ?_
  · obtain ⟨rfl,hsize⟩ := hempty
    refine ensures_pure ?_
    intro data hok
    cases hok
    exact ⟨[],hauthentic,.empty hsize⟩
  refine Op.ensures_refuseAfter_bind (fun _ => ?_) fun hblocks => ?_
  · intro data hok
    cases hok
  rw [not_or,not_not] at hblocks
  refine Op.ensures_catchAll ?_
  refine ensures_bind_known (Yields.ensures (Op.reaches_mapError (yields_vector hP s rfl))) ?_
  refine ensures_bind_known (Yields.ensures (Op.reaches_mapError (hP.yields_decrypt s.encryptionKeySize
    (length_vector P s rfl) hblocks.2 rfl))) ?_
  have hplain : P.decrypt s.resume.encryptionKey (P.encrypt s.encryptionKey (zeros aesBlockSize)
      (ivInput responseLabel s.authentication.transactionIdentifier s.counter)) ciphertext =
      P.decrypt s.encryptionKey (s.responseIv P) ciphertext := rfl
  rw [hplain]
  cases hclear : Padding.unpad 0x00 0x80 aesBlockSize (P.decrypt s.encryptionKey (s.responseIv P) ciphertext) with
  | none =>
    refine ensures_modify_bind (Op.ensures_reject ?_)
    intro data hok
    cases hok
  | some clear =>
    refine Op.ensures_refuseAfter_bind (fun _ => ?_) fun hsize => ensures_pure ?_
    · intro data hok
      cases hok
    intro data hok
    cases hok
    obtain ⟨n,hn,hpadded⟩ := (Padding.unpad_eq_some_iff (by decide)).mp hclear
    refine ⟨ciphertext,hauthentic,.blocks hblocks.1 hblocks.2 hn hpadded ?_⟩
    intro size hmem
    by_contra hdiffers
    exact hsize ⟨size,hmem,hdiffers⟩

/-- How a Full response ends that is not accepted. -/
def Rejected (s : Session) (r : Except Fault Bytes) (s' : Session) : Prop :=
  ∃ e, r = .error (.error e) ∧ e.outcome = .unknown ∧ s' = s.invalidate

theorem verifyAndDecryptFullResponse_rejected (o : Oracle Environment) (hphase : s.phase = .awaitingResponse)
    (hstatus : response.status = 0x00) :
    Ensures some o (verifyAndDecryptFullResponse response expectedSize) s fun r s' _ =>
      (∃ data, r = .ok data) ∨ Rejected s r s' := by
  refine (verifyAndDecryptFullResponse_cases o response expectedSize s).mono ?_
  intro r s' es hcase
  cases hcase with
  | unverified h =>
    cases h with
    | misused h => exact absurd hphase h
    | refused _ e _ hunknown _ _ => exact .inr ⟨e,rfl,hunknown hstatus,rfl⟩
  | empty _ _ => exact .inl ⟨_,rfl⟩
  | refused h e he _ _ _ =>
    cases h with
    | verified => exact .inr ⟨e,rfl,he,rfl⟩
  | decrypted => exact .inl ⟨_,rfl⟩

/-- Acceptance is exact: the data is returned that an authentic, well padded response stands for, and
every other response, and every failure of the provider, ends the session with an unknown outcome. -/
theorem response_accepted_iff (o : Oracle Environment) (h : Trace Environment) (s : Session)
    (response : Native.Raw.Response) (expectedSize : Option Nat) (hphase : s.phase = .awaitingResponse)
    (hstatus : response.status = 0x00) :
    let run := verifyAndDecryptFullResponse response expectedSize o h s
    (∀ P, Computes o P → ∀ data, run.result = .ok data ↔ s.Accepted P response expectedSize data) ∧
      ((∃ data, run.result = .ok data) ∨ Rejected s run.result run.state) := by
  intro run
  refine ⟨?_,verifyAndDecryptFullResponse_rejected o hphase hstatus h⟩
  intro P hP data
  constructor
  · intro hok
    exact verifyAndDecryptFullResponse_accepted hP hphase h data hok
  · rintro ⟨ciphertext,hauthentic,hplain⟩
    have hresponse : response = ⟨0x00,ciphertext ++ shortMac P s.macKey (s.macInput 0x00 ciphertext)⟩ := by
      cases response
      rw [Authentic,hstatus] at hauthentic
      rw [← hauthentic,← hstatus]
    subst hresponse
    exact (yields_decryptedResponse hP hphase hplain h (shown_blind h)).1

/-- A one-block answer under primitives that copy their input. -/
theorem response_accepted_iff_block :
    let s : Session := ⟨zeros 16,zeros 16,{},3,.awaitingResponse,rfl,rfl⟩
    let ciphertext : Bytes := [1,2,3,0x80] ++ zeros 12
    (verifyAndDecryptFullResponse ⟨0x00,ciphertext ++ zeros 8⟩ (some 3) (scripted {}) [] s).result =
      .ok [1,2,3] := by
  intro s ciphertext
  have hexact := response_accepted_iff (scripted {}) [] s ⟨0x00,ciphertext ++ zeros 8⟩ (some 3) rfl rfl
  have hcomputes : Computes (scripted {}) .echo := scripted_computes _ rfl rfl
  refine (hexact.1 .echo hcomputes [1,2,3]).mpr ⟨ciphertext,rfl,?_⟩
  exact .blocks (n := 12) (by decide) (by decide) (by decide) rfl (by simp)

end Session
end DesfireSdk.Security.Ev2
