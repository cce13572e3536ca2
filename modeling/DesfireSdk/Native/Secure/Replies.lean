import DesfireSdk.Native.Secure.Cases

/-! What the result of an exchange says about the last reply of the card. -/
namespace DesfireSdk.Native.Secure
open Interaction Program Security
open Raw (Replied additionalFrameStatus not_replied_nil)

/-- The provider itself answered a primitive with this error. -/
def Supplied (e : Error) (es : Trace Environment) : Prop :=
  (∃ key iv input encrypt, (⟨.cbc key iv input encrypt,.error (.error e)⟩ : Event Environment) ∈ es) ∨
    ∃ key input, (⟨.cmac key input,.error (.error e)⟩ : Event Environment) ∈ es

theorem Supplied.append {e : Error} {es : Trace Environment} (h : Supplied e es)
    (es₀ es₁ : Trace Environment) : Supplied e (es₀ ++ (es ++ es₁)) := by
  have hmem {event : Event Environment} (h : event ∈ es) : event ∈ es₀ ++ (es ++ es₁) :=
    List.mem_append_right _ (List.mem_append_left _ h)
  rcases h with ⟨key,iv,input,encrypt,h⟩ | ⟨key,input,h⟩
  · exact .inl ⟨key,iv,input,encrypt,hmem h⟩
  · exact .inr ⟨key,input,hmem h⟩

/-- The card refused the command with the status that the error carries. -/
def Refused (framing : Framing) (e : Error) (ds : List Delivery) : Prop :=
  ∃ status : Byte, status ≠ 0x00 ∧ status ≠ additionalFrameStatus ∧ e.deviceStatus = status.toUInt16 ∧
    Replied framing status ds

/-- The transport itself claims a rejection. -/
def Claimed (ds : List Delivery) : Prop :=
  ∃ d ∈ ds, ∃ e : Error, d.handover.answer = .error (.error e) ∧ e.outcome = .rejected

/-- A result and the last reply agree. -/
structure Told (framing : Framing) (r : Except Fault Bytes) (es : Trace Environment) : Prop where
  success : ∀ payload, r = .ok payload → Replied framing 0x00 (deliveries es)
  notSent : ∀ e, r = .error (.error e) → e.outcome = .notSent → ∀ d ∈ deliveries es, d.Withheld
  accepted : ∀ e, r = .error (.error e) → Replied framing 0x00 (deliveries es) → e.outcome = .unknown
  rejected : ∀ e, r = .error (.error e) → e.outcome = .rejected → Refused framing e (deliveries es) ∨
    Claimed (deliveries es) ∨ (deliveries es = [] ∧ Supplied e es)

namespace Told
variable {framing : Framing} {es : Trace Environment} {e : Error}

theorem thrown : Told framing (.error .thrown) es := ⟨by simp,by simp,by simp,by simp⟩

theorem unknown (he : e.outcome = .unknown) : Told framing (.error (.error e)) es where
  success := by simp
  notSent := by rintro _ ⟨⟩ h; simp [he] at h
  accepted := by rintro _ ⟨⟩ _; exact he
  rejected := by rintro _ ⟨⟩ h; simp [he] at h

/-- Nothing was handed over, and a claimed rejection comes from the provider. -/
theorem withheld {f : Fault} (hes : deliveries es = [])
    (hf : ∀ e, f = .error e → e.outcome = .rejected → Supplied e es) : Told framing (.error f) es where
  success := by simp
  notSent := by simp [hes]
  accepted := by
    rintro _ _ h
    rw [hes] at h
    exact absurd h not_replied_nil
  rejected := by
    rintro e ⟨⟩ he
    exact .inr (.inr ⟨hes,hf e rfl he⟩)

/-- Questions that hand nothing over do not matter. -/
theorem quietly {r : Except Fault Bytes} (h : Told framing r es) (es₀ es₁ : Trace Environment)
    (h₀ : deliveries es₀ = []) (h₁ : deliveries es₁ = []) : Told framing r (es₀ ++ (es ++ es₁)) := by
  have hsame : deliveries (es₀ ++ (es ++ es₁)) = deliveries es := by
    simp only [deliveries_append,h₀,h₁,List.nil_append,List.append_nil]
  refine ⟨?_,?_,?_,?_⟩
  · rw [hsame]
    exact h.success
  · rw [hsame]
    exact h.notSent
  · rw [hsame]
    exact h.accepted
  · intro e hr he
    rw [hsame]
    rcases h.rejected e hr he with h | h | ⟨hnil,h⟩
    · exact .inl h
    · exact .inr (.inl h)
    · exact .inr (.inr ⟨hnil,h.append es₀ es₁⟩)

/-- A raw exchange that fails. -/
theorem failed {o : Oracle Environment} {t t' : Raw.Transaction} {wire : Raw.Request} {f : Fault}
    (hframing : t.framing = framing) (hrun : t.ExchangeRun o wire (.error f) t' (deliveries es)) :
    Told framing (.error f) es where
  success := by simp
  notSent := by
    rintro e ⟨⟩ he
    exact (hrun.evidence.notSent e rfl he).2
  accepted := by
    rintro e ⟨⟩ hreplied
    rw [← hframing] at hreplied
    exact hrun.accepted (by decide) hreplied
  rejected := by
    rintro e ⟨⟩ he
    exact .inr (.inl (hrun.evidence.rejected e rfl he))

/-- A reply with a final error status. -/
theorem refused {o : Oracle Environment} {t t' : Raw.Transaction} {wire : Raw.Request}
    {response : Raw.Response} (hframing : t.framing = framing)
    (hrun : t.ExchangeRun o wire (.ok response) t' (deliveries es)) (hstatus : response.status ≠ 0x00) :
    Told framing (.error (.error (Secure.rejected response.status))) es := by
  obtain ⟨hfinal,hreplied⟩ := hrun.replied
  rw [hframing] at hreplied
  refine ⟨by simp,?_,?_,?_⟩
  · rintro _ ⟨⟩ h
    cases h
  · rintro _ ⟨⟩ h
    exact absurd (hreplied.unique h) hstatus
  · rintro _ ⟨⟩ _
    exact .inl ⟨response.status,hstatus,hfinal,rfl,hreplied⟩

/-- A reply that is accepted. -/
theorem done {o : Oracle Environment} {t t' : Raw.Transaction} {wire : Raw.Request}
    {response : Raw.Response} {payload : Bytes} (hframing : t.framing = framing)
    (hrun : t.ExchangeRun o wire (.ok response) t' (deliveries es)) (hstatus : response.status = 0x00) :
    Told framing (.ok payload) es := by
  obtain ⟨_,hreplied⟩ := hrun.replied
  rw [hframing,hstatus] at hreplied
  exact ⟨fun _ _ => hreplied,by simp,by simp,by simp⟩

end Told

section Runs
variable {o : Oracle Environment} {channel : Raw.RawNativeChannel} {request : Request}

theorem UnprotectedRun.told {r : Except Fault Bytes} {es : Trace Environment}
    (hrun : UnprotectedRun o channel request r (deliveries es)) : Told channel.framing r es := by
  generalize hds : deliveries es = ds at hrun
  cases hrun with
  | refused e he =>
    refine .withheld hds ?_
    rintro _ ⟨⟩ h
    simp [he] at h
  | failed hframing _ hrun => exact .failed hframing (hds ▸ hrun)
  | rejected hframing _ hrun hstatus => exact .refused hframing (hds ▸ hrun) hstatus
  | outsized _ _ _ _ e he => exact .unknown he
  | done hframing _ hrun hstatus => exact .done hframing (hds ▸ hrun) hstatus

/-- What a session must guarantee: neither preparing nor reading hands anything over, a claimed
rejection of a preparation is the provider's, and reading an accepted reply fails without knowledge. -/
theorem ProtectedRun.told {σ : Type} [SecureSession σ] {s s' : σ}
    {Prep : Except Fault Bytes → σ → Trace Environment → Prop}
    {Acc : σ → Raw.Response → Except Fault Bytes → σ → Trace Environment → Prop}
    {r : Except Fault Bytes} {es : Trace Environment}
    (hrun : ProtectedRun o channel request s Prep Acc r s' es)
    (hprep : ∀ r s₁ es, Prep r s₁ es → deliveries es = [] ∧
      ∀ e, r = .error (.error e) → e.outcome = .rejected → Supplied e es)
    (hacc : ∀ wire s₁ es₁ response r s₂ es, Prep (.ok wire) s₁ es₁ → response.status = 0x00 →
      Acc s₁ response r s₂ es → deliveries es = [] ∧ ∀ e, r = .error (.error e) → e.outcome = .unknown) :
    Told channel.framing r es := by
  have hexchanged {es₀ es₁ es₂ : Trace Environment} {wire : Bytes} {s₁ : σ} {r' : Except Fault Bytes}
      (h₀ : deliveries es₀ = []) (hprepared : Prep (.ok wire) s₁ es₁) (h : Told channel.framing r' es₂) :
      Told channel.framing r' (es₀ ++ (es₁ ++ es₂)) := by
    have htold := h.quietly (es₀ ++ es₁) [] (by rw [deliveries_append,h₀,(hprep _ _ _ hprepared).1]; rfl) rfl
    rwa [List.append_nil,List.append_assoc] at htold
  cases hrun with
  | refused e he hcode es hes =>
    refine .withheld hes ?_
    rintro _ ⟨⟩ h
    simp [he] at h
  | @unprepared es₀ f s₁ es₁ h₀ hprepared =>
    obtain ⟨h₁,hsupplied⟩ := hprep _ _ _ hprepared
    refine .withheld (by rw [deliveries_append,h₀,h₁]; rfl) fun e hf he => ?_
    have happended := (hsupplied e (congrArg _ hf) he).append es₀ []
    rwa [List.append_nil] at happended
  | failed h₀ hprepared hframing _ hrun => exact hexchanged h₀ hprepared (.failed hframing hrun)
  | rejected h₀ hprepared hframing _ hrun hstatus =>
    exact hexchanged h₀ hprepared (.refused hframing hrun hstatus)
  | @unaccepted es₀ wire s₁ es₁ response es₂ f s₂ es₃ t t' h₀ hprepared hframing _ hrun hstatus haccepted =>
    cases f with
    | thrown => exact .thrown
    | error e => exact .unknown ((hacc _ _ _ _ _ _ _ hprepared hstatus haccepted).2 e rfl)
  | outsized _ _ _ _ _ _ _ e he => exact .unknown he
  | done h₀ hprepared hframing _ hrun hstatus haccepted _ =>
    have hread := (hacc _ _ _ _ _ _ _ hprepared hstatus haccepted).1
    exact hexchanged h₀ hprepared ((Told.done hframing hrun hstatus).quietly [] _ rfl hread)

end Runs

section Sessions
variable {request : Request}

theorem macCase_supplied {s s' : Ev2.Session} {command : Byte} {header data : Bytes} {e : Error}
    {es : Trace Environment} (h : Ev2.Session.MacCase s command header data (.error (.error e)) s' es)
    (he : e.outcome = .rejected) : Supplied e es := by
  cases h with
  | turned h => cases h <;> cases he
  | oversized => cases he
  | failed hopen _ reply hreply =>
    rw [hreply he]
    exact .inr ⟨_,_,List.mem_cons_self⟩

theorem Supplied.after {e : Error} {es : Trace Environment} (h : Supplied e es) (es₀ : Trace Environment) :
    Supplied e (es₀ ++ es) := by
  have happended := h.append es₀ []
  rwa [List.append_nil] at happended

/-- A preparation claims a rejection only in the provider's words. -/
theorem Ev2Prepare.supplied {s s' : Ev2.Session} {e : Error} {es : Trace Environment}
    (h : Ev2Prepare request s (.error (.error e)) s' es) (he : e.outcome = .rejected) : Supplied e es := by
  have hfull (hcase : Ev2.Session.FullCase s request.command request.header request.data
      (.error (.error e)) s' es) : Supplied e es := by
    cases hcase with
    | turned h => cases h <;> cases he
    | bare _ _ h => exact macCase_supplied h he
    | oversized => cases he
    | failed hopen hdata _ reply es hes hsupplied =>
      obtain ⟨event,hevent,key,iv,input,encrypt,rfl⟩ := hsupplied he
      exact .inl ⟨key,iv,input,encrypt,hevent⟩
    | enciphered hopen hdata hpad iv ciphertext hiv hciphertext hmac =>
      exact (macCase_supplied hmac he).after [_,_]
  unfold Ev2Prepare at h
  cases hmode : request.requestMode with
  | plain =>
    simp only [hmode] at h
    cases h with
    | turned h => cases h <;> cases he
    | oversized => cases he
  | mac =>
    simp only [hmode] at h
    exact macCase_supplied h he
  | full | other =>
    simp only [hmode] at h
    exact hfull h

theorem aesPrepare_supplied {s s' : StandardAes.Session} {size : Nat} {e : Error}
    {es : Trace Environment} (h : StandardAes.Session.PrepareCase s size (.error (.error e)) s' es)
    (he : e.outcome = .rejected) : Supplied e es := by
  cases h with
  | misused => cases he
  | oversized => cases he
  | failed _ _ _ _ hrejects => exact .inl (hrejects he)

/-- An accepted reply that is read the way the request was protected fails without knowledge. -/
theorem Ev2Accept.unknown {s s' : Ev2.Session} {response : Raw.Response} {e : Error}
    {es : Trace Environment} (h : Ev2Accept request s response (.error (.error e)) s' es)
    (hpaired : Paired request) (hphase : s.phase = awaited request) (hstatus : response.status = 0x00) :
    e.outcome = .unknown := by
  have hevident := h.evident hpaired hphase rfl
  cases h with
  | plain _ _ h =>
    cases h with
    | misused => exact absurd rfl hevident
    | refused _ hne => exact absurd hstatus hne
  | mac _ h =>
    cases h with
    | misused => exact absurd rfl hevident
    | refused _ _ _ hunknown => exact hunknown hstatus
  | full _ _ h =>
    cases h with
    | unverified h =>
      cases h with
      | misused => exact absurd rfl hevident
      | refused _ _ _ hunknown => exact hunknown hstatus
    | refused _ _ he => exact he

theorem AesAccept.unknown {s s' : StandardAes.Session} {response : Raw.Response} {e : Error}
    {es : Trace Environment} (h : AesAccept request s response (.error (.error e)) s' es)
    (hphase : s.phase = .awaitingResponse) (hstatus : response.status = 0x00) : e.outcome = .unknown := by
  cases h with
  | verified _ _ h =>
    cases h with
    | misused hmisused => exact absurd hphase hmisused
    | refused _ _ _ hunknown => exact hunknown hstatus
  | full _ _ h =>
    cases h with
    | misused hmisused => exact absurd hphase hmisused
    | refused _ _ _ hunknown => exact hunknown hstatus

end Sessions
end DesfireSdk.Native.Secure
