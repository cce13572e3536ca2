import DesfireSdk.Native.Raw.Deadlines
import DesfireSdk.Native.Secure.Cases
import DesfireSdk.Security.Ev2.Authentication
import DesfireSdk.Security.StandardAes.Authentication

/-! The clock of protected exchanges and of native authentications. -/
namespace DesfireSdk.Native.Secure
open Interaction Program Security
open Raw (Untimed Timed Unhurried ensures_untimed_bind cbc_untimed cmac_untimed random_untimed
  untimed_catchAll untimed_onError)
open Raw.Transaction (Clocked)

section Preparations
variable {o : Oracle Environment} {command : Byte} {header data : Bytes}

theorem ev2_checkReady_untimed (s : Ev2.Session) :
    Ensures tickOf o Ev2.Session.checkReady s fun r _ ts => Untimed (Unhurried o) r ts := by
  refine ensures_get_bind (Op.ensures_refuse_bind (fun _ => .refused (by simp [Ev2.Session.notReady])) fun _ => ?_)
  intro h
  unfold Op.refuseAfter
  split
  · exact Untimed.refused (by simp [Ev2.Session.exhausted])
  · exact Untimed.ok ()

theorem ev2_prepareMac_untimed (s : Ev2.Session) :
    Ensures tickOf o (Ev2.Session.prepareMac command header data) s fun r _ ts => Untimed (Unhurried o) r ts := by
  refine ensures_untimed_bind (ev2_checkReady_untimed s) (fun _ _ h => h) fun _ s => ensures_get_bind ?_
  refine Op.ensures_refuse_bind (fun _ => .refused (by simp [invalid])) fun _ => ?_
  refine untimed_catchAll (by simp) ?_
  refine ensures_untimed_bind (untimed_onError ((cmac_untimed _ _).mono fun _ _ _ h => h.2))
    (fun _ _ h => h) fun fullMac s => ?_
  refine ensures_untimed_bind (untimed_onError (Op.ensures_ofResult ?_)) (fun _ _ h => h) fun _ s =>
    ensures_modify_bind (ensures_pure (.ok _))
  unfold Ev2.truncateMac
  split
  · exact .refused (by simp)
  · exact .ok _

theorem ev2_preparePlain_untimed (s : Ev2.Session) :
    Ensures tickOf o (Ev2.Session.preparePlain command header data) s fun r _ ts => Untimed (Unhurried o) r ts := by
  refine ensures_untimed_bind (ev2_checkReady_untimed s) (fun _ _ h => h) fun _ s => ?_
  refine Op.ensures_refuse_bind (fun _ => .refused (by simp [invalid])) fun _ => ?_
  exact ensures_modify_bind (ensures_pure (.ok _))

theorem ev2_prepare_untimed (request : Request) (s : Ev2.Session) :
    Ensures tickOf o (prepare request) s fun r _ ts => Untimed (Unhurried o) r ts := by
  have hfull : Ensures tickOf o (Ev2.Session.prepareFull request.command request.header request.data) s
      fun r _ ts => Untimed (Unhurried o) r ts := by
    refine ensures_untimed_bind (ev2_checkReady_untimed s) (fun _ _ h => h) fun _ s => ensures_get_bind ?_
    refine ensures_ite (fun _ => ev2_prepareMac_untimed s) fun _ => ?_
    refine untimed_catchAll (by simp) ?_
    refine Op.ensures_ofResult_bind (fun e he => ?_) fun padded _ => ?_
    · unfold Ev2.padMethod2 at he
      split at he <;> cases he
      exact .refused (by simp [invalid])
    refine ensures_untimed_bind (untimed_onError ((cbc_untimed _ _ _ _).mono fun _ _ _ h => h.2))
      (fun _ _ h => h) fun iv s => ?_
    refine ensures_untimed_bind (untimed_onError ((cbc_untimed _ _ _ _).mono fun _ _ _ h => h.2))
      (fun _ _ h => h) fun ciphertext s => ?_
    exact ev2_prepareMac_untimed s
  unfold prepare
  cases request.requestMode with
  | plain => exact ev2_preparePlain_untimed s
  | mac => exact ev2_prepareMac_untimed s
  | _ => exact hfull

theorem aes_prepareCmacCommand_untimed (transmitMac : Bool) (s : StandardAes.Session) :
    Ensures tickOf o (StandardAes.Session.prepareCmacCommand command header data transmitMac) s fun r _ ts =>
      Untimed (Unhurried o) r ts := by
  refine ensures_get_bind (Op.ensures_refuse_bind
    (fun _ => .refused (by simp [StandardAes.Session.notReady])) fun _ => ?_)
  refine Op.ensures_refuse_bind (fun _ => .refused (by simp [invalid])) fun _ => ?_
  refine untimed_catchAll (by simp) ?_
  refine ensures_untimed_bind (untimed_onError ?_) (fun _ _ h => h) fun _ _ => ensures_modify_bind (ensures_pure (.ok _))
  refine ensures_get_bind (untimed_catchAll (by simp) ?_)
  refine ensures_untimed_bind ((cbc_untimed _ _ _ _).mono fun _ _ _ h => h.2) (fun _ _ h => h) fun zero s => ?_
  refine Op.ensures_refuse_bind (fun _ => .refused (by simp [invalid])) fun _ => ?_
  exact ensures_untimed_bind ((cbc_untimed _ _ _ _).mono fun _ _ _ h => h.2) (fun _ _ h => h) fun _ _ =>
    ensures_pure (.ok _)

theorem aes_prepare_untimed (request : Request) (s : StandardAes.Session) :
    Ensures tickOf o (prepare request) s fun r _ ts => Untimed (Unhurried o) r ts := by
  have hfull : Ensures tickOf o (StandardAes.Session.prepareFull request.command request.header request.data) s
      fun r _ ts => Untimed (Unhurried o) r ts := by
    refine ensures_ite (fun _ => aes_prepareCmacCommand_untimed false s) fun _ => ensures_get_bind ?_
    refine Op.ensures_refuse_bind (fun _ => .refused (by simp [StandardAes.Session.notReady])) fun _ => ?_
    refine Op.ensures_refuse_bind (fun _ => .refused (by simp [invalid])) fun _ => ?_
    refine Op.ensures_refuse_bind (fun _ => .refused (by simp [invalid])) fun _ => ?_
    refine untimed_catchAll (by simp) ?_
    exact ensures_untimed_bind (untimed_onError ((cbc_untimed _ _ _ _).mono fun _ _ _ h => h.2))
      (fun _ _ h => h) fun _ _ => ensures_modify_bind (ensures_pure (.ok _))
  unfold prepare
  cases request.requestMode with
  | plain => exact aes_prepareCmacCommand_untimed false s
  | mac => exact aes_prepareCmacCommand_untimed _ s
  | _ => exact hfull

end Preparations
section Exchanges
variable {o : Oracle Environment} {options : ExchangeOptions} {request : Request}

/-- A protected exchange reads the clock for its own frames only. -/
theorem exchangeProtected_ticks {σ : Type} [SecureSession σ] {channel : Raw.RawNativeChannel} {s : σ}
    (hprepare : ∀ s : σ, Ensures tickOf o (prepare request) s fun r _ ts => Untimed (Unhurried o) r ts)
    (haccept : ∀ (s : σ) response, Ensures tickOf o (accept request response) s fun _ _ ts => ts = []) :
    Ensures tickOf o (exchangeProtected channel request options) s fun r _ ts =>
      Timed (Unhurried o) options.timeout r ts := by
  refine Op.ensures_ofResult_bind (fun e he => .refused (by simp [(validate_error he).2])) fun _ _ => ?_
  refine Raw.RawNativeChannel.ensures_begin_bind (fun _ _ h => h.timed) fun start transaction hdeadline => ?_
  refine ensures_untimed_bind (Op.ensures_onError ((hprepare s).mono fun _ _ _ h => h.afterError)) ?_ fun prepared s => ?_
  · rintro f _ ⟨_,hcode⟩
    exact ⟨.begun start .done,fun ho htimeout => absurd htimeout (hcode ho),by rintro _ ⟨⟩⟩
  have hexchange := Raw.Transaction.exchange_ticks (Unhurried o) o (rawRequest request prepared) transaction
  rw [hdeadline] at hexchange
  refine ensures_bind (m := fun r _ ts => Timed (Unhurried o) options.timeout r (.read start :: ts))
    (Op.ensures_onError (ensures_within (hexchange.mono fun _ _ _ h =>
      (Raw.RawNativeChannel.timed_of_clocked h).afterError))) (fun _ _ _ h => h.passed) ?_
  intro response s ts hts
  have hover (r : Except Fault Bytes) : Timed (Unhurried o) options.timeout r (.read start :: (ts ++ [])) := by
    rw [List.append_nil]
    exact hts.answered
  refine Op.ensures_refuseAfter_bind (fun _ => hover _) fun _ => ?_
  refine ensures_bind (m := fun _ _ ts => ts = []) (Op.ensures_onError (haccept s response)) ?_ ?_
  · rintro _ _ _ rfl
    exact hover _
  rintro clear s _ rfl
  refine ensures_bind (m := fun _ _ ts => ts = []) (Op.ensures_onError (Op.ensures_ofResult ?_)) ?_ ?_
  · cases checkResponseSize clear request <;> rfl
  · rintro _ _ _ rfl
    exact hover _
  · rintro _ _ _ rfl
    exact ensures_modify_bind (ensures_pure (hover _))

end Exchanges
section Authentications
variable {o : Oracle Environment} {key : Bytes} {t : Raw.Transaction} {α : Type}

/-- What an authentication makes of the clock of its transaction. -/
def Keeps (o : Oracle Environment) (t : Raw.Transaction) (r : Except Fault α) (t' : Raw.Transaction)
    (ts : List Tick) : Prop :=
  t'.deadline = t.deadline ∧ Clocked (Unhurried o) t.deadline r ts

/-- Changing an error changes nothing else. -/
theorem mapError_still {τ : Type} {change : Error → Error} {p : Op τ α} {s : τ}
    (hp : Ensures tickOf o p s fun _ s' ts => s' = s ∧ ts = []) :
    Ensures tickOf o (Op.mapError change p) s fun _ s' ts => s' = s ∧ ts = [] := by
  refine Op.ensures_mapError (hp.mono fun r _ _ h => ?_)
  rcases r with (_ | _) | _ <;> exact h

theorem exchangeNonces_ticks (profile : NonceProfile) (payload : Bytes) (t : Raw.Transaction) :
    Ensures tickOf o (exchangeNonces profile payload key Raw.Transaction.exchangeFrame) t fun r t' ts =>
      Keeps o t r t' ts := by
  refine ensures_bind (random_untimed 16) ?_ ?_
  · rintro f _ ts ⟨rfl,rfl,hcode⟩
    exact ⟨rfl,.done,fun ho htimeout => absurd htimeout.passed (hcode ho),by rintro _ ⟨⟩⟩
  rintro randomA t ts ⟨rfl,rfl,_⟩
  refine ensures_bind (Raw.Transaction.exchangeFrame_ticks (Unhurried o) o _ _ t) ?_ ?_
  · rintro f t₁ ts ⟨hdeadline,hclocked⟩
    exact ⟨hdeadline,hclocked.passed⟩
  rintro initial t₁ ts₁ ⟨hdeadline,hclocked⟩
  have hstopped (r : Except Fault Nonces) : Keeps o t r t₁ ([] ++ (ts₁ ++ [])) := by
    rw [List.append_nil]
    exact ⟨hdeadline,hclocked.answered⟩
  refine Op.ensures_ofResult_bind (fun _ _ => hstopped _) fun _ _ => ?_
  refine ensures_bind (mapError_still (Op.ensures_secretOutput (Op.ensures_cbc fun _ => ⟨rfl,rfl⟩))) ?_ ?_
  · rintro _ _ _ ⟨rfl,rfl⟩
    exact hstopped _
  rintro randomB t₁ _ ⟨rfl,rfl⟩
  refine ensures_bind (mapError_still (Op.ensures_secretOutput (Op.ensures_cbc fun _ => ⟨rfl,rfl⟩))) ?_ ?_
  · rintro _ _ _ ⟨rfl,rfl⟩
    exact hstopped _
  rintro proof t₁ _ ⟨rfl,rfl⟩
  refine ensures_bind (m := Keeps o t₁) (Op.ensures_mapError
    ((Raw.Transaction.exchangeFrame_ticks (Unhurried o) o _ _ t₁).mono ?_)) ?_ ?_
  · rintro r t₂ ts ⟨hsame,hrest⟩
    refine ⟨?_,hrest.changeError fun e => by simp⟩
    rcases r with (_ | _) | _ <;> exact hsame
  · rintro f t₂ ts ⟨hsame,hrest⟩
    rw [hdeadline] at hrest
    exact ⟨hsame.trans hdeadline,hclocked.append hrest.passed⟩
  rintro terminal t₂ ts₂ ⟨hsame,hrest⟩
  rw [hdeadline] at hrest
  have hfinished (r : Except Fault Nonces) : Keeps o t r t₂ ([] ++ (ts₁ ++ ([] ++ ([] ++ (ts₂ ++ []))))) := by
    rw [List.append_nil]
    exact ⟨hsame.trans hdeadline,hclocked.append hrest.answered⟩
  refine Op.ensures_ofResult_bind (fun _ _ => hfinished _) fun _ _ => ?_
  refine ensures_bind (mapError_still (Op.ensures_secretOutput (Op.ensures_cbc fun _ => ⟨rfl,rfl⟩))) ?_ ?_
  · rintro _ _ _ ⟨rfl,rfl⟩
    exact hfinished _
  · rintro plaintext _ _ ⟨rfl,rfl⟩
    exact ensures_pure (hfinished _)

/-- Checks without a clock after an exchange of nonces. -/
theorem keeps_after_nonces {e : Error} (hcode : e.code ≠ .timeout) {profile : NonceProfile} {payload : Bytes}
    {f : Nonces → Op Raw.Transaction α}
    (hf : ∀ nonces t, Ensures tickOf o (f nonces) t fun _ t' ts => t' = t ∧ ts = []) :
    Ensures tickOf o (Op.catchAll id e (exchangeNonces profile payload key Raw.Transaction.exchangeFrame >>= f)) t
      fun r t' ts => Keeps o t r t' ts := by
  refine Op.ensures_catchAll (Ensures.mono (show Ensures tickOf o _ t (Keeps o t) from ?_) ?_)
  · refine ensures_bind (exchangeNonces_ticks profile payload t) ?_ ?_
    · rintro _ t' ts ⟨hdeadline,hclocked⟩
      exact ⟨hdeadline,hclocked.passed⟩
    rintro nonces t' ts ⟨hdeadline,hclocked⟩
    refine (hf nonces t').mono ?_
    rintro r _ _ ⟨rfl,rfl⟩
    rw [List.append_nil]
    exact ⟨hdeadline,hclocked.answered⟩
  · rintro r t' ts ⟨hdeadline,hclocked⟩
    rcases r with (_ | _) | _
    · exact ⟨hdeadline,hclocked⟩
    · exact ⟨hdeadline,hclocked.governed,fun _ htimeout => absurd htimeout (Raw.not_timedOut hcode),by rintro _ ⟨⟩⟩
    · exact ⟨hdeadline,hclocked⟩

theorem deriveMaterial_ticks (randomA randomB : Bytes) (information : Model.AuthenticationInfo) (t : Raw.Transaction) :
    Ensures tickOf o (Op.mapError Error.asUnknown (Ev2.deriveMaterial key randomA randomB information)) t
      fun _ t' ts => t' = t ∧ ts = [] := by
  refine mapError_still ?_
  refine ensures_bind (m := fun _ t' ts => t' = t ∧ ts = [])
    (Op.ensures_secretOutput (Op.ensures_cmac fun _ => ⟨rfl,rfl⟩)) (fun _ _ _ h => h) ?_
  rintro encryption t _ ⟨rfl,rfl⟩
  refine ensures_bind (m := fun _ t' ts => t' = t ∧ ts = [])
    (Op.ensures_secretOutput (Op.ensures_cmac fun _ => ⟨rfl,rfl⟩)) (fun _ _ _ h => h) ?_
  rintro mac _ _ ⟨rfl,rfl⟩
  exact ensures_pure ⟨rfl,rfl⟩

theorem authenticateFirst_ticks (keyNumber : Byte) (pcdCapabilities : Bytes) (t : Raw.Transaction) :
    Ensures tickOf o (Ev2.authenticateFirst keyNumber key pcdCapabilities Raw.Transaction.exchangeFrame) t
      fun r t' ts => Keeps o t r t' ts := by
  refine Op.ensures_refuse_bind (fun _ => ⟨rfl,.refused (by simp [invalid])⟩) fun _ => ?_
  refine keeps_after_nonces (by simp) fun nonces t => ?_
  refine Op.ensures_refuse_bind (fun _ => ⟨rfl,rfl⟩) fun _ => Op.ensures_refuse_bind (fun _ => ⟨rfl,rfl⟩) fun _ => ?_
  exact deriveMaterial_ticks _ _ _ t

theorem authenticateNonfirst_ticks (keyNumber : Byte) (previous : Model.AuthenticationInfo) (t : Raw.Transaction) :
    Ensures tickOf o (Ev2.authenticateNonfirst keyNumber key previous Raw.Transaction.exchangeFrame) t
      fun r t' ts => Keeps o t r t' ts := by
  refine Op.ensures_refuse_bind (fun _ => ⟨rfl,.refused (by simp [invalid])⟩) fun _ => ?_
  refine keeps_after_nonces (by simp) fun nonces t => ?_
  exact Op.ensures_refuse_bind (fun _ => ⟨rfl,rfl⟩) fun _ => deriveMaterial_ticks _ _ _ t

theorem authenticate_ticks (keyNumber : Byte) (t : Raw.Transaction) :
    Ensures tickOf o (StandardAes.authenticate keyNumber key Raw.Transaction.exchangeFrame) t fun r t' ts =>
      Keeps o t r t' ts := by
  refine Op.ensures_refuse_bind (fun _ => ⟨rfl,.refused (by simp [invalid])⟩) fun _ => ?_
  refine keeps_after_nonces (by simp) fun nonces t => ?_
  exact Op.ensures_refuse_bind (fun _ => ⟨rfl,rfl⟩) fun _ => ensures_pure ⟨rfl,rfl⟩

end Authentications
end DesfireSdk.Native.Secure
