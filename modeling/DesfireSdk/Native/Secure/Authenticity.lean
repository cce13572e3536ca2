import DesfireSdk.Native.Raw.Chaining
import DesfireSdk.Native.Secure.Replies

/-! The evidence behind the payload of a protected response. -/
namespace DesfireSdk.Native.Secure
open Interaction Program Security
open Raw (Answered)

/-- The payload stands behind a MAC that the provider computed under the keys of the session and
that equals the received one. -/
inductive Ev2Authentic (s : Ev2.Session) (response : Raw.Response) (es : Trace Environment) : Bytes → Prop
  | mac (mac : Bytes) (hevent : s.responseMacEvent response (.ok mac) ∈ es)
      (hequal : Ev2.Session.macOf response = Ev2.oddBytes mac) :
      Ev2Authentic s response es (Ev2.Session.dataOf response)
  | full (mac iv padded clear : Bytes) (hevent : s.responseMacEvent response (.ok mac) ∈ es)
      (hequal : Ev2.Session.macOf response = Ev2.oddBytes mac)
      (hdecrypted : (⟨.cbc s.encryptionKey iv (Ev2.Session.dataOf response) false,.ok padded⟩ : Event Environment) ∈ es)
      (hclear : Padding.unpad 0x00 0x80 Ev2.aesBlockSize padded = some clear) : Ev2Authentic s response es clear

/-- The payload stands behind a chained MAC over data and status that equals the received one, or is
covered by the checksum inside the deciphered response. -/
inductive AesAuthentic (s : StandardAes.Session) (response : Raw.Response) (es : Trace Environment) : Bytes → Prop
  | mac (encryptedZero encrypted : Bytes)
      (hevents : ∀ event ∈ s.cmacEvents (StandardAes.Session.dataOf response ++ [response.status])
        encryptedZero encrypted, event ∈ es)
      (hequal : StandardAes.Session.macOf response =
        (StandardAes.Session.lastBlock encrypted).take StandardAes.transmittedMacSize) :
      AesAuthentic s response es (StandardAes.Session.dataOf response)
  | crc (clear : Bytes) (size : Nat)
      (hdecrypted : (⟨.cbc s.sessionKey s.iv response.data false,.ok clear⟩ : Event Environment) ∈ es)
      (hverifies : StandardAes.verifies clear response.status size = true) :
      AesAuthentic s response es (clear.take size)

section Acceptance
variable {request : Request} {response : Raw.Response} {es es' : Trace Environment} {payload : Bytes}

theorem Ev2Authentic.mono {s : Ev2.Session} (h : Ev2Authentic s response es payload)
    (hsubset : ∀ event ∈ es, event ∈ es') : Ev2Authentic s response es' payload := by
  cases h with
  | mac mac hevent hequal => exact .mac mac (hsubset _ hevent) hequal
  | full mac iv padded clear hevent hequal hdecrypted hclear =>
    exact .full mac iv padded _ (hsubset _ hevent) hequal (hsubset _ hdecrypted) hclear

theorem AesAuthentic.mono {s : StandardAes.Session} (h : AesAuthentic s response es payload)
    (hsubset : ∀ event ∈ es, event ∈ es') : AesAuthentic s response es' payload := by
  cases h with
  | mac encryptedZero encrypted hevents hequal =>
    exact .mac encryptedZero encrypted (fun event hevent => hsubset _ (hevents event hevent)) hequal
  | crc clear size hdecrypted hverifies => exact .crc clear size (hsubset _ hdecrypted) hverifies

theorem verifyCase_authentic {s s' : Ev2.Session} (h : Ev2.Session.VerifyCase s response (.ok payload) s' es) :
    Ev2Authentic s response es payload := by
  cases h with
  | verified hphase hstatus hlong mac hmac hequal => exact .mac mac List.mem_cons_self hequal

/-- A protected response is returned only behind its MAC. -/
theorem Ev2Accept.authentic {s s' : Ev2.Session} (h : Ev2Accept request s response (.ok payload) s' es)
    (hmode : request.responseMode ≠ .plain) : Ev2Authentic s response es payload := by
  cases h with
  | unread hunread => exact absurd hunread.1 hmode
  | plain hplain => exact absurd hplain hmode
  | mac _ h => exact verifyCase_authentic h
  | full _ _ h =>
    cases h with
    | empty h => exact verifyCase_authentic h
    | @decrypted ciphertext _ _ h hblocks iv padded clear hiv hpadded hclear hsize =>
      cases h with
      | verified hphase hstatus hlong mac hmac hequal =>
        refine .full mac iv padded payload ?_ hequal ?_ hclear
        · exact List.mem_append_left _ List.mem_cons_self
        · exact List.mem_append_right _ (List.mem_cons_of_mem _ List.mem_cons_self)

/-- Every response that is read is returned only behind its MAC or its checksum. -/
theorem AesAccept.authentic {s s' : StandardAes.Session}
    (h : AesAccept request s response (.ok payload) s' es) (hread : ¬Unread request) :
    AesAuthentic s response es payload := by
  cases h with
  | unread hunread => exact absurd hunread hread
  | verified _ _ h =>
    cases h with
    | verified hphase hstatus encryptedZero encrypted hmac =>
      exact .mac encryptedZero encrypted (fun _ hevent => hevent) hmac
  | full _ _ h =>
    cases h with
    | decrypted hphase hstatus clear size hclear hsize => exact .crc clear size List.mem_cons_self hsize

/-- A prepared EV2 session has the keys of the session, and its counter is one further. -/
theorem Ev2Prepare.reserved {s s' : Ev2.Session} {wire : Bytes}
    (h : Ev2Prepare request s (.ok wire) s' es) : s' = s.reserve (awaited request) := by
  have hmac {command : Byte} {header data : Bytes} {es : Trace Environment}
      (hcase : Ev2.Session.MacCase s command header data (.ok wire) s' es) : s' = s.reserve .awaitingResponse := by
    cases hcase with
    | turned hturned => cases hturned
    | prepared => rfl
  have hfull (hcase : Ev2.Session.FullCase s request.command request.header request.data (.ok wire) s' es) :
      s' = s.reserve .awaitingResponse := by
    cases hcase with
    | turned hturned => cases hturned
    | bare _ _ hbare => exact hmac hbare
    | enciphered _ _ _ _ _ _ _ henciphered => exact hmac henciphered
  unfold Ev2Prepare at h
  unfold awaited
  cases hmode : request.requestMode with
  | plain =>
    simp only [hmode] at h
    cases h with
    | turned hturned => cases hturned
    | prepared => rfl
  | mac =>
    simp only [hmode] at h
    exact hmac h
  | full | other =>
    simp only [hmode] at h
    exact hfull h

end Acceptance

section Runs
variable {o : Oracle Environment} {channel : Raw.RawNativeChannel} {request : Request}

/-- A successful protected exchange: what was prepared, the response to it and its acceptance. -/
theorem ProtectedRun.accepted {σ : Type} [SecureSession σ] {s s' : σ}
    {Prep : Except Fault Bytes → σ → Trace Environment → Prop}
    {Acc : σ → Raw.Response → Except Fault Bytes → σ → Trace Environment → Prop}
    {payload : Bytes} {es : Trace Environment}
    (hrun : ProtectedRun o channel request s Prep Acc (.ok payload) s' es)
    (hprep : ∀ r s₁ es, Prep r s₁ es → deliveries es = [])
    (hacc : ∀ s₁ response r s₂ es, Acc s₁ response r s₂ es → deliveries es = []) :
    ∃ wire s₁ es₁ response s₂ es₂, Prep (.ok wire) s₁ es₁ ∧ Answered channel.framing response (deliveries es) ∧
      Acc s₁ response (.ok payload) s₂ es₂ ∧ ∀ event ∈ es₂, event ∈ es := by
  cases hrun with
  | @done es₀ wire s₁ es₁ response es₂ _ s₂ es₃ t t' h₀ hprepared hframing _ hexchange _ haccepted _ =>
    refine ⟨wire,s₁,es₁,response,s₂,es₃,hprepared,?_,haccepted,?_⟩
    · have hanswered := hexchange.answered
      rw [hframing] at hanswered
      simp only [deliveries_append,h₀,hprep _ _ _ hprepared,hacc _ _ _ _ _ haccepted,List.nil_append,List.append_nil]
      exact hanswered
    · intro event hevent
      simp [hevent]

end Runs
end DesfireSdk.Native.Secure
