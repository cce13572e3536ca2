import DesfireSdk.Foundation.Interruptions
import DesfireSdk.Native.Raw.Frames
import DesfireSdk.Security.Ev2.Authentication
import DesfireSdk.Security.StandardAes.Authentication

/-! What can interrupt a native login: the clock, a stop, and what it calls. -/
namespace DesfireSdk.Native
open Interaction Program

namespace Raw.Transaction
variable {o : Oracle Environment} {high low : Int} {t : Transaction}

theorem remainingOptions_smooth (hdeadline : high ≤ t.deadline) :
    Smooth o high low remainingOptions t fun _ t' _ => t' = t := by
  refine .get_bind (.now_bind fun now _ hbefore => ?_)
  refine .pass_bind (by omega) (.generation_bind fun _ => ?_)
  refine .refuse_bind (not_interrupts (by simp) (by simp)) fun _ => .stopRequested_bind ?_
  exact .pass_bind Bool.false_ne_true (.pure rfl)

theorem exchangeFrame_smooth {command : Byte} {data : Bytes} (hdeadline : high ≤ t.deadline) :
    Smooth o high low (exchangeFrame command data) t fun _ t' _ => t'.deadline = t.deadline := by
  have hcapacity (message : String) : ¬Interrupts (.error (normalizeDelivery (invalid message) t.sentAnyFrame)) :=
    not_interrupts (by simp [invalid]) (by simp [invalid])
  refine .bind (remainingOptions_smooth hdeadline) ?_
  rintro controls t now rfl
  refine .get_bind (.capabilities_bind fun limits => .refuse_bind (hcapacity _) fun _ => ?_)
  refine .bind (m := fun _ t' _ => t' = t) (.mapError (fun e => by simp) (.ofResult (fun e he => ?_) fun _ _ => rfl)) ?_
  · exact not_interrupts (by simp [(encode_error he).2]) (by simp [(encode_error he).2])
  rintro frame t now rfl
  refine .refuse_bind (hcapacity _) fun _ => ?_
  refine .bind (.mapError (fun e => by simp) (.catchAll (not_interrupts (by simp) (by simp)) .transportExchange)) ?_
  rintro reply t now ⟨rfl,rfl⟩
  refine .modify_bind (.generation_bind fun _ => ?_)
  refine .refuse_bind (not_interrupts (by simp) (by simp)) fun _ => ?_
  refine .refuse_bind (not_interrupts (by simp) (by simp)) fun _ => .ofResult (fun e he => ?_) fun _ _ => rfl
  exact not_interrupts (by simp [decode_code he]) (by simp [decode_code he])

end Raw.Transaction

namespace Secure
open Security Raw.Transaction
variable {o : Oracle Environment} {high low : Int} {t : Raw.Transaction} {keyNumber : Byte} {key : Bytes}

theorem requirePhase_smooth {operation : String} {response : Raw.Response} {status : Byte} {size : Nat} {e : Error}
    (h : requirePhase operation response status size = .error e) : ¬Interrupts (.error e) := by
  unfold requirePhase at h
  split at h
  · split at h <;> cases h <;> exact not_interrupts (by simp) (by simp)
  · split at h <;> cases h
    exact not_interrupts (by simp) (by simp)

theorem exchangeNonces_smooth (profile : NonceProfile) (payload : Bytes) (hdeadline : high ≤ t.deadline) :
    Smooth o high low (exchangeNonces profile payload key exchangeFrame) t fun _ _ _ => True := by
  refine .bind (.secretOutput .random) ?_
  rintro host t now ⟨rfl,rfl⟩
  refine .bind (exchangeFrame_smooth hdeadline) fun initial t₁ _ hsame => ?_
  refine .ofResult_bind (fun _ he => requirePhase_smooth he) fun _ _ => ?_
  refine .bind (.mapError Error.asUnknown_code (.secretOutput .cbc)) ?_
  rintro card t₁ _ ⟨rfl,rfl⟩
  refine .bind (.mapError Error.asUnknown_code (.secretOutput .cbc)) ?_
  rintro proof t₁ _ ⟨rfl,rfl⟩
  refine .bind (.mapError Error.afterDelivery_code (exchangeFrame_smooth (by rw [hsame]; exact hdeadline))) fun terminal t₂ _ _ => ?_
  refine .ofResult_bind (fun _ he => requirePhase_smooth he) fun _ _ => ?_
  refine .bind (.mapError Error.asUnknown_code (.secretOutput .cbc)) ?_
  rintro plaintext t₂ _ ⟨rfl,rfl⟩
  exact .pure trivial

theorem deriveMaterial_smooth (host card : Bytes) (information : Model.AuthenticationInfo) :
    Smooth o high low (Op.mapError Error.asUnknown (Ev2.deriveMaterial key host card information)) t fun _ _ _ => True := by
  refine .mapError Error.asUnknown_code (.bind (.secretOutput .cmac) ?_)
  rintro encryption t _ ⟨rfl,rfl⟩
  refine .bind (.secretOutput .cmac) ?_
  rintro mac t _ ⟨rfl,rfl⟩
  exact .pure trivial

theorem authenticate_smooth (hdeadline : high ≤ t.deadline) :
    Smooth o high low (StandardAes.authenticate keyNumber key exchangeFrame) t fun _ _ _ => True := by
  refine .refuse_bind (not_interrupts (by simp [invalid]) (by simp [invalid])) fun _ => ?_
  refine .catchAll (not_interrupts (by simp) (by simp)) (.bind (exchangeNonces_smooth _ _ hdeadline) fun nonces _ _ _ => ?_)
  exact .refuse_bind (not_interrupts (by simp) (by simp)) fun _ => .pure trivial

theorem authenticateFirst_smooth (pcdCapabilities : Bytes) (hdeadline : high ≤ t.deadline) :
    Smooth o high low (Ev2.authenticateFirst keyNumber key pcdCapabilities exchangeFrame) t fun _ _ _ => True := by
  refine .refuse_bind (not_interrupts (by simp [invalid]) (by simp [invalid])) fun _ => ?_
  refine .catchAll (not_interrupts (by simp) (by simp)) (.bind (exchangeNonces_smooth _ _ hdeadline) fun nonces _ _ _ => ?_)
  refine .refuse_bind (not_interrupts (by simp) (by simp)) fun _ => ?_
  exact .refuse_bind (not_interrupts (by simp) (by simp)) fun _ => deriveMaterial_smooth _ _ _

theorem authenticateNonfirst_smooth (previous : Model.AuthenticationInfo) (hdeadline : high ≤ t.deadline) :
    Smooth o high low (Ev2.authenticateNonfirst keyNumber key previous exchangeFrame) t fun _ _ _ => True := by
  refine .refuse_bind (not_interrupts (by simp [invalid]) (by simp [invalid])) fun _ => ?_
  refine .catchAll (not_interrupts (by simp) (by simp)) (.bind (exchangeNonces_smooth _ _ hdeadline) fun nonces _ _ _ => ?_)
  exact .refuse_bind (not_interrupts (by simp) (by simp)) fun _ => deriveMaterial_smooth _ _ _

end Secure
end DesfireSdk.Native
