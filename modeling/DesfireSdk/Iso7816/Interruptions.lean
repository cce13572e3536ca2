import DesfireSdk.Foundation.Interruptions
import DesfireSdk.Iso7816.Session

/-! What can interrupt an ISO login: the clock, a stop, and what it calls. -/
namespace DesfireSdk.Iso7816
open Interaction Program

namespace Raw
variable {o : Oracle Environment} {high low : Int} {τ : Type} {s : τ}

/-- From now on to the end no budget is used up. -/
structure Budget.Lasts (budget : Budget) (high now : Int) : Prop where
  begun : budget.started ≤ now
  left : high ≤ budget.started + budget.options.timeout * 1000000

theorem Budget.Lasts.later {budget : Budget} {now : Int} (h : budget.Lasts high low) (hlater : low ≤ now) :
    budget.Lasts high now :=
  ⟨Int.le_trans h.begun hlater,h.left⟩

theorem budget_start_smooth {options : ExchangeOptions} (hhigh : high ≤ low + options.timeout * 1000000) :
    Smooth o high low (Budget.start options) s fun budget s' now => budget.Lasts high now ∧ low ≤ now ∧ s' = s :=
  .generation_bind fun _ => .now_bind fun now hlow _ => .pure ⟨⟨Int.le_refl now,by dsimp only; omega⟩,hlow,rfl⟩

theorem budget_next_smooth {messages : BudgetMessages} {budget : Budget} {sent : Bool} (hlasts : budget.Lasts high low) :
    Smooth o high low (budget.next messages sent) s fun remaining s' now =>
      high ≤ now + remaining.timeout * 1000000 ∧ low ≤ now ∧ s' = s := by
  obtain ⟨hbegun,hleft⟩ := hlasts
  refine .generation_bind fun _ => .refuse_bind (not_interrupts (by simp) (by simp)) fun _ => ?_
  refine .stopRequested_bind (.pass_bind Bool.false_ne_true (.now_bind fun now hlow hhigh => ?_))
  have helapsed : (now - budget.started).tdiv 1000000 = (now - budget.started) / 1000000 :=
    Int.tdiv_eq_ediv_of_nonneg (by omega)
  refine .pass_bind ?_ (.pure ⟨?_,hlow,rfl⟩)
  · rw [helapsed]
    omega
  · dsimp only
    rw [helapsed]
    omega

theorem encode_smooth {apdu : Apdu} {e : Error} (h : encode apdu = .error e) : ¬Interrupts (.error e) := by
  unfold encode at h
  split at h
  · cases h
    exact not_interrupts (by simp [invalid]) (by simp [invalid])
  dsimp only at h
  split at h <;> cases h
  exact not_interrupts (by simp [invalid]) (by simp [invalid])

theorem decode_smooth {frame : Bytes} {e : Error} (h : decode frame = .error e) : ¬Interrupts (.error e) := by
  unfold decode at h
  split at h <;> cases h
  exact not_interrupts (by simp [malformed]) (by simp [malformed])

theorem malformed_smooth (message : String) (status : UInt16) : ¬Interrupts (.error (malformed message status)) :=
  not_interrupts (by simp [malformed]) (by simp [malformed])

theorem exchangeLoop_smooth (apdu : Apdu) (limits : Limits) (transportLimits : TransportCapabilities) {budget : Budget}
    (n : Nat) (p : Progress) (attempted : Bool) (hlasts : budget.Lasts high low) :
    Smooth o high low (exchangeLoop apdu limits transportLimits budget n p) attempted fun _ _ now => low ≤ now := by
  induction n generalizing p attempted low with
  | zero => exact .fail (malformed_smooth _ _)
  | succ n ih =>
    refine .bind (budget_next_smooth hlasts) ?_
    rintro remaining _ now ⟨_,hlow,rfl⟩
    have hlasts' := hlasts.later hlow
    refine .refuse_bind (not_interrupts (by simp) (by simp)) fun _ => .modify_bind ?_
    refine .bind (.mapError (fun e => by split <;> simp) (.catchAll (not_interrupts (by simp) (by simp))
      .transportExchange)) ?_
    rintro frame _ _ ⟨rfl,rfl⟩
    refine .generation_bind fun _ => .refuse_bind (not_interrupts (by simp) (by simp)) fun _ => ?_
    refine .refuse_bind (malformed_smooth _ _) fun _ => .ofResult_bind (fun _ => decode_smooth) fun reply _ => ?_
    refine .refuse_bind (malformed_smooth _ _) fun _ => .ite (fun _ => ?_) fun _ => ?_
    · refine .refuse_bind (malformed_smooth _ _) fun _ => ?_
      refine .bind (m := fun _ s' later => s' = true ∧ later = _) (.mapError Error.afterDelivery_code
        (.ofResult (fun _ => encode_smooth) fun _ _ => ⟨rfl,rfl⟩)) ?_
      rintro encoded _ _ ⟨rfl,rfl⟩
      exact (ih _ _ hlasts').mono fun _ _ _ h => Int.le_trans hlow h
    · refine .refuse_bind (malformed_smooth _ _) fun _ => .ite (fun _ => .pure hlow) fun _ => ?_
      refine .refuse_bind (malformed_smooth _ _) fun _ => ?_
      exact (ih _ _ hlasts').mono fun _ _ _ h => Int.le_trans hlow h

theorem Channel.exchange_smooth (apdu : Apdu) {options : ExchangeOptions} (limits : Limits)
    (hhigh : high ≤ low + options.timeout * 1000000) :
    Smooth o high low (Channel.exchange apdu options limits) s fun _ s' now => low ≤ now ∧ s' = s := by
  refine .admission_bind fun _ => .throw_bind fun _ => .refuse_bind (not_interrupts (by simp) (by simp)) fun _ => ?_
  refine .within (.recover (fun _ => not_interrupts (by simp) (by simp)) ?_)
  refine .refuse_bind (not_interrupts (by simp [invalid]) (by simp [invalid])) fun _ => .capabilities_bind fun _ => ?_
  refine .refuse_bind (not_interrupts (by simp) (by simp)) fun _ => ?_
  refine .refuse_bind (not_interrupts (by simp [invalid]) (by simp [invalid])) fun _ => ?_
  refine .ofResult_bind (fun _ => encode_smooth) fun _ _ => ?_
  refine .refuse_bind (not_interrupts (by simp [invalid]) (by simp [invalid])) fun _ => ?_
  refine .bind (budget_start_smooth hhigh) ?_
  rintro budget _ now ⟨hlasts,hlow,rfl⟩
  exact (exchangeLoop_smooth _ _ _ _ _ _ hlasts).mono fun _ _ _ h => ⟨Int.le_trans hlow h,rfl⟩

end Raw

theorem Checked.Channel.exchange_smooth {o : Oracle Environment} {high low : Int} {τ : Type} {s : τ}
    (command : Checked.Command) {options : ExchangeOptions} (limits : Checked.Limits)
    (hhigh : high ≤ low + options.timeout * 1000000) :
    Smooth o high low (Checked.Channel.exchange command options limits) s fun _ s' now => low ≤ now ∧ s' = s := by
  refine .refuse_bind (not_interrupts (by simp [invalid]) (by simp [invalid])) fun _ => ?_
  exact .bind (Raw.Channel.exchange_smooth _ _ hhigh) fun _ _ _ h => .pure h

namespace Aes
open Raw
variable {o : Oracle Environment} {high low : Int}

theorem requireSuccess_smooth {response : Checked.Response} {size : Nat} {operation : String} {e : Error}
    (h : requireSuccess response size operation = .error e) : ¬Interrupts (.error e) := by
  unfold requireSuccess at h
  split at h
  · cases h
    exact not_interrupts (by simp) (by simp)
  split at h <;> cases h
  exact malformed_smooth _ _

theorem requireTransmittable_smooth (command : Checked.Command) (s : Bool) :
    Smooth o high low (requireTransmittable command) s fun _ s' now => s' = s ∧ now = low := by
  refine .value_bind fun _ _ => .capabilities_bind fun _ => ?_
  exact .refuse (not_interrupts (by simp [invalid]) (by simp [invalid])) ⟨rfl,rfl⟩

theorem phase_smooth (command : Checked.Command) {options : ExchangeOptions} (size : Nat) (operation : String) (s : Bool)
    (hhigh : high ≤ low + options.timeout * 1000000) :
    Smooth o high low (Op.mapError Error.afterDelivery do
      let response ← Checked.Channel.exchange command options ⟨32,4,false⟩
      Op.ofResult (requireSuccess response size operation)) s fun _ _ now => low ≤ now := by
  refine .mapError Error.afterDelivery_code (.bind (Checked.Channel.exchange_smooth _ _ hhigh) fun _ _ _ h => ?_)
  exact .ofResult (fun _ => requireSuccess_smooth) fun _ _ => h.1

theorem prove_smooth (reference : Checked.KeyReference) (key : Bytes) {options : ExchangeOptions}
    (encoding : LengthEncoding) (hhigh : high ≤ low + options.timeout * 1000000) :
    Smooth o high low (prove reference key options encoding) false fun _ _ _ => True := by
  refine .refuse_bind (not_interrupts (by simp [invalid]) (by simp [invalid])) fun _ => .capabilities_bind fun _ => ?_
  refine .refuse_bind (not_interrupts (by simp) (by simp)) fun _ => .bind (budget_start_smooth hhigh) ?_
  rintro budget _ now₁ ⟨hlasts,_,rfl⟩
  refine .bind (budget_next_smooth hlasts) ?_
  rintro _ _ now₂ ⟨_,hlater,rfl⟩
  refine .bind (.secretOutput .random) ?_
  rintro hostRandom _ _ ⟨rfl,rfl⟩
  refine .value_bind fun getChallenge _ => .value_bind fun internal _ => .value_bind fun externalProbe _ => ?_
  refine .bind (requireTransmittable_smooth _ _) ?_
  rintro _ _ _ ⟨rfl,rfl⟩
  refine .bind (requireTransmittable_smooth _ _) ?_
  rintro _ _ _ ⟨rfl,rfl⟩
  refine .bind (requireTransmittable_smooth _ _) ?_
  rintro _ _ _ ⟨rfl,rfl⟩
  refine .bind (budget_next_smooth (hlasts.later hlater)) ?_
  rintro remaining _ now₃ ⟨hremaining,hlater₃,rfl⟩
  refine .modify_bind (.bind (Checked.Channel.exchange_smooth _ _ hremaining) ?_)
  rintro response _ now₄ ⟨hlater₄,rfl⟩
  refine .ofResult_bind (fun _ => requireSuccess_smooth) fun challenge _ => ?_
  refine .bind (.mapError Error.afterDelivery_code (.secretOutput .cbc)) ?_
  rintro ciphertext _ _ ⟨rfl,rfl⟩
  have hlasts₄ := ((hlasts.later hlater).later hlater₃).later hlater₄
  refine .value_bind fun external _ => .bind (budget_next_smooth hlasts₄) ?_
  rintro remaining₅ _ now₅ ⟨hremaining₅,hlater₅,rfl⟩
  refine .bind (phase_smooth _ _ _ _ hremaining₅) fun _ _ now₆ hlater₆ => ?_
  have hlasts₆ := (hlasts₄.later hlater₅).later hlater₆
  refine .bind (budget_next_smooth hlasts₆) ?_
  rintro remaining₇ _ now₇ ⟨hremaining₇,hlater₇,rfl⟩
  refine .bind (phase_smooth _ _ _ _ hremaining₇) fun _ _ now₈ hlater₈ => ?_
  refine .bind (.mapError Error.afterDelivery_code (.secretOutput .cbc)) ?_
  rintro cardProof _ _ ⟨rfl,rfl⟩
  refine .refuse_bind (not_interrupts (by simp) (by simp)) fun _ => ?_
  exact .bind (budget_next_smooth ((hlasts₆.later hlater₇).later hlater₈)) fun _ _ _ _ => .pure trivial

/-- An undisturbed login is not interrupted. -/
theorem authenticate_smooth {τ : Type} (reference : Checked.KeyReference) (key : Bytes) {options : ExchangeOptions}
    (encoding : LengthEncoding) (hhigh : high ≤ low + options.timeout * 1000000) (s : τ) :
    Smooth o high low (authenticate reference key options encoding) s fun _ _ _ => True := by
  refine .within (.recover (fun _ => not_interrupts (by simp) (by simp)) ?_)
  exact prove_smooth reference key encoding hhigh

end Aes
end DesfireSdk.Iso7816
