import DesfireSdk.Foundation.KeyCalls
import DesfireSdk.Managed.Authentication

/-! No channel and no proof calls a key service. -/
namespace DesfireSdk
open Interaction Program

section Channels

theorem Native.Raw.RawNativeChannel.begin_keyless {τ : Type} (channel : Native.Raw.RawNativeChannel)
    (options : ExchangeOptions) : Keyless (channel.begin options : Op τ Native.Raw.Transaction) := by
  apply avoids_bind (avoids_refuse _ _)
  intro _
  apply avoids_bind (Op.keyless_stopRequested _)
  intro stop
  apply avoids_bind (avoids_refuse _ _)
  intro _
  apply avoids_bind (Op.keyless_admission _)
  intro admission
  apply avoids_bind (avoids_refuse _ _)
  intro _
  apply avoids_bind (avoids_refuse _ _)
  intro _
  exact avoids_bind Op.keyless_now fun _ => avoids_bind Op.keyless_generation fun _ => avoids_pure _

theorem Native.Raw.Transaction.exchangeFrame_keyless (command : Byte) (data : Bytes) :
    Keyless (Native.Raw.Transaction.exchangeFrame command data) := by
  have hremaining : Keyless Native.Raw.Transaction.remainingOptions := by
    apply avoids_bind avoids_get
    intro t
    apply avoids_bind Op.keyless_now
    intro now
    apply avoids_bind (avoids_refuse _ _)
    intro _
    apply avoids_bind Op.keyless_generation
    intro generation
    apply avoids_bind (avoids_refuse _ _)
    intro _
    apply avoids_bind (Op.keyless_stopRequested _)
    intro stop
    exact avoids_bind (avoids_refuse _ _) fun _ => avoids_pure _
  apply avoids_bind hremaining
  intro controls
  apply avoids_bind avoids_get
  intro t
  apply avoids_bind Op.keyless_capabilities
  intro capabilities
  apply avoids_bind (avoids_refuse _ _)
  intro _
  apply avoids_bind (avoids_settle (Op.keyless_ofResult _))
  intro encoded
  apply avoids_bind (avoids_refuse _ _)
  intro _
  apply avoids_bind (avoids_settle (avoids_settle (Op.keyless_transportExchange _ _)))
  intro wireResponse
  apply avoids_bind (avoids_modify _)
  intro _
  apply avoids_bind Op.keyless_generation
  intro generation
  apply avoids_bind (avoids_refuse _ _)
  intro _
  exact avoids_bind (avoids_refuse _ _) fun _ => Op.keyless_ofResult _

theorem Iso7816.Raw.Budget.next_keyless {τ : Type} (messages : Iso7816.Raw.BudgetMessages)
    (budget : Iso7816.Raw.Budget) (sent : Bool) : Keyless (budget.next messages sent : Op τ ExchangeOptions) := by
  apply avoids_bind Op.keyless_generation
  intro generation
  apply avoids_bind (avoids_refuse _ _)
  intro _
  apply avoids_bind (Op.keyless_stopRequested _)
  intro stop
  apply avoids_bind (avoids_refuse _ _)
  intro _
  apply avoids_bind Op.keyless_now
  intro now
  exact avoids_bind (avoids_refuse _ _) fun _ => avoids_pure _

theorem Iso7816.Raw.Budget.start_keyless {τ : Type} (options : ExchangeOptions) :
    Keyless (Iso7816.Raw.Budget.start options : Op τ Iso7816.Raw.Budget) :=
  avoids_bind Op.keyless_generation fun _ => avoids_bind Op.keyless_now fun _ => avoids_pure _

theorem Iso7816.Raw.exchangeLoop_keyless (apdu : Iso7816.Raw.Apdu) (limits : Iso7816.Raw.Limits)
    (transportLimits : TransportCapabilities) (budget : Iso7816.Raw.Budget) (n : Nat) (p : Iso7816.Raw.Progress) :
    Keyless (Iso7816.Raw.exchangeLoop apdu limits transportLimits budget n p) := by
  induction n generalizing p with
  | zero => exact avoids_fail _
  | succ n ih =>
    apply avoids_bind (Iso7816.Raw.Budget.next_keyless _ _ _)
    intro remaining
    apply avoids_bind (avoids_refuse _ _)
    intro _
    apply avoids_bind (avoids_modify _)
    intro _
    apply avoids_bind (avoids_settle (avoids_settle (Op.keyless_transportExchange _ _)))
    intro frame
    apply avoids_bind Op.keyless_generation
    intro generation
    apply avoids_bind (avoids_refuse _ _)
    intro _
    apply avoids_bind (avoids_refuse _ _)
    intro _
    apply avoids_bind (Op.keyless_ofResult _)
    intro response
    apply avoids_bind (avoids_refuse _ _)
    intro _
    apply avoids_ite
    · apply avoids_bind (avoids_refuse _ _)
      intro _
      exact avoids_bind (avoids_settle (Op.keyless_ofResult _)) fun _ => ih _
    · apply avoids_bind (avoids_refuse _ _)
      intro _
      exact avoids_ite (avoids_pure _) (avoids_bind (avoids_refuse _ _) fun _ => ih _)

theorem Iso7816.Raw.Channel.exchange_keyless {τ : Type} (apdu : Iso7816.Raw.Apdu) (options : ExchangeOptions)
    (limits : Iso7816.Raw.Limits) :
    Keyless (Iso7816.Raw.Channel.exchange apdu options limits : Op τ Iso7816.Raw.Response) := by
  apply avoids_bind (Op.keyless_admission _)
  intro admission
  apply avoids_bind (avoids_refuse _ _)
  intro _
  apply avoids_bind (avoids_refuse _ _)
  intro _
  apply avoids_within
  apply avoids_settle
  apply avoids_bind (avoids_refuse _ _)
  intro _
  apply avoids_bind Op.keyless_capabilities
  intro transportLimits
  apply avoids_bind (avoids_refuse _ _)
  intro _
  apply avoids_bind (avoids_refuse _ _)
  intro _
  apply avoids_bind (Op.keyless_ofResult _)
  intro initial
  apply avoids_bind (avoids_refuse _ _)
  intro _
  exact avoids_bind (Iso7816.Raw.Budget.start_keyless _) fun _ => Iso7816.Raw.exchangeLoop_keyless _ _ _ _ _ _

theorem Iso7816.Checked.Channel.exchange_keyless {τ : Type} (command : Iso7816.Checked.Command)
    (options : ExchangeOptions) (limits : Iso7816.Checked.Limits) :
    Keyless (Iso7816.Checked.Channel.exchange command options limits : Op τ Iso7816.Checked.Response) := by
  apply avoids_bind (avoids_refuse _ _)
  intro _
  exact avoids_bind (Iso7816.Raw.Channel.exchange_keyless _ _ _) fun _ => avoids_pure _

end Channels

section Proofs
variable {τ : Type}

theorem Security.exchangeNonces_keyless (profile : Security.NonceProfile) (initialPayload key : Bytes)
    {exchange : Security.AuthenticationExchange τ} (hexchange : ∀ command data, Keyless (exchange command data)) :
    Keyless (Security.exchangeNonces profile initialPayload key exchange) := by
  apply avoids_bind (avoids_settle (Op.keyless_random _))
  intro randomA
  apply avoids_bind (hexchange _ _)
  intro initial
  apply avoids_bind (Op.keyless_ofResult _)
  intro _
  apply avoids_bind (avoids_settle (avoids_settle (Op.keyless_cbc _ _ _ _)))
  intro randomB
  apply avoids_bind (avoids_settle (avoids_settle (Op.keyless_cbc _ _ _ _)))
  intro encryptedProof
  apply avoids_bind (avoids_settle (hexchange _ _))
  intro terminal
  apply avoids_bind (Op.keyless_ofResult _)
  intro _
  exact avoids_bind (avoids_settle (avoids_settle (Op.keyless_cbc _ _ _ _))) fun _ => avoids_pure _

theorem Security.Ev2.deriveMaterial_keyless (key randomA randomB : Bytes) (information : Model.AuthenticationInfo) :
    Keyless (Security.Ev2.deriveMaterial key randomA randomB information : Op τ _) := by
  have hderive (label : Bytes) : Keyless (Security.Ev2.deriveKey key label randomA randomB : Op τ Bytes) :=
    avoids_settle (Op.keyless_cmac _ _)
  apply avoids_bind (hderive _)
  intro encryption
  exact avoids_bind (hderive _) fun _ => avoids_pure _

theorem Security.Ev2.authenticateFirst_keyless (keyNumber : Byte) (key pcdCapabilities : Bytes)
    {exchange : Security.AuthenticationExchange τ} (hexchange : ∀ command data, Keyless (exchange command data)) :
    Keyless (Security.Ev2.authenticateFirst keyNumber key pcdCapabilities exchange) := by
  apply avoids_bind (avoids_refuse _ _)
  intro _
  apply avoids_settle
  apply avoids_bind (Security.exchangeNonces_keyless _ _ _ hexchange)
  intro nonces
  apply avoids_bind (avoids_refuse _ _)
  intro _
  exact avoids_bind (avoids_refuse _ _) fun _ => avoids_settle (Security.Ev2.deriveMaterial_keyless _ _ _ _)

theorem Security.Ev2.authenticateNonfirst_keyless (keyNumber : Byte) (key : Bytes) (previous : Model.AuthenticationInfo)
    {exchange : Security.AuthenticationExchange τ} (hexchange : ∀ command data, Keyless (exchange command data)) :
    Keyless (Security.Ev2.authenticateNonfirst keyNumber key previous exchange) := by
  apply avoids_bind (avoids_refuse _ _)
  intro _
  apply avoids_settle
  apply avoids_bind (Security.exchangeNonces_keyless _ _ _ hexchange)
  intro nonces
  exact avoids_bind (avoids_refuse _ _) fun _ => avoids_settle (Security.Ev2.deriveMaterial_keyless _ _ _ _)

theorem Security.StandardAes.authenticate_keyless (keyNumber : Byte) (key : Bytes)
    {exchange : Security.AuthenticationExchange τ} (hexchange : ∀ command data, Keyless (exchange command data)) :
    Keyless (Security.StandardAes.authenticate keyNumber key exchange) := by
  apply avoids_bind (avoids_refuse _ _)
  intro _
  apply avoids_settle
  apply avoids_bind (Security.exchangeNonces_keyless _ _ _ hexchange)
  intro nonces
  exact avoids_bind (avoids_refuse _ _) fun _ => avoids_pure _

theorem Iso7816.Aes.requireTransmittable_keyless (command : Iso7816.Checked.Command) :
    Keyless (Iso7816.Aes.requireTransmittable command) := by
  apply avoids_bind (Op.keyless_value _)
  intro frame
  exact avoids_bind Op.keyless_capabilities fun _ => avoids_refuse _ _

theorem Iso7816.Aes.authenticate_keyless (reference : Iso7816.Checked.KeyReference) (derivedKey : Bytes)
    (options : ExchangeOptions) (encoding : Iso7816.Raw.LengthEncoding) :
    Keyless (Iso7816.Aes.authenticate reference derivedKey options encoding : Op τ Iso7816.Aes.Session) := by
  have hstep (command : Iso7816.Checked.Command) (remaining : ExchangeOptions) (limits : Iso7816.Checked.Limits)
      (length : Nat) (operation : String) : Keyless (Op.mapError Error.afterDelivery do
        let response ← Iso7816.Checked.Channel.exchange command remaining limits
        Op.ofResult (Iso7816.Aes.requireSuccess response length operation) : Op Bool Iso7816.Checked.Response) := by
    apply avoids_settle
    exact avoids_bind (Iso7816.Checked.Channel.exchange_keyless _ _ _) fun _ => Op.keyless_ofResult _
  apply avoids_within
  apply avoids_settle
  apply avoids_bind (avoids_refuse _ _)
  intro _
  apply avoids_bind Op.keyless_capabilities
  intro capabilities
  apply avoids_bind (avoids_refuse _ _)
  intro _
  apply avoids_bind (Iso7816.Raw.Budget.start_keyless _)
  intro budget
  apply avoids_bind (Iso7816.Raw.Budget.next_keyless _ _ _)
  intro _
  apply avoids_bind (avoids_settle (Op.keyless_random _))
  intro hostRandom
  apply avoids_bind (Op.keyless_value _)
  intro getChallenge
  apply avoids_bind (Op.keyless_value _)
  intro internal
  apply avoids_bind (Op.keyless_value _)
  intro externalProbe
  apply avoids_bind (Iso7816.Aes.requireTransmittable_keyless _)
  intro _
  apply avoids_bind (Iso7816.Aes.requireTransmittable_keyless _)
  intro _
  apply avoids_bind (Iso7816.Aes.requireTransmittable_keyless _)
  intro _
  apply avoids_bind (Iso7816.Raw.Budget.next_keyless _ _ _)
  intro remaining
  apply avoids_bind (avoids_modify _)
  intro _
  apply avoids_bind (Iso7816.Checked.Channel.exchange_keyless _ _ _)
  intro response
  apply avoids_bind (Op.keyless_ofResult _)
  intro challenge
  apply avoids_bind (avoids_settle (avoids_settle (Op.keyless_cbc _ _ _ _)))
  intro ciphertext
  apply avoids_bind (Op.keyless_value _)
  intro external
  apply avoids_bind (Iso7816.Raw.Budget.next_keyless _ _ _)
  intro remaining
  apply avoids_bind (hstep _ _ _ _ _)
  intro _
  apply avoids_bind (Iso7816.Raw.Budget.next_keyless _ _ _)
  intro remaining
  apply avoids_bind (hstep _ _ _ _ _)
  intro third
  apply avoids_bind (avoids_settle (avoids_settle (Op.keyless_cbc _ _ _ _)))
  intro cardProof
  apply avoids_bind (avoids_refuse _ _)
  intro _
  exact avoids_bind (Iso7816.Raw.Budget.next_keyless _ _ _) fun _ => avoids_pure _

end Proofs

namespace Managed
open Model

theorem checkGeneration_keyless (message : String) (outcome : Outcome) : Keyless (checkGeneration message outcome) := by
  apply avoids_bind avoids_get
  intro card
  exact avoids_bind Op.keyless_generation fun _ => Op.keyless_refuseAfter _ _ _

theorem authenticateEv2Locked_keyless (first : Bool) (keyNumber : KeyNumber) (key : Aes128Key)
    (pcdCapabilities : Bytes) (options : ExchangeOptions) :
    Keyless (authenticateEv2Locked first keyNumber key pcdCapabilities options) := by
  apply avoids_settle
  apply avoids_bind (avoids_refuse _ _)
  intro _
  apply avoids_bind (avoids_refuse _ _)
  intro _
  apply avoids_bind avoids_get
  intro previous
  apply avoids_bind (Native.Raw.RawNativeChannel.begin_keyless _ _)
  intro transaction
  apply avoids_bind (avoids_modify _)
  intro _
  apply avoids_bind
  · apply avoids_settle
    apply avoids_within
    apply avoids_ite
    · exact Security.Ev2.authenticateFirst_keyless _ _ _ Native.Raw.Transaction.exchangeFrame_keyless
    · exact Security.Ev2.authenticateNonfirst_keyless _ _ _ Native.Raw.Transaction.exchangeFrame_keyless
  intro material
  apply avoids_bind (checkGeneration_keyless _ _)
  intro _
  apply avoids_bind (avoids_settle (avoids_settle (Op.keyless_ofResult _)))
  intro session
  exact avoids_bind (avoids_modify _) fun _ => avoids_pure _

theorem authenticateStandardAesLocked_keyless (keyNumber : KeyNumber) (key : Aes128Key)
    (options : ExchangeOptions) : Keyless (authenticateStandardAesLocked keyNumber key options) := by
  apply avoids_settle
  apply avoids_bind (avoids_refuse _ _)
  intro _
  apply avoids_bind avoids_get
  intro previous
  apply avoids_bind (Native.Raw.RawNativeChannel.begin_keyless _ _)
  intro transaction
  apply avoids_bind (avoids_modify _)
  intro _
  apply avoids_bind
  · apply avoids_settle
    apply avoids_within
    exact Security.StandardAes.authenticate_keyless _ _ Native.Raw.Transaction.exchangeFrame_keyless
  intro material
  apply avoids_bind (checkGeneration_keyless _ _)
  intro _
  exact avoids_bind (avoids_settle (avoids_settle (Op.keyless_ofResult _))) fun _ => avoids_modify _

theorem authenticateIsoAesLocked_keyless (reference : Iso7816.Checked.KeyReference) (key : Aes128Key)
    (options : ExchangeOptions) : Keyless (authenticateIsoAesLocked reference key options) := by
  apply avoids_bind avoids_get
  intro previous
  apply avoids_bind (avoids_refuse _ _)
  intro _
  apply avoids_bind (avoids_refuse _ _)
  intro _
  apply avoids_bind (avoids_modify _)
  intro _
  apply avoids_settle
  apply avoids_bind (avoids_settle (Iso7816.Aes.authenticate_keyless _ _ _ _))
  intro session
  exact avoids_bind (checkGeneration_keyless _ _) fun _ => avoids_modify _

end Managed
end DesfireSdk
