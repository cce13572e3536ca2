import DesfireSdk.Managed.Operation
import DesfireSdk.Native.Determined

/-! Every managed operation is determined by the answers it gets. -/
namespace DesfireSdk
open Interaction
set_option synthInstance.maxSize 1000

namespace Iso7816
variable {τ : Type}

namespace Raw

instance start_determined (options : ExchangeOptions) : Determined (Budget.start options : Op τ Budget) := by
  unfold Budget.start
  infer_instance

instance next_determined (messages : BudgetMessages) (budget : Budget) (sent : Bool) :
    Determined (budget.next messages sent : Op τ ExchangeOptions) := by
  unfold Budget.next
  infer_instance

instance exchangeLoop_determined (apdu : Apdu) (limits : Limits) (transportLimits : TransportCapabilities)
    (budget : Budget) (frames : Nat) (p : Progress) :
    Determined (exchangeLoop apdu limits transportLimits budget frames p) := by
  induction frames generalizing p with
  | zero => exact Op.reject_determined _
  | succ frames ih =>
    unfold exchangeLoop
    iterate 7 refine .sequence inferInstance fun _ => ?_
    dsimp only
    infer_instance

instance exchange_determined (apdu : Apdu) (options : ExchangeOptions) (limits : Limits) :
    Determined (Channel.exchange apdu options limits : Op τ Response) := by
  unfold Channel.exchange Channel.exchangeFrames
  infer_instance

end Raw

instance exchange_determined (command : Checked.Command) (options : ExchangeOptions) (limits : Checked.Limits) :
    Determined (Checked.Channel.exchange command options limits : Op τ Checked.Response) := by
  unfold Checked.Channel.exchange
  infer_instance

namespace Aes

instance retainedCmac_determined (key iv input : Bytes) : Determined (retainedCmac key iv input : Op τ Bytes) := by
  unfold retainedCmac
  infer_instance

instance exchangeProtected_determined (command : Checked.Command) (options : ExchangeOptions)
    (limits : Checked.Limits) : Determined (Session.exchangeProtected command options limits) := by
  unfold Session.exchangeProtected
  dsimp only
  infer_instance

instance execute_determined (command : Checked.Command) (options : ExchangeOptions) (limits : Checked.Limits) :
    Determined (Session.execute command options limits) := by
  unfold Session.execute
  infer_instance

instance requireTransmittable_determined (command : Checked.Command) : Determined (requireTransmittable command) := by
  unfold requireTransmittable
  infer_instance

instance prove_determined (reference : Checked.KeyReference) (derivedKey : Bytes) (options : ExchangeOptions)
    (encoding : Raw.LengthEncoding) : Determined (prove reference derivedKey options encoding) := by
  unfold prove
  iterate 14 refine .sequence inferInstance fun _ => ?_
  infer_instance

instance authenticate_determined (reference : Checked.KeyReference) (derivedKey : Bytes) (options : ExchangeOptions)
    (encoding : Raw.LengthEncoding) :
    Determined (authenticate reference derivedKey options encoding : Op τ Session) := by
  unfold authenticate
  infer_instance

end Aes
end Iso7816

namespace Managed
open Model

instance admitted_determined {α : Type} (refusal : Error) {p : Op Card α} [Determined p] :
    Determined (admitted refusal p) := by
  unfold admitted
  infer_instance

instance checkGeneration_determined (message : String) (outcome : Outcome) :
    Determined (checkGeneration message outcome) := by
  unfold checkGeneration
  infer_instance

instance exchangeSecure_determined (request : Native.Secure.Request) (options : ExchangeOptions) :
    Determined (exchangeSecure request options) := by
  refine .sequence inferInstance fun card => ?_
  split <;> infer_instance

instance executeLocked_determined (command : Native.Checked.Command) (options : ExchangeOptions) :
    Determined (executeLocked command options) := by
  unfold executeLocked
  refine @Op.catchAll_determined _ _ _ _ _ ?_
  iterate 6 refine .sequence inferInstance fun _ => ?_
  infer_instance

instance executePlainLocked_determined (command : Byte) (data : Bytes) (options : ExchangeOptions)
    (operation : String) : Determined (executePlainLocked command data options operation) := by
  unfold executePlainLocked
  infer_instance

section Keys

instance deriveOnce_determined (masterKey : Aes128Key) (context : Aes128DerivationContext) :
    Determined (deriveOnce masterKey context) := by
  unfold deriveOnce
  infer_instance

instance resolveOnce_determined (request : KeyRequest) : Determined (resolveOnce request) := by
  unfold resolveOnce
  infer_instance

instance obtainKey_determined (profile : AuthenticationProfile) (isoKey : Option Iso7816.Checked.KeyReference)
    (source : KeySource) : Determined (obtainKey profile isoKey source) := by
  cases source with
  | direct => exact Determined.pure _
  | derived =>
    refine .sequence inferInstance fun _ => ?_
    cases isoKey <;> infer_instance
  | provided =>
    unfold obtainKey
    infer_instance

instance checkCapabilities_determined (pcdCapabilities : Bytes) (source : KeySource) :
    Determined (checkCapabilities pcdCapabilities source) := by
  cases source <;> unfold checkCapabilities <;> infer_instance

end Keys

section Authentication

instance authenticationPreflightLocked_determined (requireEv2Session : Bool) (options : ExchangeOptions) :
    Determined (authenticationPreflightLocked requireEv2Session options) := by
  unfold authenticationPreflightLocked
  infer_instance

instance authenticateEv2Locked_determined (first : Bool) (keyNumber : KeyNumber) (key : Aes128Key)
    (pcdCapabilities : Bytes) (options : ExchangeOptions) :
    Determined (authenticateEv2Locked first keyNumber key pcdCapabilities options) := by
  unfold authenticateEv2Locked authenticationFrames
  dsimp only
  infer_instance

instance authenticateStandardAesLocked_determined (keyNumber : KeyNumber) (key : Aes128Key)
    (options : ExchangeOptions) : Determined (authenticateStandardAesLocked keyNumber key options) := by
  unfold authenticateStandardAesLocked authenticationFrames
  dsimp only
  infer_instance

instance authenticateIsoAesLocked_determined (reference : Iso7816.Checked.KeyReference) (key : Aes128Key)
    (options : ExchangeOptions) : Determined (authenticateIsoAesLocked reference key options) := by
  unfold authenticateIsoAesLocked
  infer_instance

end Authentication

section Discovery

instance dfNameFrames_determined (frames : Nat) (command : Byte) (records : List Bytes) :
    Determined (dfNameFrames frames command records) := by
  induction frames generalizing command records with
  | zero => exact Op.reject_determined _
  | succ frames ih =>
    unfold dfNameFrames
    infer_instance

end Discovery

instance exchangeIso_determined (command : Iso7816.Checked.Command) (options : ExchangeOptions) :
    Determined (exchangeIso command options) := by
  refine .sequence inferInstance fun card => ?_
  split <;> infer_instance

section Transactions

instance remainingOptions_determined (deadline : Int) : Determined (remainingOptions deadline) := by
  unfold remainingOptions
  infer_instance

instance readSettings_determined (deadline : Int) (file : Nat) : Determined (readSettings deadline file) := by
  unfold readSettings
  infer_instance

instance verifyTargets_determined (deadline : Int) (commands : List Native.Checked.Command)
    (settings : Nat → Option FileSettings) : Determined (verifyTargets deadline commands settings) := by
  induction commands generalizing settings with
  | nil => exact Determined.pure ()
  | cons command rest ih =>
    unfold verifyTargets
    split <;> infer_instance

instance stage_determined (deadline : Int) (staged : Bool) (commands : List Native.Checked.Command) :
    Determined (stage deadline staged commands) := by
  induction commands generalizing staged with
  | nil => exact Determined.pure ()
  | cons command rest ih =>
    unfold stage executeWithin
    infer_instance

instance commitStaged_determined (deadline : Int) (returnMac : Bool) : Determined (commitStaged deadline returnMac) := by
  unfold commitStaged
  infer_instance

end Transactions

instance perform_determined (operation : Operation) (options : ExchangeOptions) :
    Determined (perform operation options) := by
  cases operation <;> unfold perform <;> dsimp only
  case selectApplication => unfold selectApplication; infer_instance
  case authenticateStandardAes => unfold authenticateStandardAes; infer_instance
  case authenticateEv2FirstAes => unfold authenticateEv2FirstAes; infer_instance
  case authenticateEv2NonFirstAes => unfold authenticateEv2NonFirstAes; infer_instance
  case authenticateIsoAes => unfold authenticateIsoAes; infer_instance
  case isoCommand => unfold isoCommand; infer_instance
  case execute => unfold execute; infer_instance
  case executeTransaction => unfold executeTransaction executeTransactionLocked; dsimp only; infer_instance
  case getVersion => unfold getVersion; infer_instance
  case freeMemory => unfold freeMemory; infer_instance
  case fileIds => unfold fileIds; infer_instance
  case dfNames => unfold dfNames; infer_instance
  case resetAuthentication => unfold resetAuthentication; infer_instance
  case reset => unfold reset; infer_instance

end Managed
end DesfireSdk
