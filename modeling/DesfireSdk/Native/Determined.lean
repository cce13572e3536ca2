import DesfireSdk.Foundation.Determined
import DesfireSdk.Native.Secure.Channel
import DesfireSdk.Security.Handshake

/-! Native exchanges, sessions and logins are determined by the answers they get. -/
namespace DesfireSdk
open Interaction
set_option synthInstance.maxSize 1000

namespace Native.Raw
variable {τ : Type}
namespace Transaction

instance remainingOptions_determined : Determined remainingOptions := by
  unfold remainingOptions
  infer_instance

instance exchangeFrame_determined (command : Byte) (data : Bytes) : Determined (exchangeFrame command data) := by
  unfold exchangeFrame
  infer_instance

instance exchangeLoop_determined (request : Request) (dataPerFrame frames : Nat) (first : Bool) (chain : Chain) :
    Determined (exchangeLoop request dataPerFrame frames first chain) := by
  induction frames generalizing first chain with
  | zero => exact Op.reject_determined _
  | succ frames ih =>
    unfold exchangeLoop
    infer_instance

instance exchange_determined (request : Request) : Determined (exchange request) := by
  unfold exchange
  infer_instance

end Transaction

namespace RawNativeChannel

instance begin_determined (channel : RawNativeChannel) (options : ExchangeOptions) :
    Determined (channel.begin options : Op τ Transaction) := by
  unfold begin
  infer_instance

instance exchange_determined (channel : RawNativeChannel) (request : Request) (options : ExchangeOptions) :
    Determined (channel.exchange request options : Op τ Response) := by
  unfold exchange
  infer_instance

instance reset_determined : Determined (reset : Op τ Unit) := by
  unfold reset
  infer_instance

end RawNativeChannel
end Native.Raw

namespace Security

section Logins
variable {τ : Type} {exchange : AuthenticationExchange τ} [∀ command data, Determined (exchange command data)]

instance exchangeNonces_determined (profile : NonceProfile) (initialPayload key : Bytes) :
    Determined (exchangeNonces profile initialPayload key exchange) := by
  unfold exchangeNonces
  infer_instance

instance deriveMaterial_determined (key randomA randomB : Bytes) (information : Model.AuthenticationInfo) :
    Determined (Ev2.deriveMaterial key randomA randomB information : Op τ Ev2.AuthenticationMaterial) := by
  unfold Ev2.deriveMaterial Ev2.deriveKey
  infer_instance

instance authenticateFirst_determined (keyNumber : Byte) (key pcdCapabilities : Bytes) :
    Determined (Ev2.authenticateFirst keyNumber key pcdCapabilities exchange) := by
  unfold Ev2.authenticateFirst
  infer_instance

instance authenticateNonfirst_determined (keyNumber : Byte) (key : Bytes) (previous : Model.AuthenticationInfo) :
    Determined (Ev2.authenticateNonfirst keyNumber key previous exchange) := by
  unfold Ev2.authenticateNonfirst
  infer_instance

instance authenticate_determined (keyNumber : Byte) (key : Bytes) :
    Determined (StandardAes.authenticate keyNumber key exchange) := by
  unfold StandardAes.authenticate
  infer_instance

end Logins

namespace StandardAes.Session

instance calculateCmac_determined (input : Bytes) : Determined (calculateCmac input) := by
  unfold calculateCmac secretOutput
  infer_instance

instance prepareCmacCommand_determined (command : Byte) (header data : Bytes) (transmitMac : Bool) :
    Determined (prepareCmacCommand command header data transmitMac) := by
  unfold prepareCmacCommand
  infer_instance

instance prepareFull_determined (command : Byte) (header data : Bytes) : Determined (prepareFull command header data) := by
  unfold prepareFull secretOutput
  infer_instance

instance verifyResponse_determined (response : Native.Raw.Response) : Determined (verifyResponse response) := by
  unfold verifyResponse
  dsimp only
  infer_instance

instance verifyAndDecryptFullResponse_determined (response : Native.Raw.Response) (expectedSize : Option Nat) :
    Determined (verifyAndDecryptFullResponse response expectedSize) := by
  unfold verifyAndDecryptFullResponse secretOutput
  refine .sequence inferInstance fun s => ?_
  iterate 4 refine .sequence inferInstance fun _ => ?_
  refine @Op.catchAll_determined _ _ _ _ _ (.sequence inferInstance fun clear => .sequence inferInstance fun _ => ?_)
  split <;> infer_instance

end StandardAes.Session

namespace Ev2.Session

instance checkReady_determined : Determined checkReady := by
  unfold checkReady
  infer_instance

instance preparePlain_determined (command : Byte) (header data : Bytes) :
    Determined (preparePlain command header data) := by
  unfold preparePlain
  infer_instance

instance acceptPlainResponse_determined (response : Native.Raw.Response) :
    Determined (acceptPlainResponse response) := by
  unfold acceptPlainResponse
  infer_instance

instance prepareMac_determined (command : Byte) (header data : Bytes) : Determined (prepareMac command header data) := by
  unfold prepareMac secretOutput
  infer_instance

instance prepareFull_determined (command : Byte) (header data : Bytes) : Determined (prepareFull command header data) := by
  unfold prepareFull secretOutput
  infer_instance

instance verifyResponse_determined (response : Native.Raw.Response) : Determined (verifyResponse response) := by
  unfold verifyResponse secretOutput
  dsimp only
  infer_instance

instance verifyAndDecryptFullResponse_determined (response : Native.Raw.Response) (expectedSize : Option Nat) :
    Determined (verifyAndDecryptFullResponse response expectedSize) := by
  unfold verifyAndDecryptFullResponse secretOutput
  refine .sequence inferInstance fun ciphertext => .sequence inferInstance fun s => ?_
  split
  · infer_instance
  refine .sequence inferInstance fun _ => @Op.catchAll_determined _ _ _ _ _ ?_
  refine .sequence inferInstance fun iv => .sequence inferInstance fun padded => ?_
  split <;> infer_instance

end Ev2.Session
end Security

namespace Native.Secure

/-- The six steps of a session family are determined. -/
class Answering (σ : Type) [SecureSession σ] : Prop where
  preparePlain : ∀ command header data, Determined (SecureSession.preparePlain command header data : Op σ Bytes)
  prepareMac : ∀ command header data, Determined (SecureSession.prepareMac command header data : Op σ Bytes)
  prepareFull : ∀ command header data, Determined (SecureSession.prepareFull command header data : Op σ Bytes)
  acceptPlainResponse : ∀ response, Determined (SecureSession.acceptPlainResponse response : Op σ Bytes)
  verifyResponse : ∀ response, Determined (SecureSession.verifyResponse response : Op σ Bytes)
  verifyAndDecryptFullResponse : ∀ response size,
    Determined (SecureSession.verifyAndDecryptFullResponse response size : Op σ Bytes)

attribute [instance] Answering.preparePlain Answering.prepareMac Answering.prepareFull Answering.acceptPlainResponse
  Answering.verifyResponse Answering.verifyAndDecryptFullResponse

instance ev2_answering : Answering Security.Ev2.Session where
  preparePlain := Security.Ev2.Session.preparePlain_determined
  prepareMac := Security.Ev2.Session.prepareMac_determined
  prepareFull := Security.Ev2.Session.prepareFull_determined
  acceptPlainResponse := Security.Ev2.Session.acceptPlainResponse_determined
  verifyResponse := Security.Ev2.Session.verifyResponse_determined
  verifyAndDecryptFullResponse := Security.Ev2.Session.verifyAndDecryptFullResponse_determined

instance standardAes_answering : Answering Security.StandardAes.Session where
  preparePlain command header data := Security.StandardAes.Session.prepareCmacCommand_determined command header data false
  prepareMac command header data := Security.StandardAes.Session.prepareCmacCommand_determined command header data _
  prepareFull := Security.StandardAes.Session.prepareFull_determined
  acceptPlainResponse := Security.StandardAes.Session.verifyResponse_determined
  verifyResponse := Security.StandardAes.Session.verifyResponse_determined
  verifyAndDecryptFullResponse := Security.StandardAes.Session.verifyAndDecryptFullResponse_determined

section Protected
variable {σ τ : Type} [SecureSession σ] [Answering σ]

instance prepare_determined (request : Request) : Determined (prepare request : Op σ Bytes) := by
  unfold prepare
  split <;> infer_instance

instance accept_determined (request : Request) (response : Raw.Response) :
    Determined (accept request response : Op σ Bytes) := by
  unfold accept
  split <;> infer_instance

instance exchangeProtected_determined (rawChannel : Raw.RawNativeChannel) (request : Request)
    (options : ExchangeOptions) : Determined (exchangeProtected rawChannel request options : Op σ Bytes) := by
  unfold exchangeProtected
  dsimp only
  infer_instance

instance exchangeUnprotected_determined (rawChannel : Raw.RawNativeChannel) (request : Request)
    (options : ExchangeOptions) : Determined (exchangeUnprotected rawChannel request options : Op τ Bytes) := by
  unfold exchangeUnprotected
  infer_instance

end Protected
end Native.Secure
end DesfireSdk
