import DesfireSdk.Managed.Execution
import DesfireSdk.Native.Secure.Mismatch
import DesfireSdk.Native.Secure.Rejections

/-!
# A definite rejection over readers of different frame sizes

One command can be exchanged by the raw caller, through the secure channel or through
the managed card. The card rejects one frame of its upload with an error status.
-/
namespace DesfireSdk.Managed
open Interaction Program Native Native.Secure

/-- Who exchanges a command, and under which session. -/
inductive Caller
  | raw (transaction : Raw.Transaction) (request : Raw.Request)
  | secure (channel : Raw.RawNativeChannel) (session : Option NativeSession) (request : Request)
  | managed (card : Card) (command : Checked.Command)

/-- The card's answer, or the payload read from it. -/
inductive Answer
  | response (response : Raw.Response)
  | payload (bytes : Bytes)

namespace Caller

def perform (options : ExchangeOptions) : Caller → Op Unit Answer
  | raw transaction request =>
    Op.returning .response (Program.within transaction (Raw.Transaction.exchange request))
  | secure channel none request => Op.returning .payload (exchangeUnprotected channel request options)
  | secure channel (some (.ev2 session)) request =>
    Op.returning .payload (Program.within session (exchangeProtected channel request options))
  | secure channel (some (.standardAes session)) request =>
    Op.returning .payload (Program.within session (exchangeProtected channel request options))
  | managed card command => Op.returning .payload (Program.within card (execute command options))

def framing : Caller → Native.Framing
  | raw transaction _ => transaction.framing
  | secure channel _ _ => channel.framing
  | managed card _ => card.raw.framing

/-- The bytes a request takes on the wire under a session. -/
def protectedSize : Option NativeSession → Request → Nat
  | none,request => (clearPayload request).length
  | some (.ev2 _),request => protectedLength request
  | some (.standardAes _),request => aesProtectedLength request

/-- The native session a managed card exchanges under. -/
def activeSession (card : Card) : Option NativeSession :=
  (card.ev2Session.map .ev2).or (card.standardAesSession.map .standardAes)

/-- The frames the upload takes over this transport. -/
def framesNeeded (limits : TransportCapabilities) (caller : Caller) : Nat :=
  let perFrame := Raw.Transaction.dataPerFrame caller.framing limits
  match caller with
  | raw _ request => Raw.framesNeeded request.firstFrameDataSize request.data.length perFrame
  | secure _ session request =>
    Raw.framesNeeded request.firstFrameDataSize (protectedSize session request) perFrame
  | managed card command =>
    Raw.framesNeeded command.firstFramePayloadSize
      (protectedSize (activeSession card) (secureRequest command)) perFrame

/-- How the rejection of the card is reported to the caller. -/
def report (status : Byte) : Caller → Except Fault Answer
  | raw _ _ => .ok (.response ⟨status,[]⟩)
  | secure .. | managed .. => .error (.error (Secure.rejected status))

/-- Frame `k` of the caller's upload is answered with a definite error. -/
structure Rejected (caller : Caller) (limits : TransportCapabilities) (k : Nat) (status : Byte)
    (ds : List Delivery) : Prop where
  answered : Raw.AnsweredAt caller.framing status k ds
  upload : k < caller.framesNeeded limits
  failure : status ≠ 0x00
  terminal : status ≠ Raw.additionalFrameStatus

variable {o : Oracle Environment} {limits : TransportCapabilities}

theorem SecureRun.reported (hsteady : Raw.Steady o limits) {card card' : Card} {request : Request}
    {r : Except Fault Bytes} {es : Trace Environment} (hrun : SecureRun o card request r card' es)
    {k : Nat} {status : Byte} (hanswered : Raw.AnsweredAt card.raw.framing status k (deliveries es))
    (hdue : k < Raw.framesNeeded request.firstFrameDataSize (protectedSize (activeSession card) request)
      (Raw.Transaction.dataPerFrame card.raw.framing limits))
    (hzero : status ≠ 0x00) (hmore : status ≠ Raw.additionalFrameStatus) :
    Raw.Reported card.raw.framing limits (Raw.framesNeeded request.firstFrameDataSize
      (protectedSize (activeSession card) request)
      (Raw.Transaction.dataPerFrame card.raw.framing limits)) k
      (.error (.error (Secure.rejected status))) r := by
  cases hrun with
  | @ev2 session _ _ _ h hrun =>
    have hsize : activeSession card = some (.ev2 session) := by
      rw [activeSession,h]
      rfl
    rw [hsize] at hdue ⊢
    exact hrun.reported hsteady (fun _ _ _ h => ev2_prepared h)
      (fun _ _ _ _ _ h => h.cryptographic.deliveries) hanswered hdue hzero hmore
  | @standardAes session _ _ _ hev2 h hrun =>
    have hsize : activeSession card = some (.standardAes session) := by
      rw [activeSession,hev2,h]
      rfl
    rw [hsize] at hdue ⊢
    exact hrun.reported hsteady (fun _ _ _ h => aes_prepared h)
      (fun _ _ _ _ _ h => h.cryptographic.deliveries) hanswered hdue hzero hmore
  | unprotected h hrun =>
    have hsize : activeSession card = none := by
      simp only [Card.hasNativeSession,Bool.or_eq_false_iff,Option.isSome_eq_false_iff,
        Option.isNone_iff_eq_none] at h
      rw [activeSession,h.1,h.2]
      rfl
    rw [hsize] at hdue ⊢
    exact hrun.reported hsteady hanswered hdue hzero hmore

theorem ExecuteRun.reported (hsteady : Raw.Steady o limits) {card card' : Card}
    {command : Checked.Command} {r : Except Fault Bytes} {es : Trace Environment}
    (hrun : ExecuteRun o command card r card' es) {k : Nat} {status : Byte}
    (hrejected : (managed card command).Rejected limits k status (deliveries es)) :
    Raw.Reported card.raw.framing limits ((managed card command).framesNeeded limits) k
      (.error (.error (Secure.rejected status))) r := by
  obtain ⟨hanswered,hdue,hzero,hmore⟩ := hrejected
  have hnone : ∀ {es : Trace Environment}, Untouched es →
      ¬Raw.AnsweredAt card.raw.framing status k (deliveries es) := by
    intro es hes h
    rw [hes.deliveries] at h
    exact Raw.not_answeredAt_nil h
  have hsecure : ∀ {r es card'}, SecureRun o card (secureRequest command) r card' es →
      Raw.AnsweredAt card.raw.framing status k (deliveries es) →
      Raw.Reported card.raw.framing limits ((managed card command).framesNeeded limits) k
        (.error (.error (Secure.rejected status))) r :=
    fun hrun hanswered => SecureRun.reported hsteady hrun hanswered hdue hzero hmore
  -- a rejection is an error of the exchange itself, so no later step of the command is reached
  have hlater : ∀ {r es card'}, SecureRun o card (secureRequest command) r card' es →
      Raw.AnsweredAt card.raw.framing status k (deliveries es) → ∃ e, r = .error (.error e) := by
    intro r es card' hrun hanswered
    rcases hsecure hrun hanswered with ⟨_,rfl⟩ | ⟨_,e,rfl,_⟩
    · exact ⟨_,rfl⟩
    · exact ⟨e,rfl⟩
  cases hrun with
  | refused he hes => exact absurd hanswered (hnone hes)
  | removed hopen he hes => exact absurd hanswered (hnone hes)
  | failed hopen hcontext h₀ hrun =>
    rw [deliveries_append,h₀.deliveries] at hanswered
    exact hsecure hrun hanswered
  | threw hopen hcontext h₀ hrun =>
    rw [deliveries_append,h₀.deliveries] at hanswered
    obtain ⟨e,⟨⟩⟩ := hlater hrun hanswered
  | changed hopen hcontext h₀ hrun h₁ he | unparsed hopen hcontext h₀ hrun h₁ he
  | done hopen hcontext h₀ hrun h₁ hparsed =>
    rw [deliveries_append,deliveries_append,h₀.deliveries,h₁.deliveries,List.append_nil] at hanswered
    obtain ⟨e,⟨⟩⟩ := hlater hrun hanswered

theorem perform_reported (hsteady : Raw.Steady o limits) (caller : Caller) (options : ExchangeOptions) :
    Delivers o (caller.perform options) () fun r _ ds => ∀ k status,
      caller.Rejected limits k status ds →
        Raw.Reported caller.framing limits (caller.framesNeeded limits) k (caller.report status) r := by
  cases caller with
  | raw transaction request =>
    refine Op.ensures_returning (ensures_within
      ((Raw.Transaction.exchange_runs o request transaction).mono fun r _ ds hrun => ?_))
    intro k status ⟨hanswered,hdue,_,hmore⟩
    exact (hrun.reported hsteady hanswered hdue hmore).map _
  | secure channel session request =>
    cases session with
    | none =>
      refine Op.ensures_returning ((exchangeUnprotected_runs o channel request options ()).mono ?_)
      intro r _ ds ⟨_,hrun⟩ k status ⟨hanswered,hdue,hzero,hmore⟩
      exact (hrun.reported hsteady hanswered hdue hzero hmore).map _
    | some session =>
      cases session with
      | ev2 session =>
        refine Op.ensures_returning (ensures_within ((exchangeProtected_runs prepare_ev2Cases
          fun _ response => accept_ev2Cases response).through ?_))
        intro r _ es hrun k status ⟨hanswered,hdue,hzero,hmore⟩
        exact (hrun.reported hsteady (fun _ _ _ h => ev2_prepared h)
          (fun _ _ _ _ _ h => h.cryptographic.deliveries) hanswered hdue hzero hmore).map _
      | standardAes session =>
        refine Op.ensures_returning (ensures_within ((exchangeProtected_runs prepare_aesCases
          fun _ response => accept_aesCases response).through ?_))
        intro r _ es hrun k status ⟨hanswered,hdue,hzero,hmore⟩
        exact (hrun.reported hsteady (fun _ _ _ h => aes_prepared h)
          (fun _ _ _ _ _ h => h.cryptographic.deliveries) hanswered hdue hzero hmore).map _
  | managed card command =>
    refine Op.ensures_returning (ensures_within
      ((admitted_runs (executeLocked_runs o command options card)).through ?_))
    intro r _ es hrun k status hrejected
    cases hrun with
    | unlocked | reentered => exact absurd hrejected.answered Raw.not_answeredAt_nil
    | entered hrun => exact (ExecuteRun.reported hsteady hrun hrejected).map _

/-- Over two readers both callers are told of the rejection exactly when each reader needed no
further frame after the rejected one. -/
theorem rejection_alike_iff (caller : Caller) (options : ExchangeOptions) {o₁ o₂ : Oracle Environment}
    {limits₁ limits₂ : TransportCapabilities} (hsteady₁ : Raw.Steady o₁ limits₁)
    (hsteady₂ : Raw.Steady o₂ limits₂) (h₁ h₂ : Trace Environment) {k₁ k₂ : Nat} {status : Byte}
    (hrejected₁ : caller.Rejected limits₁ k₁ status
      (deliveries (caller.perform options o₁ h₁ ()).events))
    (hrejected₂ : caller.Rejected limits₂ k₂ status
      (deliveries (caller.perform options o₂ h₂ ()).events)) :
    ((caller.perform options o₁ h₁ ()).result = caller.report status ∧
      (caller.perform options o₂ h₂ ()).result = caller.report status) ↔
    Raw.Final caller.framing limits₁ (caller.framesNeeded limits₁) k₁ ∧
      Raw.Final caller.framing limits₂ (caller.framesNeeded limits₂) k₂ := by
  have hknown : ∀ e : Error, caller.report status = .error (.error e) → e.outcome ≠ .unknown := by
    intro e he
    cases caller <;> cases he <;> simp [Secure.rejected]
  have hreport₁ := (perform_reported hsteady₁ caller options h₁ k₁ status hrejected₁).iff hknown
  have hreport₂ := (perform_reported hsteady₂ caller options h₂ k₂ status hrejected₂).iff hknown
  rw [hreport₁,hreport₂]

/-- An upload of nine bytes that the card turns down at its first frame. -/
def turnedDown : Caller := .raw ⟨.direct,1,0,false⟩ {command := 0x3D,data := [1,2,3,4,5,6,7,8,9]}

/-- A reader whose native frames carry so many bytes, and a card that answers a parameter error. -/
def parameterError (frame : Nat) : Script where
  limits := {framing := .native,maxNativeFrame := frame}
  replies := [.ok [0x9E]]

theorem parameterError_steady (frame : Nat) :
    Raw.Steady (scripted (parameterError frame)) (parameterError frame).limits :=
  ⟨fun _ => rfl,fun _ _ => rfl⟩

theorem turnedDown_rejected {frame : Nat} (hframe : frame = 5 ∨ frame = 60) :
    turnedDown.Rejected (parameterError frame).limits 0 0x9E
      (deliveries (turnedDown.perform {} (scripted (parameterError frame)) [] ()).events) := by
  rcases hframe with rfl | rfl
  all_goals exact ⟨⟨⟨_,_,⟨0,.ok [0x9E]⟩⟩,rfl,rfl⟩,by decide,by decide,by decide⟩

/-- The same over frames of four data bytes, and a card that takes two of them before it answers the error. -/
def lateParameterError : Script :=
  {parameterError 5 with replies := [.ok [0xAF],.ok [0xAF],.ok [0x9E]]}

theorem lateParameterError_steady : Raw.Steady (scripted lateParameterError) lateParameterError.limits :=
  ⟨fun _ => rfl,fun _ _ => rfl⟩

theorem turnedDown_lateRejected :
    turnedDown.Rejected lateParameterError.limits 2 0x9E
      (deliveries (turnedDown.perform {} (scripted lateParameterError) [] ()).events) :=
  ⟨⟨⟨_,_,⟨0,.ok [0x9E]⟩⟩,rfl,rfl⟩,by decide,by decide,by decide⟩

/-- A rejection is reported alike over readers of sixty and five bytes when it answers the last frame of either, and
not when the smaller one has frames left. -/
theorem rejection_alike_iff_turnedDown :
    ((turnedDown.perform {} (scripted (parameterError 60)) [] ()).result = turnedDown.report 0x9E ∧
      (turnedDown.perform {} (scripted lateParameterError) [] ()).result = turnedDown.report 0x9E) ∧
    ¬((turnedDown.perform {} (scripted (parameterError 60)) [] ()).result = turnedDown.report 0x9E ∧
      (turnedDown.perform {} (scripted (parameterError 5)) [] ()).result = turnedDown.report 0x9E) := by
  have hlarge := @turnedDown_rejected 60 (by decide)
  have hlate := rejection_alike_iff turnedDown {} (parameterError_steady 60) lateParameterError_steady [] [] hlarge
    turnedDown_lateRejected
  have hearly := rejection_alike_iff turnedDown {} (parameterError_steady 60) (parameterError_steady 5) [] [] hlarge
    (turnedDown_rejected (by decide))
  refine ⟨hlate.mpr ⟨⟨by decide,by decide⟩,by decide,by decide⟩,fun halike => ?_⟩
  obtain ⟨_,hlast,_⟩ := hearly.mp halike
  revert hlast
  decide

/-- One frame is enough for the larger reader, which reports the status; the smaller one
makes a malformed response of the same answer. -/
theorem turnedDown_malformed :
    turnedDown.Rejected (parameterError 60).limits 0 0x9E
      (deliveries (turnedDown.perform {} (scripted (parameterError 60)) [] ()).events) ∧
    turnedDown.Rejected (parameterError 5).limits 0 0x9E
      (deliveries (turnedDown.perform {} (scripted (parameterError 5)) [] ()).events) ∧
    (turnedDown.perform {} (scripted (parameterError 60)) [] ()).result = turnedDown.report 0x9E ∧
    (turnedDown.perform {} (scripted (parameterError 5)) [] ()).result =
      .error (.error ⟨.malformedResponse,"Card did not acknowledge native request continuation",
        .unknown,0⟩) :=
  ⟨turnedDown_rejected (by decide),turnedDown_rejected (by decide),rfl,rfl⟩

end Caller

end DesfireSdk.Managed
