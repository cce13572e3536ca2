import DesfireSdk.Managed.Operation
import DesfireSdk.Managed.Execution
import DesfireSdk.Native.Secure.Deadlines

/-! The clock of the managed operations that go on under one native deadline. -/
namespace DesfireSdk.Managed
open Interaction Program Native.Secure Model
open Native.Checked (Command)
open Native.Raw (Untimed Timed Unhurried TimedOut ensures_untimed_bind untimed_catchAll untimed_onError)

section Steps
variable {o : Oracle Environment} {card : Card} {timeout : Int} {α : Type} {p : Op Card α} {fair : Prop}

theorem timed_catchAll {cleanup : Card → Card} {e : Error} (hcode : e.code ≠ .timeout)
    (hp : Ensures tickOf o p card fun r _ ts => Timed fair timeout r ts) :
    Ensures tickOf o (Op.catchAll cleanup e p) card fun r _ ts => Timed fair timeout r ts :=
  Op.ensures_catchAll (hp.mono fun _ _ _ h => h.afterThrow hcode)

theorem timed_onError {cleanup : Error → Card → Card}
    (hp : Ensures tickOf o p card fun r _ ts => Timed fair timeout r ts) :
    Ensures tickOf o (Op.onError cleanup p) card fun r _ ts => Timed fair timeout r ts :=
  Op.ensures_onError (hp.mono fun _ _ _ h => h.afterError)

/-- What follows a success reads the clock no more. -/
theorem timed_bind {β : Type} {f : α → Op Card β} (hp : Ensures tickOf o p card fun r _ ts => Timed fair timeout r ts)
    (hf : ∀ a card, Ensures tickOf o (f a) card fun _ _ ts => ts = []) :
    Ensures tickOf o (p >>= f) card fun r _ ts => Timed fair timeout r ts := by
  refine ensures_bind hp (fun _ _ _ h => h.passed) fun a card' ts hts => (hf a card').mono ?_
  rintro r _ _ rfl
  rw [List.append_nil]
  exact hts.answered

theorem timed_admitted {refusal : Error} (hcode : refusal.code ≠ .timeout)
    (hp : Ensures tickOf o p card fun r _ ts => Timed fair timeout r ts) :
    Ensures tickOf o (admitted refusal p) card fun r _ ts => Timed fair timeout r ts := by
  refine Op.ensures_admission_bind fun admission => ?_
  refine Program.ensures_refuse_bind (fun _ => .thrown) fun _ => ?_
  exact Op.ensures_refuse_bind (fun _ => .refused hcode) fun _ => hp

theorem checkGeneration_untimed (message : String) (outcome : Outcome) (card : Card) :
    Ensures tickOf o (checkGeneration message outcome) card fun r _ ts => Untimed fair r ts := by
  refine checkGeneration_cases.through ?_
  rintro _ _ _ (⟨_,rfl,_,rfl⟩ | ⟨rfl,_,rfl⟩)
  · exact .refused (by simp)
  · exact .ok ()

theorem checkGeneration_still (message : String) (outcome : Outcome) (card : Card) :
    Ensures tickOf o (checkGeneration message outcome) card fun _ _ ts => ts = [] := by
  have huntimed : Ensures tickOf o (checkGeneration message outcome) card fun r _ ts => Untimed True r ts :=
    checkGeneration_untimed message outcome card
  exact huntimed.mono fun _ _ _ h => h.still

theorem ofResult_still (r : Result α) (card : Card) : Ensures tickOf o (Op.ofResult r) card fun _ _ ts => ts = [] := by
  refine Op.ensures_ofResult ?_
  cases r <;> rfl

theorem onError_still {cleanup : Error → Card → Card} (hp : Ensures tickOf o p card fun _ _ ts => ts = []) :
    Ensures tickOf o (Op.onError cleanup p) card fun _ _ ts => ts = [] :=
  Op.ensures_onError hp

theorem still_bind {β : Type} {f : α → Op Card β} (hp : Ensures tickOf o p card fun _ _ ts => ts = [])
    (hf : ∀ a card, Ensures tickOf o (f a) card fun _ _ ts => ts = []) :
    Ensures tickOf o (p >>= f) card fun _ _ ts => ts = [] := by
  refine ensures_bind hp (fun _ _ _ h => h) fun a card' ts hts => (hf a card').mono fun _ _ _ h => ?_
  rw [hts,h]
  rfl

end Steps
section Commands
variable {o : Oracle Environment} {options : ExchangeOptions}

theorem requireContext_code {card : Card} {command : Command} {e : Error}
    (h : requireContext card command = .error e) : e.code ≠ .timeout := by
  unfold requireContext at h
  repeat' split at h
  all_goals cases h
  all_goals simp [sessionInvalid]

/-- The exchange under the active session of a card is one operation on the clock. -/
theorem exchangeSecure_ticks (o : Oracle Environment) (request : Request) (options : ExchangeOptions)
    (card : Card) : Ensures tickOf o (exchangeSecure request options) card fun r _ ts =>
      Timed (Unhurried o) options.timeout r ts := by
  apply ensures_get_bind
  cases hev2 : card.ev2Session with
  | some session =>
    exact ensures_focus (exchangeProtected_ticks (ev2_prepare_untimed request) fun s response =>
      (accept_ev2Cases response).through fun _ _ _ h => h.cryptographic.ticks)
  | none =>
    cases haes : card.standardAesSession with
    | some session =>
      exact ensures_focus (exchangeProtected_ticks (aes_prepare_untimed request) fun s response =>
        (accept_aesCases response).through fun _ _ _ h => h.cryptographic.ticks)
    | none =>
      refine Op.ensures_ofResult_bind (fun e he => .refused (by simp [(validate_error he).2])) fun _ _ => ?_
      refine timed_bind (Native.Raw.RawNativeChannel.exchange_ticks _ o card.raw _ options card) fun response card => ?_
      exact Op.ensures_refuse_bind (fun _ => rfl) fun _ => ofResult_still _ card

/-- A managed command is one operation on the clock. -/
theorem executeLocked_ticks (o : Oracle Environment) (command : Command) (options : ExchangeOptions)
    (card : Card) : Ensures tickOf o (executeLocked command options) card fun r _ ts =>
      Timed (Unhurried o) options.timeout r ts := by
  refine timed_catchAll (by simp) (ensures_get_bind ?_)
  refine Op.ensures_refuse_bind (fun _ => .refused (by simp [sessionInvalid])) fun _ => ?_
  refine Op.ensures_refuse_bind (fun _ => .refused (by simp [sessionInvalid])) fun _ => ?_
  refine Op.ensures_refuse_bind (fun _ => .refused (by simp [invalid])) fun _ => ?_
  refine Op.ensures_refuse_bind (fun _ => .refused (by simp [invalid])) fun _ => ?_
  refine ensures_untimed_bind (checkGeneration_untimed _ _ card) (fun _ _ h => h.timed) fun _ card => ?_
  refine Op.ensures_ofResult_bind (fun e he => .refused (requireContext_code he)) fun _ _ => ?_
  refine timed_bind (timed_onError (exchangeSecure_ticks o (secureRequest command) options card)) fun payload card => ?_
  refine still_bind (checkGeneration_still _ _ card) fun _ card => ?_
  refine still_bind (onError_still (ofResult_still _ card)) fun _ card => ?_
  exact ensures_modify_bind (ensures_pure rfl)

theorem execute_ticks (o : Oracle Environment) (command : Command) (options : ExchangeOptions) (card : Card) :
    Ensures tickOf o (execute command options) card fun r _ ts => Timed (Unhurried o) options.timeout r ts :=
  timed_admitted (by simp [busy]) (executeLocked_ticks o command options card)

theorem discoveryCommand_code {command : Byte} {e : Error} (h : discoveryCommand command = .error e) :
    e.code ≠ .timeout := by
  unfold discoveryCommand at h
  repeat' split at h
  all_goals cases h
  all_goals simp [invalid]

theorem executePlainLocked_ticks (o : Oracle Environment) (command : Byte) (data : Bytes) (options : ExchangeOptions)
    (operation : String) (card : Card) :
    Ensures tickOf o (executePlainLocked command data options operation) card fun r _ ts =>
      Timed (Unhurried o) options.timeout r ts := by
  refine timed_catchAll (by simp) (ensures_get_bind ?_)
  refine Op.ensures_refuse_bind (fun _ => .refused (by simp [sessionInvalid])) fun _ => ?_
  refine Op.ensures_refuse_bind (fun _ => .refused (by simp [sessionInvalid])) fun _ => ?_
  refine Op.ensures_refuse_bind (fun _ => .refused (by simp [sessionInvalid])) fun _ => ?_
  refine ensures_ite (fun _ => ?_) fun _ => ?_
  · refine Op.ensures_ofResult_bind (fun e he => .refused (discoveryCommand_code he)) fun checked _ => ?_
    exact executeLocked_ticks o checked options card
  · refine ensures_untimed_bind (checkGeneration_untimed _ _ card) (fun _ _ h => h.timed) fun _ card' => ?_
    refine timed_bind (timed_onError (Native.Raw.RawNativeChannel.exchange_ticks _ o card.raw _ options card'))
      fun response card => ?_
    refine still_bind (checkGeneration_still _ _ card) fun _ card => ?_
    exact Op.ensures_refuse_bind (fun _ => rfl) fun _ => ensures_pure rfl

end Commands
section Discovery
variable {o : Oracle Environment} {options : ExchangeOptions} {card : Card}

theorem selectApplication_ticks (o : Oracle Environment) (id : ApplicationId) (options : ExchangeOptions) (card : Card) :
    Ensures tickOf o (selectApplication id options) card fun r _ ts => Timed (Unhurried o) options.timeout r ts := by
  refine timed_admitted (by simp [busy]) (Op.ensures_refuse_bind (fun _ => .refused (by simp [invalid])) fun _ => ?_)
  refine Op.ensures_stopRequested_bind fun _ => Op.ensures_refuse_bind (fun _ => .refused (by simp)) fun _ => ?_
  refine ensures_get_bind (ensures_modify_bind ?_)
  refine timed_bind (timed_onError (executePlainLocked_ticks o _ _ options _ _)) fun response card => ?_
  exact Op.ensures_refuseAfter_bind (fun _ => rfl) fun _ => ensures_modify rfl

theorem getVersion_ticks (o : Oracle Environment) (options : ExchangeOptions) (card : Card) :
    Ensures tickOf o (getVersion options) card fun r _ ts => Timed (Unhurried o) options.timeout r ts :=
  timed_admitted (by simp [busy]) (timed_bind (executePlainLocked_ticks o _ _ options _ card) fun _ card =>
    onError_still (ofResult_still _ card))

theorem freeMemory_ticks (o : Oracle Environment) (options : ExchangeOptions) (card : Card) :
    Ensures tickOf o (freeMemory options) card fun r _ ts => Timed (Unhurried o) options.timeout r ts :=
  timed_admitted (by simp [busy]) (timed_bind (executePlainLocked_ticks o _ _ options _ card) fun _ card =>
    Op.ensures_refuseAfter_bind (fun _ => rfl) fun _ => ensures_pure rfl)

theorem fileIds_ticks (o : Oracle Environment) (options : ExchangeOptions) (card : Card) :
    Ensures tickOf o (fileIds options) card fun r _ ts => Timed (Unhurried o) options.timeout r ts :=
  timed_admitted (by simp [busy]) (timed_bind (executePlainLocked_ticks o _ _ options _ card) fun _ card =>
    Op.ensures_refuseAfter_bind (fun _ => rfl) fun _ => onError_still (ofResult_still _ card))

/-- The frames of the DF names come one by one under the deadline of their operation. -/
theorem dfNameFrames_ticks (o : Oracle Environment) (frames : Nat) (command : Byte) (records : List Bytes)
    (t : Native.Raw.Transaction) :
    Ensures tickOf o (dfNameFrames frames command records) t fun r t' ts => Keeps o t r t' ts := by
  induction frames generalizing command records t with
  | zero => exact Op.ensures_reject ⟨rfl,.refused (by simp)⟩
  | succ frames ih =>
    refine ensures_bind (Native.Raw.Transaction.exchangeFrame_ticks (Unhurried o) o command [] t) ?_ ?_
    · rintro f t' ts ⟨hdeadline,hclocked⟩
      exact ⟨hdeadline,hclocked.passed⟩
    rintro frame t' ts ⟨hdeadline,hclocked⟩
    have hstopped (r : Except Fault (List Bytes)) : Keeps o t r t' (ts ++ []) := by
      rw [List.append_nil]
      exact ⟨hdeadline,hclocked.answered⟩
    refine Op.ensures_refuse_bind (fun _ => hstopped _) fun _ => ?_
    refine Op.ensures_refuse_bind (fun _ => hstopped _) fun _ => ?_
    refine ensures_ite (fun _ => ensures_pure (hstopped _)) fun _ => ?_
    refine (ih 0xAF _ t').mono ?_
    rintro r t'' ts' ⟨hsame,hrest⟩
    rw [hdeadline] at hrest
    exact ⟨hsame.trans hdeadline,hclocked.append hrest⟩

/-- What an exchange of frames in its own transaction makes of the clock of its operation. -/
theorem timed_within {α : Type} {start : Int} {t : Native.Raw.Transaction} {p : Op Native.Raw.Transaction α}
    (hdeadline : t.deadline =
      Native.Raw.nanoseconds (start + options.timeout * Native.Raw.nanosecondsPerMillisecond))
    (hp : Ensures tickOf o p t fun r t' ts => Keeps o t r t' ts) :
    Ensures tickOf o (Program.within t p) card fun r _ ts =>
      Timed (Unhurried o) options.timeout r (.read start :: ts) := by
  refine ensures_within (hp.mono ?_)
  rintro r t' ts ⟨_,hclocked⟩
  rw [hdeadline] at hclocked
  exact Native.Raw.RawNativeChannel.timed_of_clocked hclocked

theorem dfNames_ticks (o : Oracle Environment) (options : ExchangeOptions) (card : Card) :
    Ensures tickOf o (dfNames options) card fun r _ ts => Timed (Unhurried o) options.timeout r ts := by
  refine timed_admitted (by simp [busy]) (timed_catchAll (by simp) (ensures_get_bind ?_))
  refine Op.ensures_refuse_bind (fun _ => .refused (by simp [sessionInvalid])) fun _ => ?_
  refine Op.ensures_refuse_bind (fun _ => .refused (by simp [sessionInvalid])) fun _ => ?_
  refine Op.ensures_refuse_bind (fun _ => .refused (by simp)) fun _ => ?_
  refine ensures_untimed_bind (checkGeneration_untimed _ _ card) (fun _ _ h => h.timed) fun _ card => ?_
  refine Native.Raw.RawNativeChannel.ensures_begin_bind (fun _ _ h => h.timed) fun start t hdeadline => ?_
  refine ensures_bind (m := fun r _ ts => Timed (Unhurried o) options.timeout r (.read start :: ts))
    (Op.ensures_onError ((timed_within hdeadline (dfNameFrames_ticks o 4096 0x6D [] t)).mono fun _ _ _ h => h.afterError))
    (fun _ _ _ h => h.passed) fun records card ts hts => ?_
  refine (onError_still (ofResult_still _ card)).mono ?_
  rintro r _ _ rfl
  rw [List.append_nil]
  exact hts.answered

end Discovery
section Logins
variable {o : Oracle Environment} {options : ExchangeOptions} {card : Card}

theorem preflight_untimed (requireEv2Session : Bool) (options : ExchangeOptions) (card : Card) :
    Ensures tickOf o (authenticationPreflightLocked requireEv2Session options) card fun r _ ts =>
      Untimed (Unhurried o) r ts := by
  refine Op.ensures_refuse_bind (fun _ => .refused (by simp [invalid])) fun _ => ?_
  refine Op.ensures_stopRequested_bind fun _ => Op.ensures_refuse_bind (fun _ => .refused (by simp)) fun _ => ?_
  refine ensures_get_bind (Op.ensures_refuse_bind (fun _ => .refused (by simp [sessionInvalid])) fun _ => ?_)
  refine Op.ensures_refuse_bind (fun _ => .refused (by simp [sessionInvalid])) fun _ => ?_
  exact checkGeneration_untimed _ _ card

theorem validateDerivationContext_code {context : Aes128DerivationContext} {e : Error}
    (h : validateDerivationContext context = .error e) : e.code ≠ .timeout := by
  unfold validateDerivationContext at h
  split at h <;> cases h
  simp [invalid]

theorem validateIsoContextKey_code {context : Aes128DerivationContext} {reference : Iso7816.Checked.KeyReference}
    {e : Error} (h : validateIsoContextKey context reference = .error e) : e.code ≠ .timeout := by
  unfold validateIsoContextKey at h
  split at h <;> cases h
  simp [invalid]

theorem validateProviderRequest_code {request : KeyRequest} {profile : AuthenticationProfile}
    {isoKey : Option Iso7816.Checked.KeyReference} {e : Error}
    (h : validateProviderRequest request profile isoKey = .error e) : e.code ≠ .timeout := by
  unfold validateProviderRequest at h
  cases hcontext : validateDerivationContext request.context with
  | error e' =>
    rw [hcontext] at h
    cases h
    exact validateDerivationContext_code hcontext
  | ok _ =>
    rw [hcontext] at h
    simp only [bind,Except.bind] at h
    repeat' split at h
    all_goals cases h
    all_goals simp [invalid]

/-- A key service is asked once, and its failure keeps its code. -/
theorem deriveOnce_untimed (masterKey : Aes128Key) (context : Aes128DerivationContext) (card : Card) :
    Ensures tickOf o (deriveOnce masterKey context) card fun r _ ts => Untimed (Unhurried o) r ts := by
  refine Op.ensures_refuse_bind (fun _ => .refused (by simp [invalid])) fun _ => ?_
  refine Op.ensures_stopRequested_bind fun _ => ?_
  refine Op.ensures_refuse_bind (fun _ => .refused (by simp [localResolutionError])) fun _ => ?_
  refine untimed_catchAll (by simp [localResolutionError]) ?_
  refine ensures_untimed_bind (Op.ensures_mapError (ensures_ask_bind fun h => ensures_ofExcept ?_)) (fun _ _ h => h)
    fun derived card => ?_
  · exact Untimed.changeError ⟨rfl,fun ho => ho.derive h masterKey context⟩ fun e he => he
  refine Op.ensures_stopRequested_bind fun _ => ?_
  refine Op.ensures_refuse_bind (fun _ => .refused (by simp [localResolutionError])) fun _ => ?_
  exact Op.ensures_refuse_bind (fun _ => .refused (by simp [localResolutionError])) fun _ => ensures_pure (.ok _)

theorem resolveOnce_untimed (request : KeyRequest) (card : Card) :
    Ensures tickOf o (resolveOnce request) card fun r _ ts => Untimed (Unhurried o) r ts := by
  refine Op.ensures_stopRequested_bind fun requested => ?_
  refine ensures_ite (fun _ => ensures_pure_bind ?_) fun _ => Op.ensures_stopRequested_bind fun _ => ?_
  all_goals
    refine Op.ensures_refuse_bind (fun _ => .refused (by simp [localResolutionError])) fun _ => ?_
    refine untimed_catchAll (by simp [localResolutionError]) ?_
    refine ensures_untimed_bind (Op.ensures_mapError (Op.ensures_ofResult ?_)) (fun _ _ h => h) fun effective card => ?_
    · cases KeyRequest.make request.reference request.context request.scope request.authenticationProfile with
      | error e => exact .refused (by simp [localResolutionError])
      | ok effective => exact .ok effective
    refine ensures_untimed_bind (Op.ensures_mapError (ensures_ask_bind fun h => ensures_ofExcept ?_)) (fun _ _ h => h)
      fun resolved card => ?_
    · exact Untimed.changeError ⟨rfl,fun ho => ho.resolve h effective⟩ fun e he => he
    refine Op.ensures_stopRequested_bind fun _ => ?_
    refine Op.ensures_refuse_bind (fun _ => .refused (by simp [localResolutionError])) fun _ => ?_
    exact Op.ensures_refuse_bind (fun _ => .refused (by simp [localResolutionError])) fun _ => ensures_pure (.ok _)

theorem obtainKey_untimed (profile : AuthenticationProfile) (isoKey : Option Iso7816.Checked.KeyReference)
    (source : KeySource) (card : Card) :
    Ensures tickOf o (obtainKey profile isoKey source) card fun r _ ts => Untimed (Unhurried o) r ts := by
  cases source with
  | direct key => exact ensures_pure (.ok key)
  | derived masterKey context =>
    refine Op.ensures_ofResult_bind (fun e he => .refused (validateDerivationContext_code he)) fun _ _ => ?_
    cases isoKey with
    | none => exact deriveOnce_untimed masterKey context card
    | some reference =>
      refine Op.ensures_ofResult_bind (fun e he => .refused (validateIsoContextKey_code he)) fun _ _ => ?_
      exact deriveOnce_untimed masterKey context card
  | provided request =>
    refine Op.ensures_ofResult_bind (fun e he => .refused (validateProviderRequest_code he)) fun _ _ => ?_
    exact resolveOnce_untimed request card

/-- After the frames of an authentication the clock is read no more. -/
theorem authenticationFrames_bind {α β : Type} {start : Int} {t : Native.Raw.Transaction}
    {authenticate : Security.AuthenticationExchange Native.Raw.Transaction → Op Native.Raw.Transaction α}
    {cleanup : Error → Card → Card} {f : α → Op Card β}
    (hdeadline : t.deadline =
      Native.Raw.nanoseconds (start + options.timeout * Native.Raw.nanosecondsPerMillisecond))
    (hframes : Ensures tickOf o (authenticate Native.Raw.Transaction.exchangeFrame) t fun r t' ts => Keeps o t r t' ts)
    (hf : ∀ a card, Ensures tickOf o (f a) card fun _ _ ts => ts = []) :
    Ensures tickOf o (Op.onError cleanup (authenticationFrames t authenticate) >>= f) card fun r _ ts =>
      Timed (Unhurried o) options.timeout r (.read start :: ts) := by
  refine ensures_bind (m := fun r _ ts => Timed (Unhurried o) options.timeout r (.read start :: ts))
    (Op.ensures_onError ((timed_within hdeadline hframes).mono fun _ _ _ h => h.afterError))
    (fun _ _ _ h => h.passed) fun a card ts hts => (hf a card).mono ?_
  rintro r _ _ rfl
  rw [List.append_nil]
  exact hts.answered

theorem create_still {α : Type} (r : Result α) (card : Card) :
    Ensures tickOf o (Op.onError (fun _ => Card.invalidate) (Op.mapError Error.asUnknown (Op.ofResult r))) card
      fun _ _ ts => ts = [] :=
  onError_still (Op.ensures_mapError (ofResult_still r card))

theorem authenticateEv2Locked_ticks (o : Oracle Environment) (first : Bool) (keyNumber : KeyNumber) (key : Aes128Key)
    (pcdCapabilities : Bytes) (options : ExchangeOptions) (card : Card) :
    Ensures tickOf o (authenticateEv2Locked first keyNumber key pcdCapabilities options) card fun r _ ts =>
      Timed (Unhurried o) options.timeout r ts := by
  refine timed_catchAll (by simp) (Op.ensures_refuse_bind (fun _ => .refused (by simp [invalid])) fun _ => ?_)
  refine Op.ensures_refuse_bind (fun _ => .refused (by simp [invalid])) fun _ => ensures_get_bind ?_
  refine Native.Raw.RawNativeChannel.ensures_begin_bind (fun _ _ h => h.timed) fun start t hdeadline => ?_
  refine ensures_modify_bind (authenticationFrames_bind hdeadline ?_ fun material card => ?_)
  · refine ensures_ite (fun _ => ?_) fun _ => ?_
    · exact authenticateFirst_ticks _ _ t
    · exact authenticateNonfirst_ticks _ _ t
  · refine still_bind (checkGeneration_still _ _ card) fun _ card => still_bind (create_still _ card) fun _ card => ?_
    exact ensures_modify_bind (ensures_pure rfl)

theorem authenticateStandardAesLocked_ticks (o : Oracle Environment) (keyNumber : KeyNumber) (key : Aes128Key)
    (options : ExchangeOptions) (card : Card) :
    Ensures tickOf o (authenticateStandardAesLocked keyNumber key options) card fun r _ ts =>
      Timed (Unhurried o) options.timeout r ts := by
  refine timed_catchAll (by simp) (Op.ensures_refuse_bind (fun _ => .refused (by simp [invalid])) fun _ => ?_)
  refine ensures_get_bind ?_
  refine Native.Raw.RawNativeChannel.ensures_begin_bind (fun _ _ h => h.timed) fun start t hdeadline => ?_
  refine ensures_modify_bind (authenticationFrames_bind hdeadline (authenticate_ticks _ t) fun material card => ?_)
  refine still_bind (checkGeneration_still _ _ card) fun _ card => still_bind (create_still _ card) fun _ card => ?_
  exact ensures_modify rfl

theorem authenticateStandardAes_ticks (o : Oracle Environment) (keyNumber : KeyNumber) (source : KeySource)
    (options : ExchangeOptions) (card : Card) :
    Ensures tickOf o (authenticateStandardAes keyNumber source options) card fun r _ ts =>
      Timed (Unhurried o) options.timeout r ts := by
  refine timed_admitted (by simp [busy]) ?_
  refine ensures_untimed_bind (preflight_untimed false options card) (fun _ _ h => h.timed) fun _ card => ?_
  refine ensures_untimed_bind (obtainKey_untimed _ _ source card) (fun _ _ h => h.timed) fun key card => ?_
  exact authenticateStandardAesLocked_ticks o _ key options card

theorem authenticateEv2FirstAes_ticks (o : Oracle Environment) (keyNumber : KeyNumber) (source : KeySource)
    (pcdCapabilities : Bytes) (options : ExchangeOptions) (card : Card) :
    Ensures tickOf o (authenticateEv2FirstAes keyNumber source pcdCapabilities options) card fun r _ ts =>
      Timed (Unhurried o) options.timeout r ts := by
  refine timed_admitted (by simp [busy]) ?_
  refine ensures_untimed_bind (preflight_untimed false options card) (fun _ _ h => h.timed) fun _ card => ?_
  refine ensures_untimed_bind (p := checkCapabilities pcdCapabilities source) ?_ (fun _ _ h => h.timed) fun _ card => ?_
  · have hchecked : Ensures tickOf o (Op.refuse (6 < pcdCapabilities.length)
        (invalid "EV2 First PCD capabilities cannot exceed six bytes")) card fun r _ ts => Untimed (Unhurried o) r ts := by
      intro h
      unfold Op.refuse Program.refuse
      split
      · exact Untimed.refused (by simp [invalid])
      · exact Untimed.ok ()
    cases source with
    | direct key => exact ensures_pure (.ok ())
    | derived | provided => exact hchecked
  refine ensures_untimed_bind (obtainKey_untimed _ _ source card) (fun _ _ h => h.timed) fun key card => ?_
  exact authenticateEv2Locked_ticks o true _ key pcdCapabilities options card

theorem authenticateEv2NonFirstAes_ticks (o : Oracle Environment) (keyNumber : KeyNumber) (source : KeySource)
    (options : ExchangeOptions) (card : Card) :
    Ensures tickOf o (authenticateEv2NonFirstAes keyNumber source options) card fun r _ ts =>
      Timed (Unhurried o) options.timeout r ts := by
  refine timed_admitted (by simp [busy]) ?_
  refine ensures_untimed_bind (preflight_untimed true options card) (fun _ _ h => h.timed) fun _ card => ?_
  refine ensures_untimed_bind (obtainKey_untimed _ _ source card) (fun _ _ h => h.timed) fun key card => ?_
  exact authenticateEv2Locked_ticks o false _ key [] options card

end Logins
section Operations

/-- The operations that go on under one native deadline. -/
def Operation.timed : Operation → Prop
  | .authenticateIsoAes .. | .isoCommand _ | .executeTransaction .. | .resetAuthentication | .reset => False
  | _ => True

theorem returning_ticks {α β : Type} {o : Oracle Environment} {card : Card} {timeout : Int} {f : α → β} {p : Op Card α}
    (hp : Ensures tickOf o p card fun r _ ts => Timed (Unhurried o) timeout r ts) :
    Ensures tickOf o (Op.returning f p) card fun r _ ts => Timed (Unhurried o) timeout r ts :=
  Op.ensures_returning (hp.mono fun _ _ _ h => h.map)

theorem perform_ticks (o : Oracle Environment) {operation : Operation} (htimed : operation.timed)
    (options : ExchangeOptions) (card : Card) :
    Ensures tickOf o (perform operation options) card fun r _ ts => Timed (Unhurried o) options.timeout r ts := by
  cases operation with
  | selectApplication id => exact returning_ticks (selectApplication_ticks o id options card)
  | authenticateStandardAes number source =>
    exact returning_ticks (authenticateStandardAes_ticks o number source options card)
  | authenticateEv2FirstAes number source capabilities =>
    exact returning_ticks (authenticateEv2FirstAes_ticks o number source capabilities options card)
  | authenticateEv2NonFirstAes number source =>
    exact returning_ticks (authenticateEv2NonFirstAes_ticks o number source options card)
  | execute command => exact returning_ticks (execute_ticks o command options card)
  | getVersion => exact returning_ticks (getVersion_ticks o options card)
  | freeMemory => exact returning_ticks (freeMemory_ticks o options card)
  | fileIds => exact returning_ticks (fileIds_ticks o options card)
  | dfNames => exact returning_ticks (dfNames_ticks o options card)
  | authenticateIsoAes | isoCommand | executeTransaction | resetAuthentication | reset => exact htimed.elim

end Operations
end DesfireSdk.Managed
