import DesfireSdk.Foundation.Generation
import DesfireSdk.Managed.Runs

/-!
The generation of a managed card. Every operation but the one that reads DF names compares
it after its last frame, and so never succeeds on a card that was exchanged meanwhile.
-/
namespace DesfireSdk.Managed
open Interaction Program Model

section Parts

theorem recordKept_checkGeneration (message : String) (outcome : Outcome) :
    RecordKept Card.generation (checkGeneration message outcome) := by
  intro o h card
  have hcases : Ensures some o (checkGeneration message outcome) card _ := checkGeneration_cases
  rcases hcases h with ⟨_,_,hstate,_⟩ | ⟨_,hstate,_⟩
  · rw [hstate]
    rfl
  · rw [hstate]

theorem sighted_checkGeneration (message : String) (outcome : Outcome) :
    Sighted Card.generation (checkGeneration message outcome) := by
  intro o h card a ha
  have hcases : Ensures some o (checkGeneration message outcome) card _ := checkGeneration_cases
  rcases hcases h with ⟨_,hresult,_⟩ | ⟨_,_,hes⟩
  · rw [hresult] at ha
    cases ha
  · rw [shown_some] at hes
    rw [hes]
    exact ⟨[],[],rfl,rfl⟩

/-- A check after the last frame, before a part without frames. -/
theorem sighted_check {α : Type} {message : String} {outcome : Outcome} {f : Unit → Op Card α}
    (hf : ∀ a, Quiet (f a)) : Sighted Card.generation (checkGeneration message outcome >>= f) :=
  sighted_bind_quiet (sighted_checkGeneration _ _) hf

theorem recordKept_exchangeSecure (request : Native.Secure.Request) (options : ExchangeOptions) :
    RecordKept Card.generation (exchangeSecure request options) := by
  intro o h card
  have hrun := exchangeSecure_runs o request options card h
  exact hrun.bound.generation

theorem recordKept_exchangeIso (command : Iso7816.Checked.Command) (options : ExchangeOptions) :
    RecordKept Card.generation (exchangeIso command options) := by
  refine recordKept_bind (fun _ _ _ => rfl) fun card => ?_
  cases card.isoSession with
  | some session => exact fun _ _ _ => rfl
  | none => exact recordKept_of_keeps (Iso7816.Checked.Channel.exchange_keeps _ _ _)

theorem ExecuteRun.generation {o : Oracle Environment} {command : Native.Checked.Command}
    {card card' : Card} {r : Except Fault Bytes} {es : Trace Environment}
    (h : ExecuteRun o command card r card' es) : card'.generation = card.generation := by
  cases h with
  | refused | removed | threw | changed | unparsed => rfl
  | @failed e _ _ _ _ _ _ hrun =>
    have hgeneration := hrun.bound.generation
    unfold afterExchange
    split
    · exact hgeneration
    · exact hgeneration
  | done _ _ _ hrun =>
    have hgeneration := hrun.bound.generation
    unfold endSession
    split
    · exact hgeneration
    · exact hgeneration

theorem recordKept_executeLocked (command : Native.Checked.Command) (options : ExchangeOptions) :
    RecordKept Card.generation (executeLocked command options) :=
  fun o h card => (executeLocked_runs o command options card h).generation

theorem afterExchange_generation (protectedSession : Bool) (e : Error) (card : Card) :
    (afterExchange protectedSession e card).generation = card.generation := by
  unfold afterExchange
  split <;> rfl

theorem sighted_executeLocked (command : Native.Checked.Command) (options : ExchangeOptions) :
    Sighted Card.generation (executeLocked command options) := by
  refine sighted_settle Op.afterThrow_success (sighted_bind (fun _ _ _ => rfl) fun card => ?_)
  refine sighted_bind (recordKept_of_keeps (keeps_refuse _ _)) fun _ => ?_
  refine sighted_bind (recordKept_of_keeps (keeps_refuse _ _)) fun _ => ?_
  refine sighted_bind (recordKept_of_keeps (keeps_refuse _ _)) fun _ => ?_
  refine sighted_bind (recordKept_of_keeps (keeps_refuse _ _)) fun _ => ?_
  refine sighted_bind (recordKept_checkGeneration _ _) fun _ => ?_
  refine sighted_bind (recordKept_of_keeps (keeps_ofExcept _)) fun _ => ?_
  refine sighted_bind (Op.recordKept_onError (afterExchange_generation _)
    (recordKept_exchangeSecure _ _)) fun payload => ?_
  refine sighted_check fun _ => ?_
  refine quiet_bind (quiet_settle Op.afterError_success (quiet_ofResult _)) fun _ => ?_
  exact quiet_bind (quiet_modify _) fun _ => quiet_pure _

theorem sighted_executePlainLocked (command : Byte) (data : Bytes) (options : ExchangeOptions)
    (operation : String) : Sighted Card.generation (executePlainLocked command data options operation) := by
  refine sighted_settle Op.afterThrow_success (sighted_bind (fun _ _ _ => rfl) fun card => ?_)
  refine sighted_bind (recordKept_of_keeps (keeps_refuse _ _)) fun _ => ?_
  refine sighted_bind (recordKept_of_keeps (keeps_refuse _ _)) fun _ => ?_
  refine sighted_bind (recordKept_of_keeps (keeps_refuse _ _)) fun _ => ?_
  refine sighted_ite ?_ ?_
  · refine sighted_bind (recordKept_of_keeps (keeps_ofExcept _)) fun checked => ?_
    exact sighted_executeLocked checked options
  · refine sighted_bind (recordKept_checkGeneration _ _) fun _ => ?_
    refine sighted_bind (Op.recordKept_onError (afterExchange_generation _)
      (recordKept_of_keeps (exchange_keeps _ _ _))) fun response => ?_
    refine sighted_check fun _ => ?_
    exact quiet_bind (quiet_refuse _ _) fun _ => quiet_pure _

theorem sighted_admitted {α : Type} {refusal : Error} {p : Op Card α} (hp : Sighted Card.generation p) :
    Sighted Card.generation (admitted refusal p) := by
  refine sighted_bind (recordKept_of_keeps (keeps_ask _)) fun _ => ?_
  refine sighted_bind (recordKept_of_keeps (keeps_refuse _ _)) fun _ => ?_
  exact sighted_bind (recordKept_of_keeps (keeps_refuse _ _)) fun _ => hp

theorem quiet_admitted {α : Type} {refusal : Error} {p : Op Card α} (hp : Quiet p) :
    Quiet (admitted refusal p) := by
  refine quiet_bind (quiet_ask fun _ => rfl) fun _ => ?_
  exact quiet_bind (quiet_refuse _ _) fun _ => quiet_bind (quiet_refuse _ _) fun _ => hp

theorem quiet_reset : Quiet reset := by
  refine quiet_admitted (quiet_bind (quiet_modify _) fun _ => quiet_bind ?_ fun _ => ?_)
  · refine quiet_settle Op.afterThrow_success (quiet_bind (quiet_ask fun _ => rfl) fun _ => ?_)
    refine quiet_bind (quiet_refuse _ _) fun _ => quiet_bind (quiet_refuse _ _) fun _ => ?_
    refine quiet_bind (quiet_ask fun _ => rfl) fun answer => ?_
    cases answer with
    | ok _ => exact quiet_pure _
    | error f => exact quiet_failure f
  · exact quiet_bind (quiet_ask fun _ => rfl) fun _ => quiet_modify _

theorem sighted_isoCommand (command : Iso7816.Checked.Command) (options : ExchangeOptions) :
    Sighted Card.generation (isoCommand command options) := by
  refine sighted_admitted (sighted_bind (fun _ _ _ => rfl) fun previous => ?_)
  refine sighted_bind (recordKept_of_keeps (keeps_refuse _ _)) fun _ => ?_
  refine sighted_bind (recordKept_of_keeps (keeps_refuse _ _)) fun _ => ?_
  refine sighted_bind (recordKept_checkGeneration _ _) fun _ => ?_
  refine sighted_bind (recordKept_of_keeps (keeps_refuse _ _)) fun _ => ?_
  refine sighted_bind (recordKept_modify fun card => ?_) fun _ => ?_
  · split <;> rfl
  refine sighted_settle Op.afterThrow_success (sighted_bind ?_ fun response => ?_)
  · refine Op.recordKept_onError (fun e card => ?_) (recordKept_exchangeIso _ _)
    unfold afterIsoCommand
    split
    · rfl
    · split <;> rfl
  · exact sighted_check fun _ => quiet_bind (quiet_modify _) fun _ => quiet_pure _

theorem sighted_selectApplication (id : ApplicationId) (options : ExchangeOptions) :
    Sighted Card.generation (selectApplication id options) := by
  refine sighted_admitted (sighted_bind (recordKept_of_keeps (keeps_refuse _ _)) fun _ => ?_)
  refine sighted_bind (recordKept_of_keeps (keeps_ask _)) fun _ => ?_
  refine sighted_bind (recordKept_of_keeps (keeps_refuse _ _)) fun _ => ?_
  refine sighted_bind (fun _ _ _ => rfl) fun previous => ?_
  refine sighted_bind (recordKept_modify fun _ => rfl) fun _ => ?_
  refine sighted_bind_quiet (sighted_settle Op.afterError_success
    (sighted_executePlainLocked _ _ _ _)) fun _ => ?_
  exact quiet_bind (Op.quiet_refuseAfter _ _) fun _ => quiet_modify _

theorem sighted_getVersion (options : ExchangeOptions) :
    Sighted Card.generation (getVersion options) :=
  sighted_admitted (sighted_bind_quiet (sighted_executePlainLocked _ _ _ _) fun _ =>
    quiet_settle Op.afterError_success (quiet_ofResult _))

theorem sighted_freeMemory (options : ExchangeOptions) :
    Sighted Card.generation (freeMemory options) :=
  sighted_admitted (sighted_bind_quiet (sighted_executePlainLocked _ _ _ _) fun _ =>
    quiet_bind (Op.quiet_refuseAfter _ _) fun _ => quiet_pure _)

theorem sighted_fileIds (options : ExchangeOptions) : Sighted Card.generation (fileIds options) :=
  sighted_admitted (sighted_bind_quiet (sighted_executePlainLocked _ _ _ _) fun _ =>
    quiet_bind (Op.quiet_refuseAfter _ _) fun _ =>
      quiet_settle Op.afterError_success (quiet_ofResult _))

section Authentications

theorem recordKept_preflight (requireEv2Session : Bool) (options : ExchangeOptions) :
    RecordKept Card.generation (authenticationPreflightLocked requireEv2Session options) := by
  refine recordKept_bind (recordKept_of_keeps (keeps_refuse _ _)) fun _ => ?_
  refine recordKept_bind (recordKept_of_keeps (keeps_ask _)) fun _ => ?_
  refine recordKept_bind (recordKept_of_keeps (keeps_refuse _ _)) fun _ => ?_
  refine recordKept_bind (fun _ _ _ => rfl) fun card => ?_
  refine recordKept_bind (recordKept_of_keeps (keeps_refuse _ _)) fun _ => ?_
  refine recordKept_bind (recordKept_of_keeps (keeps_refuse _ _)) fun _ => ?_
  exact recordKept_checkGeneration _ _

theorem recordKept_obtainKey (profile : AuthenticationProfile)
    (isoKey : Option Iso7816.Checked.KeyReference) (source : KeySource) :
    RecordKept Card.generation (obtainKey profile isoKey source) := by
  intro o h card
  have hlocal : Ensures some o (obtainKey profile isoKey source) card _ := obtainKey_local profile isoKey source
  exact congrArg Card.generation (hlocal h).state

theorem sighted_authenticateEv2Locked (first : Bool) (keyNumber : KeyNumber) (key : Aes128Key)
    (pcdCapabilities : Bytes) (options : ExchangeOptions) :
    Sighted Card.generation (authenticateEv2Locked first keyNumber key pcdCapabilities options) := by
  refine sighted_settle Op.afterThrow_success ?_
  refine sighted_bind (recordKept_of_keeps (keeps_refuse _ _)) fun _ => ?_
  refine sighted_bind (recordKept_of_keeps (keeps_refuse _ _)) fun _ => ?_
  refine sighted_bind (fun _ _ _ => rfl) fun previous => ?_
  refine sighted_bind (recordKept_of_keeps (begin_keeps _ _)) fun transaction => ?_
  refine sighted_bind (recordKept_modify fun _ => rfl) fun _ => ?_
  refine sighted_bind (Op.recordKept_onError (fun e card => ?_)
    (recordKept_of_keeps (keeps_within _))) fun material => ?_
  · unfold afterProof
    split <;> rfl
  refine sighted_check fun _ => ?_
  refine quiet_bind (quiet_settle Op.afterError_success
    (quiet_settle Op.changeError_success (quiet_ofResult _))) fun _ => ?_
  exact quiet_bind (quiet_modify _) fun _ => quiet_pure _

theorem sighted_authenticateStandardAesLocked (keyNumber : KeyNumber) (key : Aes128Key)
    (options : ExchangeOptions) :
    Sighted Card.generation (authenticateStandardAesLocked keyNumber key options) := by
  refine sighted_settle Op.afterThrow_success ?_
  refine sighted_bind (recordKept_of_keeps (keeps_refuse _ _)) fun _ => ?_
  refine sighted_bind (fun _ _ _ => rfl) fun previous => ?_
  refine sighted_bind (recordKept_of_keeps (begin_keeps _ _)) fun transaction => ?_
  refine sighted_bind (recordKept_modify fun _ => rfl) fun _ => ?_
  refine sighted_bind (Op.recordKept_onError (fun e card => ?_)
    (recordKept_of_keeps (keeps_within _))) fun material => ?_
  · unfold afterProof
    split <;> rfl
  refine sighted_check fun _ => ?_
  refine quiet_bind (quiet_settle Op.afterError_success
    (quiet_settle Op.changeError_success (quiet_ofResult _))) fun _ => ?_
  exact quiet_modify _

theorem sighted_authenticateIsoAesLocked (reference : Iso7816.Checked.KeyReference) (key : Aes128Key)
    (options : ExchangeOptions) :
    Sighted Card.generation (authenticateIsoAesLocked reference key options) := by
  refine sighted_bind (fun _ _ _ => rfl) fun previous => ?_
  refine sighted_bind (recordKept_of_keeps (keeps_refuse _ _)) fun _ => ?_
  refine sighted_bind (recordKept_of_keeps (keeps_refuse _ _)) fun _ => ?_
  refine sighted_bind (recordKept_modify fun _ => rfl) fun _ => ?_
  refine sighted_settle Op.afterThrow_success ?_
  refine sighted_bind (Op.recordKept_onError (fun e card => ?_)
    (recordKept_of_keeps (keeps_within _))) fun session => ?_
  · unfold afterIsoProof
    split <;> rfl
  · exact sighted_check fun _ => quiet_modify _

/-- An authentication that obtains its key before the first frame. -/
theorem sighted_authentication {α : Type} {requireEv2Session : Bool} {options : ExchangeOptions}
    {profile : AuthenticationProfile} {isoKey : Option Iso7816.Checked.KeyReference} {source : KeySource}
    {f : Aes128Key → Op Card α} (hf : ∀ key, Sighted Card.generation (f key)) :
    Sighted Card.generation (admitted busy do
      authenticationPreflightLocked requireEv2Session options
      let key ← obtainKey profile isoKey source
      f key) := by
  refine sighted_admitted (sighted_bind (recordKept_preflight _ _) fun _ => ?_)
  exact sighted_bind (recordKept_obtainKey _ _ _) fun key => hf key

theorem sighted_authenticateEv2FirstAes (keyNumber : KeyNumber) (source : KeySource)
    (pcdCapabilities : Bytes) (options : ExchangeOptions) :
    Sighted Card.generation (authenticateEv2FirstAes keyNumber source pcdCapabilities options) := by
  refine sighted_admitted (sighted_bind (recordKept_preflight _ _) fun _ => ?_)
  refine sighted_bind ?_ fun _ => ?_
  · unfold checkCapabilities
    split
    · exact recordKept_of_keeps (keeps_pure _)
    · exact recordKept_of_keeps (keeps_refuse _ _)
  refine sighted_bind (recordKept_obtainKey _ _ _) fun key => ?_
  exact sighted_authenticateEv2Locked _ _ _ _ _

end Authentications

section Transactions

theorem keeps_remainingOptions (deadline : Int) : Keeps (remainingOptions deadline) := by
  refine keeps_bind (keeps_ask _) fun _ => keeps_bind (keeps_ask _) fun _ => ?_
  refine keeps_bind (keeps_refuse _ _) fun _ => ?_
  exact keeps_bind (keeps_refuse _ _) fun _ => keeps_pure _

theorem recordKept_readSettings (deadline : Int) (file : Nat) :
    RecordKept Card.generation (readSettings deadline file) := by
  refine recordKept_bind (recordKept_of_keeps (keeps_remainingOptions _)) fun _ => ?_
  refine recordKept_bind ?_ fun number => ?_
  · cases (Number.make file : Result FileNumber) with
    | ok number => exact recordKept_of_keeps (keeps_pure _)
    | error e => exact recordKept_of_keeps (keeps_fail _)
  refine recordKept_bind (recordKept_of_keeps (keeps_ofExcept _)) fun query => ?_
  refine recordKept_bind (recordKept_executeLocked _ _) fun rawSettings => ?_
  exact Op.recordKept_onError (fun _ _ => rfl) (recordKept_of_keeps (keeps_ofExcept _))

theorem recordKept_verifyTargets (deadline : Int) (commands : List Native.Checked.Command)
    (settings : Nat → Option FileSettings) :
    RecordKept Card.generation (verifyTargets deadline commands settings) := by
  induction commands generalizing settings with
  | nil => exact recordKept_of_keeps (keeps_pure _)
  | cons command rest ih =>
    have hchecked (file : FileSettings) : RecordKept Card.generation (do
        Op.ofResult (checkTarget command file)
        verifyTargets deadline rest (Function.update settings (fileNumber command) (some file))) :=
      recordKept_bind (recordKept_of_keeps (keeps_ofExcept _)) fun _ => ih _
    unfold verifyTargets
    cases settings (fileNumber command) with
    | some file => exact recordKept_bind (recordKept_of_keeps (keeps_pure _)) hchecked
    | none => exact recordKept_bind (recordKept_readSettings _ _) hchecked

theorem recordKept_stage (deadline : Int) (staged : Bool) (commands : List Native.Checked.Command) :
    RecordKept Card.generation (stage deadline staged commands) := by
  induction commands generalizing staged with
  | nil => exact recordKept_of_keeps (keeps_pure _)
  | cons command rest ih =>
    refine recordKept_bind (Op.recordKept_mapError (Op.recordKept_onError (fun e card => ?_) ?_)) fun _ => ih true
    · split <;> rfl
    · exact recordKept_bind (recordKept_of_keeps (keeps_remainingOptions _)) fun _ => recordKept_executeLocked _ _

theorem sighted_commitStaged (deadline : Int) (returnMac : Bool) :
    Sighted Card.generation (commitStaged deadline returnMac) := by
  refine sighted_bind (Op.recordKept_mapError (Op.recordKept_onError (fun _ _ => rfl)
    (recordKept_of_keeps (keeps_remainingOptions _)))) fun budget => ?_
  refine sighted_bind (Op.recordKept_onError (fun _ _ => rfl)
    (recordKept_of_keeps (keeps_ofExcept _))) fun commit => ?_
  exact sighted_settle Op.changeError_success (sighted_settle Op.afterError_success
    (sighted_executeLocked _ _))

theorem sighted_executeTransaction (plan : TransactionPlan) (returnMac : Bool)
    (options : ExchangeOptions) :
    Sighted Card.generation (executeTransaction plan returnMac options) := by
  refine sighted_admitted (sighted_settle Op.afterThrow_success ?_)
  refine sighted_bind (fun _ _ _ => rfl) fun card => ?_
  refine sighted_bind (recordKept_of_keeps (keeps_refuse _ _)) fun _ => ?_
  refine sighted_bind (recordKept_of_keeps (keeps_refuse _ _)) fun _ => ?_
  refine sighted_bind (recordKept_of_keeps (keeps_ask _)) fun now => ?_
  refine sighted_bind (recordKept_of_keeps (keeps_refuse _ _)) fun _ => ?_
  refine sighted_bind (recordKept_verifyTargets _ _ _) fun _ => ?_
  exact sighted_bind (recordKept_stage _ _ _) fun _ => sighted_commitStaged _ _

end Transactions

end Parts

section Names
open Native.Raw

/-- A frame that is read was handed over between two readings of the generation of its transaction. -/
theorem sighted_exchangeFrame (command : Byte) (data : Bytes) :
    Sighted Transaction.generation (Transaction.exchangeFrame command data) := by
  have hcontrols : Keeps Transaction.remainingOptions := by
    refine keeps_bind (fun _ _ _ => rfl) fun t => keeps_bind (keeps_ask _) fun _ => ?_
    refine keeps_bind (keeps_refuse _ _) fun _ => keeps_bind (keeps_ask _) fun _ => ?_
    refine keeps_bind (keeps_refuse _ _) fun _ => keeps_bind (keeps_ask _) fun _ => ?_
    exact keeps_bind (keeps_refuse _ _) fun _ => keeps_pure _
  refine sighted_bind (recordKept_of_keeps hcontrols) fun controls => ?_
  refine sighted_get fun t => witnessed_bind fun limits => witnessed_bind fun _ => ?_
  refine witnessed_bind fun encoded => witnessed_bind fun _ => witnessed_bind fun bytes => ?_
  refine witnessed_bind fun _ => witnessed_reading fun _ => ?_
  exact quiet_bind (quiet_refuse _ _) fun _ => quiet_ofResult _

theorem recordKept_exchangeFrame (command : Byte) (data : Bytes) :
    RecordKept Transaction.generation (Transaction.exchangeFrame command data) :=
  fun o h t => (Transaction.exchangeFrame_cases o command data t h).generation

/-- The records are read under the generation of their transaction, whatever the card records. -/
theorem sighted_dfNameFrames (frames : Nat) (command : Byte) (records : List Bytes) :
    Sighted Transaction.generation (dfNameFrames frames command records) := by
  induction frames generalizing command records with
  | zero => exact sighted_fail _
  | succ frames ih =>
    refine sighted_bind_either (recordKept_exchangeFrame _ _) (sighted_exchangeFrame _ _) fun frame => ?_
    by_cases hlast : frame.status = 0x00
    · left
      simp only [if_pos hlast]
      exact quiet_bind (quiet_refuse _ _) fun _ => quiet_bind (quiet_refuse _ _) fun _ => quiet_pure _
    · right
      simp only [if_neg hlast]
      refine sighted_bind (recordKept_of_keeps (keeps_refuse _ _)) fun _ => ?_
      exact sighted_bind (recordKept_of_keeps (keeps_refuse _ _)) fun _ => ih _ _

end Names

namespace Card

/-- Neither uncertain, nor waiting for a resynchronization, nor authenticated. -/
structure Plain (card : Card) : Prop where
  usable : card.usable = true
  settled : card.authenticationResetPending = false
  unauthenticated : card.authenticated = false

end Card

section Names
variable {o : Oracle Environment}

theorem readings_append (es es' : Trace Environment) :
    readings (es ++ es') = readings es ++ readings es' :=
  shown_append es es'

/-- A transaction begins under a generation of its own reading. -/
theorem begin_sampled {τ : Type} (channel : Native.Raw.RawNativeChannel) (options : ExchangeOptions)
    (s : τ) : Ensures some o (channel.begin options) s fun r s' es =>
      s' = s ∧ ∀ t, r = .ok t → readings es = [t.generation] := by
  refine Op.ensures_refuse_bind (fun _ => ⟨rfl,by simp⟩) fun _ => ?_
  refine Op.ensures_stopRequested_bind fun _ => ?_
  refine Op.ensures_refuse_bind (fun _ => ⟨rfl,by simp⟩) fun _ => ?_
  refine Op.ensures_admission_bind fun _ => ?_
  refine Op.ensures_refuse_bind (fun _ => ⟨rfl,by simp⟩) fun _ => ?_
  refine Op.ensures_refuse_bind (fun _ => ⟨rfl,by simp⟩) fun _ => ?_
  refine Op.ensures_now_bind fun _ => Op.ensures_generation_bind fun _ => ensures_pure ⟨rfl,?_⟩
  rintro _ ⟨⟩
  rfl

/-- DF names are confirmed under the generation with which their transaction began. -/
theorem dfNames_sampled (options : ExchangeOptions) (card : Card) :
    Ensures some o (dfNames options) card fun r _ es => ∀ names, r = .ok names →
      card.Plain ∧ ∃ sampled rest, readings es = card.generation :: sampled :: rest ∧
        Confirmed sampled es := by
  refine admitted_success ?_ ?_
  · refine Op.ensures_catchAll (ensures_get_bind ?_)
    refine Op.ensures_refuse_bind (by simp) fun husable => ?_
    refine Op.ensures_refuse_bind (by simp) fun hsettled => ?_
    refine Op.ensures_refuse_bind (by simp) fun hnative => ?_
    have hplain : card.Plain := by
      simp only [not_or,Bool.not_eq_true,Bool.not_eq_false] at husable hsettled hnative
      exact ⟨husable.1,hsettled,by rw [Card.authenticated,hnative,husable.2]; rfl⟩
    refine checkGeneration_bind (by simp) ?_
    refine ensures_bind (begin_sampled card.raw options card) ?_ ?_
    · rintro (e | _) _ _ _ _ ⟨⟩
    rintro transaction card' es₁ ⟨hkept,hsampled⟩
    rw [hkept]
    have hframes : Witnessed transaction.generation (Op.onError (afterExchange false)
        (Program.within transaction (dfNameFrames 4096 0x6D [])) : Op Card (List Bytes)) :=
      sighted_settle Op.afterError_success (witnessed_within transaction (sighted_dfNameFrames _ _ _))
    have hparsed (records : List Bytes) : Quiet (Op.onError (fun _ => Card.invalidate)
        (Op.ofResult (records.mapM Native.Checked.parseDfNameFrame))) :=
      quiet_settle Op.afterError_success (quiet_ofResult _)
    intro h names hnames
    obtain ⟨_,hnames⟩ := Op.afterThrow_success _ _ _ hnames
    have hconfirmed := sighted_bind_quiet hframes hparsed o h card _ hnames
    rw [shown_some]
    have hlast := (hconfirmed.after es₁).after [⟨.generation,card.generation⟩]
    have hread (es : Trace Environment) : readings (⟨.generation,card.generation⟩ :: (es₁ ++ es)) =
        card.generation :: transaction.generation :: readings es := by
      change card.generation :: readings (es₁ ++ es) = _
      rw [readings_append,hsampled transaction rfl]
      rfl
    exact ⟨hplain,_,_,hread _,hlast⟩
  · rintro names es ⟨hplain,sampled,rest,hreadings,hconfirmed⟩
    refine ⟨hplain,sampled,rest,?_,hconfirmed.after _⟩
    rw [readings_append]
    exact hreadings

/-- A transport whose generation advances right after its first reading. -/
def advancing (generation other : UInt64) (reply : Bytes) : Oracle Environment
  | h,.generation => match readings h with
    | [] => generation
    | _ => other
  | _,.exchange _ _ => ⟨other,.ok reply⟩
  | h,query => scripted {} h query

def emptyReply : Native.Framing → Bytes
  | .direct => [0x00]
  | .isoWrapped => [0x91,0x00]

section Advancing
open Native.Raw
variable {generation other : UInt64} {channel : Native.Raw.RawNativeChannel}

/-- What is read before the frame. -/
def beforeNames (generation other : UInt64) : Trace Environment :=
  [⟨.admission .card,Admission.entered⟩,⟨.generation,generation⟩,⟨.stopRequested .operation,false⟩,
    ⟨.admission .native,Admission.entered⟩,⟨.now,(0 : Int)⟩,⟨.generation,other⟩]

/-- What is read in the transaction of the one frame. -/
def namesFrame (other : UInt64) (framing : Native.Framing) : Trace Environment :=
  [⟨.now,(0 : Int)⟩,⟨.generation,other⟩,⟨.stopRequested .operation,false⟩,
    ⟨.capabilities,some ({} : TransportCapabilities)⟩,
    ⟨.exchange (wire framing 0x6D []) {},⟨other,.ok (emptyReply framing)⟩⟩,⟨.generation,other⟩]

theorem namesFrame_changes (hother : other ≠ generation) (framing : Native.Framing) :
    Changes generation (beforeNames generation other ++ namesFrame other framing) := by
  refine ⟨beforeNames generation other,namesFrame other framing,rfl,?_,
    beforeNames generation other ++ (namesFrame other framing).take 4,_,_,_,[⟨.generation,other⟩],
    rfl,rfl,List.suffix_iff_eq_drop.mpr rfl⟩
  intro reading hreading
  have hshown : readings (namesFrame other framing) = [other,other] := rfl
  rw [hshown] at hreading
  simp only [List.mem_cons,List.not_mem_nil,or_false,or_self] at hreading
  rwa [hreading]

theorem exchangeFrame_advanced :
    Reaches some (advancing generation other (emptyReply channel.framing)) (beforeNames generation other)
      (Transaction.exchangeFrame 0x6D []) ⟨channel.framing,5000000000,other,false⟩ (.ok ⟨0x00,[]⟩)
      ⟨channel.framing,5000000000,other,true⟩ (namesFrame other channel.framing) := by
  obtain ⟨framing⟩ := channel
  have hencode : encode 0x6D [] framing = .ok (wire framing 0x6D []) := by cases framing <;> rfl
  have hdecode : decode (emptyReply framing) framing = .ok ⟨0x00,[]⟩ := by cases framing <;> rfl
  have hdue : ¬(5000000000 : Int) ≤ 0 := by decide
  have hcontrols : Reaches some (advancing generation other (emptyReply framing))
      (beforeNames generation other) Transaction.remainingOptions ⟨framing,5000000000,other,false⟩
      (.ok {}) ⟨framing,5000000000,other,false⟩ ((namesFrame other framing).take 3) := by
    refine Reaches.get_bind (Reaches.asked_bind rfl (Op.reaches_refuse_bind hdue ?_))
    refine Reaches.asked_bind rfl (Op.reaches_refuse_bind (not_not_intro rfl) ?_)
    exact Reaches.asked_bind rfl (Op.reaches_refuse_bind (by decide) Reaches.pure)
  have hsent : Reaches some (advancing generation other (emptyReply framing))
      (beforeNames generation other ++ (namesFrame other framing).take 4)
      (Op.transportExchange (wire framing 0x6D []) {} : Op Transaction Bytes)
      ⟨framing,5000000000,other,false⟩ (.ok (emptyReply framing)) ⟨framing,5000000000,other,false⟩
      [⟨.exchange (wire framing 0x6D []) {},⟨other,.ok (emptyReply framing)⟩⟩] :=
    Reaches.asked_bind rfl Reaches.pure
  have hlimits : Reaches some (advancing generation other (emptyReply framing))
      (beforeNames generation other ++ (namesFrame other framing).take 3)
      (Op.capabilities : Op Transaction TransportCapabilities) ⟨framing,5000000000,other,false⟩
      (.ok {}) ⟨framing,5000000000,other,false⟩ [⟨.capabilities,some {}⟩] :=
    Reaches.asked_bind rfl Reaches.pure
  have hlength : ¬261 < (wire framing 0x6D []).length := by cases framing <;> decide
  have hroom : ¬65538 < (emptyReply framing).length := by cases framing <;> decide
  change Reaches some _ _ _ _ _ _
    ((namesFrame other framing).take 3 ++ (namesFrame other framing).drop 3)
  refine Reaches.bind hcontrols (Reaches.get_bind ?_)
  change Reaches some _ _ _ _ _ _
    (((namesFrame other framing).drop 3).take 1 ++ (namesFrame other framing).drop 4)
  refine Reaches.bind hlimits ?_
  refine Op.reaches_refuse_bind (by decide) ?_
  refine Reaches.quiet_bind (Op.reaches_mapError (Op.reaches_ofResult hencode)) ?_
  refine Op.reaches_refuse_bind hlength ?_
  change Reaches some _ _ _ _ _ _
    (((namesFrame other framing).drop 4).take 1 ++ (namesFrame other framing).drop 5)
  refine Reaches.bind (Op.reaches_mapError (Op.reaches_catchAll hsent)) ?_
  refine Reaches.modify_bind (Reaches.asked_bind rfl (Op.reaches_refuse_bind (not_not_intro rfl) ?_))
  exact Op.reaches_refuse_bind hroom (Op.reaches_ofResult hdecode)

/-- The names of a card that was exchanged after the check are read without an error. -/
theorem dfNames_advanced {card : Card} (hplain : card.Plain) (other : UInt64) :
    Reaches some (advancing card.generation other (emptyReply card.raw.framing)) [] (dfNames {}) card
      (.ok []) card (beforeNames card.generation other ++ namesFrame other card.raw.framing) := by
  obtain ⟨hnative,hiso⟩ : card.hasNativeSession = false ∧ card.isoSession.isSome = false := by
    simpa [Card.authenticated] using hplain.unauthenticated
  have hbegun : Reaches some (advancing card.generation other (emptyReply card.raw.framing))
      ((beforeNames card.generation other).take 2) (card.raw.begin {}) card
      (.ok ⟨card.raw.framing,5000000000,other,false⟩) card ((beforeNames card.generation other).drop 2) := by
    refine Op.reaches_refuse_bind (by decide) (Reaches.asked_bind rfl ?_)
    refine Op.reaches_refuse_bind (by decide) (Reaches.asked_bind rfl ?_)
    refine Op.reaches_refuse_bind (by decide) (Op.reaches_refuse_bind (by decide) ?_)
    exact Reaches.asked_bind rfl (Reaches.asked_bind rfl Reaches.pure)
  have hframes : Reaches some (advancing card.generation other (emptyReply card.raw.framing))
      (beforeNames card.generation other) (dfNameFrames 4096 0x6D [])
      ⟨card.raw.framing,5000000000,other,false⟩ (.ok []) ⟨card.raw.framing,5000000000,other,true⟩
      (namesFrame other card.raw.framing) := by
    refine Reaches.bind_quiet exchangeFrame_advanced ?_
    refine Op.reaches_refuse_bind (by decide) (Op.reaches_refuse_bind (by decide) ?_)
    exact Reaches.pure
  refine Reaches.asked_bind rfl ?_
  refine Reaches.refuse_bind (by decide) (Op.reaches_refuse_bind (by decide) ?_)
  refine Op.reaches_catchAll (Reaches.get_bind ?_)
  refine Op.reaches_refuse_bind (by simp [hplain.usable,hiso]) ?_
  refine Op.reaches_refuse_bind (by simp [hplain.settled]) ?_
  refine Op.reaches_refuse_bind (by simp [hnative]) ?_
  have hchecked : Reaches some (advancing card.generation other (emptyReply card.raw.framing))
      [⟨.admission .card,Admission.entered⟩] (checkGeneration "Card changed before GetDFNames" .notSent)
      card (.ok ()) card [⟨.generation,card.generation⟩] := by
    refine Reaches.get_bind (Reaches.asked_bind rfl ?_)
    unfold Op.refuseAfter
    rw [if_neg (not_not_intro rfl)]
    exact Reaches.pure
  change Reaches some _ _ _ _ _ _ ([⟨.generation,card.generation⟩] ++
    ((beforeNames card.generation other).drop 2 ++ namesFrame other card.raw.framing))
  refine Reaches.bind hchecked (Reaches.bind hbegun ?_)
  refine Reaches.bind_quiet (Op.reaches_onError (Reaches.within hframes)) ?_
  exact Op.reaches_onError (Op.reaches_ofResult rfl)

end Advancing

end Names

section Operations
variable {card : Card} {operation : Operation}

/-- The second generation a run reads: the one with which a native transaction begins. -/
def sampled (es : Trace Environment) : Option UInt64 := (readings es)[1]?

/-- Every operation but the one that reads DF names ends under the generation of the card. -/
theorem perform_confirmed (hother : operation ≠ .dfNames) (options : ExchangeOptions)
    (o : Oracle Environment) (h : Trace Environment) {reply : Reply}
    (hreply : (perform operation options o h card).result = .ok reply) :
    Confirmed card.generation (perform operation options o h card).events ∨
      deliveries (perform operation options o h card).events = [] := by
  cases operation with
  | selectApplication id =>
    exact .inl (sighted_settle Op.map_success (sighted_selectApplication id options) o h card _ hreply)
  | authenticateStandardAes keyNumber source =>
    have hsighted : Sighted Card.generation (authenticateStandardAes keyNumber source options) :=
      sighted_authentication fun key => sighted_authenticateStandardAesLocked _ key options
    exact .inl (sighted_settle Op.map_success hsighted o h card _ hreply)
  | authenticateEv2FirstAes keyNumber source pcdCapabilities =>
    exact .inl (sighted_settle Op.map_success
      (sighted_authenticateEv2FirstAes keyNumber source pcdCapabilities options) o h card _ hreply)
  | authenticateEv2NonFirstAes keyNumber source =>
    have hsighted : Sighted Card.generation (authenticateEv2NonFirstAes keyNumber source options) :=
      sighted_authentication fun key => sighted_authenticateEv2Locked false _ key [] options
    exact .inl (sighted_settle Op.map_success hsighted o h card _ hreply)
  | authenticateIsoAes reference source =>
    have hsighted : Sighted Card.generation (authenticateIsoAes reference source options) :=
      sighted_authentication fun key => sighted_authenticateIsoAesLocked reference key options
    exact .inl (sighted_settle Op.map_success hsighted o h card _ hreply)
  | isoCommand command =>
    exact .inl (sighted_settle Op.map_success (sighted_isoCommand command options) o h card _ hreply)
  | execute command =>
    have hsighted : Sighted Card.generation (execute command options) :=
      sighted_admitted (sighted_executeLocked command options)
    exact .inl (sighted_settle Op.map_success hsighted o h card _ hreply)
  | executeTransaction plan returnMac =>
    exact .inl (sighted_settle Op.map_success
      (sighted_executeTransaction plan returnMac options) o h card _ hreply)
  | getVersion => exact .inl (sighted_settle Op.map_success (sighted_getVersion options) o h card _ hreply)
  | freeMemory => exact .inl (sighted_settle Op.map_success (sighted_freeMemory options) o h card _ hreply)
  | fileIds => exact .inl (sighted_settle Op.map_success (sighted_fileIds options) o h card _ hreply)
  | dfNames => exact absurd rfl hother
  | resetAuthentication =>
    have hquiet : Quiet resetAuthentication := quiet_admitted (quiet_modify _)
    exact .inr (quiet_settle Op.map_success hquiet o h card _ hreply)
  | reset =>
    exact .inr (quiet_settle Op.map_success quiet_reset o h card _ hreply)

/-- A success is never reported over a changed generation, except where DF names are read by a
transaction that begins under another generation than the one just checked. -/
theorem generation_checked_iff (card : Card) (operation : Operation) (reading : Option UInt64) :
    (∀ (options : ExchangeOptions) (o : Oracle Environment) (h : Trace Environment),
      sampled (perform operation options o h card).events = reading →
      Changes card.generation (perform operation options o h card).events →
      ∀ reply, (perform operation options o h card).result ≠ .ok reply) ↔
    ¬(operation = .dfNames ∧ card.Plain ∧ ∃ generation ∈ reading, generation ≠ card.generation) := by
  constructor
  · rintro hchecked ⟨rfl,hplain,other,hreading,hother⟩
    obtain ⟨hresult,_,hevents⟩ :=
      Reaches.settle (f := fun r s => (r.map Reply.names,s)) (dfNames_advanced hplain other) [] rfl
    rw [shown_some] at hevents
    refine hchecked {} (advancing card.generation other (emptyReply card.raw.framing)) [] ?_ ?_ _ hresult
    · change sampled ((Program.settle _ _ : Op Card Reply) _ _ _).events = _
      rw [hevents,Option.mem_def.mp hreading]
      rfl
    · change Changes _ ((Program.settle _ _ : Op Card Reply) _ _ _).events
      rw [hevents]
      exact namesFrame_changes hother _
  · intro hexcept options o h hsampled hchanges reply hreply
    by_cases hnames : operation = .dfNames
    · subst hnames
      obtain ⟨names,hresult⟩ := Op.map_success _ card _ hreply
      obtain ⟨hplain,other,rest,hreadings,hconfirmed⟩ := dfNames_sampled options card h names hresult
      rw [shown_some] at hreadings hconfirmed
      refine hexcept ⟨rfl,hplain,other,?_,?_⟩
      · rw [← hsampled]
        change (readings (dfNames options o h card).events)[1]? = some other
        rw [hreadings]
        rfl
      · rintro rfl
        exact hconfirmed.unchanged hchanges
    · rcases perform_confirmed hnames options o h hreply with hconfirmed | hnone
      · exact hconfirmed.unchanged hchanges
      · exact hchanges.handed hnone

/-- The card is exchanged between the check and the transaction; its names are read as those of
the card before. -/
theorem dfNames_exchanged :
    Changes freshCard.generation
        (perform .dfNames {} (advancing 0 1 [0x91,0x00]) [] freshCard).events ∧
      (perform .dfNames {} (advancing 0 1 [0x91,0x00]) [] freshCard).result = .ok (.names []) :=
  ⟨namesFrame_changes (by decide : (1 : UInt64) ≠ 0) .isoWrapped,rfl⟩

end Operations
end DesfireSdk.Managed
