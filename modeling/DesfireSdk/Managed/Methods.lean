import DesfireSdk.Managed.Execution

/-! The typed queries of a card: a builder, one execution and a parser. -/
namespace DesfireSdk.Managed
open Interaction Program Model

/-- Executes a command if it was built. -/
def run (command : Result Native.Checked.Command) (options : ExchangeOptions) : Op Card Bytes := do
  let command ← Op.ofResult command
  execute command options

/-- Executes a command and parses the payload that it returned. -/
def parsed {α : Type} (command : Result Native.Checked.Command) (parse : Bytes → Result α) (options : ExchangeOptions) :
    Op Card α := do
  let payload ← run command options
  Op.ofResult (parse payload)

def applicationIds : ExchangeOptions → Op Card (List ApplicationId) :=
  parsed Native.Checked.getApplicationIds Native.Checked.parseApplicationIds

def delegatedApplicationInfo (slot : UInt16) : ExchangeOptions → Op Card Native.Checked.DelegatedApplicationInfo :=
  parsed (Native.Checked.getDelegatedApplicationInfo slot) Native.Checked.parseDelegatedApplicationInfo

def isoFileIds : ExchangeOptions → Op Card (List Nat) :=
  parsed Native.Checked.getIsoFileIds Native.Checked.parseIsoFileIds

def fileSettings (file : FileNumber) : ExchangeOptions → Op Card FileSettings :=
  parsed (Native.Checked.getFileSettings file) Native.Checked.parseFileSettings

def value (file : FileNumber) (mode : CommunicationMode) : ExchangeOptions → Op Card Int32 :=
  parsed (Native.Checked.getValue file mode) Native.Checked.parseValue

def fileCounters (file : FileNumber) (mode : CommunicationMode) :
    ExchangeOptions → Op Card Native.Checked.FileCounters :=
  parsed (Native.Checked.getFileCounters file mode) Native.Checked.parseFileCounters

def cardUid (request : Native.Checked.CardUidRequest) : ExchangeOptions → Op Card Native.Checked.CardUid :=
  parsed (Native.Checked.getCardUid request) fun payload => Native.Checked.parseCardUid payload request

def originalitySignature : ExchangeOptions → Op Card Bytes :=
  parsed Native.Checked.readOriginalitySignature Native.Checked.parseOriginalitySignature

def keySettings : ExchangeOptions → Op Card KeySettings :=
  parsed Native.Checked.getKeySettings Native.Checked.parseKeySettings

/-- The version of a key is exactly one byte. -/
def parseKeyVersion (payload : Bytes) : Result Byte :=
  match payload with
  | [version] => .ok version
  | _ => .error ⟨.malformedResponse,"GetKeyVersion response must contain exactly one byte",.unknown,0⟩

def keyVersion (key : KeyNumber) (keySet : Option Byte) : ExchangeOptions → Op Card Byte :=
  parsed (Native.Checked.getKeyVersion key keySet) parseKeyVersion

/-- A payload that an execution of the command returns. -/
structure Vetted (command : Native.Checked.Command) (payload : Bytes) : Prop where
  parsed : Native.Checked.checkParsed command.opcode command.header payload = .ok ()
  minimum : command.minimumResponse ≤ payload.length
  maximum : payload.length ≤ command.maximumResponse

section Sizes
variable {τ : Type}

/-- Within the response limits of a request. -/
def Within (request : Native.Secure.Request) (payload : Bytes) : Prop :=
  request.minimumResponse ≤ payload.length ∧ payload.length ≤ request.maximumResponse

theorem returns_checkResponseSize {response : Bytes} {request : Native.Secure.Request} :
    Returns (Op.ofResult (Native.Secure.checkResponseSize response request) : Op τ Bytes) (Within request) := by
  intro o h s payload hpayload
  cases hcheck : Native.Secure.checkResponseSize response request with
  | error e =>
    rw [hcheck] at hpayload
    cases hpayload
  | ok checked =>
    obtain ⟨rfl,hsize⟩ := Native.Secure.checkResponseSize_ok hcheck
    rw [hcheck] at hpayload
    cases hpayload
    exact hsize

theorem returns_exchangeUnprotected {channel : Native.Raw.RawNativeChannel} {request : Native.Secure.Request}
    {options : ExchangeOptions} :
    Returns (Native.Secure.exchangeUnprotected channel request options : Op τ Bytes) (Within request) := by
  unfold Native.Secure.exchangeUnprotected
  exact returns_bind fun _ => returns_bind fun _ => returns_bind fun _ => returns_checkResponseSize

variable {o : Oracle Environment} {request : Native.Secure.Request} {options : ExchangeOptions} {card : Card}

theorem protectedRun_within {σ : Type} [Native.Secure.SecureSession σ] {channel : Native.Raw.RawNativeChannel} {s s' : σ}
    {Prep : Except Fault Bytes → σ → Trace Environment → Prop}
    {Acc : σ → Native.Raw.Response → Except Fault Bytes → σ → Trace Environment → Prop} {payload : Bytes}
    {es : Trace Environment}
    (h : Native.Secure.ProtectedRun o channel request s Prep Acc (.ok payload) s' es) : Within request payload := by
  cases h with
  | done _ _ _ _ _ _ _ hsize => exact hsize

theorem exchangeSecure_within : Ensures some o (exchangeSecure request options) card fun r _ _ =>
    ∀ payload, r = .ok payload → Within request payload := by
  refine ensures_get_bind ?_
  cases hev2 : card.ev2Session with
  | some session =>
    refine ensures_focus ((Native.Secure.exchangeProtected_runs Native.Secure.prepare_ev2Cases fun _ response =>
      Native.Secure.accept_ev2Cases response).mono fun r session' es hrun payload hr => ?_)
    exact protectedRun_within (hr ▸ hrun)
  | none =>
    cases haes : card.standardAesSession with
    | some session =>
      refine ensures_focus ((Native.Secure.exchangeProtected_runs Native.Secure.prepare_aesCases fun _ response =>
        Native.Secure.accept_aesCases response).mono fun r session' es hrun payload hr => ?_)
      exact protectedRun_within (hr ▸ hrun)
    | none => exact fun h payload hr => returns_exchangeUnprotected o h card payload hr

/-- What an execution returns was parsed and is within the limits of its command. -/
theorem executeLocked_accepted {command : Native.Checked.Command} :
    Ensures some o (executeLocked command options) card fun r _ _ => ∀ payload, r = .ok payload → Vetted command payload := by
  have hparsed : Ensures some o (executeLocked command options) card fun r _ _ => ∀ payload, r = .ok payload →
      Native.Checked.checkParsed command.opcode command.header payload = .ok () := by
    refine (executeLocked_runs o command options card).mono fun r _ _ hrun payload hr => ?_
    subst hr
    cases hrun with
    | done _ _ _ _ _ hparsed => exact hparsed
  have hwithin : Ensures some o (executeLocked command options) card fun r _ _ => ∀ payload, r = .ok payload →
      Within (secureRequest command) payload := by
    have hfailed : ∀ {e : Error}, ∀ payload, (.error (.error e) : Except Fault Bytes) = .ok payload →
        Within (secureRequest command) payload := fun payload h => nomatch h
    refine Op.ensures_catchAll (ensures_get_bind ?_)
    refine Op.ensures_refuse_bind (fun _ => hfailed) fun _ => Op.ensures_refuse_bind (fun _ => hfailed) fun _ => ?_
    refine Op.ensures_refuse_bind (fun _ => hfailed) fun _ => Op.ensures_refuse_bind (fun _ => hfailed) fun _ => ?_
    refine checkGeneration_bind (fun _ => hfailed) (Op.ensures_ofResult_bind (fun _ _ => hfailed) fun _ _ => ?_)
    refine ensures_bind (m := fun r _ _ => ∀ payload, r = .ok payload → Within (secureRequest command) payload)
      (Op.ensures_onError (exchangeSecure_within.mono fun r _ _ h payload hr => ?_)) ?_ fun payload card' es h => ?_
    · rcases r with (e | _) | bytes <;> cases hr
      exact h payload rfl
    · intro fault card' es _ payload hr
      rcases fault with e | _ <;> cases hr
    · refine checkGeneration_bind (fun _ => hfailed) ?_
      refine ensures_bind (m := fun _ _ _ => True) (fun _ => trivial) (fun fault _ _ _ payload hr => ?_) fun _ _ _ _ => ?_
      · rcases fault with e | _ <;> cases hr
      · refine ensures_modify_bind (ensures_pure fun payload' hr => ?_)
        cases hr
        exact h payload rfl
  refine (hparsed.and hwithin).mono fun r _ _ h payload hr => ?_
  obtain ⟨hminimum,hmaximum⟩ := h.2 payload hr
  exact ⟨h.1 payload hr,hminimum,hmaximum⟩

theorem execute_accepted {command : Native.Checked.Command} :
    Ensures some o (execute command options) card fun r _ _ => ∀ payload, r = .ok payload → Vetted command payload :=
  admitted_success (q := fun payload _ => Vetted command payload) executeLocked_accepted fun _ _ h => h

end Sizes

/-- The typed queries with their arguments. -/
inductive CardQuery
  | applicationIds
  | delegatedApplicationInfo (slot : UInt16)
  | isoFileIds
  | fileSettings (file : FileNumber)
  | value (file : FileNumber) (mode : CommunicationMode)
  | fileCounters (file : FileNumber) (mode : CommunicationMode)
  | cardUid (request : Native.Checked.CardUidRequest)
  | originalitySignature
  | keySettings
  | keyVersion (key : KeyNumber) (keySet : Option Byte)

namespace CardQuery

@[reducible] def Value : CardQuery → Type
  | applicationIds => List ApplicationId
  | delegatedApplicationInfo _ => Native.Checked.DelegatedApplicationInfo
  | isoFileIds => List Nat
  | fileSettings _ => FileSettings
  | value .. => Int32
  | fileCounters .. => Native.Checked.FileCounters
  | cardUid _ => Native.Checked.CardUid
  | originalitySignature => Bytes
  | keySettings => KeySettings
  | keyVersion .. => Byte

def call : (query : CardQuery) → ExchangeOptions → Op Card query.Value
  | applicationIds => Managed.applicationIds
  | delegatedApplicationInfo slot => Managed.delegatedApplicationInfo slot
  | isoFileIds => Managed.isoFileIds
  | fileSettings file => Managed.fileSettings file
  | value file mode => Managed.value file mode
  | fileCounters file mode => Managed.fileCounters file mode
  | cardUid request => Managed.cardUid request
  | originalitySignature => Managed.originalitySignature
  | keySettings => Managed.keySettings
  | keyVersion key keySet => Managed.keyVersion key keySet

/-- The builder of a query. -/
def command : CardQuery → Result Native.Checked.Command
  | applicationIds => Native.Checked.getApplicationIds
  | delegatedApplicationInfo slot => Native.Checked.getDelegatedApplicationInfo slot
  | isoFileIds => Native.Checked.getIsoFileIds
  | fileSettings file => Native.Checked.getFileSettings file
  | value file mode => Native.Checked.getValue file mode
  | fileCounters file mode => Native.Checked.getFileCounters file mode
  | cardUid request => Native.Checked.getCardUid request
  | originalitySignature => Native.Checked.readOriginalitySignature
  | keySettings => Native.Checked.getKeySettings
  | keyVersion key keySet => Native.Checked.getKeyVersion key keySet

/-- The parser of a query. -/
def parse : (query : CardQuery) → Bytes → Result query.Value
  | applicationIds => Native.Checked.parseApplicationIds
  | delegatedApplicationInfo _ => Native.Checked.parseDelegatedApplicationInfo
  | isoFileIds => Native.Checked.parseIsoFileIds
  | fileSettings _ => Native.Checked.parseFileSettings
  | value .. => Native.Checked.parseValue
  | fileCounters .. => Native.Checked.parseFileCounters
  | cardUid request => fun payload => Native.Checked.parseCardUid payload request
  | originalitySignature => Native.Checked.parseOriginalitySignature
  | keySettings => Native.Checked.parseKeySettings
  | keyVersion .. => parseKeyVersion

theorem call_eq (query : CardQuery) : query.call = parsed query.command query.parse := by
  cases query <;> rfl

theorem map_ok {α : Type} {r : Result α} (h : r.map (fun _ => ()) = .ok ()) : ∃ a, r = .ok a := by
  cases r with
  | error e => cases h
  | ok a => exact ⟨a,rfl⟩

theorem parseKeyVersion_single {payload : Bytes} (h : payload.length = 1) : ∃ version, parseKeyVersion payload = .ok version := by
  obtain ⟨version,rfl⟩ := List.length_eq_one_iff.mp h
  exact ⟨version,rfl⟩

theorem fileCommand_form {opcode : Byte} {header data : Bytes} {mode : CommunicationMode} {reading : Bool}
    {minimum maximum : Nat} {command : Native.Checked.Command}
    (h : Native.Checked.fileCommand opcode header data mode reading minimum maximum = .ok command) :
    command.opcode = opcode ∧ command.header = header := by
  unfold Native.Checked.fileCommand at h
  split at h <;> cases h
  exact ⟨rfl,rfl⟩

/-- What an execution of the query's command accepts has a value. -/
theorem parse_accepted (query : CardQuery) {command : Native.Checked.Command} (hcommand : query.command = .ok command)
    {payload : Bytes} (h : Vetted command payload) : ∃ value, query.parse payload = .ok value := by
  obtain ⟨hparsed,hminimum,hmaximum⟩ := h
  cases query with
  | keyVersion key keySet =>
    have hone : command.minimumResponse = 1 ∧ command.maximumResponse = 1 := by
      cases keySet with
      | none =>
        cases hcommand
        exact ⟨rfl,rfl⟩
      | some set =>
        simp only [CardQuery.command,Native.Checked.getKeyVersion] at hcommand
        split at hcommand <;> cases hcommand
        exact ⟨rfl,rfl⟩
    exact parseKeyVersion_single (by omega)
  | cardUid request =>
    cases request with
    | other => cases hcommand
    | _ =>
      cases hcommand
      exact map_ok hparsed
  | value file mode =>
    obtain ⟨hopcode,hheader⟩ := fileCommand_form hcommand
    rw [hopcode,hheader] at hparsed
    exact map_ok hparsed
  | fileCounters file mode =>
    have hform : command.opcode = 0xF6 := by
      simp only [CardQuery.command,Native.Checked.getFileCounters] at hcommand
      split at hcommand
      · cases hcommand
      · exact (fileCommand_form hcommand).1
    rw [hform] at hparsed
    exact map_ok hparsed
  | _ =>
    cases hcommand
    exact map_ok hparsed

/-- A typed query asks and changes what its execution does, and nothing if its command was not built. When the
execution succeeds so does the query: the payload was parsed before, so parsing it again cannot fail. -/
theorem call_exact (query : CardQuery) (options : ExchangeOptions) (o : Oracle Environment) (h : Trace Environment)
    (card : Card) :
    (∀ e, query.command = .error e → query.call options o h card = ⟨.error (.error e),card,[]⟩) ∧
    ∀ command, query.command = .ok command →
      (query.call options o h card).state = (execute command options o h card).state ∧
      (query.call options o h card).events = (execute command options o h card).events ∧
      ((∃ fault, (execute command options o h card).result = .error fault ∧
          (query.call options o h card).result = .error fault) ∨
        ∃ payload value, (execute command options o h card).result = .ok payload ∧
          query.parse payload = .ok value ∧ (query.call options o h card).result = .ok value) := by
  rw [call_eq]
  refine ⟨fun e he => ?_,fun command hcommand => ?_⟩
  · unfold parsed run
    rw [he]
    rfl
  · have haccepted : ∀ payload, (execute command options o h card).result = .ok payload → Vetted command payload :=
      execute_accepted h
    have hrun : run query.command options o h card = execute command options o h card := by
      have hbuilt : (Op.ofResult query.command : Op Card Native.Checked.Command) o h card = ⟨.ok command,card,[]⟩ := by
        rw [hcommand]
        rfl
      rw [run,bind_ok hbuilt,List.append_nil]
      rfl
    unfold parsed
    rcases hexecute : execute command options o h card with ⟨fault | payload,card',es⟩
    · rw [bind_error (hrun.trans hexecute)]
      exact ⟨rfl,rfl,.inl ⟨fault,rfl,rfl⟩⟩
    · rw [hexecute] at haccepted
      obtain ⟨value,hvalue⟩ := query.parse_accepted hcommand (haccepted payload rfl)
      rw [bind_ok (hrun.trans hexecute),hvalue]
      exact ⟨rfl,List.append_nil es,.inr ⟨payload,value,rfl,hvalue,rfl⟩⟩

end CardQuery
end DesfireSdk.Managed
