import DesfireSdk.Transports.Engine

/-! PC/SC connections and the discovery of readers. -/
namespace DesfireSdk.Transports.Pcsc
open Interaction Program

def scardSuccess : Int := 0
def scardCancelled : Nat := 0x80100002
def scardInsufficientBuffer : Nat := 0x80100008
def scardTimeout : Nat := 0x8010000A
def scardNoSmartcard : Nat := 0x8010000C
def scardNoReadersAvailable : Nat := 0x8010002E
def scardResetCard : Nat := 0x80100068
def scardRemovedCard : Nat := 0x80100069

def shareShared : Nat := 2
def protocolT0 : Nat := 1
def protocolT1 : Nat := 2
def resetDisposition : Nat := 1

/-- A status as an unsigned word; the platform decides how wide the status itself is. -/
def statusWord (status : Int) : Nat := (status % 2^32).toNat

def statusCategory (status : Int) : ErrorCode :=
  if statusWord status = scardNoSmartcard ∨ statusWord status = scardRemovedCard ∨
      statusWord status = scardResetCard then .cardRemoved
  else if statusWord status = scardTimeout then .timeout
  else if statusWord status = scardCancelled then .cancelled
  else .transport

/-- The evidence of a failed system call. -/
def pcscError (status : Int) (outcome : Outcome := .notSent) : Error :=
  ⟨statusCategory status,"PC/SC operation failed (status " ++ toString (statusWord status) ++ ")",outcome,0⟩

/-- What a system call left of a buffer: the size it reports, and the bytes it wrote from the start. -/
structure Filled where
  status : Int
  size : Nat
  written : Bytes

structure Opened where
  status : Int
  protocol : Nat

/-- The calls of the PC/SC service. -/
inductive Call
  | transmit (protocol : Nat) (frame : Bytes) (capacity : Nat)
  | reconnect (shareMode preferredProtocols initialization : Nat)
  | listReaders (capacity : Option Nat)
  | connect (reader : Bytes) (shareMode preferredProtocols : Nat)

@[reducible] def Call.Reply : Call → Type
  | transmit .. | listReaders _ => Filled
  | reconnect .. | connect .. => Opened

abbrev Service : Signature := ⟨Call,Call.Reply⟩

def call {σ ε : Type} (query : Call) : Program (Host Service) σ ε query.Reply := onReader (R := Service) query

structure Connection where
  protocol : Nat
  generation : UInt64 := 1
  deriving DecidableEq, Repr

namespace Connection

def capabilities : TransportCapabilities where
  framing := .iso7816
  maxTransmit := 261
  maxReceive := 65538
  maxNativeFrame := 60

/-- The next generation. -/
def invalidated (c : Connection) : Connection := {c with generation := c.generation + 1}

/-- Transmits one framed APDU without retrying it. -/
def exchange (frame : Bytes) (options : ExchangeOptions) : Program (Host Service) Connection Fault Bytes := do
  let stopped ← onHost (.stopRequested .operation)
  refuse (stopped = true) (.error ⟨.cancelled,"Cancelled before PC/SC transmission",.notSent,0⟩)
  refuse (options.timeout ≤ 0 ∨ capabilities.maxTransmit < frame.length)
    (.error (invalid "PC/SC exchange exceeds configured limits"))
  let started ← onHost .now
  let c ← get
  let response ← call (.transmit c.protocol frame capabilities.maxReceive)
  if response.status ≠ scardSuccess then do
    let error := pcscError response.status .unknown
    modify fun c => if error.code = .cardRemoved then c.invalidated else c
    fail (.error error)
  else do
    -- A transmission cannot be forced to return; one that returns late is not within its budget.
    let finished ← onHost .now
    refuse (options.timeout * 1000000 < finished - started)
      (.error ⟨.timeout,"PC/SC driver exceeded the exchange budget",.unknown,0⟩)
    refuse (capabilities.maxReceive < response.size)
      (.error ⟨.malformedResponse,"PC/SC returned an oversized response",.unknown,0⟩)
    pure ((buffer capabilities.maxReceive response.written).take response.size)

/-- Resets and reconnects the card after invalidating what was known of it. -/
def reset : Program (Host Service) Connection Fault Unit := do
  modify invalidated
  let opened ← call (.reconnect shareShared (protocolT0 ||| protocolT1) resetDisposition)
  refuse (opened.status ≠ scardSuccess) (.error (pcscError opened.status .unknown))
  modify fun c => {c with protocol := opened.protocol}

def transport : CardTransport Service Connection where
  capabilities := capabilities
  generation := do
    let c ← get
    pure c.generation
  exchange := exchange
  reset := reset

/-- The frame the service was given to transmit. -/
def frameTransmitted : Event (Host Service) → Option Bytes
  | ⟨.reader (.transmit _ frame _),_⟩ => some frame
  | _ => none

/-- A call after which the card is no longer the one that was known. -/
def invalidates : Event (Host Service) → Nat
  | ⟨.reader (.reconnect ..),_⟩ => 1
  | ⟨.reader (.transmit ..),filled⟩ =>
    if filled.status ≠ scardSuccess ∧ statusCategory filled.status = .cardRemoved then 1 else 0
  | _ => 0

section Steps
variable {l : Oracle (Host Service)} {c : Connection} {frame : Bytes} {options : ExchangeOptions}

/-- What may come of a frame that was transmitted. -/
structure Judged (r : Except Fault Bytes) : Prop where
  returned : r ≠ .error .thrown
  unknown : ∀ e, r = .error (.error e) → e.outcome = .unknown
  size : ∀ bytes, r = .ok bytes → bytes.length ≤ capabilities.maxReceive

theorem Judged.error {e : Error} (he : e.outcome = .unknown) : Judged (.error (.error e)) := ⟨by simp,by simp [he],by simp⟩

/-- What an exchange does, by the transmission it makes. -/
inductive ExchangeCase (frame : Bytes) (c : Connection) : Except Fault Bytes → Connection → Trace (Host Service) → Prop
  | refused {e : Error} {es : Trace (Host Service)} (he : e.outcome = .notSent) (hes : Hosted es) :
      ExchangeCase frame c (.error (.error e)) c es
  | transmitted {r : Except Fault Bytes} {before after : Trace (Host Service)} (filled : Filled)
      (hbefore : Hosted before) (hafter : Hosted after) (hr : Judged r) : ExchangeCase frame c r
        (if filled.status ≠ scardSuccess ∧ statusCategory filled.status = .cardRemoved then c.invalidated else c)
        (before ++ ⟨.reader (.transmit c.protocol frame capabilities.maxReceive),filled⟩ :: after)

theorem exchange_cases : Ensures some l (exchange frame options) c (ExchangeCase frame c) := by
  refine ensures_ask_bind fun h₁ => ensures_refuse_bind (fun _ => ?_) fun _ => ensures_refuse_bind (fun _ => ?_) fun _ => ?_
  · exact .refused rfl (hosted_host _ _)
  · exact .refused rfl (hosted_host _ _)
  refine ensures_ask_bind fun h₂ => ensures_get_bind (ensures_ask_bind fun h₃ => ?_)
  have hbefore : Hosted [⟨.host (.stopRequested .operation),l h₁ (.host (.stopRequested .operation))⟩,
      ⟨.host .now,l h₂ (.host .now)⟩] := (hosted_host _ _).cons _ _
  generalize l h₃ (.reader (.transmit c.protocol frame capabilities.maxReceive)) = filled
  have hcase : ∀ {r : Except Fault Bytes} {after : Trace (Host Service)}, Hosted after → Judged r → ExchangeCase frame c r
      _ (_ ++ ⟨.reader (.transmit c.protocol frame capabilities.maxReceive),filled⟩ :: after) :=
    fun hafter hr => .transmitted filled hbefore hafter hr
  refine ensures_ite (fun hfailed => ?_) fun hpassed => ?_
  · refine ensures_modify_bind (ensures_fail ?_)
    have hfailure : Judged (.error (.error (pcscError filled.status .unknown))) := .error rfl
    simpa [hfailed,pcscError] using hcase hosted_nil hfailure
  · have hkept : (if filled.status ≠ scardSuccess ∧ statusCategory filled.status = .cardRemoved then c.invalidated
        else c) = c := if_neg fun h => hpassed h.1
    rw [hkept] at hcase
    refine ensures_ask_bind fun h₄ => Ensures.mono (?_ : Ensures some l _ c fun r c' es => Judged r ∧ c' = c ∧ es = []) ?_
    · refine ensures_refuse_bind (fun _ => ?_) fun _ => ensures_refuse_bind (fun _ => ?_) fun hsize => ensures_pure ?_
      · exact ⟨.error rfl,rfl,rfl⟩
      · exact ⟨.error rfl,rfl,rfl⟩
      · refine ⟨⟨by simp,by simp,fun bytes hbytes => ?_⟩,rfl,rfl⟩
        cases hbytes
        rw [List.length_take,length_buffer]
        exact Nat.min_le_right _ _
    · intro r c' es h
      obtain ⟨hr,rfl,rfl⟩ := h
      exact hcase (hosted_host .now (l h₄ (.host .now))) hr

theorem idle {es : Trace (Host Service)} (h : Hosted es) : CardTransport.changes invalidates es = 0 :=
  CardTransport.changes_hosted h fun _ _ => rfl

theorem ExchangeCase.moves {r : Except Fault Bytes} {c' : Connection} {es : Trace (Host Service)}
    (h : ExchangeCase frame c r c' es) : CardTransport.Moves invalidates generation c c' es := by
  cases h with
  | refused he hes => simp [CardTransport.Moves,idle hes]
  | transmitted filled hbefore hafter hr =>
    by_cases h : filled.status ≠ scardSuccess ∧ statusCategory filled.status = .cardRemoved <;>
      simp [CardTransport.Moves,idle hbefore,idle hafter,invalidates,h,invalidated]

theorem ExchangeCase.evident {r : Except Fault Bytes} {c' : Connection} {es : Trace (Host Service)}
    (h : ExchangeCase frame c r c' es) :
    shown frameTransmitted es = if CardTransport.withheld r then [] else [frame] := by
  have hidle : ∀ {es : Trace (Host Service)}, Hosted es → shown frameTransmitted es = [] :=
    fun hes => hes.shown fun _ _ => rfl
  cases h with
  | refused he hes => simp [hidle hes,CardTransport.withheld,he]
  | transmitted filled hbefore hafter hr =>
    have hsent : CardTransport.withheld r = false := by
      rcases r with (e | _) | bytes
      · simp [CardTransport.withheld,hr.unknown e rfl]
      · rfl
      · rfl
    rw [← List.singleton_append,shown_append,shown_append,hidle hbefore,hidle hafter,hsent]
    rfl

theorem ExchangeCase.candid {r : Except Fault Bytes} {c' : Connection} {es : Trace (Host Service)}
    (h : ExchangeCase frame c r c' es) (e : Error) (he : r = .error (.error e)) :
    e.outcome = .notSent ∨ e.outcome = .unknown := by
  cases h with
  | refused hrefused =>
    cases he
    exact .inl hrefused
  | transmitted filled hbefore hafter hr => exact .inr (hr.unknown e he)

theorem reset_cases : Ensures some l reset c fun _ c' es =>
    CardTransport.Moves invalidates generation c c' es ∧ shown frameTransmitted es = [] := by
  refine ensures_modify_bind (ensures_ask_bind fun h => ?_)
  refine ensures_refuse_bind (fun _ => ⟨rfl,rfl⟩) fun _ => ensures_modify ⟨rfl,rfl⟩

/-- A frame is said not to be sent exactly when it was not given to the service. -/
theorem transport_evident : transport.Evident frameTransmitted where
  host _ _ := rfl
  generation _ _ := ensures_get_bind (ensures_pure rfl)
  reset _ _ := reset_cases.through fun _ _ _ h => h.2
  exchange _ _ _ _ := exchange_cases.through fun _ _ _ h => h.evident

theorem transport_candid : transport.Candid l := fun _ _ _ => exchange_cases.mono fun _ _ _ h => h.candid

theorem transport_counts : transport.Counts invalidates generation where
  host _ _ := rfl
  generation _ _ := ensures_get_bind (ensures_pure ⟨rfl,CardTransport.Moves.refl _⟩)
  exchange _ _ _ _ := exchange_cases.mono fun _ _ _ h => h.moves
  reset _ _ := reset_cases.mono fun _ _ _ h => h.1

end Steps

/-- Over a PC/SC connection the engine's evidence is true of the frames that were transmitted, and its generation of
the resets and removals that the service told of. -/
theorem connection_attested (l : Oracle (Host Service)) (k : Station (Host Service) Connection)
    (history : Trace Environment) (card : Managed.Card) (options : ExchangeOptions) :
    (∀ operation, Attested transport frameTransmitted invalidates l k history
      (Managed.perform operation options (transport.environment l k) history card).events) ∧
    (∀ command, Native.Checked.Built command → Reported card (Managed.secureRequest command)
      (shown frameTransmitted
        (transport.callsOf l k history (Managed.execute command options (transport.environment l k) history card).events))
      (Managed.execute command options (transport.environment l k) history card).result
      (Managed.execute command options (transport.environment l k) history card).events) :=
  ⟨fun _ => attested transport_evident transport_counts card,
    fun _ hbuilt => execute_reported transport_evident transport_candid hbuilt options card⟩

end Connection
end DesfireSdk.Transports.Pcsc
