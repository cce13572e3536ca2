import DesfireSdk.CApi.Descriptors
import DesfireSdk.Transports.Callback

/-! Connections whose reader is driven by the callbacks of C callers. -/
namespace DesfireSdk.CApi
open Interaction Program Transports

def dfOk : Int := 0
def dfNotSent : Nat := 0
def dfUnknown : Nat := 3

/-- The categories of failures, counted from one. -/
def errorCodes : List ErrorCode :=
  [.invalidArgument,.transport,.cardRemoved,.timeout,.cancelled,.malformedResponse,.cardRejected,.authentication,
    .integrity,.unsupported,.staleHandle,.busy,.sessionInvalid,.counterExhausted,.bufferTooSmall,.crypto,.internal]

def outcomes : List Outcome := [.notSent,.rejected,.succeeded,.unknown]

/-- What a callback wrote about its failure. -/
structure DfError where
  outcome : Nat
  deviceStatus : UInt16
  deriving DecidableEq

/-- The evidence of a callback; codes and outcomes that are out of range are not trusted. -/
def callbackError (code : Int) (evidence : DfError) : Error :=
  ⟨if 1 ≤ code ∧ code ≤ 17 then errorCodes.getD (code - 1).toNat .internal else .transport,"Reader callback failed",
    if evidence.outcome ≤ dfUnknown then outcomes.getD evidence.outcome .unknown else .unknown,evidence.deviceStatus⟩

/-- What an exchange callback left: its status, the size it reports, and what it wrote from the start. -/
structure Exchanged where
  status : Int
  received : Nat
  written : Bytes
  evidence : DfError

structure ResetReply where
  status : Int
  evidence : DfError

/-- The calls of C callbacks; no answer stands for an exception. -/
inductive ForeignCall
  | notified
  | exchange (frame : Bytes) (capacity : Nat) (timeout : Nat)
  | reset

@[reducible] def ForeignCall.Reply : ForeignCall → Type
  | notified => Nat
  | exchange .. => Option Exchanged
  | reset => Option ResetReply

abbrev Foreign : Signature := ⟨ForeignCall,ForeignCall.Reply⟩

def foreign {σ ε : Type} (query : ForeignCall) : Program (Host Foreign) σ ε query.Reply := onReader (R := Foreign) query

/-- The transport of a C caller; of its callbacks only the presence is checked. -/
structure Transport where
  structSize : UInt32
  abiVersion : UInt32
  framing : UInt32
  maxTransmit : Nat
  maxReceive : Nat
  maxNativeFrame : Nat
  exchange : Bool
  reset : Bool
  retain : Bool
  release : Bool
  reserved : List UInt64
  deriving DecidableEq

def transportSize : UInt32 := 136
def maximumTimeout : Int := 2^32 - 1

/-- One frame through the callback of the caller, into a buffer of the declared size. -/
def foreignExchange (maxReceive : Nat) (request : Bytes) (options : ExchangeOptions) :
    Program (Host Foreign) Unit Fault Bytes := do
  let answer ← foreign (.exchange request maxReceive (min options.timeout maximumTimeout).toNat)
  match answer with
  | none => Program.fail .thrown
  | some exchanged => do
    refuse (exchanged.status ≠ dfOk) (.error (callbackError exchanged.status exchanged.evidence))
    refuse (maxReceive < exchanged.received)
      (.error ⟨.malformedResponse,"Reader callback exceeded receive capacity",.unknown,0⟩)
    pure ((buffer maxReceive exchanged.written).take exchanged.received)

def foreignReset : Program (Host Foreign) Unit Fault Unit := do
  let answer ← foreign .reset
  match answer with
  | none => Program.fail .thrown
  | some reset => refuse (reset.status ≠ dfOk) (.error (callbackError reset.status reset.evidence))

def foreignCallbacks (config : Transport) : TransportCallbacks Foreign where
  notifications := foreign .notified
  exchange := some (foreignExchange config.maxReceive)
  reset := if config.reset then some foreignReset else none

def makeTransport (descriptor : Option Transport) : Result (CardTransport Foreign UInt64) :=
  match descriptor with
  | none => .error (invalid "Invalid transport ABI, callbacks, limits or reserved fields")
  | some config =>
    if config.structSize ≠ transportSize ∨ config.abiVersion ≠ abiVersion ∨ dfIsoWrapped < config.framing ∨
        config.exchange = false ∨ config.maxTransmit < 6 ∨ config.maxReceive < 2 ∨ config.maxNativeFrame < 2 ∨
        maximumBuffer < config.maxTransmit ∨ maximumBuffer < config.maxReceive ∨
        config.maxTransmit < config.maxNativeFrame ∨ config.retain ≠ config.release ∨ reserves config.reserved then
      .error (invalid "Invalid transport ABI, callbacks, limits or reserved fields")
    else .ok (Callback.transport {
      framing := if config.framing = dfNative then .native else .iso7816
      maxTransmit := config.maxTransmit
      maxReceive := config.maxReceive
      maxNativeFrame := config.maxNativeFrame } (foreignCallbacks config))

/-- The frame the callback was given, unless it says that it was not sent. -/
def frameGiven : Interaction.Event (Host Foreign) → Option Bytes
  | ⟨.reader (.exchange frame ..),some exchanged⟩ =>
    if exchanged.status ≠ dfOk ∧ exchanged.evidence.outcome = dfNotSent then none else some frame
  | ⟨.reader (.exchange frame ..),none⟩ => some frame
  | _ => none

/-- What tells that the card is no longer the one that was known. -/
def renewals : Interaction.Event (Host Foreign) → Nat
  | ⟨.reader .notified,count⟩ => count
  | ⟨.reader .reset,_⟩ => 1
  | _ => 0

theorem callbackError_notSent (code : Int) (evidence : DfError) :
    (callbackError code evidence).outcome = .notSent ↔ evidence.outcome = dfNotSent := by
  obtain ⟨outcome,deviceStatus⟩ := evidence
  unfold callbackError dfNotSent dfUnknown outcomes
  rcases outcome with _ | _ | _ | _ | n <;> simp

section Soundness
variable {o : Oracle (Host Foreign)} {maxReceive : Nat} {request : Bytes} {options : ExchangeOptions}

theorem foreignExchange_handed : Ensures some o (foreignExchange maxReceive request options) () fun r _ es =>
    Callback.Handed frameGiven renewals request r es := by
  refine ensures_ask_bind fun h => ?_
  generalize o h (.reader (.exchange request maxReceive (min options.timeout maximumTimeout).toNat)) = answer
  cases answer with
  | none => exact ensures_fail ⟨rfl,rfl⟩
  | some exchanged =>
    refine ensures_refuse_bind (fun hstatus => ⟨rfl,?_⟩) fun hstatus => ?_
    · by_cases hdenied : exchanged.evidence.outcome = dfNotSent <;>
        simp [shown,frameGiven,CardTransport.withheld,callbackError_notSent,hstatus,hdenied]
    · refine ensures_refuse_bind (fun _ => ⟨rfl,?_⟩) fun _ => ensures_pure ⟨rfl,?_⟩ <;>
        simp [shown,frameGiven,CardTransport.withheld,hstatus]

theorem foreignReset_renews : Ensures some o foreignReset () fun _ _ es =>
    CardTransport.changes renewals es = 1 ∧ shown frameGiven es = [] := by
  refine ensures_ask_bind fun h => ?_
  generalize o h (.reader .reset) = answer
  cases answer with
  | none => exact ensures_fail ⟨rfl,rfl⟩
  | some reset =>
    unfold refuse
    exact ensures_ite (fun _ => ensures_fail ⟨rfl,rfl⟩) fun _ => ensures_pure ⟨rfl,rfl⟩

theorem foreignCallbacks_sound (config : Transport) : Callback.Sound (foreignCallbacks config) frameGiven renewals where
  untaken _ _ := rfl
  weightless _ _ := rfl
  notifications _ _ := ⟨rfl,rfl⟩
  exchange callback hcallback o frame options := by
    cases hcallback
    exact foreignExchange_handed
  reset callback hcallback o := by
    obtain ⟨hreset,hcallback⟩ : config.reset = true ∧ foreignReset = callback := by
      simpa [foreignCallbacks] using hcallback
    subst hcallback
    exact foreignReset_renews

/-- Every failure the callback reports denies the frame or leaves its delivery open. -/
def Forthcoming (l : Oracle (Host Foreign)) : Prop :=
  ∀ h frame capacity timeout exchanged, l h (.reader (.exchange frame capacity timeout)) = some exchanged →
    exchanged.status ≠ dfOk → exchanged.evidence.outcome = dfNotSent ∨ dfUnknown ≤ exchanged.evidence.outcome

theorem callbackError_candid {code : Int} {evidence : DfError}
    (h : evidence.outcome = dfNotSent ∨ dfUnknown ≤ evidence.outcome) :
    (callbackError code evidence).outcome = .notSent ∨ (callbackError code evidence).outcome = .unknown := by
  rcases h with h | h
  · exact .inl ((callbackError_notSent code evidence).mpr h)
  · obtain ⟨outcome,deviceStatus⟩ := evidence
    unfold callbackError dfUnknown outcomes at *
    rcases outcome with _ | _ | _ | _ | n <;> simp_all

theorem foreignExchange_candid (hforthcoming : Forthcoming o) :
    Ensures some o (foreignExchange maxReceive request options) () fun r _ _ =>
      ∀ e, r = .error (.error e) → e.outcome = .notSent ∨ e.outcome = .unknown := by
  refine ensures_ask_bind fun h => ?_
  have hreply := hforthcoming h request maxReceive (min options.timeout maximumTimeout).toNat
  generalize o h (.reader (.exchange request maxReceive (min options.timeout maximumTimeout).toNat)) = answer at hreply
  cases answer with
  | none => exact ensures_fail (by simp)
  | some exchanged =>
    refine ensures_refuse_bind (fun hstatus e he => ?_) fun _ => ensures_refuse_bind (fun _ e he => ?_) fun _ =>
      ensures_pure (by simp)
    · cases he
      exact callbackError_candid (hreply exchanged rfl hstatus)
    · cases he
      exact .inr rfl

/-- The limits of an accepted descriptor. -/
structure Limited (capabilities : TransportCapabilities) : Prop where
  transmit : 6 ≤ capabilities.maxTransmit ∧ capabilities.maxTransmit ≤ maximumBuffer
  receive : 2 ≤ capabilities.maxReceive ∧ capabilities.maxReceive ≤ maximumBuffer
  native : 2 ≤ capabilities.maxNativeFrame ∧ capabilities.maxNativeFrame ≤ capabilities.maxTransmit

theorem makeTransport_eq_ok {descriptor : Option Transport} {t : CardTransport Foreign UInt64}
    (h : makeTransport descriptor = .ok t) : ∃ config capabilities, descriptor = some config ∧ Limited capabilities ∧
      t = Callback.transport capabilities (foreignCallbacks config) := by
  cases descriptor with
  | none => cases h
  | some config =>
    simp only [makeTransport] at h
    by_cases hrefused : config.structSize ≠ transportSize ∨ config.abiVersion ≠ abiVersion ∨
        dfIsoWrapped < config.framing ∨ config.exchange = false ∨ config.maxTransmit < 6 ∨ config.maxReceive < 2 ∨
        config.maxNativeFrame < 2 ∨ maximumBuffer < config.maxTransmit ∨ maximumBuffer < config.maxReceive ∨
        config.maxTransmit < config.maxNativeFrame ∨ config.retain ≠ config.release ∨ reserves config.reserved
    · rw [if_pos hrefused] at h
      cases h
    · rw [if_neg hrefused] at h
      cases h
      simp only [not_or,Nat.not_lt] at hrefused
      obtain ⟨_,_,_,_,htransmit,hreceive,hnative,htransmit',hreceive',hnative',_⟩ := hrefused
      exact ⟨config,_,rfl,⟨⟨htransmit,htransmit'⟩,⟨hreceive,hreceive'⟩,⟨hnative,hnative'⟩⟩,rfl⟩

end Soundness

/-- Over the callbacks of a C caller the engine's evidence is true of the frames they were given, and its generation
of the changes they tell of. -/
theorem opened_attested {descriptor : Option Transport} {t : CardTransport Foreign UInt64}
    (h : makeTransport descriptor = .ok t) (l : Oracle (Host Foreign)) (k : Station (Host Foreign) UInt64)
    (history : Trace Environment) (card : Managed.Card) (options : ExchangeOptions) :
    Limited t.capabilities ∧
    (∀ operation, Attested t frameGiven renewals l k history
      (Managed.perform operation options (t.environment l k) history card).events) ∧
    (Forthcoming l → ∀ command, Native.Checked.Built command → Reported card (Managed.secureRequest command)
      (shown frameGiven (t.callsOf l k history (Managed.execute command options (t.environment l k) history card).events))
      (Managed.execute command options (t.environment l k) history card).result
      (Managed.execute command options (t.environment l k) history card).events) := by
  obtain ⟨config,capabilities,rfl,hlimited,rfl⟩ := makeTransport_eq_ok h
  have hevident : (Callback.transport capabilities (foreignCallbacks config)).Evident frameGiven :=
    Callback.transport_evident (foreignCallbacks_sound config)
  have hcounts : (Callback.transport capabilities (foreignCallbacks config)).Counts renewals id :=
    Callback.transport_counts (foreignCallbacks_sound config)
  refine ⟨hlimited,fun operation => attested hevident hcounts card,fun hforthcoming command hbuilt => ?_⟩
  refine execute_reported hevident (Callback.transport_candid fun callback hcallback frame options => ?_) hbuilt options card
  cases hcallback
  exact foreignExchange_candid hforthcoming

def plainTransport : Transport where
  structSize := transportSize
  abiVersion := abiVersion
  framing := dfNative
  maxTransmit := 60
  maxReceive := 60
  maxNativeFrame := 60
  exchange := true
  reset := false
  retain := false
  release := false
  reserved := []

/-- Callbacks that answer every frame with 2048 bytes of free memory. -/
def obliging : Oracle (Host Foreign)
  | _,.host query => scripted {} [] query
  | _,.reader .notified => 0
  | _,.reader (.exchange ..) => some ⟨dfOk,4,[0x00,0x00,0x08,0x00],⟨dfUnknown,0⟩⟩
  | _,.reader .reset => some ⟨dfOk,⟨dfUnknown,0⟩⟩

theorem forthcoming_obliging : Forthcoming obliging := by
  intro h frame capacity timeout exchanged hexchanged hfailed
  cases hexchanged
  exact absurd rfl hfailed

def plainCard : Managed.Card := {Managed.freshCard with raw := ⟨.direct⟩,generation := 1}

theorem opened_attested_plain :
    ∃ t, makeTransport (some plainTransport) = .ok t ∧ Limited t.capabilities ∧
      Attested t frameGiven renewals obliging ⟨1,[]⟩ []
        (Managed.perform .freeMemory {} (t.environment obliging ⟨1,[]⟩) [] plainCard).events ∧
      (Managed.execute Managed.freeMemoryCommand {} (t.environment obliging ⟨1,[]⟩) [] plainCard).result =
        .ok [0x00,0x08,0x00] ∧
      Reported plainCard (Managed.secureRequest Managed.freeMemoryCommand)
        (shown frameGiven (t.callsOf obliging ⟨1,[]⟩ []
          (Managed.execute Managed.freeMemoryCommand {} (t.environment obliging ⟨1,[]⟩) [] plainCard).events))
        (Managed.execute Managed.freeMemoryCommand {} (t.environment obliging ⟨1,[]⟩) [] plainCard).result
        (Managed.execute Managed.freeMemoryCommand {} (t.environment obliging ⟨1,[]⟩) [] plainCard).events := by
  have hmade : makeTransport (some plainTransport) = .ok (Callback.transport ⟨.native,60,60,60⟩
    (foreignCallbacks plainTransport)) := rfl
  obtain ⟨hlimited,hattested,hreported⟩ := opened_attested hmade obliging ⟨1,[]⟩ [] plainCard {}
  exact ⟨_,hmade,hlimited,hattested .freeMemory,rfl,hreported forthcoming_obliging Managed.freeMemoryCommand (.freeMemory rfl)⟩

end DesfireSdk.CApi
