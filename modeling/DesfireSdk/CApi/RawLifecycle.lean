import DesfireSdk.CApi.RawChannel
import DesfireSdk.Foundation.Calm
import DesfireSdk.Iso7816.Evidence
import DesfireSdk.Iso7816.Steps
import DesfireSdk.Native.Secure.Exchange

/-!
# The life of a session on a raw channel

Every call leaves the entry as it was, clears it, or changes exactly the session it is about.
-/
namespace DesfireSdk.CApi
open Interaction Program

/-- A call on an open raw channel. -/
inductive RawCall
  | close (standing : Standing)
  | reset (standing : Standing)
  | cancel
  | notifyStateChange
  | nativeFrame (standing : Standing) (nativeStatus : Bool) (framing command : UInt32) (data : Option Bytes)
      (dataSize : Nat) (timeout : UInt32) (output : Bool)
  | nativeExchange (standing : Standing) (nativeStatus : Bool) (request : Option NativeRequest) (timeout : UInt32)
      (output : Bool)
  | isoExchange (standing : Standing) (isoStatus : Bool) (request : IsoApdu) (timeout : UInt32) (output : Bool)
  | authenticateStandardAes (standing : Standing) (keyNumber : UInt32) (key : Option Bytes) (keySize : Nat)
      (timeout : UInt32)
  | authenticateStandardAesProvider (standing : Standing) (keyNumber : UInt32) (provider : Option KeyProvider)
      (request : Option KeyRequest) (timeout : UInt32)
  | authenticateEv2FirstAes (standing : Standing) (keyNumber : UInt32) (key : Option Bytes) (keySize : Nat)
      (pcdCapabilities : Option Bytes) (pcdCapabilitiesSize : Nat) (timeout : UInt32)
      (output : Option AuthenticationOutput)
  | authenticateEv2FirstAesProvider (standing : Standing) (keyNumber : UInt32) (provider : Option KeyProvider)
      (request : Option KeyRequest) (pcdCapabilities : Option Bytes) (pcdCapabilitiesSize : Nat) (timeout : UInt32)
      (output : Option AuthenticationOutput)
  | authenticateEv2NonFirstAes (standing : Standing) (keyNumber : UInt32) (key : Option Bytes) (keySize : Nat)
      (timeout : UInt32) (output : Option AuthenticationOutput)
  | authenticateEv2NonFirstAesProvider (standing : Standing) (keyNumber : UInt32) (provider : Option KeyProvider)
      (request : Option KeyRequest) (timeout : UInt32) (output : Option AuthenticationOutput)
  | authenticateIsoAes (standing : Standing) (keyNumber application : UInt32) (key : Option Bytes) (keySize : Nat)
      (timeout : UInt32)
  | authenticateIsoAesProvider (standing : Standing) (keyNumber application : UInt32) (provider : Option KeyProvider)
      (request : Option KeyRequest) (timeout : UInt32)
  | isoSecureExchange (standing : Standing) (isoStatus : Bool) (request : IsoApdu) (timeout : UInt32) (output : Bool)
  | nativeSecureExchange (standing : Standing) (request : Option NativeSecureRequest) (timeout : UInt32)
      (output : Bool)

inductive RawAnswer
  | done
  | native (response : Native.Raw.Response)
  | iso (response : Iso7816.Raw.Response)
  | checked (response : Iso7816.Checked.Response)
  | information (information : Model.AuthenticationInfo)
  | payload (payload : Bytes)
  deriving DecidableEq

namespace RawCall

/-- Cancellation and notification reach the transport only. -/
def perform : RawCall → Op RawEntry RawAnswer
  | close standing => Op.returning (fun _ => .done) (rawClose standing)
  | reset standing => Op.returning (fun _ => .done) (rawReset standing)
  | cancel | notifyStateChange => pure .done
  | nativeFrame standing nativeStatus framing command data dataSize timeout output =>
    Op.returning .native (rawNativeFrame standing nativeStatus framing command data dataSize timeout output)
  | nativeExchange standing nativeStatus request timeout output =>
    Op.returning .native (rawNativeExchange standing nativeStatus request timeout output)
  | isoExchange standing isoStatus request timeout output =>
    Op.returning .iso (rawIsoExchange standing isoStatus request timeout output)
  | authenticateStandardAes standing keyNumber key keySize timeout =>
    Op.returning (fun _ => .done) (rawAuthenticateStandardAes standing keyNumber key keySize timeout)
  | authenticateStandardAesProvider standing keyNumber provider request timeout =>
    Op.returning (fun _ => .done) (rawAuthenticateStandardAesProvider standing keyNumber provider request timeout)
  | authenticateEv2FirstAes standing keyNumber key keySize pcdCapabilities pcdCapabilitiesSize timeout output =>
    Op.returning .information
      (rawAuthenticateEv2FirstAes standing keyNumber key keySize pcdCapabilities pcdCapabilitiesSize timeout output)
  | authenticateEv2FirstAesProvider standing keyNumber provider request pcdCapabilities pcdCapabilitiesSize timeout
      output =>
    Op.returning .information (rawAuthenticateEv2FirstAesProvider standing keyNumber provider request pcdCapabilities
      pcdCapabilitiesSize timeout output)
  | authenticateEv2NonFirstAes standing keyNumber key keySize timeout output =>
    Op.returning .information (rawAuthenticateEv2NonFirstAes standing keyNumber key keySize timeout output)
  | authenticateEv2NonFirstAesProvider standing keyNumber provider request timeout output =>
    Op.returning .information
      (rawAuthenticateEv2NonFirstAesProvider standing keyNumber provider request timeout output)
  | authenticateIsoAes standing keyNumber application key keySize timeout =>
    Op.returning (fun _ => .done) (rawAuthenticateIsoAes standing keyNumber application key keySize timeout)
  | authenticateIsoAesProvider standing keyNumber application provider request timeout =>
    Op.returning (fun _ => .done)
      (rawAuthenticateIsoAesProvider standing keyNumber application provider request timeout)
  | isoSecureExchange standing isoStatus request timeout output =>
    Op.returning .checked (rawIsoSecureExchange standing isoStatus request timeout output)
  | nativeSecureExchange standing request timeout output =>
    Op.returning .payload (rawNativeSecureExchange standing request timeout output)

end RawCall

/-- The session families of a raw channel. -/
inductive RawFamily
  | standardAes | ev2 | iso
  deriving DecidableEq

inductive RawSession
  | standardAes (session : Security.StandardAes.Session)
  | ev2 (session : Security.Ev2.Session)
  | iso (session : Iso7816.Aes.Session)
  deriving DecidableEq

def RawSession.family : RawSession → RawFamily
  | standardAes _ => .standardAes
  | ev2 _ => .ev2
  | iso _ => .iso

/-- A session that may be kept. -/
def RawSession.Sound : RawSession → Prop
  | iso session => session.valid = true
  | _ => True

/-- What a call is meant to do to the session of the entry. -/
inductive Manner
  | signal | plain
  | login (family : RawFamily)
  | renewal
  | secured (family : RawFamily) (ending : Bool)
  deriving DecidableEq

def RawCall.manner : RawCall → Manner
  | cancel | notifyStateChange => .signal
  | authenticateStandardAes .. | authenticateStandardAesProvider .. => .login .standardAes
  | authenticateEv2FirstAes .. | authenticateEv2FirstAesProvider .. => .login .ev2
  | authenticateEv2NonFirstAes .. | authenticateEv2NonFirstAesProvider .. => .renewal
  | authenticateIsoAes .. | authenticateIsoAesProvider .. => .login .iso
  | isoSecureExchange .. => .secured .iso false
  | nativeSecureExchange _ request _ _ =>
    match request with
    | none => .secured .ev2 false
    | some request => .secured (if request.profile = secureProfileStandardAes then .standardAes else .ev2)
        (request.invalidatesSession ≠ 0)
  | _ => .plain

namespace RawEntry

def holds (entry : RawEntry) : RawFamily → Bool
  | .standardAes => entry.standardSession.isSome
  | .ev2 => entry.ev2Session.isSome
  | .iso => entry.isoSession.isSome

def put (entry : RawEntry) : RawSession → RawEntry
  | .standardAes session => {entry with standardSession := some session}
  | .ev2 session => {entry with ev2Session := some session}
  | .iso session => {entry with isoSession := some session}

/-- Ends the session of one family. -/
def drop (entry : RawEntry) : RawFamily → RawEntry
  | .standardAes => endStandardSession entry
  | .ev2 => endEv2Session entry
  | .iso => {entry with isoSession := none,sessionGeneration := 0}

/-- A fresh session is the only one. -/
def opened (entry : RawEntry) (session : RawSession) (generation : UInt64) : RawEntry :=
  {entry.clearSessions.put session with sessionGeneration := generation}

end RawEntry

/-- Whether a call asked for more than the generation and the cancellation of its key request. -/
def started (es : Trace Environment) : Bool := es.any fun event =>
  match event.query with
  | .generation | .requestCancelled => false
  | _ => true

theorem started_append (es es' : Trace Environment) : started (es ++ es') = (started es || started es') :=
  List.any_append

/-- The last question was for the generation, and this was the answer. -/
def ReadLast (generation : UInt64) (es : Trace Environment) : Prop :=
  ∃ before, es = before ++ [⟨.generation,generation⟩]

/-- The generation of the session was read before anything else was asked. -/
def Current (entry : RawEntry) (es : Trace Environment) : Prop :=
  ∃ before after, es = before ++ ⟨.generation,entry.sessionGeneration⟩ :: after ∧ started before = false

theorem ReadLast.after {generation : UInt64} {es es' : Trace Environment} (h : ReadLast generation es') :
    ReadLast generation (es ++ es') := by
  obtain ⟨before,rfl⟩ := h
  exact ⟨es ++ before,by rw [List.append_assoc]⟩

theorem Current.after {entry : RawEntry} {es es' : Trace Environment} (h : Current entry es')
    (hes : started es = false) : Current entry (es ++ es') := by
  obtain ⟨before,after,rfl,hbefore⟩ := h
  refine ⟨es ++ before,after,by rw [List.append_assoc],?_⟩
  rw [started_append,hes,hbefore]
  rfl

/-- A callback of a key request threw. -/
def KeyThrows (o : Oracle Environment) : Prop :=
  (∃ h request, o h (.resolve request) = .error .thrown) ∨ ∃ h, o h .requestCancelled = .error .thrown

/-- Every way a call can go on an entry. -/
inductive Fate {α : Type} (o : Oracle Environment) (entry : RawEntry) :
    Manner → Except Fault α → RawEntry → Trace Environment → Prop
  | refused {manner es} (f : Fault) (hes : started es = false) : Fate o entry manner (.error f) entry es
  | signalled {a es} (hes : started es = false) : Fate o entry .signal (.ok a) entry es
  | cleared {r es} : Fate o entry .plain r entry.clearSessions es
  | failed {family f es} : Fate o entry (.login family) (.error f) entry.clearSessions es
  | opened {a es} (session : RawSession) (hsound : session.Sound) (h : Trace Environment)
      (hrecorded : ReadLast (o h .generation) es) :
      Fate o entry (.login session.family) (.ok a) (entry.opened session (o h .generation)) es
  | stale {manner es} (e : Error) (hes : started es = false)
      (hmanner : manner = .renewal ∨ ∃ family ending, manner = .secured family ending) :
      Fate o entry manner (.error (.error e)) entry.clearSessions es
  | unrenewed {e es} (hheld : entry.holds .ev2 = true) (hcurrent : Current entry es) :
      Fate o entry .renewal (.error (.error e)) entry.clearSessions es
  | lost {es} (hheld : entry.holds .ev2 = true) (hcurrent : Current entry es) (hthrown : KeyThrows o) :
      Fate o entry .renewal (.error .thrown) {entry with ev2Session := none} es
  | renewed {a es} (session : Security.Ev2.Session) (hheld : entry.holds .ev2 = true) (hcurrent : Current entry es)
      (h : Trace Environment) (hrecorded : ReadLast (o h .generation) es) : Fate o entry .renewal (.ok a)
        {entry with ev2Session := some session,sessionGeneration := o h .generation} es
  | carried {ending r es} (session : RawSession) (hsound : session.Sound)
      (hheld : entry.holds session.family = true) (hcurrent : Current entry es)
      (hended : (∃ a, r = .ok a) → ending = false)
      (hfailed : session.family ≠ .iso → ∀ e, r ≠ .error (.error e)) :
      Fate o entry (.secured session.family ending) r (entry.put session) es
  | ended {family ending r es} (hheld : entry.holds family = true) (hcurrent : Current entry es) :
      Fate o entry (.secured family ending) r (entry.drop family) es

namespace Fate
variable {α β : Type} {o : Oracle Environment} {entry entry' : RawEntry} {manner : Manner} {r : Except Fault α}
  {es es' : Trace Environment}

/-- Quiet events before a call belong to it. -/
theorem after (h : Fate o entry manner r entry' es') (hes : started es = false) :
    Fate o entry manner r entry' (es ++ es') := by
  have hquiet : ∀ {es' : Trace Environment}, started es' = false → started (es ++ es') = false := by
    intro es' hes'
    rw [started_append,hes,hes']
    rfl
  cases h with
  | refused f h => exact .refused f (hquiet h)
  | signalled h => exact .signalled (hquiet h)
  | cleared => exact .cleared
  | failed => exact .failed
  | opened session hsound h hrecorded => exact .opened session hsound h hrecorded.after
  | stale e h hmanner => exact .stale e (hquiet h) hmanner
  | unrenewed hheld hcurrent => exact .unrenewed hheld (hcurrent.after hes)
  | lost hheld hcurrent hthrown => exact .lost hheld (hcurrent.after hes) hthrown
  | renewed session hheld hcurrent h hrecorded => exact .renewed session hheld (hcurrent.after hes) h hrecorded.after
  | carried session hsound hheld hcurrent hended hfailed =>
    exact .carried session hsound hheld (hcurrent.after hes) hended hfailed
  | ended hheld hcurrent => exact .ended hheld (hcurrent.after hes)

theorem map (f : α → β) (h : Fate o entry manner r entry' es) : Fate o entry manner (r.map f) entry' es := by
  cases h with
  | refused f' h => exact .refused f' h
  | signalled h => exact .signalled h
  | cleared => exact .cleared
  | failed => exact .failed
  | opened session hsound h hrecorded => exact .opened session hsound h hrecorded
  | stale e h hmanner => exact .stale e h hmanner
  | unrenewed hheld hcurrent => exact .unrenewed hheld hcurrent
  | lost hheld hcurrent hthrown => exact .lost hheld hcurrent hthrown
  | renewed session hheld hcurrent h hrecorded => exact .renewed session hheld hcurrent h hrecorded
  | carried session hsound hheld hcurrent hended hfailed =>
    refine .carried session hsound hheld hcurrent (fun hr => ?_) fun hfamily e hr => ?_
    · obtain ⟨b,hb⟩ := hr
      cases r <;> cases hb
      exact hended ⟨_,rfl⟩
    · cases r <;> cases hr
      exact hfailed hfamily e rfl
  | ended hheld hcurrent => exact .ended hheld hcurrent

end Fate

section Calls
variable {α β : Type} {o : Oracle Environment} {entry : RawEntry} {manner : Manner}

/-- A part of a call that neither changes the entry nor sends anything. -/
def Preliminary (o : Oracle Environment) (property : α → Prop) (p : Op RawEntry α) : Prop :=
  ∀ entry, Ensures some o p entry fun r entry' es =>
    entry' = entry ∧ started es = false ∧ (r = .error .thrown → KeyThrows o) ∧ ∀ a, r = .ok a → property a

namespace Preliminary
variable {property : α → Prop} {property' : β → Prop}

theorem mono {property' : α → Prop} {p : Op RawEntry α} (hp : Preliminary o property p)
    (himp : ∀ a, property a → property' a) : Preliminary o property' p :=
  fun entry => (hp entry).mono fun _ _ _ h => ⟨h.1,h.2.1,h.2.2.1,fun a ha => himp a (h.2.2.2 a ha)⟩

theorem pure {a : α} (ha : property a) : Preliminary o property (Pure.pure a) := by
  intro entry
  refine ensures_pure ⟨rfl,rfl,fun h => (by cases h),fun a' ha' => ?_⟩
  cases ha'
  exact ha

theorem reject (e : Error) : Preliminary o property (Op.reject e) := by
  intro entry
  refine Op.ensures_reject ⟨rfl,rfl,fun h => (by cases h),fun a ha => ?_⟩
  cases ha

theorem refuse (c : Prop) [Decidable c] (e : Error) : Preliminary o (fun _ => ¬c) (Op.refuse c e) := by
  by_cases hc : c
  · simp only [Op.refuse,Program.refuse,if_pos hc]
    exact reject e
  · simp only [Op.refuse,Program.refuse,if_neg hc]
    exact pure hc

theorem ofResult (parsed : Result α) : Preliminary o (fun a => parsed = .ok a) (Op.ofResult parsed) := by
  cases parsed with
  | error e => exact reject e
  | ok a => exact pure rfl

theorem requestCancelled : Preliminary o (fun _ => True) Op.requestCancelled := by
  intro entry
  refine ensures_ask_bind fun h => ensures_ofExcept ⟨rfl,rfl,fun hthrown => ?_,fun _ _ => trivial⟩
  exact .inr ⟨h,hthrown⟩

theorem seq {p : Op RawEntry α} {f : α → Op RawEntry β} (hp : Preliminary o property p)
    (hf : ∀ a, property a → Preliminary o property' (f a)) : Preliminary o property' (p >>= f) := by
  intro entry
  refine ensures_bind (hp entry) ?_ ?_
  · intro f entry' es h
    obtain ⟨rfl,hes,hthrown,_⟩ := h
    refine ⟨rfl,hes,?_,fun b hb => by cases hb⟩
    intro hf
    cases hf
    exact hthrown rfl
  · intro a entry' es h
    obtain ⟨rfl,hes,_,hproperty⟩ := h
    refine (hf a (hproperty a rfl) entry').mono fun r entry'' es' h => ⟨h.1,?_,h.2.2⟩
    rw [started_append,hes,h.2.1]
    rfl

end Preliminary

theorem Preliminary.bind {property : α → Prop} {p : Op RawEntry α} {f : α → Op RawEntry β}
    (hp : Preliminary o property p) (hf : ∀ a, property a → Ensures some o (f a) entry (Fate o entry manner)) :
    Ensures some o (p >>= f) entry (Fate o entry manner) := by
  refine ensures_bind (hp entry) ?_ ?_
  · intro fault entry' es h
    obtain ⟨rfl,hes,hthrown,_⟩ := h
    exact .refused fault hes
  · intro a entry' es h
    obtain ⟨rfl,hes,_,hproperty⟩ := h
    exact (hf a (hproperty a rfl)).mono fun r entry'' es' h => h.after hes

theorem refused_bind {c : Prop} [Decidable c] {e : Error} {f : Unit → Op RawEntry β}
    (hf : ¬c → Ensures some o (f ()) entry (Fate o entry manner)) :
    Ensures some o (Op.refuse c e >>= f) entry (Fate o entry manner) :=
  Op.ensures_refuse_bind (fun _ => .refused _ rfl) hf

theorem parsed_bind {parsed : Result α} {f : α → Op RawEntry β}
    (hf : ∀ a, parsed = .ok a → Ensures some o (f a) entry (Fate o entry manner)) :
    Ensures some o (Op.ofResult parsed >>= f) entry (Fate o entry manner) :=
  Op.ensures_ofResult_bind (fun _ _ => .refused _ rfl) hf

theorem invokeRaw_fate {standing : Standing} {timeout : UInt32} {function : ExchangeOptions → Op RawEntry α}
    (hf : ∀ options, Ensures some o (function options) entry (Fate o entry manner)) :
    Ensures some o (invokeRaw standing timeout function) entry (Fate o entry manner) := by
  refine refused_bind fun _ => refused_bind fun _ => refused_bind fun _ => ?_
  exact refused_bind fun _ => refused_bind fun _ => hf _

theorem outputBytes_fate {output : Bool} {function : Op RawEntry α}
    (hf : Ensures some o function entry (Fate o entry manner)) :
    Ensures some o (outputBytes output function) entry (Fate o entry manner) :=
  refused_bind fun _ => hf

section Keys

/-- A key without frames; only its callbacks can throw. -/
def Obtains (o : Oracle Environment) (key : Op RawEntry Model.Aes128Key) : Prop :=
  ∀ entry, Ensures some o key entry fun r entry' _ => entry' = entry ∧ (r = .error .thrown → KeyThrows o)

theorem obtains_pure (key : Model.Aes128Key) : Obtains o (pure key) := by
  intro entry
  refine ensures_pure ⟨rfl,fun h => ?_⟩
  cases h

theorem checkCancelled_preliminary (request : KeyRequest) :
    Preliminary o (fun _ => True) (checkCancelled request) := by
  unfold checkCancelled
  split
  · exact Preliminary.requestCancelled.seq fun stop _ => (Preliminary.refuse stop _).mono fun _ _ => trivial
  · exact .pure trivial

theorem resolve_obtains (adapter : KeyProviderAdapter) (checked : Model.KeyRequest) :
    Obtains o (adapter.resolve checked) := by
  intro entry
  refine ensures_bind (checkCancelled_preliminary adapter.request entry) ?_ ?_
  · intro f entry' es h
    refine ⟨h.1,fun hthrown => ?_⟩
    cases hthrown
    exact h.2.2.1 rfl
  intro _ entry' es h
  obtain ⟨rfl,_⟩ := h
  refine ensures_bind (m := fun r entry'' _ => entry'' = entry' ∧ (r = .error .thrown → KeyThrows o)) ?_ ?_ ?_
  · refine Op.ensures_mapError (ensures_ask_bind fun h => ensures_ofExcept ?_)
    cases hreply : o h (.resolve checked) with
    | ok key => exact ⟨rfl,fun hthrown => by cases hthrown⟩
    | error f =>
      cases f with
      | error e => exact ⟨rfl,fun hthrown => by cases hthrown⟩
      | thrown => exact ⟨rfl,fun _ => .inl ⟨h,checked,hreply⟩⟩
  · intro f entry'' es h
    exact ⟨h.1,fun hthrown => h.2 (by cases hthrown; rfl)⟩
  intro key entry'' es h
  refine Op.ensures_refuse_bind (fun _ => ⟨h.1,fun hthrown => by cases hthrown⟩) fun _ => ?_
  exact ensures_pure ⟨h.1,fun hthrown => by cases hthrown⟩

theorem keyProvider_preliminary (provider : Option KeyProvider) (request : Option KeyRequest)
    (profile : Model.AuthenticationProfile) (scope : Model.KeyScope) (keyNumber : UInt32) :
    Preliminary o (Obtains o) (keyProvider provider request profile scope keyNumber) := by
  have hrequest : Preliminary o (fun _ => True) (makeKeyRequest request profile scope keyNumber : Op RawEntry _) := by
    cases request with
    | none => exact .reject _
    | some request =>
      refine (Preliminary.refuse _ _).seq fun _ _ => (Preliminary.refuse _ _).seq fun _ _ => ?_
      refine (checkCancelled_preliminary request).seq fun _ _ => ?_
      exact (Preliminary.ofResult _).seq fun _ _ => .pure trivial
  refine hrequest.seq fun made _ => ?_
  exact (Preliminary.ofResult _).seq fun adapter _ => .pure (resolve_obtains adapter made.2)

end Keys

section Plain

theorem begin_keeps {τ : Type} (channel : Native.Raw.RawNativeChannel) (options : ExchangeOptions) :
    Keeps (channel.begin options : Op τ Native.Raw.Transaction) := by
  refine keeps_bind (keeps_refuse _ _) fun _ => keeps_bind (keeps_ask _) fun _ => ?_
  refine keeps_bind (keeps_refuse _ _) fun _ => keeps_bind (keeps_ask _) fun _ => ?_
  refine keeps_bind (keeps_refuse _ _) fun _ => keeps_bind (keeps_refuse _ _) fun _ => ?_
  exact keeps_bind (keeps_ask _) fun _ => keeps_bind (keeps_ask _) fun _ => keeps_pure _

theorem exchange_keeps {τ : Type} (channel : Native.Raw.RawNativeChannel) (request : Native.Raw.Request)
    (options : ExchangeOptions) : Keeps (channel.exchange request options : Op τ Native.Raw.Response) :=
  keeps_bind (begin_keeps channel options) fun transaction => keeps_within transaction

theorem nativeReset_keeps {τ : Type} : Keeps (Native.Raw.RawNativeChannel.reset : Op τ Unit) := by
  refine keeps_settle (fun r s => by rcases r with (_ | _) | _ <;> rfl) ?_
  refine keeps_bind (keeps_ask _) fun _ => keeps_bind (keeps_refuse _ _) fun _ => ?_
  exact keeps_bind (keeps_refuse _ _) fun _ => keeps_bind (keeps_ask _) fun _ => keeps_ofExcept _

theorem isoReset_keeps {τ : Type} : Keeps (Iso7816.Raw.Channel.reset : Op τ Unit) := by
  refine keeps_bind (keeps_ask _) fun _ => keeps_bind (keeps_refuse _ _) fun _ => ?_
  refine keeps_bind (keeps_refuse _ _) fun _ => ?_
  refine keeps_settle (fun r s => by rcases r with (_ | _) | _ <;> rfl) ?_
  exact keeps_bind (keeps_ask _) fun _ => keeps_ofExcept _

/-- Sessions are cleared before anything unprotected is sent. -/
theorem cleared_bind {p : Unit → Op RawEntry α} (hp : Keeps (p ())) :
    Ensures some o (Program.modify RawEntry.clearSessions >>= p) entry (Fate o entry .plain) := by
  refine ensures_modify_bind (hp.ensures.mono fun r entry' es h => ?_)
  rw [h]
  exact .cleared

theorem rawClose_fate (standing : Standing) : Ensures some o (rawClose standing) entry (Fate o entry .plain) :=
  refused_bind fun _ => refused_bind fun _ => cleared_bind (keeps_refuse _ _)

theorem rawReset_fate (standing : Standing) : Ensures some o (rawReset standing) entry (Fate o entry .plain) := by
  refine invokeRaw_fate fun options => ensures_modify_bind (ensures_get_bind ?_)
  have hcleared : ∀ {p : Op RawEntry Unit}, Keeps p →
      Ensures some o p entry.clearSessions (Fate o entry .plain) := by
    intro p hp
    refine hp.ensures.mono fun r entry' es h => ?_
    rw [h]
    exact .cleared
  exact ensures_ite (fun _ => hcleared isoReset_keeps) fun _ => hcleared nativeReset_keeps

theorem rawNativeFrame_fate (standing : Standing) (nativeStatus : Bool) (framing command : UInt32)
    (data : Option Bytes) (dataSize : Nat) (timeout : UInt32) (output : Bool) :
    Ensures some o (rawNativeFrame standing nativeStatus framing command data dataSize timeout output) entry
      (Fate o entry .plain) := by
  refine refused_bind fun _ => parsed_bind fun payload _ => outputBytes_fate (invokeRaw_fate fun options => ?_)
  refine ensures_get_bind (parsed_bind fun _ _ => cleared_bind ?_)
  exact keeps_bind (begin_keeps _ _) fun transaction => keeps_within transaction

theorem rawNativeExchange_fate (standing : Standing) (nativeStatus : Bool) (request : Option NativeRequest)
    (timeout : UInt32) (output : Bool) :
    Ensures some o (rawNativeExchange standing nativeStatus request timeout output) entry (Fate o entry .plain) := by
  refine parsed_bind fun coreRequest _ => outputBytes_fate (invokeRaw_fate fun options => ?_)
  exact ensures_get_bind (parsed_bind fun _ _ => cleared_bind (exchange_keeps _ _ _))

theorem rawIsoExchange_fate (standing : Standing) (isoStatus : Bool) (request : IsoApdu) (timeout : UInt32)
    (output : Bool) :
    Ensures some o (rawIsoExchange standing isoStatus request timeout output) entry (Fate o entry .plain) := by
  refine refused_bind fun _ => parsed_bind fun apdu _ => outputBytes_fate (invokeRaw_fate fun options => ?_)
  exact ensures_get_bind (refused_bind fun _ => cleared_bind (Iso7816.Raw.Channel.exchange_keeps _ _ _))

end Plain

section Logins

theorem frames_keeps (options : ExchangeOptions)
    (authenticate : Security.AuthenticationExchange Native.Raw.Transaction → Op Native.Raw.Transaction α) :
    Keeps (authenticationFrames options authenticate) := by
  refine keeps_bind (fun _ _ _ => rfl) fun entry => ?_
  exact keeps_bind (begin_keeps entry.native options) fun transaction => keeps_within transaction

/-- A login that has cleared the entry fails or records its session. -/
def LoginCase (o : Oracle Environment) (entry : RawEntry) (family : RawFamily) (r : Except Fault α)
    (entry' : RawEntry) (es : Trace Environment) : Prop :=
  (∃ f, r = .error f ∧ entry' = entry.clearSessions) ∨ ∃ a session h, r = .ok a ∧ session.family = family ∧
    session.Sound ∧ entry' = entry.opened session (o h .generation) ∧ ReadLast (o h .generation) es

theorem LoginCase.after {family : RawFamily} {r : Except Fault α} {entry' : RawEntry} {es es' : Trace Environment}
    (h : LoginCase o entry family r entry' es') : LoginCase o entry family r entry' (es ++ es') := by
  obtain hfailed | ⟨a,session,h,hr,hfamily,hsound,hentry,hrecorded⟩ := h
  · exact .inl hfailed
  · exact .inr ⟨a,session,h,hr,hfamily,hsound,hentry,hrecorded.after⟩

theorem LoginCase.fate {family : RawFamily} {r : Except Fault α} {entry' : RawEntry} {es : Trace Environment}
    (h : LoginCase o entry family r entry' es) : Fate o entry (.login family) r entry' es := by
  obtain ⟨f,rfl,rfl⟩ | ⟨a,session,h,rfl,rfl,hsound,rfl,hrecorded⟩ := h
  · exact .failed
  · exact .opened session hsound h hrecorded

/-- A part of a login before its session is recorded. -/
theorem login_bind {family : RawFamily} {p : Op RawEntry α} {f : α → Op RawEntry β}
    {m : Except Fault α → Prop} (hp : Ensures some o p entry.clearSessions fun r entry' _ =>
      entry' = entry.clearSessions ∧ m r)
    (hf : ∀ a, m (.ok a) → Ensures some o (f a) entry.clearSessions (LoginCase o entry family)) :
    Ensures some o (p >>= f) entry.clearSessions (LoginCase o entry family) := by
  refine ensures_bind hp ?_ ?_
  · intro fault entry' es h
    exact .inl ⟨fault,rfl,h.1⟩
  · intro a entry' es h
    rw [h.1]
    exact (hf a h.2).mono fun r entry'' es' hcase => hcase.after

theorem kept_bind {family : RawFamily} {p : Op RawEntry α} {f : α → Op RawEntry β} (hp : Keeps p)
    (hf : ∀ a, Ensures some o (f a) entry.clearSessions (LoginCase o entry family)) :
    Ensures some o (p >>= f) entry.clearSessions (LoginCase o entry family) :=
  login_bind (m := fun _ => True) (hp.ensures.mono fun _ _ _ h => ⟨h,trivial⟩) fun a _ => hf a

/-- The session is bound to the generation that is read after the proof. -/
theorem record_session {a : α} (session : RawSession) (hsound : session.Sound)
    (record : RawEntry → UInt64 → RawEntry)
    (hrecord : ∀ generation, record entry.clearSessions generation = entry.opened session generation) :
    Ensures some o (do
      let generation ← Op.generation
      Program.modify fun entry => record entry generation
      pure a) entry.clearSessions (LoginCase o entry session.family) := by
  refine ensures_ask_bind fun h => ensures_modify_bind (ensures_pure ?_)
  exact .inr ⟨a,session,h,rfl,rfl,hsound,hrecord _,[],rfl⟩

theorem record_only (session : RawSession) (hsound : session.Sound)
    (record : RawEntry → UInt64 → RawEntry)
    (hrecord : ∀ generation, record entry.clearSessions generation = entry.opened session generation) :
    Ensures some o (do
      let generation ← Op.generation
      Program.modify fun entry => record entry generation) entry.clearSessions (LoginCase o entry session.family) := by
  refine ensures_ask_bind fun h => ensures_modify ?_
  exact .inr ⟨(),session,h,rfl,rfl,hsound,hrecord _,[],rfl⟩

theorem installStandardAes_fate {key : Op RawEntry Model.Aes128Key} (hkey : Obtains o key) (keyNumber : Byte)
    (options : ExchangeOptions) :
    Ensures some o (installStandardAes key keyNumber options) entry (Fate o entry (.login .standardAes)) := by
  refine ensures_modify_bind (Ensures.mono ?_ fun _ _ _ => LoginCase.fate)
  refine login_bind (hkey _) fun key _ => kept_bind (frames_keeps _ _) fun material => ?_
  refine kept_bind (keeps_ofExcept _) fun session => ?_
  exact record_only (.standardAes session) trivial
    (fun entry generation => {entry with standardSession := some session,sessionGeneration := generation}) fun _ => rfl

theorem installEv2_fate {key : Op RawEntry Model.Aes128Key} (hkey : Obtains o key) (keyNumber : Byte)
    (pcdCapabilities : Bytes) (options : ExchangeOptions) :
    Ensures some o (installEv2 key keyNumber pcdCapabilities options) entry (Fate o entry (.login .ev2)) := by
  refine ensures_modify_bind (Ensures.mono ?_ fun _ _ _ => LoginCase.fate)
  refine login_bind (hkey _) fun key _ => kept_bind (frames_keeps _ _) fun material => ?_
  refine kept_bind (keeps_ofExcept _) fun session => ?_
  exact record_session (.ev2 session) trivial
    (fun entry generation => {entry with ev2Session := some session,sessionGeneration := generation}) fun _ => rfl

theorem installIso_fate {key : Op RawEntry Model.Aes128Key} (hkey : Obtains o key)
    (reference : Iso7816.Checked.KeyReference) (options : ExchangeOptions) :
    Ensures some o (installIso key reference options) entry (Fate o entry (.login .iso)) := by
  refine ensures_get_bind (refused_bind fun _ => ensures_modify_bind (Ensures.mono ?_ fun _ _ _ => LoginCase.fate))
  refine login_bind (hkey _) fun key _ => ?_
  have hvalid : Ensures some o (Iso7816.Aes.authenticate reference key.view options) entry.clearSessions
      fun r entry' _ => entry' = entry.clearSessions ∧ ∀ session, r = .ok session → session.valid = true :=
    Iso7816.Aes.authenticate_valid o reference key.view options .automatic entry.clearSessions
  refine login_bind hvalid fun session hsession => ?_
  exact record_only (.iso session) (hsession session rfl)
    (fun entry generation => {entry with isoSession := some session,sessionGeneration := generation}) fun _ => rfl

end Logins

section Sessions

/-- The generation of the session was read first. -/
theorem Current.of_read {es : Trace Environment} : Current entry (⟨.generation,entry.sessionGeneration⟩ :: es) :=
  ⟨[],es,rfl,rfl⟩

/-- A call under a session goes on only at the generation of the session. -/
theorem current_bind {f : Unit → Op RawEntry α}
    (hmanner : manner = .renewal ∨ ∃ family ending, manner = .secured family ending)
    (hf : Ensures some o (f ()) entry fun r entry' es =>
      Fate o entry manner r entry' (⟨.generation,entry.sessionGeneration⟩ :: es)) :
    Ensures some o (requireCurrentSession >>= f) entry (Fate o entry manner) := by
  refine ensures_bind (m := fun r entry' es =>
    (∃ e, r = .error (.error e) ∧ entry' = entry.clearSessions ∧ started es = false) ∨
      r = .ok () ∧ entry' = entry ∧ es = [⟨.generation,entry.sessionGeneration⟩]) ?_ ?_ ?_
  · refine ensures_get_bind (Op.ensures_refuseAfter_bind (fun _ => .inl ⟨_,rfl,rfl,rfl⟩) fun _ => ?_)
    refine ensures_ask_bind fun h => ?_
    unfold Op.refuseAfter
    refine ensures_ite (fun _ => ensures_modify_bind (Op.ensures_reject ?_)) fun hsame => ensures_pure ?_
    · exact .inl ⟨_,rfl,rfl,rfl⟩
    · have hgeneration : entry.sessionGeneration = o h .generation := Decidable.not_not.mp hsame
      refine .inr ⟨rfl,rfl,?_⟩
      rw [hgeneration]
      rfl
  · intro f entry' es h
    obtain ⟨e,hf,rfl,hes⟩ | ⟨hf,_⟩ := h
    · cases hf
      exact .stale e hes hmanner
    · cases hf
  · intro _ entry' es h
    obtain ⟨e,hf,_⟩ | ⟨_,rfl,rfl⟩ := h
    · cases hf
    · exact hf

/-- The frames of a login cannot throw. -/
theorem frames_settled (options : ExchangeOptions) {authenticate : Security.AuthenticationExchange
      Native.Raw.Transaction → Op Native.Raw.Transaction α}
    (hauth : ∀ t, Ensures some o (authenticate Native.Raw.Transaction.exchangeFrame) t fun r _ _ => r ≠ .error .thrown) :
    Ensures some o (authenticationFrames options authenticate) entry fun r entry' _ =>
      entry' = entry ∧ r ≠ .error .thrown := by
  refine ensures_get_bind (ensures_bind (Native.Secure.begin_cases o entry.native options entry).full ?_ ?_)
  · intro f entry' es h
    generalize shown deliveryOf es = ds at h
    cases h with
    | refused e => exact ⟨rfl,by simp⟩
  · intro t entry' es h
    generalize shown deliveryOf es = ds at h
    cases h with
    | begun => exact ensures_within ((hauth t).mono fun r _ _ h => ⟨rfl,h⟩)

theorem renewEv2_fate {key : Op RawEntry Model.Aes128Key} (hkey : Obtains o key) (keyNumber : Byte)
    (options : ExchangeOptions) :
    Ensures some o (renewEv2 key keyNumber options) entry (Fate o entry .renewal) := by
  refine current_bind (.inl rfl) (ensures_get_bind ?_)
  cases hprevious : entry.ev2Session with
  | none => exact Op.ensures_reject (.refused _ rfl)
  | some previous =>
    have hheld : entry.holds .ev2 = true := by
      simp only [RawEntry.holds,hprevious,Option.isSome_some]
    refine ensures_modify_bind (ensures_bind (m := fun r entry' _ =>
      (∃ session, r = .ok session ∧ entry' = {entry with ev2Session := none}) ∨
      (∃ e, r = .error (.error e) ∧ entry' = entry.clearSessions) ∨
      (r = .error .thrown ∧ entry' = {entry with ev2Session := none} ∧ KeyThrows o)) (Op.ensures_onError ?_) ?_ ?_)
    · refine ensures_bind (hkey {entry with ev2Session := none}) ?_ ?_
      · intro f entry' es h
        cases f with
        | error e => exact .inr (.inl ⟨e,rfl,by rw [h.1]; rfl⟩)
        | thrown => exact .inr (.inr ⟨rfl,h.1,h.2 rfl⟩)
      intro key entry' es h
      rw [h.1]
      have hframes : ∀ t, Ensures some o (Security.Ev2.authenticateNonfirst keyNumber key.view
          previous.authentication Native.Raw.Transaction.exchangeFrame) t fun r _ _ => r ≠ .error .thrown :=
        fun t => Op.ensures_refuse_bind (fun _ => by simp) fun _ h => Op.catchAll_not_thrown o h t
      refine ensures_bind (frames_settled options hframes) ?_ ?_
      · intro f entry' es h
        cases f with
        | error e => exact .inr (.inl ⟨e,rfl,by rw [h.1]; rfl⟩)
        | thrown => exact absurd rfl h.2
      intro material entry' es h
      rw [h.1]
      refine Op.ensures_ofResult ?_
      cases Security.Ev2.Session.create material previous.counter with
      | error e => exact .inr (.inl ⟨e,rfl,rfl⟩)
      | ok session => exact .inl ⟨session,rfl,rfl⟩
    · intro f entry' es h
      obtain ⟨session,hf,_⟩ | ⟨e,hf,rfl⟩ | ⟨hf,rfl,hthrown⟩ := h
      · cases hf
      · cases hf
        exact .unrenewed hheld .of_read
      · cases hf
        exact .lost hheld .of_read hthrown
    · intro session entry' es h
      obtain ⟨_,_,rfl⟩ | ⟨e,hf,_⟩ | ⟨hf,_⟩ := h
      · refine ensures_ask_bind fun h => ensures_modify_bind (ensures_pure ?_)
        exact .renewed session hheld .of_read h ⟨⟨.generation,entry.sessionGeneration⟩ :: es,rfl⟩
      · cases hf
      · cases hf

/-- A protected exchange of one family, with its place in the entry. -/
theorem exchangeEnding_fate {σ : Type} [Native.Secure.SecureSession σ] {session : σ} {family : RawFamily}
    {ended : RawEntry → RawEntry} (wrap : σ → RawSession) (hfamily : ∀ s, (wrap s).family = family)
    (hsound : ∀ s, (wrap s).Sound)
    (hended : ∀ s, ended (entry.put (wrap s)) = entry.drop family)
    (hheld : entry.holds family = true) (request : Native.Secure.Request) (options : ExchangeOptions) :
    Ensures some o (exchangeEnding session (fun s entry => entry.put (wrap s)) ended request options) entry
      fun r entry' es => Fate o entry (.secured family request.invalidatesSession) r entry'
        (⟨.generation,entry.sessionGeneration⟩ :: es) := by
  have hcarried : ∀ (s : σ) {r : Except Fault Bytes} {es : Trace Environment},
      ((∃ a, r = .ok a) → request.invalidatesSession = false) → (∀ e, r ≠ .error (.error e)) →
      Fate o entry (.secured family request.invalidatesSession) r (entry.put (wrap s))
        (⟨.generation,entry.sessionGeneration⟩ :: es) := by
    intro s r es hending hfailed
    have hcase : Fate o entry (.secured (wrap s).family request.invalidatesSession) r (entry.put (wrap s))
        (⟨.generation,entry.sessionGeneration⟩ :: es) :=
      .carried (wrap s) (hsound s) (by rw [hfamily s]; exact hheld) .of_read hending fun _ => hfailed
    rw [hfamily s] at hcase
    exact hcase
  refine ensures_get_bind (ensures_bind (m := fun r entry' _ => ∃ s,
    (∃ e, r = .error (.error e) ∧ entry' = ended (entry.put (wrap s))) ∨
      ((∀ e, r ≠ .error (.error e)) ∧ entry' = entry.put (wrap s))) (Op.ensures_onError (ensures_focus ?_)) ?_ ?_)
  · intro h
    rcases hrun : Native.Secure.exchangeProtected entry.native request options o h session with ⟨(e | _) | a,s,es⟩
    · exact ⟨s,.inl ⟨e,rfl,rfl⟩⟩
    · exact ⟨s,.inr ⟨by simp,rfl⟩⟩
    · exact ⟨s,.inr ⟨by simp,rfl⟩⟩
  · intro f entry' es h
    obtain ⟨s,⟨e,hf,rfl⟩ | ⟨hnone,rfl⟩⟩ := h
    · rw [hended]
      exact .ended hheld .of_read
    · refine hcarried s (fun h => ?_) hnone
      obtain ⟨a,ha⟩ := h
      cases ha
  · intro response entry' es h
    obtain ⟨s,⟨e,hf,_⟩ | ⟨_,rfl⟩⟩ := h
    · cases hf
    · refine ensures_modify_bind (ensures_pure ?_)
      cases hending : request.invalidatesSession with
      | true =>
        simp only [if_true]
        rw [hended]
        exact .ended hheld .of_read
      | false =>
        simp only [Bool.false_eq_true,if_false]
        rw [← hending]
        exact hcarried s (fun _ => hending) (by simp)

theorem makeNativeSecureRequest_ok {request : Option NativeSecureRequest}
    {made : NativeSecureRequest × Native.Secure.Request} (h : makeNativeSecureRequest request = .ok made) :
    request = some made.1 ∧ made.2.invalidatesSession = decide (made.1.invalidatesSession ≠ 0) := by
  unfold makeNativeSecureRequest at h
  split at h
  · cases h
  rename_i request
  split at h
  · cases h
  obtain ⟨header,_,h⟩ := Reading.bind_eq_ok h
  obtain ⟨data,_,h⟩ := Reading.bind_eq_ok h
  obtain ⟨requestMode,_,h⟩ := Reading.bind_eq_ok h
  obtain ⟨responseMode,_,h⟩ := Reading.bind_eq_ok h
  cases h
  exact ⟨rfl,rfl⟩

theorem rawNativeSecureExchange_fate (standing : Standing) (request : Option NativeSecureRequest) (timeout : UInt32)
    (output : Bool) : Ensures some o (rawNativeSecureExchange standing request timeout output) entry
      (Fate o entry (RawCall.nativeSecureExchange standing request timeout output).manner) := by
  refine parsed_bind fun made hmade => ?_
  obtain ⟨rfl,hending⟩ := makeNativeSecureRequest_ok hmade
  obtain ⟨request,coreRequest⟩ := made
  refine outputBytes_fate (invokeRaw_fate fun options => ?_)
  refine current_bind (.inr ⟨_,_,rfl⟩) (ensures_get_bind ?_)
  simp only [RawCall.manner]
  rw [← hending]
  refine ensures_ite (fun hprofile => ?_) fun hprofile => ?_
  · rw [if_pos hprofile]
    cases hsession : entry.standardSession with
    | none => exact Op.ensures_reject (.refused _ rfl)
    | some session =>
      refine exchangeEnding_fate .standardAes (fun _ => rfl) (fun _ => trivial) (fun _ => rfl)
        ?_ coreRequest options
      simp only [RawEntry.holds,hsession,Option.isSome_some]
  · rw [if_neg hprofile]
    cases hsession : entry.ev2Session with
    | none => exact Op.ensures_reject (.refused _ rfl)
    | some session =>
      refine exchangeEnding_fate .ev2 (fun _ => rfl) (fun _ => trivial) (fun _ => rfl)
        ?_ coreRequest options
      simp only [RawEntry.holds,hsession,Option.isSome_some]

/-- An execution returns, and one that succeeds leaves a valid session. -/
theorem execute_returns (command : Iso7816.Checked.Command) (options : ExchangeOptions)
    (limits : Iso7816.Checked.Limits) (session : Iso7816.Aes.Session) :
    Ensures some o (Iso7816.Aes.Session.execute command options limits) session fun r session' _ =>
      r ≠ .error .thrown ∧ ∀ response, r = .ok response → session'.valid = true := by
  have hreturns : Ensures some o (Iso7816.Aes.Session.execute command options limits) session fun r _ _ =>
      r ≠ .error .thrown := by
    refine ensures_get_bind (Op.ensures_refuse_bind (by simp) fun _ => Op.ensures_generation_bind fun _ => ?_)
    refine Op.ensures_refuseAfter_bind (by simp) fun _ => Op.ensures_refuse_bind (by simp) fun _ => ?_
    exact Op.ensures_refuse_bind (by simp) fun _ h => Op.catchAll_not_thrown o h session
  cases hvalid : session.valid with
  | true => exact hreturns.and (Iso7816.Aes.Session.execute_valid o command options limits hvalid)
  | false =>
    refine ensures_get_bind (Op.ensures_refuse_bind (fun _ => ?_) fun h => absurd hvalid h)
    exact ⟨by simp,fun response hresponse => by cases hresponse⟩

theorem rawIsoSecureExchange_fate (standing : Standing) (isoStatus : Bool) (request : IsoApdu) (timeout : UInt32)
    (output : Bool) : Ensures some o (rawIsoSecureExchange standing isoStatus request timeout output) entry
      (Fate o entry (.secured .iso false)) := by
  refine parsed_bind fun command _ => outputBytes_fate (invokeRaw_fate fun options => ?_)
  refine current_bind (.inr ⟨_,_,rfl⟩) (ensures_get_bind ?_)
  have hrefused : Ensures some o (Op.reject ⟨.sessionInvalid,"ISO AES raw session is not active",.notSent,0⟩ :
      Op RawEntry Iso7816.Checked.Response) entry fun r entry' es =>
        Fate o entry (.secured .iso false) r entry' (⟨.generation,entry.sessionGeneration⟩ :: es) :=
    Op.ensures_reject (.refused _ rfl)
  cases hiso : entry.iso with
  | false => exact hrefused
  | true =>
    cases hsession : entry.isoSession with
    | none => exact hrefused
    | some session =>
      have hheld : entry.holds .iso = true := by
        simp only [RawEntry.holds,hsession,Option.isSome_some]
      refine Op.ensures_onError (ensures_focus ((execute_returns command options _ session).mono ?_))
      intro r session' es h
      obtain ⟨hreturns,hvalid⟩ := h
      rcases r with (e | _) | response
      · change Fate o entry (.secured .iso false) (.error (.error e)) (dropInvalidIso (entry.put (.iso session')))
          (⟨.generation,entry.sessionGeneration⟩ :: es)
        by_cases hsound : session'.valid = true
        · have hkept : dropInvalidIso (entry.put (.iso session')) = entry.put (.iso session') := by
            simp only [dropInvalidIso,RawEntry.put,Option.any_some,hsound,if_true]
          rw [hkept]
          refine .carried (.iso session') hsound hheld .of_read (fun _ => rfl) fun hfamily => ?_
          exact absurd rfl hfamily
        · have hdropped : dropInvalidIso (entry.put (.iso session')) = entry.drop .iso := by
            simp only [dropInvalidIso,RawEntry.put,Option.any_some,RawEntry.drop]
            exact if_neg hsound
          rw [hdropped]
          exact .ended hheld .of_read
      · exact absurd rfl hreturns
      · refine .carried (.iso session') (hvalid response rfl) hheld .of_read (fun _ => rfl) fun _ e he => ?_
        cases he

end Sessions

/-- Every call goes one of these ways. -/
theorem perform_fate (call : RawCall) (entry : RawEntry) :
    Ensures some o call.perform entry (Fate o entry call.manner) := by
  have hreturning : ∀ {α : Type} {p : Op RawEntry α} {f : α → RawAnswer} {manner : Manner},
      Ensures some o p entry (Fate o entry manner) → Ensures some o (Op.returning f p) entry (Fate o entry manner) :=
    fun h => Op.ensures_returning (h.mono fun _ _ _ hfate => hfate.map _)
  have hprovided : ∀ {α : Type} {manner : Manner} {provider : Option KeyProvider} {request : Option KeyRequest}
      {profile : Model.AuthenticationProfile} {scope : Model.KeyScope} {keyNumber : UInt32} {standing : Standing}
      {timeout : UInt32} {function : Op RawEntry Model.Aes128Key → ExchangeOptions → Op RawEntry α},
      (∀ key options, Obtains o key → Ensures some o (function key options) entry (Fate o entry manner)) →
      Ensures some o (do
        let key ← keyProvider provider request profile scope keyNumber
        invokeRaw standing timeout (function key)) entry (Fate o entry manner) := by
    intro α manner provider request profile scope keyNumber standing timeout function hfunction
    refine (keyProvider_preliminary provider request profile scope keyNumber).bind fun key hkey => ?_
    exact invokeRaw_fate fun options => hfunction key options hkey
  cases call with
  | close standing => exact hreturning (rawClose_fate standing)
  | reset standing => exact hreturning (rawReset_fate standing)
  | cancel => exact ensures_pure (.signalled rfl)
  | notifyStateChange => exact ensures_pure (.signalled rfl)
  | nativeFrame => exact hreturning (rawNativeFrame_fate _ _ _ _ _ _ _ _)
  | nativeExchange => exact hreturning (rawNativeExchange_fate _ _ _ _ _)
  | isoExchange => exact hreturning (rawIsoExchange_fate _ _ _ _ _)
  | authenticateStandardAes =>
    refine hreturning (parsed_bind fun selector _ => parsed_bind fun key _ => invokeRaw_fate fun options => ?_)
    exact installStandardAes_fate (obtains_pure key) _ options
  | authenticateStandardAesProvider =>
    exact hreturning (hprovided fun key options hkey => installStandardAes_fate hkey _ options)
  | authenticateEv2FirstAes =>
    refine hreturning (parsed_bind fun _ _ => parsed_bind fun selector _ => parsed_bind fun key _ => ?_)
    refine parsed_bind fun capabilities _ => refused_bind fun _ => invokeRaw_fate fun options => ?_
    exact installEv2_fate (obtains_pure key) _ capabilities options
  | authenticateEv2FirstAesProvider =>
    refine hreturning (parsed_bind fun _ _ => parsed_bind fun capabilities _ => refused_bind fun _ => ?_)
    exact hprovided fun key options hkey => installEv2_fate hkey _ capabilities options
  | authenticateEv2NonFirstAes =>
    refine hreturning (parsed_bind fun _ _ => parsed_bind fun selector _ => parsed_bind fun key _ => ?_)
    exact invokeRaw_fate fun options => renewEv2_fate (obtains_pure key) _ options
  | authenticateEv2NonFirstAesProvider =>
    exact hreturning (parsed_bind fun _ _ => hprovided fun key options hkey => renewEv2_fate hkey _ options)
  | authenticateIsoAes =>
    refine hreturning (parsed_bind fun reference _ => parsed_bind fun key _ => invokeRaw_fate fun options => ?_)
    exact installIso_fate (obtains_pure key) reference options
  | authenticateIsoAesProvider =>
    exact hreturning (parsed_bind fun reference _ => hprovided fun key options hkey =>
      installIso_fate hkey reference options)
  | isoSecureExchange => exact hreturning (rawIsoSecureExchange_fate _ _ _ _ _)
  | nativeSecureExchange => exact hreturning (rawNativeSecureExchange_fate _ _ _ _)

end Calls
namespace RawEntry

/-- At most one session is there, under a generation of its own, and it can be used. -/
structure Lawful (entry : RawEntry) : Prop where
  exclusive : ∀ f g, entry.holds f = true → entry.holds g = true → f = g
  bound : ∀ f, entry.holds f = true → entry.sessionGeneration ≠ 0
  valid : ∀ session, entry.isoSession = some session → session.valid = true

def Vacant (entry : RawEntry) : Prop := ∀ f, entry.holds f = false

/-- A generation stands for a session. -/
def Settled (entry : RawEntry) : Prop := entry.sessionGeneration ≠ 0 → ∃ f, entry.holds f = true

theorem clearSessions_vacant (entry : RawEntry) : entry.clearSessions.Vacant := by
  intro f
  cases f <;> rfl

theorem Vacant.lawful {entry : RawEntry} (h : entry.Vacant) : entry.Lawful where
  exclusive f g hf := by
    rw [h f] at hf
    cases hf
  bound f hf := by
    rw [h f] at hf
    cases hf
  valid session hsession := by
    have hiso := h .iso
    rw [holds,hsession] at hiso
    cases hiso

theorem clearSessions_settled (entry : RawEntry) : entry.clearSessions.Settled := fun h => absurd rfl h

theorem holds_opened (entry : RawEntry) (session : RawSession) (generation : UInt64) (f : RawFamily) :
    (entry.opened session generation).holds f = true ↔ f = session.family := by
  cases session <;> cases f <;> simp [opened,put,clearSessions,holds,RawSession.family]

theorem holds_put {entry : RawEntry} {session : RawSession} (hheld : entry.holds session.family = true)
    (f : RawFamily) : (entry.put session).holds f = entry.holds f := by
  cases session <;> cases f <;> simp_all [put,holds,RawSession.family]

/-- The only session is all that there is to clear. -/
theorem drop_eq {entry : RawEntry} (hlawful : entry.Lawful) {family : RawFamily} (hheld : entry.holds family = true) :
    entry.drop family = entry.clearSessions := by
  have hnone : ∀ g, g ≠ family → entry.holds g = false := by
    intro g hg
    cases hother : entry.holds g with
    | false => rfl
    | true => exact absurd (hlawful.exclusive g family hother hheld) hg
  cases family with
  | standardAes =>
    have hev2 := hnone .ev2 (by decide)
    have hiso := hnone .iso (by decide)
    simp only [holds,Option.isSome_eq_false_iff,Option.isNone_iff_eq_none] at hev2 hiso
    simp only [drop,endStandardSession,clearSessions,hev2,hiso]
  | ev2 =>
    have hstandard := hnone .standardAes (by decide)
    have hiso := hnone .iso (by decide)
    simp only [holds,Option.isSome_eq_false_iff,Option.isNone_iff_eq_none] at hstandard hiso
    simp only [drop,endEv2Session,clearSessions,hstandard,hiso]
  | iso =>
    have hstandard := hnone .standardAes (by decide)
    have hev2 := hnone .ev2 (by decide)
    simp only [holds,Option.isSome_eq_false_iff,Option.isNone_iff_eq_none] at hstandard hev2
    simp only [drop,clearSessions,hstandard,hev2]

theorem opened_lawful (entry : RawEntry) {session : RawSession} (hsound : session.Sound) {generation : UInt64}
    (hgeneration : generation ≠ 0) : (entry.opened session generation).Lawful where
  exclusive f g hf hg := by
    rw [holds_opened] at hf hg
    rw [hf,hg]
  bound _ _ := hgeneration
  valid s hs := by
    cases session with
    | standardAes | ev2 => cases hs
    | iso session =>
      cases hs
      exact hsound

theorem put_lawful {entry : RawEntry} (hlawful : entry.Lawful) {session : RawSession} (hsound : session.Sound)
    (hheld : entry.holds session.family = true) : (entry.put session).Lawful where
  exclusive f g hf hg := by
    rw [holds_put hheld] at hf hg
    exact hlawful.exclusive f g hf hg
  bound f hf := by
    have hbound := hlawful.bound session.family hheld
    cases session <;> exact hbound
  valid s hs := by
    cases session with
    | standardAes | ev2 => exact hlawful.valid s hs
    | iso session =>
      cases hs
      exact hsound

end RawEntry

/-- The transport never reports the generation that stands for none. -/
def Numbered (o : Oracle Environment) : Prop := ∀ h, o h .generation ≠ 0

namespace Fate
variable {α : Type} {o : Oracle Environment} {entry entry' : RawEntry} {manner : Manner} {r : Except Fault α}
  {es : Trace Environment}

/-- A renewed session takes the place of the one before. -/
theorem renewed_eq (hlawful : entry.Lawful) (hheld : entry.holds .ev2 = true) (session : Security.Ev2.Session)
    (generation : UInt64) : {entry with ev2Session := some session,sessionGeneration := generation} =
      entry.opened (.ev2 session) generation := by
  have hcleared := RawEntry.drop_eq hlawful hheld
  have hstandard : entry.standardSession = none := congrArg RawEntry.standardSession hcleared
  have hiso : entry.isoSession = none := congrArg RawEntry.isoSession hcleared
  simp only [RawEntry.opened,RawEntry.put,RawEntry.clearSessions,hstandard,hiso]

theorem lost_vacant (hlawful : entry.Lawful) (hheld : entry.holds .ev2 = true) :
    RawEntry.Vacant {entry with ev2Session := none} := by
  have hcleared := RawEntry.drop_eq hlawful hheld
  have hstandard : entry.standardSession = none := congrArg RawEntry.standardSession hcleared
  have hiso : entry.isoSession = none := congrArg RawEntry.isoSession hcleared
  intro f
  cases f <;> simp [RawEntry.holds,hstandard,hiso]

theorem lawful (h : Fate o entry manner r entry' es) (hnumbered : Numbered o) (hlawful : entry.Lawful) :
    entry'.Lawful := by
  cases h with
  | refused | signalled => exact hlawful
  | cleared | failed | stale | unrenewed => exact (RawEntry.clearSessions_vacant entry).lawful
  | opened session hsound h => exact RawEntry.opened_lawful entry hsound (hnumbered h)
  | lost hheld => exact (lost_vacant hlawful hheld).lawful
  | renewed session hheld _ h =>
    rw [renewed_eq hlawful hheld]
    exact RawEntry.opened_lawful entry (show (RawSession.ev2 session).Sound from trivial) (hnumbered h)
  | carried session hsound hheld => exact RawEntry.put_lawful hlawful hsound hheld
  | ended hheld =>
    rw [RawEntry.drop_eq hlawful hheld]
    exact (RawEntry.clearSessions_vacant entry).lawful

theorem settled (h : Fate o entry manner r entry' es) (hkeys : ¬KeyThrows o) (hlawful : entry.Lawful)
    (hsettled : entry.Settled) : entry'.Settled := by
  cases h with
  | refused | signalled => exact hsettled
  | cleared | failed | stale | unrenewed => exact RawEntry.clearSessions_settled entry
  | opened session hsound h => exact fun _ => ⟨session.family,(RawEntry.holds_opened _ _ _ _).mpr rfl⟩
  | lost hheld _ hthrown => exact absurd hthrown hkeys
  | renewed session hheld h => exact fun _ => ⟨.ev2,rfl⟩
  | carried session hsound hheld => exact fun _ => ⟨session.family,(RawEntry.holds_put hheld _).trans hheld⟩
  | ended hheld =>
    rw [RawEntry.drop_eq hlawful hheld]
    exact RawEntry.clearSessions_settled entry

end Fate

/-- The session of this family is the only one, bound to the generation that was read last. -/
structure RawEntry.Bound (entry : RawEntry) (family : RawFamily) (es : Trace Environment) : Prop where
  only : ∀ f, entry.holds f = true ↔ f = family
  recorded : ReadLast entry.sessionGeneration es

/-- What a call does to the sessions. -/
def Decided {α : Type} (entry : RawEntry) (r : Except Fault α) (entry' : RawEntry) (es : Trace Environment) :
    Manner → Prop
  | .signal => entry' = entry ∧ started es = false
  | .plain => entry'.Vacant
  | .login family => ((∃ f, r = .error f) → entry'.Vacant) ∧ ((∃ a, r = .ok a) → entry'.Bound family es)
  | .renewal => (started es = true → entry.holds .ev2 = true ∧ Current entry es) ∧
      ((∃ f, r = .error f) → entry'.Vacant) ∧ ((∃ a, r = .ok a) → entry'.Bound .ev2 es)
  | .secured family ending => (started es = true ∨ (∃ a, r = .ok a) → entry.holds family = true ∧ Current entry es) ∧
      (entry'.Vacant ∨ entry'.sessionGeneration = entry.sessionGeneration ∧ ∀ f, entry'.holds f = true ↔ f = family) ∧
      ((∃ e, r = .error (.error e)) ∧ family ≠ .iso ∨ (∃ a, r = .ok a) ∧ ending = true → entry'.Vacant)

/-- A call is refused before it starts and leaves the entry as it was, or decides about the sessions. -/
inductive Disposed {α : Type} (entry : RawEntry) (manner : Manner) :
    Except Fault α → RawEntry → Trace Environment → Prop
  | refused {f es} (hes : started es = false) : Disposed entry manner (.error f) entry es
  | decided {r entry' es} (h : Decided entry r entry' es manner) : Disposed entry manner r entry' es

theorem Fate.disposed {α : Type} {o : Oracle Environment} {entry entry' : RawEntry} {manner : Manner}
    {r : Except Fault α} {es : Trace Environment} (h : Fate o entry manner r entry' es) (hlawful : entry.Lawful) :
    Disposed entry manner r entry' es := by
  have hfailed : ∀ {f : Fault}, (∃ a, (.error f : Except Fault α) = .ok a) → False := by
    rintro f ⟨a,ha⟩
    cases ha
  have hreturned : ∀ {a : α}, (∃ f, (.ok a : Except Fault α) = .error f) → False := by
    rintro a ⟨f,hf⟩
    cases hf
  have hvacant := entry.clearSessions_vacant
  cases h with
  | refused f hes => exact .refused hes
  | signalled hes => exact .decided ⟨rfl,hes⟩
  | cleared => exact .decided hvacant
  | failed => exact .decided ⟨fun _ => hvacant,fun h => (hfailed h).elim⟩
  | opened session hsound h hrecorded =>
    exact .decided ⟨fun h => (hreturned h).elim,fun _ => ⟨RawEntry.holds_opened entry session _,hrecorded⟩⟩
  | stale e hes hmanner =>
    have hidle : started es ≠ true := by
      rw [hes]
      exact Bool.false_ne_true
    obtain rfl | ⟨family,ending,rfl⟩ := hmanner
    · exact .decided ⟨fun h => absurd h hidle,fun _ => hvacant,fun h => (hfailed h).elim⟩
    · refine .decided ⟨fun h => ?_,.inl hvacant,fun _ => hvacant⟩
      exact (h.elim (fun h => absurd h hidle) fun h => (hfailed h).elim)
  | unrenewed hheld hcurrent =>
    exact .decided ⟨fun _ => ⟨hheld,hcurrent⟩,fun _ => hvacant,fun h => (hfailed h).elim⟩
  | lost hheld hcurrent =>
    exact .decided ⟨fun _ => ⟨hheld,hcurrent⟩,fun _ => lost_vacant hlawful hheld,fun h => (hfailed h).elim⟩
  | renewed session hheld hcurrent h hrecorded =>
    rw [renewed_eq hlawful hheld]
    refine .decided ⟨fun _ => ⟨hheld,hcurrent⟩,fun h => (hreturned h).elim,fun _ => ?_⟩
    exact ⟨RawEntry.holds_opened entry (.ev2 session) _,hrecorded⟩
  | carried session hsound hheld hcurrent hended hfailing =>
    refine .decided ⟨fun _ => ⟨hheld,hcurrent⟩,.inr ⟨by cases session <;> rfl,fun f => ?_⟩,fun hend => ?_⟩
    · rw [RawEntry.holds_put hheld]
      exact ⟨fun hf => hlawful.exclusive f session.family hf hheld,fun hf => hf ▸ hheld⟩
    · obtain ⟨⟨e,he⟩,hiso⟩ | ⟨hok,hending⟩ := hend
      · exact absurd he (hfailing hiso e)
      · rw [hended hok] at hending
        cases hending
  | ended hheld hcurrent =>
    rw [RawEntry.drop_eq hlawful hheld]
    exact .decided ⟨fun _ => ⟨hheld,hcurrent⟩,.inl hvacant,fun _ => hvacant⟩

/-- What one call does to the sessions. -/
def Orderly (entry : RawEntry) (step : Step Environment RawCall) : Prop :=
  Disposed entry step.operation.manner (step.run RawCall.perform entry).result (step.run RawCall.perform entry).state
    (step.run RawCall.perform entry).events

theorem step_fate (entry : RawEntry) (step : Step Environment RawCall) :
    Fate step.oracle entry step.operation.manner (step.run RawCall.perform entry).result
      (step.run RawCall.perform entry).state (step.run RawCall.perform entry).events := by
  have hfate : Ensures some step.oracle step.operation.perform entry (Fate step.oracle entry step.operation.manner) :=
    perform_fate step.operation entry
  have hrun := hfate step.history
  rw [shown_some] at hrun
  exact hrun

theorem rawOpen_fresh {τ : Type} : Returns (rawOpen : Op τ RawEntry) fun entry =>
    entry.Vacant ∧ entry.sessionGeneration = 0 := by
  refine returns_bind fun capabilities => returns_pure ⟨fun f => ?_,rfl⟩
  cases f <;> rfl

/-- Any sequence of calls on an opened raw channel: at most one session is there, bound to a generation, and each
call does to it what it is for. A generation is left without a session only where a callback of a key request
threw. -/
theorem raw_lifecycle {τ : Type} {o : Oracle Environment} {h : Trace Environment} {s : τ} {entry : RawEntry}
    (hopened : (rawOpen o h s).result = .ok entry) (steps : List (Step Environment RawCall))
    (hnumbered : ∀ step ∈ steps, Numbered step.oracle) :
    (final RawCall.perform entry steps).Lawful ∧ Along RawCall.perform Orderly entry steps ∧
      ((∀ step ∈ steps, ¬KeyThrows step.oracle) → (final RawCall.perform entry steps).Settled) := by
  have hfresh : entry.Vacant ∧ entry.sessionGeneration = 0 := rawOpen_fresh o h s entry hopened
  have hrun : ∀ (steps : List (Step Environment RawCall)) (entry : RawEntry), (∀ step ∈ steps, Numbered step.oracle) →
      entry.Lawful → (final RawCall.perform entry steps).Lawful ∧ Along RawCall.perform Orderly entry steps ∧
        ((∀ step ∈ steps, ¬KeyThrows step.oracle) → entry.Settled → (final RawCall.perform entry steps).Settled) := by
    intro steps
    induction steps with
    | nil => exact fun entry _ hlawful => ⟨hlawful,trivial,fun _ hsettled => hsettled⟩
    | cons step rest ih =>
      intro entry hnumbered hlawful
      have hfate := step_fate entry step
      have hnext := hfate.lawful (hnumbered step List.mem_cons_self) hlawful
      obtain ⟨hfinal,horderly,hsettles⟩ := ih _ (fun later hlater => hnumbered later (List.mem_cons_of_mem _ hlater)) hnext
      refine ⟨hfinal,⟨hfate.disposed hlawful,horderly⟩,fun hkeys hsettled => ?_⟩
      refine hsettles (fun later hlater => hkeys later (List.mem_cons_of_mem _ hlater)) ?_
      exact hfate.settled (hkeys step List.mem_cons_self) hlawful hsettled
  obtain ⟨hfinal,horderly,hsettles⟩ := hrun steps entry hnumbered hfresh.1.lawful
  refine ⟨hfinal,horderly,fun hkeys => hsettles hkeys fun hgeneration => ?_⟩
  exact absurd hfresh.2 hgeneration

/-- A reader of native frames with a card that answers one Standard AES login, and then one frame. -/
def nativeReader : Script where
  limits := {framing := .native}
  generation := 1
  replies := [.ok (0xAF :: zeros 16),.ok (0x00 :: zeros 16),.ok [0x00]]

def nativeEntry : RawEntry := {native := ⟨.direct⟩,iso := false}

theorem rawOpen_nativeReader : (rawOpen (scripted nativeReader) [] ()).result = .ok nativeEntry := rfl

/-- A login under a key of this size. -/
def zeroLogin (keySize : Nat) (before : Trace Environment) : Step Environment RawCall :=
  ⟨.authenticateStandardAes .free 0 (some (zeros keySize)) keySize 1000,scripted nativeReader,before⟩

/-- One frame without data, behind the frames of a login. -/
def plainFrame : Step Environment RawCall :=
  ⟨.nativeFrame .free true dfNative 0x60 none 0 1000 true,scripted nativeReader,
    ((zeroLogin 16 []).run RawCall.perform nativeEntry).events⟩

/-- A login with a key of fifteen bytes fails, and the session before it is still there. -/
theorem zeroLogin_survived :
    let opened := final RawCall.perform nativeEntry [zeroLogin 16 []]
    let failing := (zeroLogin 15 []).run RawCall.perform opened
    opened.holds .standardAes = true ∧ (∃ e, failing.result = .error (.error e)) ∧
      failing.state.holds .standardAes = true := by
  refine ⟨by decide,⟨invalid "AES-128 key must contain exactly 16 bytes",?_⟩,by decide⟩
  decide

/-- A login, a login that is refused, and a plain frame that ends the session. -/
theorem raw_lifecycle_plainFrame :
    let steps := [zeroLogin 16 [],zeroLogin 15 [],plainFrame]
    (final RawCall.perform nativeEntry steps).Lawful ∧ Along RawCall.perform Orderly nativeEntry steps ∧
      (final RawCall.perform nativeEntry steps).Settled := by
  intro steps
  have horacle : ∀ step ∈ steps, step.oracle = scripted nativeReader := by
    intro step hstep
    simp only [steps,List.mem_cons,List.not_mem_nil,or_false] at hstep
    rcases hstep with rfl | rfl | rfl <;> rfl
  have hnumbered : ∀ step ∈ steps, Numbered step.oracle := by
    intro step hstep h
    rw [horacle step hstep]
    exact (by decide : (1 : UInt64) ≠ 0)
  have hkeys : ∀ step ∈ steps, ¬KeyThrows step.oracle := by
    intro step hstep
    rw [horacle step hstep]
    rintro (⟨_,_,hthrown⟩ | ⟨_,hthrown⟩) <;> cases hthrown
  obtain ⟨hlawful,horderly,hsettled⟩ := raw_lifecycle rawOpen_nativeReader steps hnumbered
  exact ⟨hlawful,horderly,hsettled hkeys⟩

end DesfireSdk.CApi
