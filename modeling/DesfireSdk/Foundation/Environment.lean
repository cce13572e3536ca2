import DesfireSdk.Interaction.Program
import DesfireSdk.Model.Authentication

/-!
The reader, the clock, the cryptographic provider and the key services as one
environment. Nothing is assumed of them here: every answer may depend on all
earlier questions, and each call may return an error or throw.
-/
namespace DesfireSdk
open Interaction

inductive Framing
  | native | iso7816
  deriving DecidableEq, Repr

/-- Hard bounds of the opened connection. -/
structure TransportCapabilities where
  framing : Framing := .iso7816
  maxTransmit : Nat := 261
  maxReceive : Nat := 65538
  maxNativeFrame : Nat := 60
  deriving DecidableEq, Repr

/-- Milliseconds for a requested exchange; the cancellation token is asked for where it is read. -/
structure ExchangeOptions where
  timeout : Int := 5000
  deriving DecidableEq, Repr

/-- The cancellation tokens a managed operation reads. -/
inductive StopToken
  | operation | request | combined
  deriving DecidableEq, Repr

/-- The operation locks with their activity flags. -/
inductive Gate
  | card | native | iso
  deriving DecidableEq, Repr

/-- Whether a lock was acquired, and whether an outer operation was active under it. -/
inductive Admission
  | entered | busy | failed
  deriving DecidableEq, Repr

/-- What the transport did with one frame, and the generation it had when it took the frame. -/
structure Handover where
  generation : UInt64
  answer : Except Fault Bytes
  deriving DecidableEq

inductive Query
  | now
  | generation
  | capabilities
  | stopRequested (token : StopToken)
  | admission (gate : Gate)
  | exchange (frame : Bytes) (options : ExchangeOptions)
  | resetCard
  | random (size : Nat)
  | cbc (key iv input : Bytes) (encrypt : Bool)
  | cmac (key input : Bytes)
  | derive (masterKey : Model.Aes128Key) (context : Model.Aes128DerivationContext)
  | resolve (request : Model.KeyRequest)
  /-- Asks the caller of a key request whether it is cancelled. -/
  | requestCancelled

/-- Clock readings are nanoseconds; no capabilities stand for an exception. -/
@[reducible] def Query.Reply : Query → Type
  | now => Int
  | generation => UInt64
  | capabilities => Option TransportCapabilities
  | stopRequested _ => Bool
  | admission _ => Admission
  | exchange _ _ => Handover
  | resetCard => Except Fault Unit
  | random _ | cbc .. | cmac .. => Except Fault Bytes
  | derive .. | resolve _ => Except Fault Model.Aes128Key
  | requestCancelled => Except Fault Bool

abbrev Environment : Signature := ⟨Query,Query.Reply⟩

/-- An operation on an object of type `τ`. -/
abbrev Op (τ α : Type) := Program Environment τ Fault α

namespace Op
variable {τ α : Type}

def reject (e : Error) : Op τ α := Program.fail (.error e)

def refuse (c : Prop) [Decidable c] (e : Error) : Op τ Unit := Program.refuse c (.error e)

/-- Updates the object and fails when the condition holds. -/
def refuseAfter (cleanup : τ → τ) (c : Prop) [Decidable c] (e : Error) : Op τ Unit :=
  if c then do
    Program.modify cleanup
    reject e
  else pure ()

/-- A returned error as the failure of a call. -/
def lift : Result α → Except Fault α
  | .ok a => .ok a
  | .error e => .error (.error e)

def ofResult (r : Result α) : Op τ α := Program.ofExcept (lift r)

def afterError (cleanup : Error → τ → τ) : Except Fault α → τ → Except Fault α × τ
  | .error (.error e),s => (.error (.error e),cleanup e s)
  | r,s => (r,s)

/-- Updates the object before an error is returned, but not when an exception passes. -/
def onError (cleanup : Error → τ → τ) : Op τ α → Op τ α := Program.settle (afterError cleanup)

def changeError (f : Error → Error) : Except Fault α → τ → Except Fault α × τ
  | .error (.error e),s => (.error (.error (f e)),s)
  | r,s => (r,s)

/-- Changes the error a call returned. -/
def mapError (f : Error → Error) : Op τ α → Op τ α := Program.settle (changeError f)

def afterThrow (cleanup : τ → τ) (e : Error) : Except Fault α → τ → Except Fault α × τ
  | .error .thrown,s => (.error (.error e),cleanup s)
  | r,s => (r,s)

/-- Turns an exception into an error after updating the object. -/
def catchAll (cleanup : τ → τ) (e : Error) : Op τ α → Op τ α :=
  Program.settle (afterThrow cleanup e)

def errorOfThrow (error : τ → Error) : Except Fault α → τ → Except Fault α × τ
  | .error .thrown,s => (.error (.error (error s)),s)
  | r,s => (r,s)

/-- Turns an exception into an error that depends on the object it left. -/
def recover (error : τ → Error) : Op τ α → Op τ α := Program.settle (errorOfThrow error)

/-- The value of a result that is never an error; an error would throw. -/
def value : Result α → Op τ α
  | .ok a => pure a
  | .error _ => Program.fail .thrown

/-- Changes what a call returns. -/
def returning {β : Type} (f : α → β) : Op τ α → Op τ β := Program.settle fun r s => (r.map f,s)

def now : Op τ Int := Program.ask (S := Environment) .now
def generation : Op τ UInt64 := Program.ask (S := Environment) .generation
def stopRequested (token : StopToken) : Op τ Bool :=
  Program.ask (S := Environment) (.stopRequested token)
def admission (gate : Gate) : Op τ Admission := Program.ask (S := Environment) (.admission gate)

def capabilities : Op τ TransportCapabilities := do
  match ← Program.ask (S := Environment) .capabilities with
  | some limits => pure limits
  | none => Program.fail .thrown

def transportExchange (frame : Bytes) (options : ExchangeOptions) : Op τ Bytes := do
  let handover ← Program.ask (S := Environment) (.exchange frame options)
  Program.ofExcept handover.answer

/-- The result of a primitive whose output must have an exact size. -/
def sized (message : String) (expected : Nat) : Except Fault Bytes → Except Fault Bytes
  | .ok output => if output.length = expected then .ok output
    else .error (.error ⟨.crypto,message,.notSent,0⟩)
  | .error f => .error f

/-- Requires the exact output size of a primitive. -/
def secretOutput (message : String) (p : Op τ Bytes) (expected : Nat) : Op τ Bytes :=
  Program.settle (fun r s => (sized message expected r,s)) p

def resetCard : Op τ Unit := do
  let answer ← Program.ask (S := Environment) .resetCard
  Program.ofExcept answer

def random (size : Nat) : Op τ Bytes := do
  let answer ← Program.ask (S := Environment) (.random size)
  Program.ofExcept answer

def cbc (key iv input : Bytes) (encrypt : Bool) : Op τ Bytes := do
  let answer ← Program.ask (S := Environment) (.cbc key iv input encrypt)
  Program.ofExcept answer

def cmac (key input : Bytes) : Op τ Bytes := do
  let answer ← Program.ask (S := Environment) (.cmac key input)
  Program.ofExcept answer

def derive (masterKey : Model.Aes128Key) (context : Model.Aes128DerivationContext) :
    Op τ Model.Aes128Key := do
  let answer ← Program.ask (S := Environment) (.derive masterKey context)
  Program.ofExcept answer

def resolve (request : Model.KeyRequest) : Op τ Model.Aes128Key := do
  let answer ← Program.ask (S := Environment) (.resolve request)
  Program.ofExcept answer

def requestCancelled : Op τ Bool := do
  let answer ← Program.ask (S := Environment) .requestCancelled
  Program.ofExcept answer

section Rules
open Program
variable {o : Oracle Environment} {s : τ}

@[simp] theorem lift_ok (a : α) : lift (.ok a) = .ok a := rfl
@[simp] theorem lift_error (e : Error) : lift (.error e : Result α) = .error (.error e) := rfl

@[simp] theorem afterError_ok (cleanup : Error → τ → τ) (a : α) :
    afterError cleanup (.ok a) s = (.ok a,s) := rfl
@[simp] theorem afterError_error (cleanup : Error → τ → τ) (e : Error) :
    afterError cleanup (.error (.error e) : Except Fault α) s = (.error (.error e),cleanup e s) := rfl
@[simp] theorem afterError_thrown (cleanup : Error → τ → τ) :
    afterError cleanup (.error .thrown : Except Fault α) s = (.error .thrown,s) := rfl

@[simp] theorem changeError_ok (f : Error → Error) (a : α) :
    changeError f (.ok a) s = (.ok a,s) := rfl
@[simp] theorem changeError_error (f : Error → Error) (e : Error) :
    changeError f (.error (.error e) : Except Fault α) s = (.error (.error (f e)),s) := rfl
@[simp] theorem changeError_thrown (f : Error → Error) :
    changeError f (.error .thrown : Except Fault α) s = (.error .thrown,s) := rfl

@[simp] theorem afterThrow_ok (cleanup : τ → τ) (e : Error) (a : α) :
    afterThrow cleanup e (.ok a) s = (.ok a,s) := rfl
@[simp] theorem afterThrow_error (cleanup : τ → τ) (e e' : Error) :
    afterThrow cleanup e (.error (.error e') : Except Fault α) s = (.error (.error e'),s) := rfl
@[simp] theorem afterThrow_thrown (cleanup : τ → τ) (e : Error) :
    afterThrow cleanup e (.error .thrown : Except Fault α) s = (.error (.error e),cleanup s) := rfl

variable {ω β : Type} {view : Event Environment → Option ω}

theorem ensures_onError {cleanup : Error → τ → τ} {p : Op τ α}
    {post : Except Fault α → τ → List ω → Prop}
    (hp : Ensures view o p s fun r s' ds => post (afterError cleanup r s').1 (afterError cleanup r s').2 ds) :
    Ensures view o (onError cleanup p) s post :=
  hp

theorem ensures_mapError {f : Error → Error} {p : Op τ α}
    {post : Except Fault α → τ → List ω → Prop}
    (hp : Ensures view o p s fun r s' ds => post (changeError f r s').1 (changeError f r s').2 ds) :
    Ensures view o (mapError f p) s post :=
  hp

theorem ensures_catchAll {cleanup : τ → τ} {e : Error} {p : Op τ α}
    {post : Except Fault α → τ → List ω → Prop}
    (hp : Ensures view o p s fun r s' ds => post (afterThrow cleanup e r s').1 (afterThrow cleanup e r s').2 ds) :
    Ensures view o (catchAll cleanup e p) s post :=
  hp

theorem ensures_returning {γ : Type} {f : α → γ} {p : Op τ α} {post : Except Fault γ → τ → List ω → Prop}
    (hp : Ensures view o p s fun r s' ds => post (r.map f) s' ds) :
    Ensures view o (returning f p) s post :=
  hp

theorem catchAll_not_thrown {cleanup : τ → τ} {e : Error} {p : Op τ α} (o : Oracle Environment)
    (h : Trace Environment) (s : τ) : (catchAll cleanup e p o h s).result ≠ .error .thrown := by
  change (afterThrow cleanup e (p o h s).result (p o h s).state).1 ≠ _
  rcases (p o h s).result with (_ | _) | _ <;> simp

theorem returns_catchAll {cleanup : τ → τ} {e : Error} {p : Op τ α} {property : α → Prop}
    (hp : Returns p property) : Returns (catchAll cleanup e p) property := by
  intro o h s a ha
  refine hp o h s a ?_
  change (afterThrow cleanup e (p o h s).result (p o h s).state).1 = .ok a at ha
  generalize (p o h s).result = r at ha
  rcases r with (_ | _) | _ <;> cases ha
  rfl

theorem returns_mapError {f : Error → Error} {p : Op τ α} {property : α → Prop}
    (hp : Returns p property) : Returns (mapError f p) property := by
  intro o h s a ha
  refine hp o h s a ?_
  change (changeError f (p o h s).result (p o h s).state).1 = .ok a at ha
  generalize (p o h s).result = r at ha
  rcases r with (_ | _) | _ <;> cases ha
  rfl

theorem ensures_secretOutput {message : String} {p : Op τ Bytes} {expected : Nat}
    {post : Except Fault Bytes → τ → List ω → Prop}
    (hp : Ensures view o p s fun r s' ds => post (sized message expected r) s' ds) :
    Ensures view o (secretOutput message p expected) s post :=
  hp

theorem sized_ok {message : String} {expected : Nat} {r : Except Fault Bytes} {output : Bytes}
    (h : sized message expected r = .ok output) : r = .ok output ∧ output.length = expected := by
  cases r with
  | error f => cases h
  | ok bytes =>
    simp only [sized] at h
    split at h <;> cases h
    exact ⟨rfl,‹_›⟩

/-- Only the provider's own error can claim a rejection. -/
theorem sized_rejected {message : String} {expected : Nat} {r : Except Fault Bytes} {e : Error}
    (h : sized message expected r = .error (.error e)) (he : e.outcome = .rejected) :
    r = .error (.error e) := by
  cases r with
  | error f => cases h; rfl
  | ok bytes =>
    simp only [sized] at h
    split at h <;> cases h
    cases he

theorem sized_of_length {message : String} {expected : Nat} {output : Bytes}
    (h : output.length = expected) : sized message expected (.ok output) = .ok output := if_pos h

theorem ensures_reject {e : Error} {post : Except Fault α → τ → List ω → Prop}
    (he : post (.error (.error e)) s []) : Ensures view o (reject e) s post :=
  fun _ => he

theorem ensures_ofResult {r : Result α} {post : Except Fault α → τ → List ω → Prop}
    (hr : post (lift r) s []) : Ensures view o (ofResult r) s post :=
  ensures_ofExcept hr

variable {post : Except Fault β → τ → List ω → Prop}

theorem ensures_refuse_bind {c : Prop} [Decidable c] {e : Error} {f : Unit → Op τ β}
    (hrefused : c → post (.error (.error e)) s []) (hpassed : ¬c → Ensures view o (f ()) s post) :
    Ensures view o (refuse c e >>= f) s post :=
  Program.ensures_refuse_bind hrefused hpassed

theorem ensures_refuseAfter_bind {cleanup : τ → τ} {c : Prop} [Decidable c] {e : Error}
    {f : Unit → Op τ β} (hrefused : c → post (.error (.error e)) (cleanup s) [])
    (hpassed : ¬c → Ensures view o (f ()) s post) :
    Ensures view o (refuseAfter cleanup c e >>= f) s post := by
  by_cases hc : c
  · refine ensures_bind (m := fun r s' ds => r = .error (.error e) ∧ s' = cleanup s ∧ ds = []) ?_ ?_ ?_
    · intro h
      simp only [refuseAfter,if_pos hc]
      exact ⟨rfl,rfl,rfl⟩
    · rintro _ _ _ ⟨⟨⟩,rfl,rfl⟩
      exact hrefused hc
    · rintro _ _ _ ⟨⟨⟩,_⟩
  · simp only [refuseAfter,if_neg hc]
    exact ensures_pure_bind (hpassed hc)

theorem ensures_ofResult_bind {r : Result α} {f : α → Op τ β}
    (herror : ∀ e, r = .error e → post (.error (.error e)) s [])
    (hok : ∀ a, r = .ok a → Ensures view o (f a) s post) :
    Ensures view o (ofResult r >>= f) s post := by
  refine ensures_bind (m := fun r' s' ds => r' = lift r ∧ s' = s ∧ ds = [])
    (ensures_ofResult ⟨rfl,rfl,rfl⟩) ?_ ?_ <;> rintro x _ _ ⟨hx,rfl,rfl⟩ <;> cases hr : r <;>
    rw [hr] at hx <;> cases hx
  · exact herror _ hr
  · exact hok _ hr

theorem ensures_value_bind {r : Result α} {f : α → Op τ β}
    (herror : ∀ e, r = .error e → post (.error .thrown) s [])
    (hok : ∀ a, r = .ok a → Ensures view o (f a) s post) : Ensures view o (value r >>= f) s post := by
  cases hr : r with
  | error e =>
    refine ensures_bind (m := fun r' s' ds => r' = .error .thrown ∧ s' = s ∧ ds = [])
      (ensures_fail ⟨rfl,rfl,rfl⟩) ?_ ?_
    · rintro _ _ _ ⟨⟨⟩,rfl,rfl⟩
      exact herror e hr
    · rintro _ _ _ ⟨⟨⟩,_⟩
  | ok a => exact ensures_pure_bind (hok a hr)

theorem ensures_now_bind {f : Int → Op τ β}
    (hf : ∀ t, Ensures view o (f t) s fun r s' ds => post r s' ((view ⟨.now,t⟩).toList ++ ds)) :
    Ensures view o (now >>= f) s post :=
  ensures_ask_bind fun _ => hf _

theorem ensures_generation_bind {f : UInt64 → Op τ β}
    (hf : ∀ g, Ensures view o (f g) s fun r s' ds => post r s' ((view ⟨.generation,g⟩).toList ++ ds)) :
    Ensures view o (generation >>= f) s post :=
  ensures_ask_bind fun _ => hf _

theorem ensures_stopRequested_bind {token : StopToken} {f : Bool → Op τ β}
    (hf : ∀ b, Ensures view o (f b) s fun r s' ds =>
      post r s' ((view ⟨.stopRequested token,b⟩).toList ++ ds)) :
    Ensures view o (stopRequested token >>= f) s post :=
  ensures_ask_bind fun _ => hf _

theorem ensures_admission_bind {gate : Gate} {f : Admission → Op τ β}
    (hf : ∀ a, Ensures view o (f a) s fun r s' ds =>
      post r s' ((view ⟨.admission gate,a⟩).toList ++ ds)) :
    Ensures view o (admission gate >>= f) s post :=
  ensures_ask_bind fun _ => hf _

theorem ensures_capabilities_bind {f : TransportCapabilities → Op τ β}
    (hthrown : post (.error .thrown) s (view ⟨.capabilities,none⟩).toList)
    (hf : ∀ h limits, o h .capabilities = some limits →
      Ensures view o (f limits) s fun r s' ds =>
        post r s' ((view ⟨.capabilities,some limits⟩).toList ++ ds)) :
    Ensures view o (capabilities >>= f) s post := by
  refine ensures_bind
    (m := fun r s' ds => s' = s ∧ ∃ h,
      (o h .capabilities = none ∧ r = .error .thrown ∧ ds = (view ⟨.capabilities,none⟩).toList) ∨
        ∃ limits, o h .capabilities = some limits ∧ r = .ok limits ∧
          ds = (view ⟨.capabilities,some limits⟩).toList) ?_ ?_ ?_
  · refine ensures_ask_bind fun h => ?_
    cases hc : o h .capabilities with
    | none => exact ensures_fail ⟨rfl,h,.inl ⟨hc,rfl,List.append_nil _⟩⟩
    | some limits => exact ensures_pure ⟨rfl,h,.inr ⟨limits,hc,rfl,List.append_nil _⟩⟩
  · rintro _ _ _ ⟨rfl,h,⟨_,⟨⟩,rfl⟩ | ⟨_,_,⟨⟩,_⟩⟩
    exact hthrown
  · rintro _ _ _ ⟨rfl,h,⟨_,⟨⟩,_⟩ | ⟨limits,hc,⟨⟩,rfl⟩⟩
    exact hf h _ hc

theorem ensures_transportExchange {frame : Bytes} {options : ExchangeOptions} {post : Except Fault Bytes → τ → List ω → Prop}
    (hp : ∀ reply : Handover, post reply.answer s (view ⟨.exchange frame options,reply⟩).toList) :
    Ensures view o (transportExchange frame options) s post := by
  refine ensures_ask_bind fun h => ensures_ofExcept ?_
  rw [List.append_nil]
  exact hp _

theorem ensures_random {size : Nat} {post : Except Fault Bytes → τ → List ω → Prop}
    (hp : ∀ reply : Except Fault Bytes, post reply s (view ⟨.random size,reply⟩).toList) :
    Ensures view o (random size) s post := by
  refine ensures_ask_bind fun h => ensures_ofExcept ?_
  rw [List.append_nil]
  exact hp _

theorem ensures_cbc {key iv input : Bytes} {encrypt : Bool} {post : Except Fault Bytes → τ → List ω → Prop}
    (hp : ∀ h, post (o h (.cbc key iv input encrypt)) s (view ⟨.cbc key iv input encrypt,o h (.cbc key iv input encrypt)⟩).toList) :
    Ensures view o (cbc key iv input encrypt) s post := by
  refine ensures_ask_bind fun h => ensures_ofExcept ?_
  rw [List.append_nil]
  exact hp _

theorem ensures_cmac {key input : Bytes} {post : Except Fault Bytes → τ → List ω → Prop}
    (hp : ∀ h, post (o h (.cmac key input)) s (view ⟨.cmac key input,o h (.cmac key input)⟩).toList) :
    Ensures view o (cmac key input) s post := by
  refine ensures_ask_bind fun h => ensures_ofExcept ?_
  rw [List.append_nil]
  exact hp _

theorem ensures_derive {masterKey : Model.Aes128Key}
    {context : Model.Aes128DerivationContext} {post : Except Fault Model.Aes128Key → τ → List ω → Prop}
    (hp : ∀ reply : Except Fault Model.Aes128Key, post reply s (view ⟨.derive masterKey context,reply⟩).toList) :
    Ensures view o (derive masterKey context) s post := by
  refine ensures_ask_bind fun h => ensures_ofExcept ?_
  rw [List.append_nil]
  exact hp _

theorem ensures_resolve {request : Model.KeyRequest} {post : Except Fault Model.Aes128Key → τ → List ω → Prop}
    (hp : ∀ reply : Except Fault Model.Aes128Key, post reply s (view ⟨.resolve request,reply⟩).toList) :
    Ensures view o (resolve request) s post := by
  refine ensures_ask_bind fun h => ensures_ofExcept ?_
  rw [List.append_nil]
  exact hp _

/-- Every way one primitive with a required output size can end, with its one event. -/
inductive PrimitiveCase (cleanup : τ → τ) (change : Error → Error) (message : String) (expected : Nat)
    (event : Except Fault Bytes → Event Environment) (s : τ) :
    Except Fault Bytes → τ → Trace Environment → Prop
  | failed (reply : Except Fault Bytes) (e : Error)
      (hreply : sized message expected reply = .error (.error e)) :
      PrimitiveCase cleanup change message expected event s (.error (.error (change e))) (cleanup s)
        [event reply]
  | threw : PrimitiveCase cleanup change message expected event s (.error .thrown) s
      [event (.error .thrown)]
  | computed (output : Bytes) (hsize : output.length = expected) :
      PrimitiveCase cleanup change message expected event s (.ok output) s [event (.ok output)]

theorem primitive_cases {message : String} {expected : Nat}
    {event : Except Fault Bytes → Event Environment} (reply : Except Fault Bytes) :
    PrimitiveCase id id message expected event s (sized message expected reply) s [event reply] := by
  cases hreply : sized message expected reply with
  | ok output =>
    obtain ⟨rfl,hsize⟩ := sized_ok hreply
    exact .computed output hsize
  | error f =>
    cases f with
    | error e => exact .failed reply e hreply
    | thrown =>
      cases reply with
      | error f => cases hreply; exact .threw
      | ok output => simp only [sized] at hreply; split at hreply <;> cases hreply

theorem PrimitiveCase.cleaned {message : String} {expected : Nat}
    {event : Except Fault Bytes → Event Environment} {p : Op τ Bytes} (cleanup : τ → τ)
    (hp : Ensures some o p s (PrimitiveCase id id message expected event s)) :
    Ensures some o (onError (fun _ => cleanup) p) s
      (PrimitiveCase cleanup id message expected event s) := by
  refine ensures_onError (hp.mono ?_)
  rintro _ _ _ (⟨reply,e,hreply⟩ | _ | ⟨output,hsize⟩)
  · exact .failed reply e hreply
  · exact .threw
  · exact .computed output hsize

theorem PrimitiveCase.change {cleanup : τ → τ} {message : String} {expected : Nat}
    {event : Except Fault Bytes → Event Environment} {p : Op τ Bytes} (change : Error → Error)
    (hp : Ensures some o p s (PrimitiveCase cleanup id message expected event s)) :
    Ensures some o (mapError change p) s (PrimitiveCase cleanup change message expected event s) := by
  refine ensures_mapError (hp.mono ?_)
  rintro _ _ _ (⟨reply,e,hreply⟩ | _ | ⟨output,hsize⟩)
  · exact .failed reply e hreply
  · exact .threw
  · exact .computed output hsize

theorem cmac_secret (message : String) (key input : Bytes) (expected : Nat) :
    Ensures some o (secretOutput message (cmac key input) expected) s
      (PrimitiveCase id id message expected (fun reply => ⟨.cmac key input,reply⟩) s) :=
  ensures_secretOutput (ensures_cmac fun _ => primitive_cases _)

theorem cbc_secret (message : String) (key iv input : Bytes) (encrypt : Bool) (expected : Nat) :
    Ensures some o (secretOutput message (cbc key iv input encrypt) expected) s
      (PrimitiveCase id id message expected (fun reply => ⟨.cbc key iv input encrypt,reply⟩) s) :=
  ensures_secretOutput (ensures_cbc fun _ => primitive_cases _)

theorem cmac_cases (cleanup : τ → τ) (message : String) (key input : Bytes) (expected : Nat) :
    Ensures some o (onError (fun _ => cleanup) (secretOutput message (cmac key input) expected)) s
      (PrimitiveCase cleanup id message expected (fun reply => ⟨.cmac key input,reply⟩) s) :=
  .cleaned cleanup (cmac_secret _ _ _ _)

theorem cbc_cases (cleanup : τ → τ) (message : String) (key iv input : Bytes) (encrypt : Bool)
    (expected : Nat) :
    Ensures some o
      (onError (fun _ => cleanup) (secretOutput message (cbc key iv input encrypt) expected)) s
      (PrimitiveCase cleanup id message expected (fun reply => ⟨.cbc key iv input encrypt,reply⟩) s) :=
  .cleaned cleanup (cbc_secret _ _ _ _ _ _)

end Rules
end Op
end DesfireSdk
