import DesfireSdk.Transports.Engine

/-! The connection that an application's own callbacks make. -/
namespace DesfireSdk.Transports
open Interaction Program

/-- What an application gives for its reader; a callback may be missing. The notifications are those that
arrive before they are asked for again. -/
structure TransportCallbacks (R : Signature) where
  notifications : Program (Host R) Unit Empty Nat
  exchange : Option (Bytes → ExchangeOptions → Program (Host R) Unit Fault Bytes)
  reset : Option (Program (Host R) Unit Fault Unit)

namespace Callback
variable {R : Signature}

/-- The object of a callback connection is its generation. -/
def notifyStateChange {ε : Type} (count : Nat) : Program (Host R) UInt64 ε Unit :=
  modify fun generation => generation + UInt64.ofNat count

/-- Reads the generation. Notifications come from other threads; nothing sees them before the next reading. -/
def generation (callbacks : TransportCallbacks R) : Program (Host R) UInt64 Empty UInt64 := do
  let current ← get
  let count ← within () callbacks.notifications
  notifyStateChange count
  pure current

def exchange (capabilities : TransportCapabilities) (callbacks : TransportCallbacks R) (frame : Bytes)
    (options : ExchangeOptions) : Program (Host R) UInt64 Fault Bytes :=
  match callbacks.exchange with
  | none => fail (.error (invalid "An exchange callback is required"))
  | some callback => do
    let stopped ← onHost (.stopRequested .operation)
    refuse (stopped = true) (.error ⟨.cancelled,"Cancelled before invoking the reader",.notSent,0⟩)
    refuse (options.timeout ≤ 0 ∨ capabilities.maxTransmit < frame.length)
      (.error (invalid "Callback exchange exceeds configured limits"))
    -- A callback may throw after it sent the frame.
    let response ← settle (Op.afterThrow id ⟨.transport,"Reader callback threw an exception",.unknown,0⟩)
      (within () (callback frame options))
    refuse (capabilities.maxReceive < response.length)
      (.error ⟨.malformedResponse,"Reader response exceeds its limit",.unknown,0⟩)
    pure response

/-- The generation advances before the reset, which may fail after it reached the card. -/
def reset (callbacks : TransportCallbacks R) : Program (Host R) UInt64 Fault Unit :=
  match callbacks.reset with
  | none => fail (.error ⟨.unsupported,"Reader reset callback is unavailable",.notSent,0⟩)
  | some callback => do
    notifyStateChange 1
    settle (Op.afterThrow id ⟨.transport,"Reader reset callback threw an exception",.unknown,0⟩) (within () callback)

def transport (capabilities : TransportCapabilities) (callbacks : TransportCallbacks R) : CardTransport R UInt64 where
  capabilities := capabilities
  generation := generation callbacks
  exchange := exchange capabilities callbacks
  reset := reset callbacks

/-- The reader took the frame unless the answer denies it. -/
structure Handed (taken : Event (Host R) → Option Bytes) (weight : Event (Host R) → Nat) (frame : Bytes)
    (r : Except Fault Bytes) (es : Trace (Host R)) : Prop where
  still : CardTransport.changes weight es = 0
  frames : shown taken es = if CardTransport.withheld r then [] else [frame]

/-- Callbacks that take a frame exactly when they do not deny it, and count one change for each reset and each
notification. -/
structure Sound (callbacks : TransportCallbacks R) (taken : Event (Host R) → Option Bytes)
    (weight : Event (Host R) → Nat) : Prop where
  untaken : ∀ query reply, taken ⟨.host query,reply⟩ = none
  weightless : ∀ query reply, weight ⟨.host query,reply⟩ = 0
  notifications : ∀ o, Ensures some o callbacks.notifications () fun r _ es =>
    r = .ok (CardTransport.changes weight es) ∧ shown taken es = []
  exchange : ∀ callback, callbacks.exchange = some callback → ∀ o frame options,
    Ensures some o (callback frame options) () fun r _ es => Handed taken weight frame r es
  reset : ∀ callback, callbacks.reset = some callback → ∀ o,
    Ensures some o callback () fun _ _ es => CardTransport.changes weight es = 1 ∧ shown taken es = []

section Soundness
variable {callbacks : TransportCallbacks R} {taken : Event (Host R) → Option Bytes} {weight : Event (Host R) → Nat}
  {capabilities : TransportCapabilities} {o : Oracle (Host R)} {s : UInt64} {frame : Bytes} {options : ExchangeOptions}

theorem Sound.untold (hsound : Sound callbacks taken weight) {e : Error} {es : Trace (Host R)}
    (he : e.outcome = .notSent) (hes : Hosted es) : Handed taken weight frame (.error (.error e)) es where
  still := CardTransport.changes_hosted hes hsound.weightless
  frames := by simp [hes.shown hsound.untaken,CardTransport.withheld,he]

/-- Questions to the host and later failures after delivery leave it as it was. -/
theorem Handed.after (hsound : Sound callbacks taken weight) {r r' : Except Fault Bytes} {before es : Trace (Host R)}
    (h : Handed taken weight frame r es) (hbefore : Hosted before)
    (hr : CardTransport.withheld r' = CardTransport.withheld r) : Handed taken weight frame r' (before ++ es) where
  still := by simp [CardTransport.changes_hosted hbefore hsound.weightless,h.still]
  frames := by rw [shown_append,hbefore.shown hsound.untaken,h.frames,hr,List.nil_append]

theorem withheld_contained {message : String} (r : Except Fault Bytes) (s : UInt64) :
    CardTransport.withheld (Op.afterThrow id ⟨.transport,message,.unknown,0⟩ r s).1 = CardTransport.withheld r := by
  rcases r with (e | _) | bytes <;> rfl

theorem contained_state {α : Type} {message : String} (r : Except Fault α) (s : UInt64) :
    (Op.afterThrow id ⟨.transport,message,.unknown,0⟩ r s).2 = s := by
  rcases r with (e | _) | bytes <;> rfl

theorem exchange_handed (hsound : Sound callbacks taken weight) :
    Ensures some o (exchange capabilities callbacks frame options) s fun r s' es =>
      s' = s ∧ Handed taken weight frame r es := by
  unfold exchange
  split
  · exact ensures_fail ⟨rfl,hsound.untold rfl hosted_nil⟩
  rename_i callback hcallback
  refine ensures_ask_bind fun h => ?_
  have hbefore : Hosted (R := R) [⟨.host (.stopRequested .operation),o h (.host (.stopRequested .operation))⟩] :=
    hosted_host _ _
  refine ensures_refuse_bind (fun _ => ⟨rfl,hsound.untold rfl hbefore⟩) fun _ => ?_
  refine ensures_refuse_bind (fun _ => ⟨rfl,hsound.untold rfl hbefore⟩) fun _ => ?_
  refine ensures_bind (m := fun r s' es => s' = s ∧ Handed taken weight frame r es) (ensures_settle (ensures_within ?_)) ?_ ?_
  · refine (hsound.exchange callback hcallback o frame options).mono fun r _ es h => ⟨contained_state r s,h.still,?_⟩
    rw [withheld_contained]
    exact h.frames
  · intro fault s' es h
    exact ⟨h.1,h.2.after hsound hbefore rfl⟩
  · intro response s' es h
    obtain ⟨rfl,h⟩ := h
    refine ensures_refuse_bind (fun _ => ⟨rfl,?_⟩) fun _ => ensures_pure ⟨rfl,?_⟩
    · rw [List.append_nil]
      exact h.after hsound hbefore rfl
    · rw [List.append_nil]
      exact h.after hsound hbefore rfl

theorem reset_moves (hsound : Sound callbacks taken weight) : Ensures some o (reset callbacks) s fun _ s' es =>
    CardTransport.Moves weight id s s' es ∧ shown taken es = [] := by
  unfold reset
  split
  · exact ensures_fail ⟨CardTransport.Moves.refl s,rfl⟩
  rename_i callback hcallback
  refine ensures_modify_bind (ensures_settle (ensures_within ?_))
  refine (hsound.reset callback hcallback o).mono fun r _ es h => ⟨?_,h.2⟩
  rw [contained_state]
  simp [CardTransport.Moves,h.1]

theorem generation_moves (hsound : Sound callbacks taken weight) : Ensures some o (generation callbacks) s fun r s' es =>
    r = .ok s ∧ CardTransport.Moves weight id s s' es ∧ shown taken es = [] := by
  refine ensures_get_bind (ensures_bind (m := fun r s' es => s' = s ∧ r = .ok (CardTransport.changes weight es) ∧
    shown taken es = []) (ensures_within ?_) (fun e => nomatch e) ?_)
  · exact (hsound.notifications o).mono fun r _ es h => ⟨rfl,h⟩
  · intro count s' es h
    obtain ⟨rfl,hcount,htaken⟩ := h
    cases hcount
    refine ensures_modify_bind (ensures_pure ⟨rfl,?_,?_⟩)
    · simp [CardTransport.Moves]
    · simpa using htaken

/-- A frame is said not to be sent exactly when the callback denies it or was not called. -/
theorem transport_evident (hsound : Sound callbacks taken weight) : (transport capabilities callbacks).Evident taken where
  host := hsound.untaken
  generation _ _ := (generation_moves hsound).through fun _ _ _ h => h.2.2
  reset _ _ := (reset_moves hsound).through fun _ _ _ h => h.2
  exchange _ _ _ _ := (exchange_handed hsound).through fun _ _ _ h => h.2.frames

theorem transport_counts (hsound : Sound callbacks taken weight) : (transport capabilities callbacks).Counts weight id where
  host := hsound.weightless
  generation _ _ := (generation_moves hsound).mono fun _ _ _ h => ⟨h.1,h.2.1⟩
  exchange _ _ _ _ := (exchange_handed hsound).mono fun _ s' es h => by
    simp [CardTransport.Moves,h.1,h.2.still]
  reset _ _ := (reset_moves hsound).mono fun _ _ _ h => h.1

/-- Callbacks whose errors deny a frame or leave it open make a connection that does so too. -/
theorem transport_candid (hcandid : ∀ callback, callbacks.exchange = some callback → ∀ frame options,
    Ensures some o (callback frame options) () fun r _ _ =>
      ∀ e, r = .error (.error e) → e.outcome = .notSent ∨ e.outcome = .unknown) :
    (transport capabilities callbacks).Candid o := by
  intro s frame options
  change Ensures some o (exchange capabilities callbacks frame options) s _
  unfold exchange
  split
  · refine ensures_fail fun e he => ?_
    cases he
    exact .inl rfl
  rename_i callback hcallback
  refine ensures_ask_bind fun h => ?_
  have hdenied : ∀ {e : Error}, e.outcome = .notSent → ∀ e', (.error (.error e) : Except Fault Bytes) = .error (.error e') →
      e'.outcome = .notSent ∨ e'.outcome = .unknown := by
    intro e he e' heq
    cases heq
    exact .inl he
  refine ensures_refuse_bind (fun _ => hdenied rfl) fun _ => ensures_refuse_bind (fun _ => hdenied rfl) fun _ => ?_
  refine ensures_bind (m := fun r _ _ => ∀ e, r = .error (.error e) → e.outcome = .notSent ∨ e.outcome = .unknown)
    (ensures_settle (ensures_within ?_)) ?_ ?_
  · refine (hcandid callback hcallback frame options).mono fun r _ _ h => ?_
    rcases r with (e | _) | bytes
    · exact h
    · intro e he
      cases he
      exact .inr rfl
    · simp [Op.afterThrow]
  · intro fault _ _ h e he
    exact h e (by simpa using he)
  · intro response s' _ _
    refine ensures_refuse_bind (fun _ e he => ?_) fun _ => ensures_pure (by simp)
    cases he
    exact .inr rfl

end Soundness
end Callback

end DesfireSdk.Transports
