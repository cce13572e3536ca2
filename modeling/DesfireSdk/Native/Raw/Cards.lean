import DesfireSdk.Foundation.Calm
import DesfireSdk.Foundation.Interruptions
import DesfireSdk.Native.Raw.Uploads

/-! A card at the other end of the transport, and one frame exchanged with it. -/
namespace DesfireSdk.Native.Raw
open Interaction Program

/-- The bytes of a reply to one frame. -/
def envelope (response : Response) : Framing → Bytes
  | .direct => response.status :: response.data
  | .isoWrapped => response.data ++ [0x91,response.status]

theorem decode_envelope (response : Response) (framing : Framing) :
    decode (envelope response framing) framing = .ok response := by
  cases framing with
  | direct => rfl
  | isoWrapped =>
    have hlength : (envelope response .isoWrapped).length = response.data.length + 2 := by
      simp [envelope]
    have hmark : (envelope response .isoWrapped)[response.data.length]? = some 0x91 := by
      simp [envelope]
    have hlast : (envelope response .isoWrapped).getLastD 0 = response.status := by
      simp [envelope,List.getLastD_eq_getLast?]
    have hdata : (envelope response .isoWrapped).take response.data.length = response.data := by
      simp [envelope]
    have hlong : ¬response.data.length + 2 < 2 := by omega
    simp only [decode,decodeIsoWrapped,hlength,Nat.add_sub_cancel,hmark,hlong,ne_eq,not_true_eq_false,
      or_self,if_false,hlast,hdata]

theorem length_envelope (response : Response) (framing : Framing) :
    (envelope response framing).length = response.data.length + statusSize framing := by
  cases framing <;> simp [envelope,statusSize]

/-- What a card answers to one native message, and the state it is in afterwards. -/
abbrev Responder (κ : Type) := κ → Byte → Bytes → Response × κ

namespace Responder
variable {κ : Type}

/-- A card takes note of every frame it can read. -/
def observe (card : Responder κ) (framing : Framing) (k : κ) (event : Event Environment) : κ :=
  match (deliveryOf event).bind fun d => openFrame framing d.frame with
  | some (command,data) => (card k command data).2
  | none => k

/-- Frames and resets reach a card. -/
def reaching : Query → Prop
  | .exchange .. | .resetCard => True
  | _ => False

theorem observe_idle (card : Responder κ) (framing : Framing) : Idle (card.observe framing) reaching := by
  intro event hevent k
  obtain ⟨query,reply⟩ := event
  cases query <;> first | rfl | exact absurd trivial hevent

theorem observe_frame (card : Responder κ) {framing : Framing} {k : κ} {frame : Bytes}
    {options : ExchangeOptions} {handover : Handover} {command : Byte} {data : Bytes}
    (hopen : openFrame framing frame = some (command,data)) :
    card.observe framing k ⟨.exchange frame options,handover⟩ = (card k command data).2 := by
  simp [observe,deliveryOf,hopen]

end Responder

/-- The transport carries every frame to the card and its answer back, and the card stays in its field. -/
structure Connected {κ : Type} (o : Oracle Environment) (limits : TransportCapabilities) (framing : Framing)
    (card : Responder κ) (start : κ) : Prop where
  steady : Steady o limits
  free : ∀ h gate, o h (.admission gate) = .entered
  answers : ∀ h frame options command data, openFrame framing frame = some (command,data) →
    (o h (.exchange frame options)).answer =
      .ok (envelope (card (reached (card.observe framing) start h) command data).1 framing)

/-- A reader that carries frames to a card, over a clock that stands still and a provider that works. -/
def Responder.wired {κ : Type} (card : Responder κ) (framing : Framing) (limits : TransportCapabilities)
    (P : Primitives) (start : κ) : Oracle Environment
  | _,.now => (0 : Int)
  | _,.generation => (1 : UInt64)
  | _,.capabilities => some limits
  | _,.stopRequested _ => false
  | _,.admission _ => Admission.entered
  | h,.exchange frame _ => ⟨1,
    match openFrame framing frame with
    | some (command,data) =>
      .ok (envelope (card (reached (card.observe framing) start h) command data).1 framing)
    | none => .error .thrown⟩
  | _,.resetCard => (.ok () : Except Fault Unit)
  | _,.random size => .ok (zeros size)
  | _,.cbc key iv input encrypt => .ok (if encrypt then P.encrypt key iv input else P.decrypt key iv input)
  | _,.cmac key input => .ok (P.mac key input)
  | _,.derive _ _ => .ok zeroKey
  | _,.resolve _ => .ok zeroKey
  | _,.requestCancelled => (.ok false : Except Fault Bool)

theorem wired_connected {κ : Type} (card : Responder κ) (framing : Framing) (limits : TransportCapabilities)
    (P : Primitives) (start : κ) : Connected (card.wired framing limits P start) limits framing card start where
  steady := ⟨fun _ => rfl,fun _ _ => rfl⟩
  free _ _ := rfl
  answers h frame options command data hopen := by simp only [Responder.wired,hopen]

theorem wired_computes {κ : Type} (card : Responder κ) (framing : Framing) (limits : TransportCapabilities)
    (P : Primitives) (start : κ) : Computes (card.wired framing limits P start) P where
  encrypt _ _ _ _ _ _ _ := rfl
  decrypt _ _ _ _ _ _ _ := rfl
  mac _ _ _ _ := rfl

namespace Transaction
variable {κ : Type} {o : Oracle Environment} {limits : TransportCapabilities} {framing : Framing}
  {card : Responder κ} {start k : κ}

/-- The transaction is about the present card. -/
structure Current (o : Oracle Environment) (framing : Framing) (t : Transaction) : Prop where
  framing : t.framing = framing
  generation : ∀ h, o h .generation = t.generation

theorem Current.markSent {t : Transaction} (h : Current o framing t) : Current o framing t.markSent :=
  ⟨h.framing,h.generation⟩

/-- A frame with so much data can be handed over and its reply be received. -/
structure Room (limits : TransportCapabilities) (framing : Framing) (data : Bytes) (response : Response) :
    Prop where
  native : data.length + 1 ≤ limits.maxNativeFrame
  transmit : data.length + framingOverhead framing ≤ limits.maxTransmit
  fits : FitsFraming framing data
  receive : response.data.length + statusSize framing ≤ limits.maxReceive

/-- A frame goes out unless the operation is interrupted. -/
theorem remainingOptions_connected {t : Transaction} (hcurrent : Current o framing t) :
    Facing (card.observe framing) start o k remainingOptions t
      (Unless Interrupts (· = k) fun r t' k' => ∃ options, r = .ok options ∧ t' = t ∧ k' = k) := by
  have hidle := Responder.observe_idle card framing
  refine Facing.get_bind (Facing.quiet_bind hidle id fun h => ?_)
  refine Facing.refuse_cases (fun _ => .halted (.inl rfl) rfl) fun _ => Facing.quiet_bind hidle id fun h' => ?_
  have hpresent : ¬(o h' .generation : UInt64) ≠ t.generation := fun hchanged =>
    hchanged (hcurrent.generation h')
  refine Facing.refuse_bind hpresent (Facing.quiet_bind hidle id fun h'' => ?_)
  exact Facing.refuse_cases (fun _ => .halted (.inr rfl) rfl) fun _ => Facing.pure (.inl ⟨_,rfl,rfl,rfl⟩)

/-- One frame is answered as the card answers it, or the operation is interrupted before it. -/
theorem exchangeFrame_connected (hcard : Connected o limits framing card start) {t : Transaction}
    (hcurrent : Current o framing t) (k : κ) (command : Byte) (data : Bytes)
    (hroom : Room limits framing data (card k command data).1) :
    Facing (card.observe framing) start o k (exchangeFrame command data) t
      (Unless Interrupts (· = k) fun r t' k' =>
        r = .ok (card k command data).1 ∧ t' = t.markSent ∧ k' = (card k command data).2) := by
  have hidle := Responder.observe_idle card framing
  have hframing := hcurrent.framing
  have hopen : openFrame framing (wire framing command data) = some (command,data) := openFrame_wire hroom.fits
  have hencode : encode command data t.framing = .ok (wire framing command data) := by
    rw [hframing]
    cases hresult : encode command data framing with
    | ok frame => rw [(encode_ok hresult).1]
    | error e =>
      cases framing with
      | direct => cases hresult
      | isoWrapped =>
        have hshort := hroom.fits rfl
        simp only [encode,encodeIsoWrapped,if_neg (Nat.not_lt.mpr hshort)] at hresult
        cases hresult
  have hwire := length_wire_le framing command data
  have hnative := hroom.native
  have htransmit := hroom.transmit
  have hreceive := hroom.receive
  refine Facing.unless_bind (remainingOptions_connected hcurrent) (fun _ h => h) ?_
  rintro controls t' k' ⟨rfl,rfl⟩
  refine Facing.get_bind (Facing.known_bind (a := limits) (t := t') (l := k') ?_ ?_)
  · refine Facing.quiet_bind hidle id fun h => ?_
    rw [hcard.steady.capabilities h]
    exact Facing.pure ⟨rfl,rfl,rfl⟩
  refine Facing.refuse_bind (by omega) ?_
  refine Facing.known_bind (a := wire framing command data) (t := t') (l := k') ?_ ?_
  · rw [hencode]
    exact fun _ _ => ⟨rfl,rfl,rfl⟩
  refine Facing.refuse_bind (by omega) ?_
  refine Facing.known_bind (a := envelope (card k' command data).1 framing) (t := t')
    (l := (card k' command data).2) ?_ ?_
  · refine Facing.settle (Facing.settle (Facing.ask_bind fun h hh => ?_))
    rw [hcard.answers h _ controls command data hopen,hh,Responder.observe_frame card hopen]
    exact Facing.pure ⟨rfl,rfl,rfl⟩
  refine Facing.modify_bind (Facing.quiet_bind hidle id fun h => ?_)
  refine Facing.refuse_bind (fun hchanged => hchanged (hcurrent.generation h)) ?_
  rw [length_envelope]
  refine Facing.refuse_bind (by omega) ?_
  have hdecode : decode (envelope (card k' command data).1 framing) t'.framing =
      .ok (card k' command data).1 := by
    rw [hframing,decode_envelope]
  rw [hdecode]
  exact Facing.pure (.inl ⟨rfl,rfl,rfl⟩)

end Transaction

namespace RawNativeChannel
variable {κ τ : Type} {o : Oracle Environment} {limits : TransportCapabilities} {card : Responder κ} {start k : κ}

/-- An operation that starts is about the present card; it may be stopped before. -/
theorem begin_connected {channel : RawNativeChannel} (hcard : Connected o limits channel.framing card start)
    {options : ExchangeOptions} (hpositive : 0 < options.timeout) (s : τ) :
    Facing (card.observe channel.framing) start o k (channel.begin options) s
      (Unless Interrupts (· = k) fun r s' k' =>
        ∃ t, r = .ok t ∧ Transaction.Current o channel.framing t ∧ s' = s ∧ k' = k) := by
  have hidle := Responder.observe_idle card channel.framing
  refine Facing.refuse_bind (Int.not_le.mpr hpositive) (Facing.quiet_bind hidle id fun h => ?_)
  refine Facing.refuse_cases (fun _ => .halted (.inr rfl) rfl) fun _ => Facing.quiet_bind hidle id fun h' => ?_
  rw [hcard.free h']
  refine Facing.refuse_bind (by decide) (Facing.refuse_bind (by decide) ?_)
  refine Facing.quiet_bind hidle id fun h₁ => Facing.quiet_bind hidle id fun h₂ => ?_
  exact Facing.pure (.inl ⟨_,rfl,⟨rfl,fun h => hcard.steady.generation h h₂⟩,rfl,rfl⟩)

end RawNativeChannel
end DesfireSdk.Native.Raw
