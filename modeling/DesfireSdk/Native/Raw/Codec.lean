import DesfireSdk.Foundation.Environment

/-! Native messages and their direct and ISO-wrapped frames. -/
namespace DesfireSdk.Native

/-- How one native command is presented to the reader. -/
inductive Framing
  | direct | isoWrapped
  deriving DecidableEq, Repr

namespace Raw

/-- One complete status-free native command before reader framing. -/
structure Request where
  command : Byte
  data : Bytes
  maximumResponse : Nat := 16 * 1024 * 1024
  firstFrameDataSize : Option Nat := none
  singleContinuationFrame : Bool := false
  deriving DecidableEq, Repr

structure Response where
  status : Byte
  data : Bytes
  deriving DecidableEq, Repr

def encodeDirect (command : Byte) (data : Bytes) : Result Bytes := .ok (command :: data)

def decodeDirect : Bytes → Result Response
  | [] => .error ⟨.malformedResponse,"Direct native response has no status",.unknown,0⟩
  | status :: data => .ok ⟨status,data⟩

def encodeIsoWrapped (command : Byte) (data : Bytes) : Result Bytes :=
  if 255 < data.length then .error (invalid "ISO-wrapped native frame exceeds short APDU capacity")
  else .ok ([0x90,command,0x00,0x00] ++
    (if data = [] then [] else UInt8.ofNat data.length :: data) ++ [0x00])

def decodeIsoWrapped (frame : Bytes) : Result Response :=
  if frame.length < 2 ∨ frame[frame.length - 2]? ≠ some 0x91 then
    .error ⟨.malformedResponse,"ISO-wrapped native response lacks 91xx status",.unknown,0⟩
  else .ok ⟨frame.getLastD 0,frame.take (frame.length - 2)⟩

def encode (command : Byte) (data : Bytes) : Framing → Result Bytes
  | .direct => encodeDirect command data
  | .isoWrapped => encodeIsoWrapped command data

def decode (frame : Bytes) : Framing → Result Response
  | .direct => decodeDirect frame
  | .isoWrapped => decodeIsoWrapped frame

/-- The bytes of one frame when its data fits the framing. -/
def wire (framing : Framing) (command : Byte) (data : Bytes) : Bytes :=
  match encode command data framing with
  | .ok frame => frame
  | .error _ => []

/-- The data bytes a framing can carry in one frame. -/
def FitsFraming (framing : Framing) (data : Bytes) : Prop :=
  framing = .isoWrapped → data.length ≤ 255

theorem encode_error {framing : Framing} {command : Byte} {data : Bytes} {e : Error}
    (h : encode command data framing = .error e) : e.outcome = .notSent ∧ e.code = .invalidArgument := by
  cases framing with
  | direct => cases h
  | isoWrapped =>
    simp only [encode,encodeIsoWrapped] at h
    split at h <;> cases h
    exact ⟨rfl,rfl⟩

theorem encode_ok {framing : Framing} {command : Byte} {data frame : Bytes}
    (h : encode command data framing = .ok frame) :
    frame = wire framing command data ∧ FitsFraming framing data := by
  refine ⟨by simp [wire,h],?_⟩
  rintro rfl
  simp only [encode,encodeIsoWrapped] at h
  split at h <;> simp_all

theorem decode_error {framing : Framing} {frame : Bytes} {e : Error}
    (h : decode frame framing = .error e) : e.outcome = .unknown := by
  cases framing with
  | direct => cases frame <;> cases h; rfl
  | isoWrapped =>
    simp only [decode,decodeIsoWrapped] at h
    split at h <;> cases h
    rfl

theorem decode_code {framing : Framing} {frame : Bytes} {e : Error}
    (h : decode frame framing = .error e) : e.code = .malformedResponse := by
  cases framing with
  | direct => cases frame <;> cases h; rfl
  | isoWrapped =>
    simp only [decode,decodeIsoWrapped] at h
    split at h <;> cases h
    rfl

/-- Envelope bytes of one frame around its data. -/
def framingOverhead : Framing → Nat
  | .direct => 1
  | .isoWrapped => 6

theorem length_wire_le (framing : Framing) (command : Byte) (data : Bytes) :
    (wire framing command data).length ≤ data.length + framingOverhead framing := by
  cases framing with
  | direct => simp [wire,encode,encodeDirect,framingOverhead]
  | isoWrapped =>
    simp only [wire,encode,encodeIsoWrapped,framingOverhead]
    by_cases hlong : 255 < data.length
    · simp [hlong]
    · by_cases hd : data = [] <;> simp [hlong,hd]

/-- The command and data a reader finds in one complete frame. -/
def openFrame : Framing → Bytes → Option (Byte × Bytes)
  | .direct,command :: data => some (command,data)
  | .isoWrapped,[0x90,command,0x00,0x00,0x00] => some (command,[])
  | .isoWrapped,0x90 :: command :: 0x00 :: 0x00 :: lc :: body =>
    if body.length = lc.toNat + 1 ∧ body.getLast? = some 0x00 then some (command,body.dropLast)
    else none
  | _,_ => none

theorem openFrame_wire {framing : Framing} {command : Byte} {data : Bytes}
    (h : FitsFraming framing data) : openFrame framing (wire framing command data) = some (command,data) := by
  cases framing with
  | direct => rfl
  | isoWrapped =>
    have hlong : ¬255 < data.length := by have := h rfl; omega
    cases data with
    | nil => rfl
    | cons byte data =>
      simp only [wire,encode,encodeIsoWrapped,if_neg hlong,if_neg (List.cons_ne_nil byte data)]
      simp only [List.length_cons] at hlong
      cases data with
      | nil => rfl
      | cons byte' data =>
        simp only [List.cons_append,List.nil_append,openFrame]
        simp only [List.length_cons] at hlong
        simp [Nat.mod_eq_of_lt (show data.length + 1 + 1 < 256 by omega)]
        exact ⟨List.getLast?_concat (l := byte' :: data),by rw [← List.cons_append,List.dropLast_concat]⟩

/-- A short APDU holds every wrapped frame. -/
theorem length_wire_isoWrapped {command : Byte} {data : Bytes} :
    (wire .isoWrapped command data).length ≤ 261 := by
  have := length_wire_le .isoWrapped command data
  by_cases hlong : 255 < data.length
  · simp [wire,encode,encodeIsoWrapped,hlong]
  · simp only [framingOverhead] at this
    omega

end Raw
end DesfireSdk.Native
