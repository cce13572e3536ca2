import DesfireSdk.Foundation.Bytes

/-! Communication modes of native commands and their wire values. -/
namespace DesfireSdk.Model

/-- The documented modes, and any other value an integer conversion can produce. -/
inductive CommunicationMode
  | plain | mac | full
  | other (value : Byte)
  deriving DecidableEq, Repr

/-- One of the documented modes. -/
def CommunicationMode.known : CommunicationMode → Bool
  | other _ => false
  | _ => true

def CommunicationMode.ofByte : Byte → CommunicationMode
  | 0 => plain
  | 1 => mac
  | 3 => full
  | value => other value

/-- The wire value of a mode. -/
def CommunicationMode.byte : CommunicationMode → Byte
  | plain => 0
  | mac => 1
  | full => 3
  | other value => value

end DesfireSdk.Model
