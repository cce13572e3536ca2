import Mathlib.Algebra.Group.Int.Defs
import Mathlib.Algebra.Group.Nat.Defs
import Mathlib.Tactic.Common

/-! Failure categories and the evidence an error carries about execution. -/
namespace DesfireSdk

inductive ErrorCode
  | invalidArgument | transport | cardRemoved | timeout | cancelled | malformedResponse
  | cardRejected | authentication | integrity | unsupported | staleHandle | busy
  | sessionInvalid | counterExhausted | bufferTooSmall | crypto | internal
  deriving DecidableEq, Repr

/-- Evidence about command execution. -/
inductive Outcome
  | notSent | rejected | succeeded | unknown
  deriving DecidableEq, Repr

structure Error where
  code : ErrorCode := .internal
  message : String := ""
  outcome : Outcome := .notSent
  deviceStatus : UInt16 := 0
  deriving DecidableEq, Repr

abbrev Result (α : Type) := Except Error α

/-- A caller-correctable failure before transmission. -/
def invalid (message : String) : Error := {code := .invalidArgument, message}

@[simp] theorem invalid_outcome (message : String) : (invalid message).outcome = .notSent := rfl

/-- A call ends with a returned error or with an exception. -/
inductive Fault
  | error (e : Error)
  | thrown
  deriving DecidableEq, Repr

namespace Error

/-- Conservative evidence once an earlier part of the operation was delivered. -/
def afterDelivery (e : Error) : Error :=
  if e.outcome = .notSent then {e with outcome := .unknown} else e

/-- The same failure after the card may have acted. -/
def asUnknown (e : Error) : Error := {e with outcome := .unknown}

@[simp] theorem asUnknown_outcome (e : Error) : e.asUnknown.outcome = .unknown := rfl

@[simp] theorem asUnknown_code (e : Error) : e.asUnknown.code = e.code := rfl

@[simp] theorem afterDelivery_code (e : Error) : e.afterDelivery.code = e.code := by
  unfold afterDelivery
  split <;> rfl

theorem afterDelivery_outcome (e : Error) : e.afterDelivery.outcome ≠ .notSent := by
  unfold afterDelivery
  split
  · simp
  · assumption

theorem afterDelivery_rejected (e : Error) :
    e.afterDelivery.outcome = .rejected ↔ e.outcome = .rejected := by
  unfold afterDelivery
  split <;> simp_all

end Error
end DesfireSdk
