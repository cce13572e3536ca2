import DesfireSdk.Managed.Card

/-! Planned transactions: live settings first, then every mutation once, then one commit. -/
namespace DesfireSdk.Managed
open Interaction Model
open Native.Checked (Command)

/-- The structure of a backup write, a value or a record mutation with an empty response. -/
def isTransactionalMutation (command : Command) : Bool :=
  command.valid &&
    ((command.opcode == 0x0C || command.opcode == 0xDC || command.opcode == 0x1C) ||
      (command.opcode == 0x3B || command.opcode == 0xDB || command.opcode == 0xEB) ||
      command.opcode == 0x3D) &&
    command.header != [] && decide (command.header.headD 0 ≤ 31) && command.minimumResponse == 0 &&
    command.maximumResponse == 0 && !command.invalidatesSession

def maximumOperations : Nat := 128

/-- Planned mutations in execution order. -/
structure TransactionPlan where
  operations : List Command := []
  bounded : operations.length ≤ maximumOperations := by simp
  transactional : ∀ command ∈ operations, isTransactionalMutation command = true := by simp

namespace TransactionPlan

def add (plan : TransactionPlan) (command : Command) : Result TransactionPlan :=
  if hsize : plan.operations.length < maximumOperations then
    if hcommand : isTransactionalMutation command = true then
      .ok ⟨plan.operations ++ [command],by rw [List.length_append]; exact hsize,by
        simpa [or_imp,forall_and,hcommand] using plan.transactional⟩
    else .error (invalid "Transaction plan accepts only typed backup/value/record mutations")
  else .error (invalid "Transaction plan cannot exceed 128 operations")

variable {plan plan' : TransactionPlan} {command : Command} {commands : List Command}

theorem eq_of_operations (h : plan.operations = plan'.operations) : plan = plan' := by
  cases plan
  cases plan'
  cases h
  rfl

theorem add_eq_ok_iff : plan.add command = .ok plan' ↔ plan'.operations = plan.operations ++ [command] := by
  constructor
  · intro h
    unfold add at h
    split at h
    · split at h
      · rw [← Except.ok.inj h]
      · cases h
    · cases h
  · intro h
    have hsize : plan.operations.length < maximumOperations := by
      have hbounded := plan'.bounded
      rw [h,List.length_append] at hbounded
      exact hbounded
    have hcommand : isTransactionalMutation command = true :=
      plan'.transactional command (h ▸ List.mem_append_right _ List.mem_cons_self)
    rw [add,dif_pos hsize,dif_pos hcommand]
    exact congrArg Except.ok (eq_of_operations h.symm)

/-- The plans are those that adding their mutations in order gives. -/
theorem foldlM_add_iff : commands.foldlM add plan = .ok plan' ↔ plan'.operations = plan.operations ++ commands := by
  induction commands generalizing plan with
  | nil =>
    rw [List.foldlM_nil,List.append_nil]
    exact ⟨fun h => congrArg operations (Except.ok.inj h).symm,fun h => congrArg Except.ok (eq_of_operations h.symm)⟩
  | cons command commands ih =>
    rw [List.foldlM_cons]
    constructor
    · intro h
      cases hadd : plan.add command with
      | error e =>
        rw [hadd] at h
        cases h
      | ok next =>
        rw [hadd] at h
        rw [ih.mp h,add_eq_ok_iff.mp hadd,List.append_assoc]
        rfl
    · intro h
      have hbounded : (plan.operations ++ [command]).length ≤ maximumOperations := by
        have hbounded := plan'.bounded
        simp only [h,List.length_append,List.length_cons,List.length_nil] at hbounded ⊢
        omega
      have htransactional : ∀ c ∈ plan.operations ++ [command], isTransactionalMutation c = true := by
        intro c hc
        refine plan'.transactional c (h ▸ ?_)
        rw [List.append_cons]
        exact List.mem_append_left _ hc
      have hadd : plan.add command = .ok ⟨plan.operations ++ [command],hbounded,htransactional⟩ := add_eq_ok_iff.mpr rfl
      rw [hadd]
      exact ih.mpr (by rw [h,List.append_cons])

end TransactionPlan

/-- Controls for the next command under the deadline of the transaction. -/
def remainingOptions (deadline : Int) : Op Card ExchangeOptions := do
  let now ← Op.now
  let stop ← Op.stopRequested .operation
  Op.refuse stop ⟨.cancelled,"Transaction cancelled",.notSent,0⟩
  Op.refuse (deadline ≤ now) ⟨.timeout,"Transaction deadline expired",.notSent,0⟩
  pure ⟨Native.Raw.ceilMilliseconds (Native.Raw.nanoseconds (deadline - now))⟩

/-- A file type a mutation may target. -/
def expectedType (opcode : Byte) (type : FileType) : Bool :=
  (opcode == 0x3D && type == .backupData) ||
    ((opcode == 0x0C || opcode == 0xDC || opcode == 0x1C) && type == .value) ||
    ((opcode == 0x3B || opcode == 0xDB || opcode == 0xEB) &&
      (type == .linearRecord || type == .cyclicRecord))

def fileNumber (command : Command) : Nat := (command.header.headD 0).toNat

/-- Reads the settings of one file from the card. -/
def readSettings (deadline : Int) (file : Nat) : Op Card FileSettings := do
  let budget ← remainingOptions deadline
  let number ← Op.value (Number.make file)
  let query ← Op.ofResult (Native.Checked.getFileSettings number)
  let rawSettings ← executeLocked query budget
  Op.onError (fun _ => Card.invalidate) (Op.ofResult (Native.Checked.parseFileSettings rawSettings))

/-- The type and communication mode a mutation requires of the settings of its file. -/
def checkTarget (command : Command) (file : FileSettings) : Result Unit :=
  if expectedType command.opcode file.type = false then
    .error (invalid "Mutation targets a nontransactional file type")
  else if command.opcode ≠ 0xEB ∧ command.requestMode ≠ file.communication then
    .error (invalid "Transaction communication mode differs from verified file settings")
  else .ok ()

/-- Checks every mutation against the settings of its file, which are read once for each file. -/
def verifyTargets (deadline : Int) : List Command → (Nat → Option FileSettings) → Op Card Unit
  | [],_ => pure ()
  | command :: rest,settings => do
    let file ← match settings (fileNumber command) with
      | some file => pure file
      | none => readSettings deadline (fileNumber command)
    Op.ofResult (checkTarget command file)
    verifyTargets deadline rest (Function.update settings (fileNumber command) (some file))

/-- Controls and one execution under the deadline. -/
def executeWithin (deadline : Int) (command : Command) : Op Card Bytes := do
  let budget ← remainingOptions deadline
  executeLocked command budget

/-- The evidence for a failed mutation, after earlier ones were staged or not. -/
def stagedError (staged : Bool) (e : Error) : Error :=
  if staged ∨ e.outcome = .unknown then e.asUnknown else e

@[simp] theorem stagedError_code (staged : Bool) (e : Error) : (stagedError staged e).code = e.code := by
  unfold stagedError
  split
  · exact Error.asUnknown_code e
  · rfl

/-- Executes the mutations in order until one fails. -/
def stage (deadline : Int) : Bool → List Command → Op Card Unit
  | _,[] => pure ()
  | staged,command :: rest => do
    let _ ← Op.mapError (stagedError staged)
      (Op.onError (fun e card => if staged ∨ e.outcome = .unknown then card.invalidate else card)
        (executeWithin deadline command))
    stage deadline true rest

/-- Commits what was staged; every failure leaves its outcome unknown. -/
def commitStaged (deadline : Int) (returnMac : Bool) : Op Card Bytes := do
  let budget ← Op.mapError Error.asUnknown
    (Op.onError (fun _ => Card.invalidate) (remainingOptions deadline))
  let commit ← Op.onError (fun _ => Card.invalidate)
    (Op.ofResult (Native.Checked.commitTransaction returnMac))
  Op.mapError Error.asUnknown (Op.onError (fun _ => Card.invalidate) (executeLocked commit budget))

def executeTransactionLocked (operations : List Command) (returnMac : Bool)
    (options : ExchangeOptions) : Op Card Bytes :=
  Op.catchAll Card.invalidate ⟨.internal,"Transaction operation failed",.unknown,0⟩ do
    let card ← Program.get
    Op.refuse (card.usable = false ∨ card.isoSession.isSome)
      (sessionInvalid "Transaction requires usable native card state")
    Op.refuse (operations = [] ∨ 128 < operations.length ∨ options.timeout ≤ 0)
      (invalid "Transaction requires 1..128 mutations and a positive timeout")
    let now ← Op.now
    let deadline := Native.Raw.nanoseconds
      (now + options.timeout * Native.Raw.nanosecondsPerMillisecond)
    Op.refuse (operations.all isTransactionalMutation = false)
      (invalid "Transaction accepts only typed backup/value/record mutations")
    verifyTargets deadline operations fun _ => none
    stage deadline false operations
    commitStaged deadline returnMac

def executeTransaction (plan : TransactionPlan) (returnMac : Bool) (options : ExchangeOptions) :
    Op Card Bytes :=
  admitted (busy "Transaction cannot reenter an active Card operation")
    (executeTransactionLocked plan.operations returnMac options)

end DesfireSdk.Managed
