import DesfireSdk.Managed.Journal
import DesfireSdk.Managed.Runs
import DesfireSdk.Managed.Shelter
import DesfireSdk.Native.Checked.Protection

/-! What planned transactions and protected commands hand to the transport. -/
namespace DesfireSdk.Managed
open Interaction Program Model
open Native.Checked (Command Built)

/-- The request asks the card for this command, byte for byte, and for the answer it expects. -/
structure Poses (command : Command) (request : Native.Secure.Request) : Prop where
  opcode : request.command = command.opcode
  header : request.header = command.header
  data : request.data = command.data
  modes : request.requestMode = command.requestMode ∧ request.responseMode = command.responseMode
  response : request.minimumResponse = command.minimumResponse ∧ request.maximumResponse = command.maximumResponse
  frames : request.firstFrameDataSize = command.firstFramePayloadSize ∧
    request.singleContinuationFrame = command.requiresSingleContinuationFrame
  invalidates : request.invalidatesSession = command.invalidatesSession

/-- The frames of the turn carry the bytes of its command, prepared by a session or in clear. -/
def Conveys (card : Card) (turn : Turn) : Prop :=
  ∃ request, Poses turn.operation.1 request ∧
    Conveyed turn.oracle card request (deliveries (turn.run executeCommand card).events)

theorem secureRequest_poses (command : Command) : Poses command (secureRequest command) :=
  ⟨rfl,rfl,rfl,⟨rfl,rfl⟩,⟨rfl,rfl⟩,⟨rfl,rfl⟩,rfl⟩

theorem conveys (card : Card) (turn : Turn) : Conveys card turn := by
  have h := executeLocked_conveyed turn.oracle turn.operation.1 turn.operation.2 card turn.history
  rw [shown_some] at h
  refine ⟨_,secureRequest_poses turn.operation.1,?_⟩
  obtain h | ⟨_,h⟩ := h
  · exact .withheld h
  · exact h

section Transaction
variable {o : Oracle Environment} {card card' : Card} {returnMac : Bool} {operations : List Command}
  {queries mutations commits : List Turn} {r : Except Fault Bytes} {es : Trace Environment}

/-- No turn of a transaction aborts. -/
theorem Journal.unaborted (h : Journal o operations returnMac card queries mutations commits r card' es)
    (htransactional : ∀ command ∈ operations, isTransactionalMutation command = true) :
    ∀ turn ∈ queries ++ (mutations ++ commits), turn.operation.1.opcode ≠ 0xA7 := by
  intro turn hturn
  rcases List.mem_append.mp hturn with hturn | hturn
  · obtain ⟨command,_,number,_,hquery⟩ := h.asked turn hturn
    have hcommand := Except.ok.inj hquery
    rw [← hcommand]
    change (0xF5 : Byte) ≠ 0xA7
    decide
  rcases List.mem_append.mp hturn with hturn | hturn
  · have hmember : turn.operation.1 ∈ operations := h.order.subset (List.mem_map_of_mem hturn)
    have hopcode := transactional_opcode (htransactional _ hmember)
    intro habort
    rw [habort] at hopcode
    revert hopcode
    decide
  · obtain rfl | ⟨turn',rfl,hcommit,_⟩ := h.commit
    · cases hturn
    · obtain rfl := List.mem_singleton.mp hturn
      have hopcode : turn.operation.1.opcode = 0xC7 := by
        cases returnMac with
        | false => rw [← Except.ok.inj hcommit]; rfl
        | true => rw [← Except.ok.inj hcommit]; rfl
      rw [hopcode]
      decide

/-- Every planned transaction, on any card: the settings of every target are read and fit before a
mutation or a commit goes out, mutations go out in order and once, one commit follows only if all of
them were accepted, and a failure after an accepted mutation is unknown and final. -/
theorem executeTransaction_safe (plan : TransactionPlan)
    (hbuilt : ∀ command ∈ plan.operations, Built command) (returnMac : Bool) (options : ExchangeOptions)
    (o : Oracle Environment) (h : Trace Environment) (card : Card) :
    ∃ queries mutations commits,
      Journal o plan.operations returnMac card queries mutations commits
        (executeTransaction plan returnMac options o h card).result
        (executeTransaction plan returnMac options o h card).state
        (executeTransaction plan returnMac options o h card).events ∧
      Along executeCommand Conveys card (queries ++ (mutations ++ commits)) ∧
      (∀ turn ∈ queries ++ (mutations ++ commits), turn.operation.1.opcode ≠ 0xA7) ∧
      ∀ e, (executeTransaction plan returnMac options o h card).result = .error (.error e) →
        e.outcome = .notSent ∨ e.outcome = .rejected →
        ¬Sometime executeCommand Accepted (final executeCommand card queries) mutations := by
  have hrun := executeTransaction_journal (o := o) plan returnMac options hbuilt card h
  rw [shown_some] at hrun
  obtain ⟨queries,mutations,commits,hjournal⟩ := hrun
  refine ⟨queries,mutations,commits,hjournal,along_of_forall conveys _ _,
    hjournal.unaborted plan.transactional,?_⟩
  intro e hresult houtcome haccepted
  obtain ⟨e',⟨⟩,hunknown,_⟩ := hjournal.failure _ hresult haccepted
  rcases houtcome with houtcome | houtcome <;> rw [hunknown] at houtcome <;> cases houtcome

/-- A plain credit of five units to file 1. -/
def fiveCredits : Command :=
  {opcode := 0x0C,header := [0x01],data := [0x05,0x00,0x00,0x00],requestMode := .plain,responseMode := .plain}

/-- A plan that credits the file twice. -/
def creditTwice : TransactionPlan where
  operations := [fiveCredits,fiveCredits]
  bounded := by decide
  transactional := by decide

/-- A card that reports a value file and turns the second credit down. -/
def scant : Oracle Environment :=
  scripted {replies := [.ok ([0x02,0x00,0xEE,0xEE] ++ zeros 4 ++ [0xFF,0x00,0x00,0x00] ++ zeros 5 ++ [0x91,0x00]),
    .ok [0x91,0x00],.ok [0x91,0xBE]]}

theorem executeTransaction_safe_creditTwice :
    (∀ plan : TransactionPlan, plan.operations = [] →
      [fiveCredits,fiveCredits].foldlM TransactionPlan.add plan = .ok creditTwice) ∧
    (executeTransaction creditTwice true {} scant [] freshCard).result =
      .error (.error ⟨.cardRejected,"Native command was rejected by card",.unknown,0xBE⟩) ∧
    ∃ queries mutations commits,
      Journal scant creditTwice.operations true freshCard queries mutations commits
        (executeTransaction creditTwice true {} scant [] freshCard).result
        (executeTransaction creditTwice true {} scant [] freshCard).state
        (executeTransaction creditTwice true {} scant [] freshCard).events ∧
      Along executeCommand Conveys freshCard (queries ++ (mutations ++ commits)) ∧
      ∀ turn ∈ queries ++ (mutations ++ commits), turn.operation.1.opcode ≠ 0xA7 := by
  have hbuilt : ∀ command ∈ creditTwice.operations, Built command := by
    intro command hcommand
    obtain rfl : command = fiveCredits := List.eq_of_mem_replicate (n := 2) hcommand
    exact .credit ⟨1,by decide⟩ 5 .plain rfl
  obtain ⟨queries,mutations,commits,hjournal,hconveys,hunaborted,_⟩ :=
    executeTransaction_safe creditTwice hbuilt true {} scant [] freshCard
  have hadded : ∀ plan : TransactionPlan, plan.operations = [] →
      [fiveCredits,fiveCredits].foldlM TransactionPlan.add plan = .ok creditTwice := by
    intro plan hempty
    rw [TransactionPlan.foldlM_add_iff,hempty]
    rfl
  exact ⟨hadded,by decide +kernel,queries,mutations,commits,hjournal,hconveys,hunaborted⟩

end Transaction

section Protection
variable {card : Card}

/-- The frames of a protected command are those a ready session of the card prepared. -/
def Shields (card : Card) (turn : Turn) : Prop :=
  turn.operation.1.Protected → deliveries (turn.run executeCommand card).events = [] ∨
    Sheltered turn.oracle card (secureRequest turn.operation.1) (deliveries (turn.run executeCommand card).events)

theorem shields (card : Card) (turn : Turn) : Shields card turn := by
  intro hprotected
  have h := executeLocked_sheltered hprotected.requires turn.oracle turn.operation.2 card turn.history
  rwa [shown_some] at h

/-- What an operation owes to the commands it sends that are protected. -/
def Protects (card : Card) (step : Step Environment Call) : Prop :=
  match step.operation.1 with
  | .execute command => command.Protected → deliveries (step.run performCall card).events = [] ∨
      Sheltered step.oracle card (secureRequest command) (deliveries (step.run performCall card).events)
  | .executeTransaction plan returnMac => (∀ command ∈ plan.operations, Built command) →
      ∃ turns, Turns step.oracle card turns (step.run performCall card).events ∧
        (∀ turn ∈ turns, turn.operation.1 ∈ plan.operations ∨
          (∃ command ∈ plan.operations, Asks (fileNumber command) turn) ∨
          Native.Checked.commitTransaction returnMac = .ok turn.operation.1) ∧
        Along executeCommand Shields card turns
  | _ => True

theorem execute_shelters {command : Command} (hprotected : command.Protected) (o : Oracle Environment)
    (options : ExchangeOptions) (card : Card) :
    Ensures some o (perform (.execute command) options) card fun _ _ es =>
      deliveries es = [] ∨ Sheltered o card (secureRequest command) (deliveries es) := by
  have hlocked := executeLocked_sheltered hprotected.requires o options card
  refine Op.ensures_returning ((admitted_runs hlocked).mono ?_)
  intro r card' es h
  cases h with
  | unlocked | reentered => exact .inl rfl
  | entered h => exact h

theorem executeTransaction_shields (plan : TransactionPlan) (returnMac : Bool)
    (hbuilt : ∀ command ∈ plan.operations, Built command) (o : Oracle Environment)
    (options : ExchangeOptions) (card : Card) :
    Ensures some o (perform (.executeTransaction plan returnMac) options) card fun _ _ es =>
      ∃ turns, Turns o card turns es ∧
        (∀ turn ∈ turns, turn.operation.1 ∈ plan.operations ∨
          (∃ command ∈ plan.operations, Asks (fileNumber command) turn) ∨
          Native.Checked.commitTransaction returnMac = .ok turn.operation.1) ∧
        Along executeCommand Shields card turns := by
  refine Op.ensures_returning ((executeTransaction_journal plan returnMac options hbuilt card).mono ?_)
  rintro r card' es ⟨queries,mutations,commits,hjournal⟩
  refine ⟨_,hjournal.turns,?_,along_of_forall shields _ _⟩
  intro turn hturn
  rcases List.mem_append.mp hturn with hturn | hturn
  · exact .inr (.inl (hjournal.asked turn hturn))
  rcases List.mem_append.mp hturn with hturn | hturn
  · exact .inl (hjournal.order.subset (List.mem_map_of_mem hturn))
  · obtain rfl | ⟨turn',rfl,hcommit,_⟩ := hjournal.commit
    · cases hturn
    · obtain rfl := List.mem_singleton.mp hturn
      exact .inr (.inr hcommit)

theorem protects (card : Card) (step : Step Environment Call) : Protects card step := by
  obtain ⟨⟨operation,options⟩,o,h⟩ := step
  unfold Protects
  cases operation with
  | execute command =>
    intro hprotected
    have hrun := execute_shelters hprotected o options card h
    rw [shown_some] at hrun
    simp only [Step.run,performCall]
    exact hrun
  | executeTransaction plan returnMac =>
    intro hbuilt
    have hrun := executeTransaction_shields plan returnMac hbuilt o options card h
    rw [shown_some] at hrun
    simp only [Step.run,performCall]
    exact hrun
  | _ => trivial

/-- Over every sequence of operations on any card, the frames of a protected command are those
that a ready session prepared, or there are none. -/
theorem protected_sheltered (card : Card) (steps : List (Step Environment Call)) :
    Along performCall Protects card steps :=
  along_of_forall protects card steps

end Protection
end DesfireSdk.Managed
