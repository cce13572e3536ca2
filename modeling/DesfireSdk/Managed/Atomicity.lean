import DesfireSdk.Managed.Transactions
import DesfireSdk.Managed.Visits

/-!
# Transactions at an honest card

What others see of the card is changed by a whole transaction or not at all, also when a
deadline or a cancellation interrupts it.
-/
namespace DesfireSdk.Managed
open Interaction Program Model Native.Secure

/-- What others see of a card changes only by a commit that is answered. -/
structure Transactional {ω π : Type} (contents : Contents ω) (published : ω → π) : Prop where
  unpublished : ∀ {w opcode header data reply next}, contents.execute w opcode header data = (reply,next) →
    (opcode = 0xC7 → ∃ status, reply = .error status) → published next = published w

/-- Commands that were all answered, in their order. -/
inductive Answers {ω : Type} (contents : Contents ω) : List Native.Checked.Command → ω → ω → Prop
  | done (w) : Answers contents [] w w
  | answered {command rest w next last answer}
      (hexecute : contents.execute w command.opcode command.header command.data = (.ok answer,next))
      (hrest : Answers contents rest next last) : Answers contents (command :: rest) w last

/-- The clock counts up from zero. -/
def Uptime (o : Oracle Environment) : Prop := ∀ h, 0 ≤ (o h .now : Int)

section Budgets
variable {o : Oracle Environment} {κ : Type} {chip : Native.Raw.Responder κ} {framing : Native.Framing} {start k : κ}
  {card : Card} {deadline : Int}

theorem nanoseconds_lt (n : Int) : Native.Raw.nanoseconds n < 2^63 := Int.bmod_lt (by decide)

/-- Until a deadline, what it leaves is a positive time. -/
theorem budget_pos {now : Int} (hdeadline : deadline < 2^63) (hnow : 0 ≤ now) (hpending : ¬deadline ≤ now) :
    0 < Native.Raw.ceilMilliseconds (Native.Raw.nanoseconds (deadline - now)) := by
  have hsame : Native.Raw.nanoseconds (deadline - now) = deadline - now :=
    Int.bmod_eq_of_le (by omega) (by omega)
  have hpositive : 0 < deadline - now := by omega
  rw [hsame]
  simp only [Native.Raw.ceilMilliseconds,Native.Raw.nanosecondsPerMillisecond]
  omega

theorem remainingOptions_due (hdeadline : deadline < 2^63) (huptime : Uptime o) :
    Facing (chip.observe framing) start o k (remainingOptions deadline) card
      (Unless Interrupts (· = k) fun r card' k' =>
        ∃ budget, r = .ok budget ∧ card' = card ∧ k' = k ∧ 0 < budget.timeout) := by
  have hidle := Native.Raw.Responder.observe_idle chip framing
  refine Facing.quiet_bind hidle id fun h => Facing.quiet_bind hidle id fun h' => ?_
  refine Facing.refuse_cases (fun _ => .halted (.inr rfl) rfl) fun _ => ?_
  refine Facing.refuse_cases (fun _ => .halted (.inl rfl) rfl) fun hpending => ?_
  exact Facing.pure (.inl ⟨_,rfl,rfl,rfl,budget_pos hdeadline (huptime h) hpending⟩)

end Budgets

section Transactions
variable {o : Oracle Environment} {P : Primitives} {ω π : Type} {limits : TransportCapabilities}
  {framing : Native.Framing} {personalization : Personalization Peer} {contents : Contents ω}
  {split : Native.Raw.Response → List Native.Raw.Response} {origin : CardState Peer ω} {situation : Situation}
  {published : ω → π} {deadline : Int} {card : Card} {k : CardState Peer ω} {n : Nat}

/-- The chip serves the command whatever it holds, with an answer or a refusal. -/
def Obliging (hP : Computes o P) (personalization : Personalization Peer) (contents : Contents ω)
    (limits : TransportCapabilities) (framing : Native.Framing)
    (split : Native.Raw.Response → List Native.Raw.Response) (situation : Situation)
    (command : Native.Checked.Command) : Prop :=
  ∀ w, ∃ reply next, Obliges hP personalization contents limits framing split situation w command reply next

/-- An honest card with transactions behind a transport. -/
structure Serving (o : Oracle Environment) (P : Primitives) (limits : TransportCapabilities)
    (framing : Native.Framing) (personalization : Personalization Peer) (contents : Contents ω)
    (split : Native.Raw.Response → List Native.Raw.Response) (origin : CardState Peer ω) (published : ω → π) :
    Prop where
  card : Native.Raw.Connected o limits framing
    (personalization.card P ((honest P).application contents split)) origin
  splits : Splits split
  documented : Documented contents
  transactional : Transactional contents published

/-- Host and chip are in step, for this many commands. -/
structure Aboard (hP : Computes o P) (framing : Native.Framing) (situation : Situation) (n : Nat) (card : Card)
    (k : CardState Peer ω) : Prop where
  framing : card.raw.framing = framing
  situation : card.situation = situation
  attached : Attached o card
  tuned : Tuned hP n card k

/-- Nothing was published, and after a success both ends go on in step. -/
structure Advance (hP : Computes o P) (framing : Native.Framing) (situation : Situation) (published : ω → π) (n : Nat)
    (k : CardState Peer ω) {α : Type} (r : Except Fault α) (card' : Card) (k' : CardState Peer ω) : Prop where
  held : published k'.stage.chip.contents = published k.stage.chip.contents
  aboard : ∀ a, r = .ok a → Aboard hP framing situation n card' k'

variable {hP : Computes o P}

theorem Aboard.pred (h : Aboard hP framing situation (n+1) card k) : Aboard hP framing situation n card k :=
  ⟨h.framing,h.situation,h.attached,h.tuned.pred⟩

/-- The ends of one command at the card: it is answered, refused, or interrupted before or after the card has
executed it. -/
inductive Attempted (contents : Contents ω) (command : Native.Checked.Command) (before : ω) (going : Prop) :
    Except Fault Bytes → ω → Prop
  | answered {answer after}
      (hexecute : contents.execute before command.opcode command.header command.data = (.ok answer,after))
      (hgoing : going) : Attempted contents command before going (.ok answer) after
  | refused {status e after}
      (hexecute : contents.execute before command.opcode command.header command.data = (.error status,after)) :
      Attempted contents command before going (.error (.error e)) after
  | interrupted {reply next e after} (hinterrupts : Interrupts (.error e))
      (hexecute : contents.execute before command.opcode command.header command.data = (reply,next))
      (hspans : after = before ∨ after = next) : Attempted contents command before going (.error (.error e)) after

/-- One command of a transaction: the ends of its execution that the card allows. -/
theorem executeLocked_aboard (hserving : Serving o P limits framing personalization contents split origin published)
    {options : ExchangeOptions} (hpositive : 0 < options.timeout)
    (haboard : Aboard hP framing situation (n+1) card k) {command : Native.Checked.Command}
    (hobliging : Obliging hP personalization contents limits framing split situation command) :
    Facing ((personalization.card P ((honest P).application contents split)).observe framing) origin o k
      (executeLocked command options) card fun r card' k' =>
        Attempted contents command k.stage.chip.contents (Aboard hP framing situation n card' k') r
          k'.stage.chip.contents := by
  obtain ⟨hframing,hsituation,hattached,htuned⟩ := haboard
  subst hframing hsituation
  obtain ⟨reply,next,hobliges⟩ := hobliging k.stage.chip.contents
  have hexecute : contents.execute k.stage.chip.contents command.opcode command.header command.data = (reply,next) := by
    cases hobliges <;> assumption
  refine (executeLocked_obliged hP hserving.card hpositive hserving.splits hserving.documented hattached
    htuned hobliges).mono fun r card' k' h => ?_
  rcases h with ⟨hresult,hnext,halike,htuned'⟩ | ⟨⟨f,rfl,hinterrupts⟩,hspans⟩
  · subst hnext hresult
    cases reply with
    | ok answer =>
      have halike := halike answer rfl
      exact .answered hexecute ⟨by rw [halike.raw],halike.situation,hattached.alike halike,htuned' answer rfl⟩
    | error status => exact .refused hexecute
  · obtain ⟨e,rfl⟩ := Interrupts.error hinterrupts
    exact .interrupted hinterrupts hexecute hspans

/-- Whatever its end is, a command that does not commit publishes nothing. -/
theorem Attempted.held {command : Native.Checked.Command} {before after : ω} {going : Prop} {r : Except Fault Bytes}
    (h : Attempted contents command before going r after) (htransactional : Transactional contents published)
    (hopcode : command.opcode ≠ 0xC7) : published after = published before := by
  cases h with
  | answered hexecute | refused hexecute =>
    exact htransactional.unpublished hexecute fun hcommit => absurd hcommit hopcode
  | interrupted _ hexecute hspans =>
    rcases hspans with rfl | rfl
    · rfl
    · exact htransactional.unpublished hexecute fun hcommit => absurd hcommit hopcode

theorem Advance.failed {α β : Type} {m : Nat} {r : Except Fault α} {card' card'' : Card} {k' : CardState Peer ω}
    {f : Fault}
    (h : Advance hP framing situation published n k r card' k') :
    Advance hP framing situation published m k (.error f : Except Fault β) card'' k' :=
  ⟨h.held,fun _ h => by cases h⟩

theorem Advance.after {α : Type} {r : Except Fault α} {card' : Card} {k' k'' : CardState Peer ω}
    (hheld : published k'.stage.chip.contents = published k.stage.chip.contents)
    (h : Advance hP framing situation published n k' r card' k'') :
    Advance hP framing situation published n k r card' k'' :=
  ⟨h.held.trans hheld,h.aboard⟩

/-- A command that does not commit publishes nothing. -/
theorem executeLocked_advance (hserving : Serving o P limits framing personalization contents split origin published)
    {options : ExchangeOptions} (hpositive : 0 < options.timeout)
    (haboard : Aboard hP framing situation (n+1) card k) {command : Native.Checked.Command}
    (hobliging : Obliging hP personalization contents limits framing split situation command)
    (hopcode : command.opcode ≠ 0xC7) :
    Facing ((personalization.card P ((honest P).application contents split)).observe framing) origin o k
      (executeLocked command options) card fun r card' k' =>
        Advance hP framing situation published n k r card' k' ∧ ∀ answer, r = .ok answer →
          contents.execute k.stage.chip.contents command.opcode command.header command.data =
            (.ok answer,k'.stage.chip.contents) := by
  refine (executeLocked_aboard hserving hpositive haboard hobliging).mono fun r card' k' h => ?_
  have hheld := h.held hserving.transactional hopcode
  cases h with
  | answered hexecute haboard' =>
    refine ⟨⟨hheld,fun _ _ => haboard'⟩,fun answer' h => ?_⟩
    cases h
    exact hexecute
  | refused | interrupted => exact ⟨⟨hheld,fun _ h => by cases h⟩,fun _ h => by cases h⟩

theorem executeWithin_advance (hserving : Serving o P limits framing personalization contents split origin published)
    (hdeadline : deadline < 2^63) (huptime : Uptime o) (haboard : Aboard hP framing situation (n+1) card k)
    {command : Native.Checked.Command}
    (hobliging : Obliging hP personalization contents limits framing split situation command)
    (hopcode : command.opcode ≠ 0xC7) :
    Facing ((personalization.card P ((honest P).application contents split)).observe framing) origin o k
      (executeWithin deadline command) card fun r card' k' =>
        Advance hP framing situation published n k r card' k' ∧ ∀ answer, r = .ok answer →
          contents.execute k.stage.chip.contents command.opcode command.header command.data =
            (.ok answer,k'.stage.chip.contents) := by
  refine Facing.bind (remainingOptions_due hdeadline huptime) ?_ ?_
  · rintro f card' k' (⟨_,hresult,_⟩ | ⟨_,rfl⟩)
    · cases hresult
    · exact ⟨⟨rfl,fun _ h => by cases h⟩,fun _ h => by cases h⟩
  · rintro budget card' k' (⟨_,hresult,rfl,rfl,hpositive⟩ | ⟨⟨_,hresult,_⟩,_⟩)
    · cases hresult
      exact executeLocked_advance hserving hpositive haboard hobliging hopcode
    · cases hresult

/-- The chip serves the settings of the file that a mutation is for. -/
def Inquirable (hP : Computes o P) (personalization : Personalization Peer) (contents : Contents ω)
    (limits : TransportCapabilities) (framing : Native.Framing)
    (split : Native.Raw.Response → List Native.Raw.Response) (situation : Situation) (file : Nat) : Prop :=
  ∀ number query, Number.make file = .ok number → Native.Checked.getFileSettings number = .ok query →
    query.opcode ≠ 0xC7 ∧ Obliging hP personalization contents limits framing split situation query

theorem readSettings_advance (hserving : Serving o P limits framing personalization contents split origin published)
    (hdeadline : deadline < 2^63) (huptime : Uptime o) (haboard : Aboard hP framing situation (n+1) card k) {file : Nat}
    (hinquirable : Inquirable hP personalization contents limits framing split situation file) :
    Facing ((personalization.card P ((honest P).application contents split)).observe framing) origin o k
      (readSettings deadline file) card fun r card' k' =>
        Advance hP framing situation published n k r card' k' := by
  refine Facing.bind (remainingOptions_due hdeadline huptime) ?_ ?_
  · rintro f card' k' (⟨_,hresult,_⟩ | ⟨_,rfl⟩)
    · cases hresult
    · exact ⟨rfl,fun _ h => by cases h⟩
  rintro budget card' k' (⟨_,hresult,rfl,rfl,hpositive⟩ | ⟨⟨_,hresult,_⟩,_⟩)
  on_goal 2 => cases hresult
  cases hresult
  cases hnumber : (Number.make file : Result FileNumber) with
  | error e => exact fun _ _ => ⟨rfl,fun _ h => by cases h⟩
  | ok number =>
  refine Facing.known_bind (a := number) (t := card') (l := k') (fun _ _ => ⟨rfl,rfl,rfl⟩) ?_
  refine Facing.ofExcept_bind (fun f _ => ⟨rfl,fun _ h => by cases h⟩) fun query hquery => ?_
  cases hbuilt : Native.Checked.getFileSettings number with
  | error e =>
    rw [hbuilt] at hquery
    cases hquery
  | ok query' =>
  rw [hbuilt] at hquery
  cases hquery
  obtain ⟨hopcode,hobliging⟩ := hinquirable number query hnumber hbuilt
  refine Facing.bind (executeLocked_advance hserving hpositive haboard hobliging hopcode) ?_ ?_
  · rintro f card'' k'' ⟨hadvance,_⟩
    exact hadvance.failed
  · rintro rawSettings card'' k'' ⟨hadvance,_⟩
    refine Facing.settle fun _ _ => ?_
    cases Native.Checked.parseFileSettings rawSettings with
    | error e => exact ⟨hadvance.held,fun _ h => by cases h⟩
    | ok settings => exact ⟨hadvance.held,fun _ _ => hadvance.aboard rawSettings rfl⟩

theorem verifyTargets_advance (hserving : Serving o P limits framing personalization contents split origin published)
    (hdeadline : deadline < 2^63) (huptime : Uptime o) {operations : List Native.Checked.Command}
    {settings : Nat → Option FileSettings}
    (hinquirable : ∀ command ∈ operations,
      Inquirable hP personalization contents limits framing split situation (fileNumber command))
    (haboard : Aboard hP framing situation (operations.length + n) card k) :
    Facing ((personalization.card P ((honest P).application contents split)).observe framing) origin o k
      (verifyTargets deadline operations settings) card fun r card' k' =>
        Advance hP framing situation published n k r card' k' := by
  induction operations generalizing settings card k with
  | nil =>
    rw [List.length_nil,Nat.zero_add] at haboard
    exact Facing.pure ⟨rfl,fun _ _ => haboard⟩
  | cons command rest ih =>
    rw [List.length_cons,Nat.add_right_comm] at haboard
    have hrest : ∀ file card' k', Advance hP framing situation published (rest.length + n) k
        (.ok file : Except Fault FileSettings) card' k' →
        Facing ((personalization.card P ((honest P).application contents split)).observe framing) origin o k' (do
          Op.ofResult (checkTarget command file)
          verifyTargets deadline rest (Function.update settings (fileNumber command) (some file))) card'
          fun r card' k' => Advance hP framing situation published n k r card' k' := by
      intro file card' k' hadvance
      refine Facing.ofExcept_bind (fun f _ => ⟨hadvance.held,fun _ h => by cases h⟩) fun _ _ => ?_
      exact (ih (fun command h => hinquirable command (List.mem_cons_of_mem _ h)) (hadvance.aboard file rfl)).mono
        fun r card'' k'' h => h.after hadvance.held
    unfold verifyTargets
    cases settings (fileNumber command) with
    | some file =>
      refine Facing.known_bind (a := file) (t := card) (l := k) (fun _ _ => ⟨rfl,rfl,rfl⟩) ?_
      exact hrest file card k ⟨rfl,fun _ _ => haboard.pred⟩
    | none =>
      have hread := readSettings_advance hserving hdeadline huptime haboard (hinquirable command List.mem_cons_self)
      refine Facing.bind hread ?_ ?_
      · intro f card' k' hadvance
        exact hadvance.failed
      · exact fun file card' k' hadvance => hrest file card' k' hadvance

/-- Staged mutations publish nothing, and all of them are answered if staging succeeds. -/
theorem stage_advance (hserving : Serving o P limits framing personalization contents split origin published)
    (hdeadline : deadline < 2^63) (huptime : Uptime o) {operations : List Native.Checked.Command} {staged : Bool}
    (hobliging : ∀ command ∈ operations, command.opcode ≠ 0xC7 ∧
      Obliging hP personalization contents limits framing split situation command)
    (haboard : Aboard hP framing situation (operations.length + n) card k) :
    Facing ((personalization.card P ((honest P).application contents split)).observe framing) origin o k
      (stage deadline staged operations) card fun r card' k' =>
        Advance hP framing situation published n k r card' k' ∧ ∀ a, r = .ok a →
          Answers contents operations k.stage.chip.contents k'.stage.chip.contents := by
  induction operations generalizing staged card k with
  | nil =>
    rw [List.length_nil,Nat.zero_add] at haboard
    exact Facing.pure ⟨⟨rfl,fun _ _ => haboard⟩,fun _ _ => .done _⟩
  | cons command rest ih =>
    rw [List.length_cons,Nat.add_right_comm] at haboard
    obtain ⟨hopcode,hserved⟩ := hobliging command List.mem_cons_self
    refine Facing.bind (m := fun r card' k' => Advance hP framing situation published (rest.length + n) k r card' k' ∧
      ∀ answer, r = .ok answer → contents.execute k.stage.chip.contents command.opcode command.header command.data =
        (.ok answer,k'.stage.chip.contents))
      (Facing.settle (Facing.settle ((executeWithin_advance hserving hdeadline huptime haboard hserved
        hopcode).mono ?_))) ?_ ?_
    · rintro (f | answer) card' k' ⟨hadvance,hexecute⟩
      · cases f <;> exact ⟨hadvance.failed,fun _ h => by cases h⟩
      · exact ⟨hadvance,hexecute⟩
    · rintro f card' k' ⟨hadvance,_⟩
      exact ⟨hadvance.failed,fun _ h => by cases h⟩
    · rintro answer card' k' ⟨hadvance,hexecute⟩
      refine (ih (fun command h => hobliging command (List.mem_cons_of_mem _ h)) (hadvance.aboard answer rfl)).mono
        fun r card'' k'' h => ?_
      obtain ⟨hadvance',hanswers⟩ := h
      exact ⟨hadvance'.after hadvance.held,fun a ha => .answered (hexecute answer rfl) (hanswers a ha)⟩

/-- The commit publishes, or nothing is published. A commit that is interrupted may have published and not be
reported. -/
inductive CommitCase (contents : Contents ω) (published : ω → π) (commit : Native.Checked.Command) (before : ω) :
    Except Fault Bytes → ω → Prop
  | published {payload after}
      (hexecute : contents.execute before commit.opcode commit.header commit.data = (.ok payload,after)) :
      CommitCase contents published commit before (.ok payload) after
  | unreported {payload e after} (houtcome : e.outcome = .unknown) (hinterrupts : Interrupts (.error e))
      (hexecute : contents.execute before commit.opcode commit.header commit.data = (.ok payload,after)) :
      CommitCase contents published commit before (.error (.error e)) after
  | withheld {f after} (hheld : published after = published before) :
      CommitCase contents published commit before (.error f) after

theorem commitStaged_connected (hserving : Serving o P limits framing personalization contents split origin published)
    (hdeadline : deadline < 2^63) (huptime : Uptime o) (haboard : Aboard hP framing situation (n+1) card k)
    {returnMac : Bool} {commit : Native.Checked.Command}
    (hcommit : Native.Checked.commitTransaction returnMac = .ok commit)
    (hobliging : Obliging hP personalization contents limits framing split situation commit) :
    Facing ((personalization.card P ((honest P).application contents split)).observe framing) origin o k
      (commitStaged deadline returnMac) card fun r _ k' =>
        CommitCase contents published commit k.stage.chip.contents r k'.stage.chip.contents := by
  refine Facing.bind (unless_mapError Error.asUnknown_code
    (unless_onError (remainingOptions_due hdeadline huptime) fun _ _ _ h => ⟨_,h.choose_spec.1⟩)
    fun _ _ _ h => ⟨_,h.choose_spec.1⟩) ?_ ?_
  · rintro f card' k' (⟨_,hresult,_⟩ | ⟨_,rfl⟩)
    · cases hresult
    · exact .withheld rfl
  rintro budget card' k' (⟨_,hresult,rfl,rfl,hpositive⟩ | ⟨⟨_,hresult,_⟩,_⟩)
  on_goal 2 => cases hresult
  cases hresult
  rw [hcommit]
  refine Facing.known_bind (a := commit) (t := card') (l := k') (fun _ _ => ⟨rfl,rfl,rfl⟩) ?_
  refine Facing.settle (Facing.settle ((executeLocked_aboard hserving hpositive haboard hobliging).mono ?_))
  intro r card'' k'' h
  generalize k''.stage.chip.contents = after at h
  cases h with
  | answered hexecute _ => exact .published hexecute
  | refused hexecute => exact .withheld (hserving.transactional.unpublished hexecute fun _ => ⟨_,rfl⟩)
  | @interrupted reply next e _ hinterrupts hexecute hspans =>
    rcases hspans with rfl | rfl
    · exact .withheld rfl
    cases reply with
    | ok payload => exact .unreported rfl hinterrupts hexecute
    | error status => exact .withheld (hserving.transactional.unpublished hexecute fun _ => ⟨status,rfl⟩)

/-- The whole transaction was published, or nothing of it. If it was published and the result is an error, the
commit was interrupted and its outcome is unknown. -/
inductive Atomic (contents : Contents ω) (published : ω → π) (operations : List Native.Checked.Command)
    (commit : Native.Checked.Command) (before after : ω) : Except Fault Bytes → Prop
  | published {payload w staged} (hinquired : published w = published before)
      (hanswers : Answers contents operations w staged) (hstaged : published staged = published before)
      (hcommit : contents.execute staged commit.opcode commit.header commit.data = (.ok payload,after)) :
      Atomic contents published operations commit before after (.ok payload)
  | unreported {payload w staged e} (houtcome : e.outcome = .unknown) (hinterrupts : Interrupts (.error e))
      (hinquired : published w = published before) (hanswers : Answers contents operations w staged)
      (hstaged : published staged = published before)
      (hcommit : contents.execute staged commit.opcode commit.header commit.data = (.ok payload,after)) :
      Atomic contents published operations commit before after (.error (.error e))
  | withheld {e} (hheld : published after = published before) :
      Atomic contents published operations commit before after (.error (.error e))

theorem mutation_uncommitting {command : Native.Checked.Command} (h : isTransactionalMutation command = true) :
    command.opcode ≠ 0xC7 := by
  intro hopcode
  simp [isTransactionalMutation,hopcode] at h

/-- At an honest card with transactions, what others see changes by the whole transaction or not at all, wherever
the transaction is interrupted. -/
theorem executeTransaction_atomic
    (hserving : Serving o P limits framing personalization contents split origin published)
    (huptime : Uptime o) {options : ExchangeOptions} {plan : TransactionPlan}
    (hinquirable : ∀ command ∈ plan.operations,
      Inquirable hP personalization contents limits framing split situation (fileNumber command))
    (hobliging : ∀ command ∈ plan.operations,
      Obliging hP personalization contents limits framing split situation command)
    {returnMac : Bool} {commit : Native.Checked.Command}
    (hcommit : Native.Checked.commitTransaction returnMac = .ok commit)
    (hcommitting : Obliging hP personalization contents limits framing split situation commit)
    (haboard : Aboard hP framing situation (2 * plan.operations.length + 1) card k) :
    Facing ((personalization.card P ((honest P).application contents split)).observe framing) origin o k
      (executeTransaction plan returnMac options) card fun r _ k' =>
        Atomic contents published plan.operations commit k.stage.chip.contents k'.stage.chip.contents r := by
  have hidle := Native.Raw.Responder.observe_idle
    (personalization.card P ((honest P).application contents split)) framing
  refine admitted_connected hserving.card ?_
  unfold executeTransactionLocked
  refine Facing.settle (Facing.mono (?_ : Facing _ _ _ _ _ _ fun r _ (k' : CardState Peer ω) =>
    ((∀ f, r = .error f → f ≠ .thrown) ∧
      Atomic contents published plan.operations commit k.stage.chip.contents k'.stage.chip.contents r) ∨
    (∃ f, r = .error f) ∧ published k'.stage.chip.contents = published k.stage.chip.contents) ?_)
  · refine Facing.get_bind (Facing.refuse_cases (fun _ => .inr ⟨⟨_,rfl⟩,rfl⟩) fun _ => ?_)
    refine Facing.refuse_cases (fun _ => .inr ⟨⟨_,rfl⟩,rfl⟩) fun _ => Facing.quiet_bind hidle id fun h => ?_
    refine Facing.refuse_cases (fun _ => .inr ⟨⟨_,rfl⟩,rfl⟩) fun _ => ?_
    have hdeadline := nanoseconds_lt (o h .now + options.timeout * Native.Raw.nanosecondsPerMillisecond)
    have hcount : 2 * plan.operations.length + 1 = plan.operations.length + (plan.operations.length + 1) := by
      omega
    rw [hcount] at haboard
    refine Facing.bind (verifyTargets_advance hserving hdeadline huptime hinquirable haboard) ?_ ?_
    · intro f card' k' hadvance
      exact .inr ⟨⟨f,rfl⟩,hadvance.held⟩
    intro _ card' k' hverified
    refine Facing.bind (stage_advance hserving hdeadline huptime
      (fun command hmem => ⟨mutation_uncommitting (plan.transactional command hmem),hobliging command hmem⟩)
      (hverified.aboard _ rfl)) ?_ ?_
    · rintro f card₂ k₂ ⟨hadvance,_⟩
      exact .inr ⟨⟨f,rfl⟩,hadvance.held.trans hverified.held⟩
    rintro _ card₂ k₂ ⟨hstaged,hanswers⟩
    have hheld := hstaged.held.trans hverified.held
    refine (commitStaged_connected hserving hdeadline huptime (hstaged.aboard _ rfl) hcommit hcommitting).mono
      fun r card₃ k₃ h => ?_
    generalize k₃.stage.chip.contents = after at h ⊢
    cases h with
    | published hexecute =>
      exact .inl ⟨fun _ h => (by cases h),.published hverified.held (hanswers _ rfl) hheld hexecute⟩
    | unreported houtcome hinterrupts hexecute =>
      refine .inl ⟨fun _ h => ?_,.unreported houtcome hinterrupts hverified.held (hanswers _ rfl) hheld hexecute⟩
      cases h
      exact Fault.noConfusion
    | withheld hkept => exact .inr ⟨⟨_,rfl⟩,hkept.trans hheld⟩
  · rintro r card' k' (⟨hreturned,hatomic⟩ | ⟨⟨f,rfl⟩,hheld⟩)
    · rcases r with f | payload
      · cases f with
        | error e => exact hatomic
        | thrown => exact absurd rfl (hreturned _ rfl)
      · exact hatomic
    · cases f <;> exact .withheld hheld

end Transactions
section Vault

def vaultFormat (headerSize dataSize : Nat) : Format :=
  {headerSize,dataSize,requestMode := .mac,responseMode := .mac}

/-- A card with one backup file: what was committed, and what was written since. -/
def vault : Contents (List Bytes × List Bytes) where
  format _ opcode :=
    if opcode = 0x3D then vaultFormat 7 2 else if opcode = 0xF5 then vaultFormat 1 0 else vaultFormat 0 0
  execute w opcode _ data :=
    if opcode = 0x3D then (.ok [],(w.1,w.2 ++ [data]))
    else if opcode = 0xF5 then (.ok [0x01,0x01,0x00,0x00,0x20,0x00,0x00],w)
    else if opcode = 0xC7 then (.ok [],(w.2,w.2))
    else (.error 0x1C,w)

def vaultInfo : AuthenticationInfo := ⟨zeros 4,zeros 6,zeros 6,zeros_four,zeros_six,zeros_six⟩

def vaultPeer : Security.Ev2.Peer := ⟨zeros 16,zeros 16,zeros 4,0⟩

def vaultSession : Security.Ev2.Session where
  encryptionKey := zeros 16
  macKey := zeros 16
  authentication := vaultInfo
  counter := 0
  phase := .ready
  encryptionKeySize := zeros_sixteen
  macKeySize := zeros_sixteen

def vaultStart : CardState Peer (List Bytes × List Bytes) := ⟨0,.serving (.idle ⟨some (.ev2 vaultPeer),([],[])⟩)⟩

def vaultCard : Native.Raw.Responder (CardState Peer (List Bytes × List Bytes)) :=
  ledgerKeys.card .echo ((honest .echo).application vault whole)

def vaultOracle : Oracle Environment := vaultCard.wired .direct {} .echo vaultStart

def vaultHost : Card := {raw := ⟨.direct⟩,generation := 1,ev2Session := some vaultSession}

theorem vault_computes : Computes vaultOracle .echo := Native.Raw.wired_computes ..

/-- A protected command of the file. -/
def vaultCommand (opcode : Byte) (header data : Bytes) (minimum maximum : Nat) : Native.Checked.Command :=
  {opcode,header,data,minimumResponse := minimum,maximumResponse := maximum}

theorem vault_obliging {opcode : Byte} {header data answer : Bytes} {minimum maximum : Nat}
    (hframed : opcode ≠ 0x6D) (hcommand : opcode ≠ 0xAF) (hlogin : ledgerKeys.logins opcode = none)
    (hvalid : validate (secureRequest (vaultCommand opcode header data minimum maximum)) = .ok ())
    (hformat : ∀ w, vault.format w opcode = vaultFormat header.length data.length)
    (hfits : Security.Ev2.Session.MacFits header data) (hsize : header.length + data.length ≤ 16)
    (hexecute : ∀ w, ∃ next, vault.execute w opcode header data = (.ok answer,next))
    (hinside : minimum ≤ answer.length ∧ answer.length ≤ maximum) (hanswer : answer.length ≤ 128) :
    Obliging vault_computes ledgerKeys vault {} .direct whole vaultHost.situation
      (vaultCommand opcode header data minimum maximum) := by
  intro w
  obtain ⟨next,hnext⟩ := hexecute w
  have hservable : Servable vault_computes ledgerKeys vault {} .direct whole vaultHost.situation .ev2 w
      (vaultCommand opcode header data minimum maximum) (.ok answer) := by
    refine ⟨rfl,?_,?_⟩
    · refine ⟨rfl,hframed,rfl,fun card hsituation => ?_⟩
      have hnative : card.isoSession.isSome = false := congrArg Situation.iso hsituation
      simp [requireContext,hnative,vaultCommand,Native.Checked.Command.restrictsAuthenticatedKey]
    · refine ⟨hvalid,rfl,hcommand,hlogin,?_,⟨Iff.rfl,hfits⟩,?_⟩
      · rw [show (secureRequest (vaultCommand opcode header data minimum maximum)).command = opcode from rfl,hformat]
        exact ⟨rfl,rfl,rfl,rfl⟩
      · rw [show (secureRequest (vaultCommand opcode header data minimum maximum)).command = opcode from rfl,hformat]
        refine ⟨fun answer' h wire response hwire hresponse => ?_,fun status h => by cases h⟩
        cases h
        have hroom : Native.Raw.Transaction.dataPerFrame .direct {} = 59 := rfl
        have hmaximum : (rawRequest (secureRequest (vaultCommand opcode header data minimum maximum))
          wire).maximumResponse = maximum + 32 := rfl
        have hdata : (rawRequest (secureRequest (vaultCommand opcode header data minimum maximum)) wire).data.length =
          header.length + data.length + 8 := hwire
        have hreceive : response.data.length + Native.Raw.statusSize .direct ≤
            ({} : TransportCapabilities).maxReceive := by
          change response.data.length + 1 ≤ 65538
          omega
        exact .whole (by omega) rfl rfl (by omega) (by omega) (by omega) hreceive
  exact ⟨.ok answer,next,.answered hservable hnext hinside trivial⟩

theorem vault_documented : Documented vault := by
  intro w opcode header data answer next hexecute
  simp only [vault] at hexecute
  split at hexecute
  · rename_i hopcode
    cases hexecute
    rw [hopcode]
    rfl
  · split at hexecute
    · rename_i hopcode
      cases hexecute
      rw [hopcode]
      rfl
    · split at hexecute
      · rename_i hopcode
        cases hexecute
        rw [hopcode]
        rfl
      · cases hexecute

theorem vault_transactional : Transactional vault Prod.fst where
  unpublished := by
    intro w opcode header data reply next hexecute hcommit
    simp only [vault] at hexecute
    split at hexecute
    · cases hexecute
      rfl
    · split at hexecute
      · cases hexecute
        rfl
      · split at hexecute
        · rename_i hopcode
          obtain ⟨status,hstatus⟩ := hcommit hopcode
          cases hexecute
          cases hstatus
        · cases hexecute
          rfl

theorem vault_serving : Serving vaultOracle .echo {} .direct ledgerKeys vault whole vaultStart Prod.fst where
  card := Native.Raw.wired_connected ..
  splits _ h := ⟨.final h,rfl⟩
  documented := vault_documented
  transactional := vault_transactional

theorem vault_uptime : Uptime vaultOracle := fun _ => Int.le_refl 0

theorem vault_aboard {n : Nat} (hn : n ≤ 100) :
    Aboard vault_computes .direct vaultHost.situation n vaultHost vaultStart where
  framing := rfl
  situation := rfl
  attached := ⟨⟨rfl,rfl⟩,fun _ => rfl⟩
  tuned := by
    intro family hfamily
    cases hfamily
    have hroom : (0 : UInt16).toNat + n ≤ Security.Ev2.counterMax.toNat := by
      have hmaximum : Security.Ev2.counterMax.toNat = 65535 := rfl
      rw [UInt16.toNat_zero]
      omega
    exact ⟨vaultSession,_,_,rfl,⟨vaultPeer,rfl,rfl,⟨rfl,rfl,rfl,rfl⟩,hroom⟩,rfl,rfl⟩

def vaultWrite (data : Bytes) : Native.Checked.Command := vaultCommand 0x3D [0x02,0,0,0,2,0,0] data 0 0

theorem vaultWrites_transactional :
    ∀ command ∈ [vaultWrite [7,8],vaultWrite [9,10]], isTransactionalMutation command = true := by
  decide

theorem vaultWrites_bounded : [vaultWrite [7,8],vaultWrite [9,10]].length ≤ maximumOperations := by
  decide

def vaultPlan : TransactionPlan where
  operations := [vaultWrite [7,8],vaultWrite [9,10]]
  bounded := vaultWrites_bounded
  transactional := vaultWrites_transactional

theorem vaultPlan_obliging : ∀ command ∈ vaultPlan.operations,
    Obliging vault_computes ledgerKeys vault {} .direct whole vaultHost.situation command := by
  intro command hmem
  rcases List.mem_pair.mp hmem with rfl | rfl
  · exact vault_obliging (by decide) (by decide) rfl rfl (fun _ => rfl) (by decide) (by decide) (fun _ => ⟨_,rfl⟩)
      (by decide) (by decide)
  · exact vault_obliging (by decide) (by decide) rfl rfl (fun _ => rfl) (by decide) (by decide) (fun _ => ⟨_,rfl⟩)
      (by decide) (by decide)

theorem vaultQuery_obliging :
    Obliging vault_computes ledgerKeys vault {} .direct whole vaultHost.situation
      (vaultCommand 0xF5 [0x02] [] 6 128) :=
  vault_obliging (by decide) (by decide) rfl rfl (fun _ => rfl) (by decide) (by decide) (fun _ => ⟨_,rfl⟩) (by decide)
    (by decide)

theorem vaultCommit_obliging :
    Obliging vault_computes ledgerKeys vault {} .direct whole vaultHost.situation (vaultCommand 0xC7 [] [] 0 0) :=
  vault_obliging (by decide) (by decide) rfl rfl (fun _ => rfl) (by decide) (by decide) (fun _ => ⟨_,rfl⟩) (by decide)
    (by decide)

theorem vaultPlan_inquirable : ∀ command ∈ vaultPlan.operations,
    Inquirable vault_computes ledgerKeys vault {} .direct whole vaultHost.situation (fileNumber command) := by
  intro command hmem number query hnumber hquery
  have hfile : fileNumber command = 2 := by
    rcases List.mem_pair.mp hmem with rfl | rfl <;> rfl
  rw [hfile] at hnumber
  cases hnumber
  cases hquery
  exact ⟨by decide,vaultQuery_obliging⟩

/-- Two writes to a backup file are committed together or not at all. -/
theorem executeTransaction_atomic_vault :
    Facing (vaultCard.observe .direct) vaultStart vaultOracle vaultStart (executeTransaction vaultPlan false {})
      vaultHost fun r _ k' =>
        Atomic vault Prod.fst vaultPlan.operations (vaultCommand 0xC7 [] [] 0 0) ([],[]) k'.stage.chip.contents r :=
  executeTransaction_atomic vault_serving vault_uptime vaultPlan_inquirable vaultPlan_obliging rfl
    vaultCommit_obliging (vault_aboard (by decide))

end Vault
end DesfireSdk.Managed
