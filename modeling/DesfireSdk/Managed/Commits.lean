import DesfireSdk.Managed.Atomicity

/-!
# Transactions that go through

When the files suit it and the card answers it, a transaction is committed unless it is interrupted.
-/
namespace DesfireSdk.Managed
open Interaction Program Model Native.Secure

section Commits
variable {o : Oracle Environment} {P : Primitives} {ω π : Type} {limits : TransportCapabilities}
  {framing : Native.Framing} {personalization : Personalization Peer} {contents : Contents ω}
  {split : Native.Raw.Response → List Native.Raw.Response} {origin : CardState Peer ω} {situation : Situation}
  {published : ω → π} {deadline : Int} {card : Card} {k : CardState Peer ω} {n : Nat} {hP : Computes o P}

/-- Whatever the card holds, it answers the command. -/
def Willing (contents : Contents ω) (command : Native.Checked.Command) : Prop :=
  ∀ w, ∃ answer next, contents.execute w command.opcode command.header command.data = (.ok answer,next)

/-- A command that the card answers is answered, unless it is interrupted. -/
theorem executeLocked_willing (hserving : Serving o P limits framing personalization contents split origin published)
    {options : ExchangeOptions} (hpositive : 0 < options.timeout)
    (haboard : Aboard hP framing situation (n+1) card k) {command : Native.Checked.Command}
    (hobliging : Obliging hP personalization contents limits framing split situation command)
    (hwilling : Willing contents command) :
    Facing ((personalization.card P ((honest P).application contents split)).observe framing) origin o k
      (executeLocked command options) card
      (Unless Interrupts (fun _ => True) fun r card' k' => ∃ answer, r = .ok answer ∧
        contents.execute k.stage.chip.contents command.opcode command.header command.data =
          (.ok answer,k'.stage.chip.contents) ∧ Aboard hP framing situation n card' k') := by
  refine (executeLocked_aboard hserving hpositive haboard hobliging).mono fun r card' k' h => ?_
  generalize hafter : k'.stage.chip.contents = after at h
  cases h with
  | @answered answer _ hexecute haboard' => exact .inl ⟨answer,rfl,hafter ▸ hexecute,haboard'⟩
  | refused hexecute =>
    obtain ⟨answer,next,hanswer⟩ := hwilling k.stage.chip.contents
    rw [hexecute] at hanswer
    cases hanswer
  | interrupted hinterrupts => exact .halted hinterrupts trivial

theorem executeWithin_willing (hserving : Serving o P limits framing personalization contents split origin published)
    (hdeadline : deadline < 2^63) (huptime : Uptime o) (haboard : Aboard hP framing situation (n+1) card k)
    {command : Native.Checked.Command}
    (hobliging : Obliging hP personalization contents limits framing split situation command)
    (hwilling : Willing contents command) :
    Facing ((personalization.card P ((honest P).application contents split)).observe framing) origin o k
      (executeWithin deadline command) card
      (Unless Interrupts (fun _ => True) fun r card' k' => ∃ answer, r = .ok answer ∧
        contents.execute k.stage.chip.contents command.opcode command.header command.data =
          (.ok answer,k'.stage.chip.contents) ∧ Aboard hP framing situation n card' k') := by
  refine Facing.unless_bind (remainingOptions_due hdeadline huptime) (fun _ _ => trivial) ?_
  rintro budget card' k' ⟨rfl,rfl,hpositive⟩
  exact executeLocked_willing hserving hpositive haboard hobliging hwilling

/-- File settings were asked for, and every question was answered. -/
def Inquires (contents : Contents ω) (before after : ω) : Prop :=
  ∃ queries, (∀ query ∈ queries, query.opcode = 0xF5) ∧ Answers contents queries before after

theorem Inquires.refl (w : ω) : Inquires contents w w := ⟨[],by simp,.done w⟩

theorem Inquires.of_answered {query : Native.Checked.Command} {before after : ω} {answer : Bytes}
    (hopcode : query.opcode = 0xF5)
    (hexecute : contents.execute before query.opcode query.header query.data = (.ok answer,after)) :
    Inquires contents before after :=
  ⟨[query],by simp [hopcode],.answered hexecute (.done after)⟩

theorem Answers.append {first second : List Native.Checked.Command} {before between after : ω}
    (hfirst : Answers contents first before between) (hsecond : Answers contents second between after) :
    Answers contents (first ++ second) before after := by
  induction hfirst with
  | done => exact hsecond
  | answered hexecute _ ih => exact .answered hexecute (ih hsecond)

theorem Inquires.trans {before between after : ω} (hfirst : Inquires contents before between)
    (hsecond : Inquires contents between after) : Inquires contents before after := by
  obtain ⟨queries,hopcodes,hanswers⟩ := hfirst
  obtain ⟨queries',hopcodes',hanswers'⟩ := hsecond
  refine ⟨queries ++ queries',fun query hmem => ?_,hanswers.append hanswers'⟩
  exact (List.mem_append.mp hmem).elim (hopcodes query) (hopcodes' query)

theorem getFileSettings_opcode {file : FileNumber} {query : Native.Checked.Command}
    (h : Native.Checked.getFileSettings file = .ok query) : query.opcode = 0xF5 := by
  cases h
  rfl

/-- The settings a card gives for the file of a mutation suit every mutation of that file. -/
def Suited (contents : Contents ω) (operations : List Native.Checked.Command) (file : Nat) : Prop :=
  ∃ number query, Number.make file = .ok number ∧ Native.Checked.getFileSettings number = .ok query ∧
    Willing contents query ∧ ∀ w answer next,
      contents.execute w query.opcode query.header query.data = (.ok answer,next) →
        ∃ settings, Native.Checked.parseFileSettings answer = .ok settings ∧
          ∀ command ∈ operations, fileNumber command = file → checkTarget command settings = .ok ()

/-- The settings that were read suit the mutations. -/
def Cached (operations : List Native.Checked.Command) (settings : Nat → Option FileSettings) : Prop :=
  ∀ file known, settings file = some known →
    ∀ command ∈ operations, fileNumber command = file → checkTarget command known = .ok ()

theorem Cached.update {operations : List Native.Checked.Command} {settings : Nat → Option FileSettings} {file : Nat}
    {known : FileSettings} (h : Cached operations settings)
    (hknown : ∀ command ∈ operations, fileNumber command = file → checkTarget command known = .ok ()) :
    Cached operations (Function.update settings file (some known)) := by
  intro file' known' hlookup
  by_cases hfile : file' = file
  · subst hfile
    rw [Function.update_self] at hlookup
    cases hlookup
    exact hknown
  · rw [Function.update_of_ne hfile] at hlookup
    exact h file' known' hlookup

theorem readSettings_suited (hserving : Serving o P limits framing personalization contents split origin published)
    (hdeadline : deadline < 2^63) (huptime : Uptime o) (haboard : Aboard hP framing situation (n+1) card k) {file : Nat}
    (hinquirable : Inquirable hP personalization contents limits framing split situation file)
    {operations : List Native.Checked.Command} (hsuited : Suited contents operations file) :
    Facing ((personalization.card P ((honest P).application contents split)).observe framing) origin o k
      (readSettings deadline file) card
      (Unless Interrupts (fun _ => True) fun r card' k' => ∃ settings, r = .ok settings ∧
        (∀ command ∈ operations, fileNumber command = file → checkTarget command settings = .ok ()) ∧
          Inquires contents k.stage.chip.contents k'.stage.chip.contents ∧
            Aboard hP framing situation n card' k') := by
  obtain ⟨number,query,hnumber,hquery,hwilling,hsettings⟩ := hsuited
  obtain ⟨_,hobliging⟩ := hinquirable number query hnumber hquery
  refine Facing.unless_bind (remainingOptions_due hdeadline huptime) (fun _ _ => trivial) ?_
  rintro budget card' k' ⟨rfl,rfl,hpositive⟩
  rw [hnumber]
  refine Facing.known_bind (a := number) (t := card') (l := k') (fun _ _ => ⟨rfl,rfl,rfl⟩) ?_
  rw [hquery]
  refine Facing.known_bind (a := query) (t := card') (l := k') (fun _ _ => ⟨rfl,rfl,rfl⟩) ?_
  refine Facing.unless_bind (executeLocked_willing hserving hpositive haboard hobliging hwilling)
    (fun _ _ => trivial) ?_
  rintro rawSettings card'' k'' ⟨hexecute,haboard'⟩
  obtain ⟨settings,hparsed,htargets⟩ := hsettings _ _ _ hexecute
  have hinquires := Inquires.of_answered (getFileSettings_opcode hquery) hexecute
  rw [hparsed]
  exact Facing.settle fun _ _ => .inl ⟨settings,rfl,htargets,hinquires,haboard'⟩

theorem verifyTargets_suited (hserving : Serving o P limits framing personalization contents split origin published)
    (hdeadline : deadline < 2^63) (huptime : Uptime o) {operations rest : List Native.Checked.Command}
    {settings : Nat → Option FileSettings} (hrest : ∀ command ∈ rest, command ∈ operations)
    (hinquirable : ∀ command ∈ operations,
      Inquirable hP personalization contents limits framing split situation (fileNumber command))
    (hsuited : ∀ command ∈ operations, Suited contents operations (fileNumber command))
    (hcached : Cached operations settings) (haboard : Aboard hP framing situation (rest.length + n) card k) :
    Facing ((personalization.card P ((honest P).application contents split)).observe framing) origin o k
      (verifyTargets deadline rest settings) card
      (Unless Interrupts (fun _ => True) fun r card' k' => ∃ a, r = .ok a ∧
        Inquires contents k.stage.chip.contents k'.stage.chip.contents ∧
          Aboard hP framing situation n card' k') := by
  induction rest generalizing settings card k with
  | nil =>
    rw [List.length_nil,Nat.zero_add] at haboard
    exact Facing.pure (.inl ⟨_,rfl,.refl _,haboard⟩)
  | cons command rest ih =>
    rw [List.length_cons,Nat.add_right_comm] at haboard
    have hmem := hrest command List.mem_cons_self
    have hgoes : ∀ known card' k', (∀ command' ∈ operations, fileNumber command' = fileNumber command →
        checkTarget command' known = .ok ()) →
        Inquires contents k.stage.chip.contents k'.stage.chip.contents →
        Aboard hP framing situation (rest.length + n) card' k' →
        Facing ((personalization.card P ((honest P).application contents split)).observe framing) origin o k' (do
          Op.ofResult (checkTarget command known)
          verifyTargets deadline rest (Function.update settings (fileNumber command) (some known))) card'
          (Unless Interrupts (fun _ => True) fun r card' k' => ∃ a, r = .ok a ∧
            Inquires contents k.stage.chip.contents k'.stage.chip.contents ∧
              Aboard hP framing situation n card' k') := by
      intro known card' k' hknown hinquires haboard'
      rw [hknown command hmem rfl]
      refine Facing.known_bind (a := ()) (t := card') (l := k') (fun _ _ => ⟨rfl,rfl,rfl⟩) ?_
      refine (ih (fun command' h => hrest command' (List.mem_cons_of_mem _ h)) (hcached.update hknown)
        haboard').mono fun r card'' k'' h => h.mono (fun _ h => h) ?_
      rintro ⟨a,hdone,hinquires',haboard''⟩
      exact ⟨a,hdone,hinquires.trans hinquires',haboard''⟩
    unfold verifyTargets
    cases hlookup : settings (fileNumber command) with
    | some known =>
      refine Facing.known_bind (a := known) (t := card) (l := k) (fun _ _ => ⟨rfl,rfl,rfl⟩) ?_
      exact hgoes known card k (hcached _ known hlookup) (.refl _) haboard.pred
    | none =>
      refine Facing.unless_bind (readSettings_suited hserving hdeadline huptime haboard (hinquirable command hmem)
        (hsuited command hmem)) (fun _ _ => trivial) ?_
      rintro known card' k' ⟨hknown,hinquires,haboard'⟩
      exact hgoes known card' k' hknown hinquires haboard'

theorem stage_willing (hserving : Serving o P limits framing personalization contents split origin published)
    (hdeadline : deadline < 2^63) (huptime : Uptime o) {operations : List Native.Checked.Command} {staged : Bool}
    (hobliging : ∀ command ∈ operations,
      Obliging hP personalization contents limits framing split situation command)
    (hwilling : ∀ command ∈ operations, Willing contents command)
    (haboard : Aboard hP framing situation (operations.length + n) card k) :
    Facing ((personalization.card P ((honest P).application contents split)).observe framing) origin o k
      (stage deadline staged operations) card
      (Unless Interrupts (fun _ => True) fun r card' k' => ∃ a, r = .ok a ∧
        Answers contents operations k.stage.chip.contents k'.stage.chip.contents ∧
          Aboard hP framing situation n card' k') := by
  induction operations generalizing staged card k with
  | nil =>
    rw [List.length_nil,Nat.zero_add] at haboard
    exact Facing.pure (.inl ⟨_,rfl,.done _,haboard⟩)
  | cons command rest ih =>
    rw [List.length_cons,Nat.add_right_comm] at haboard
    have hmutated := executeWithin_willing hserving hdeadline huptime haboard (hobliging command List.mem_cons_self)
      (hwilling command List.mem_cons_self)
    refine Facing.unless_bind (unless_mapError (stagedError_code _)
      (unless_onError hmutated fun _ _ _ h => ⟨_,h.choose_spec.1⟩) fun _ _ _ h => ⟨_,h.choose_spec.1⟩)
      (fun _ _ => trivial) ?_
    rintro answer card' k' ⟨hexecute,haboard'⟩
    refine (ih (fun command h => hobliging command (List.mem_cons_of_mem _ h))
      (fun command h => hwilling command (List.mem_cons_of_mem _ h)) haboard').mono fun r card'' k'' h =>
        h.mono (fun _ h => h) ?_
    rintro ⟨a,hdone,hanswers,haboard''⟩
    exact ⟨a,hdone,.answered hexecute hanswers,haboard''⟩

theorem commitStaged_willing (hserving : Serving o P limits framing personalization contents split origin published)
    (hdeadline : deadline < 2^63) (huptime : Uptime o) (haboard : Aboard hP framing situation (n+1) card k)
    {returnMac : Bool} {commit : Native.Checked.Command}
    (hcommit : Native.Checked.commitTransaction returnMac = .ok commit)
    (hobliging : Obliging hP personalization contents limits framing split situation commit)
    (hwilling : Willing contents commit) :
    Facing ((personalization.card P ((honest P).application contents split)).observe framing) origin o k
      (commitStaged deadline returnMac) card
      (Unless Interrupts (fun _ => True) fun r _ k' => ∃ payload, r = .ok payload ∧
        contents.execute k.stage.chip.contents commit.opcode commit.header commit.data =
          (.ok payload,k'.stage.chip.contents)) := by
  refine Facing.unless_bind (unless_mapError Error.asUnknown_code
    (unless_onError (remainingOptions_due hdeadline huptime) fun _ _ _ h => ⟨_,h.choose_spec.1⟩)
    fun _ _ _ h => ⟨_,h.choose_spec.1⟩) (fun _ _ => trivial) ?_
  rintro budget card' k' ⟨rfl,rfl,hpositive⟩
  rw [hcommit]
  refine Facing.known_bind (a := commit) (t := card') (l := k') (fun _ _ => ⟨rfl,rfl,rfl⟩) ?_
  refine unless_mapError Error.asUnknown_code (unless_onError ?_ fun _ _ _ h =>
    ⟨_,h.choose_spec.1⟩) fun _ _ _ h => ⟨_,h.choose_spec.1⟩
  refine (executeLocked_willing hserving hpositive haboard hobliging hwilling).mono fun r card'' k'' h =>
    h.mono (fun _ h => h) ?_
  rintro ⟨payload,hresult,hexecute,_⟩
  exact ⟨payload,hresult,hexecute⟩

/-- The settings were asked for, then every mutation of the transaction was answered, and then its commit. -/
inductive Fulfilled (contents : Contents ω) (operations : List Native.Checked.Command)
    (commit : Native.Checked.Command) (before after : ω) : Except Fault Bytes → Prop
  | fulfilled {payload w staged} (hinquires : Inquires contents before w)
      (hanswers : Answers contents operations w staged)
      (hcommit : contents.execute staged commit.opcode commit.header commit.data = (.ok payload,after)) :
      Fulfilled contents operations commit before after (.ok payload)

/-- A transaction that a card answers, on files that suit it, is committed unless it is interrupted. -/
theorem executeTransaction_commits
    (hserving : Serving o P limits framing personalization contents split origin published) (huptime : Uptime o)
    {options : ExchangeOptions} (hpositive : 0 < options.timeout) (hnative : situation.iso = false)
    {plan : TransactionPlan} (hplan : plan.operations ≠ [])
    (hinquirable : ∀ command ∈ plan.operations,
      Inquirable hP personalization contents limits framing split situation (fileNumber command))
    (hsuited : ∀ command ∈ plan.operations, Suited contents plan.operations (fileNumber command))
    (hobliging : ∀ command ∈ plan.operations,
      Obliging hP personalization contents limits framing split situation command)
    (hwilling : ∀ command ∈ plan.operations, Willing contents command)
    {returnMac : Bool} {commit : Native.Checked.Command}
    (hcommit : Native.Checked.commitTransaction returnMac = .ok commit)
    (hcommitting : Obliging hP personalization contents limits framing split situation commit)
    (hcommits : Willing contents commit)
    (haboard : Aboard hP framing situation (2 * plan.operations.length + 1) card k) :
    Facing ((personalization.card P ((honest P).application contents split)).observe framing) origin o k
      (executeTransaction plan returnMac options) card
      (Unless Interrupts (fun _ => True) fun r _ k' =>
        Fulfilled contents plan.operations commit k.stage.chip.contents k'.stage.chip.contents r) := by
  have hidle := Native.Raw.Responder.observe_idle
    (personalization.card P ((honest P).application contents split)) framing
  have husable := haboard.attached.usable
  have hiso : card.isoSession.isSome = false := (congrArg Situation.iso haboard.situation).trans hnative
  have hbounded : plan.operations.length ≤ 128 := plan.bounded
  have htransactional : plan.operations.all isTransactionalMutation = true := List.all_eq_true.mpr plan.transactional
  refine admitted_connected hserving.card ?_
  unfold executeTransactionLocked
  refine unless_catchAll ?_ fun _ _ _ h => by cases h; exact ⟨_,rfl⟩
  refine Facing.get_bind (Facing.refuse_bind (by simp [husable,hiso]) ?_)
  refine Facing.refuse_bind (by simp [hplan]; omega) (Facing.quiet_bind hidle id fun h => ?_)
  refine Facing.refuse_bind (by simp [htransactional]) ?_
  have hdeadline := nanoseconds_lt (o h .now + options.timeout * Native.Raw.nanosecondsPerMillisecond)
  have hcount : 2 * plan.operations.length + 1 = plan.operations.length + (plan.operations.length + 1) := by
    omega
  rw [hcount] at haboard
  refine Facing.unless_bind (verifyTargets_suited hserving hdeadline huptime (fun _ h => h) hinquirable hsuited
    (fun _ _ h => by cases h) haboard) (fun _ _ => trivial) ?_
  rintro _ card' k' ⟨hinquires,hverified⟩
  refine Facing.unless_bind (stage_willing hserving hdeadline huptime hobliging hwilling hverified)
    (fun _ _ => trivial) ?_
  rintro _ card₂ k₂ ⟨hanswers,hstaged⟩
  refine (commitStaged_willing hserving hdeadline huptime hstaged hcommit hcommitting hcommits).mono
    fun r card₃ k₃ h => h.mono (fun _ h => h) ?_
  rintro ⟨payload,rfl,hexecute⟩
  exact .fulfilled hinquires hanswers hexecute

end Commits
section Vault

theorem vault_willing {command : Native.Checked.Command} (hopcode : command.opcode ∈ [0x3D,0xF5,0xC7]) :
    Willing vault command := by
  intro w
  simp only [vault]
  split
  · exact ⟨_,_,rfl⟩
  split
  · exact ⟨_,_,rfl⟩
  split
  · exact ⟨_,_,rfl⟩
  · rename_i hwrite hquery hcommit
    simp [hwrite,hquery,hcommit] at hopcode

theorem vaultPlan_suited : ∀ command ∈ vaultPlan.operations,
    Suited vault vaultPlan.operations (fileNumber command) := by
  intro command hmem
  have hfile : fileNumber command = 2 := by
    rcases List.mem_pair.mp hmem with rfl | rfl <;> rfl
  rw [hfile]
  refine ⟨_,_,rfl,rfl,vault_willing (by decide),fun w answer next hexecute => ?_⟩
  cases hexecute
  refine ⟨_,rfl,fun command' hmem' _ => ?_⟩
  rcases List.mem_pair.mp hmem' with rfl | rfl <;> rfl

theorem vaultPlan_willing : ∀ command ∈ vaultPlan.operations, Willing vault command := by
  intro command hmem
  rcases List.mem_pair.mp hmem with rfl | rfl <;> exact vault_willing (by decide)

/-- Two writes to a backup file are committed. -/
theorem executeTransaction_commits_vault :
    Facing (vaultCard.observe .direct) vaultStart vaultOracle vaultStart (executeTransaction vaultPlan false {})
      vaultHost (Unless Interrupts (fun _ => True) fun r _ k' =>
        Fulfilled vault vaultPlan.operations (vaultCommand 0xC7 [] [] 0 0) ([],[]) k'.stage.chip.contents r) :=
  executeTransaction_commits vault_serving vault_uptime (by decide) rfl (by decide) vaultPlan_inquirable
    vaultPlan_suited vaultPlan_obliging vaultPlan_willing rfl vaultCommit_obliging (vault_willing (by decide))
    (vault_aboard (by decide))

end Vault
end DesfireSdk.Managed
