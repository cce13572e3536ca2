import DesfireSdk.Iso7816.Raw
import DesfireSdk.Managed.Runs
import DesfireSdk.Managed.Timing

/-! The deadlines of managed operations, and of the commands of one transaction under its common deadline. -/
namespace DesfireSdk.Managed
open Interaction Program Model
open Native.Checked (Command)
open Native.Raw (nanoseconds ceilMilliseconds nanosecondsPerMillisecond Governed TimedOut Late Untimed Timed Unhurried)
open Native.Raw.Transaction (Decided)

section Transactions
variable {o : Oracle Environment} {deadline : Int}

/-- One command of a transaction: the reading its controls were granted at, and the one it began at. -/
structure Subcommand where
  granted : Int
  started : Int
  deriving DecidableEq, Repr

/-- The timeout a command of a transaction is given. -/
def Subcommand.timeout (deadline : Int) (c : Subcommand) : Int :=
  ceilMilliseconds (nanoseconds (deadline - c.granted))

/-- The deadline a command of a transaction is under. -/
def Subcommand.ownDeadline (common : Int) (c : Subcommand) : Int :=
  nanoseconds (c.started + c.timeout common * nanosecondsPerMillisecond)

/-- The clock of the commands of a transaction: each is granted what remains of the common deadline, and
begins its own. -/
inductive Nested (deadline : Int) : List Subcommand → List Tick → Prop
  | done : Nested deadline [] []
  | read (reading : Int) {cs : List Subcommand} {ts : List Tick} (hts : Nested deadline cs ts) :
      Nested deadline cs (.read reading :: ts)
  | command (c : Subcommand) (hbefore : c.granted < deadline) {cs : List Subcommand} {inner ts : List Tick}
      (hinner : Governed (c.ownDeadline deadline) inner) (hts : Nested deadline cs ts) :
      Nested deadline (c :: cs) (.read c.granted :: .read c.started :: (inner ++ ts))

theorem Nested.append {cs cs' : List Subcommand} {ts ts' : List Tick} (h : Nested deadline cs ts)
    (h' : Nested deadline cs' ts') : Nested deadline (cs ++ cs') (ts ++ ts') := by
  induction h with
  | done => exact h'
  | read reading _ ih => exact .read reading ih
  | command c hbefore hinner _ ih =>
    rw [List.cons_append,List.cons_append,List.cons_append,List.append_assoc]
    exact .command c hbefore hinner ih

/-- The clock ends after the common deadline, or after that of one of the commands. -/
def Expired (deadline : Int) (cs : List Subcommand) (ts : List Tick) : Prop :=
  Late deadline ts ∨ ∃ c ∈ cs, Late (c.ownDeadline deadline) ts

/-- The clock of some commands of a transaction, which a timeout error never comes before the end of. -/
def Shared {α : Type} (o : Oracle Environment) (deadline : Int) (r : Except Fault α) (ts : List Tick) : Prop :=
  ∃ cs, Nested deadline cs ts ∧ (Unhurried o → TimedOut r → Expired deadline cs ts)

section Results
variable {α β : Type} {r : Except Fault α} {ts ts' : List Tick} {f : Fault} {e : Error}

theorem Shared.quiet (h : Untimed (Unhurried o) r ts) : Shared o deadline r ts := by
  obtain ⟨rfl,hcode⟩ := h
  exact ⟨[],.done,fun ho htimeout => absurd htimeout (hcode ho)⟩

theorem Shared.refused (hcode : e.code ≠ .timeout) : Shared o deadline (.error (.error e) : Except Fault α) [] :=
  .quiet (.refused hcode)

theorem Shared.ok (a : α) : Shared o deadline (.ok a : Except Fault α) [] := .quiet (.ok a)

/-- One reading on its own, which ends what it finds late. -/
theorem Shared.reading {reading : Int} (h : TimedOut r → deadline ≤ reading) : Shared o deadline r [.read reading] :=
  ⟨[],.read reading .done,fun _ htimeout => .inl (.read [] reading (h htimeout))⟩

theorem Shared.passed (h : Shared o deadline (.error f : Except Fault α) ts) :
    Shared o deadline (.error f : Except Fault β) ts := by
  obtain ⟨cs,hnested,hexpired⟩ := h
  exact ⟨cs,hnested,fun ho htimeout => hexpired ho htimeout.passed⟩

theorem Shared.append {a : β} (h : Shared o deadline (.ok a : Except Fault β) ts) (h' : Shared o deadline r ts') :
    Shared o deadline r (ts ++ ts') := by
  obtain ⟨cs,h,_⟩ := h
  obtain ⟨cs',h',hexpired⟩ := h'
  refine ⟨cs ++ cs',h.append h',fun ho htimeout => ?_⟩
  obtain hlate | ⟨c,hc,hlate⟩ := hexpired ho htimeout
  · exact .inl (hlate.after ts)
  · exact .inr ⟨c,List.mem_append_right cs hc,hlate.after ts⟩

theorem Shared.afterError {τ : Type} {cleanup : Error → τ → τ} {s : τ} (h : Shared o deadline r ts) :
    Shared o deadline (Op.afterError cleanup r s).1 ts := by
  rcases r with (_ | _) | _ <;> exact h

theorem Shared.changeError {τ : Type} {change : Error → Error} {s : τ} (h : Shared o deadline r ts)
    (hchange : ∀ e : Error, (change e).code = e.code) : Shared o deadline (Op.changeError change r s).1 ts := by
  rcases r with (e | _) | _
  · obtain ⟨cs,hnested,hexpired⟩ := h
    refine ⟨cs,hnested,fun ho htimeout => hexpired ho ?_⟩
    obtain ⟨_,⟨⟩,hcode⟩ := htimeout
    exact ⟨e,rfl,(hchange e).symm.trans hcode⟩
  · exact h
  · exact h

theorem Shared.afterThrow {τ : Type} {cleanup : τ → τ} {s : τ} (h : Shared o deadline r ts) (hcode : e.code ≠ .timeout) :
    Shared o deadline (Op.afterThrow cleanup e r s).1 ts := by
  rcases r with (_ | _) | _
  · exact h
  · obtain ⟨cs,hnested,_⟩ := h
    exact ⟨cs,hnested,fun _ htimeout => absurd htimeout (Native.Raw.not_timedOut hcode)⟩
  · exact h

end Results

theorem remainingOptions_ticks (o : Oracle Environment) (deadline : Int) (card : Card) :
    Ensures tickOf o (remainingOptions deadline) card fun r card' ts =>
      card' = card ∧ ∃ reading, ts = [.read reading] ∧ (TimedOut r → deadline ≤ reading) ∧
        ∀ options, r = .ok options →
          reading < deadline ∧ options.timeout = ceilMilliseconds (nanoseconds (deadline - reading)) := by
  refine Op.ensures_now_bind fun reading => Op.ensures_stopRequested_bind fun _ => ?_
  refine Op.ensures_refuse_bind (fun _ => ?_) fun _ => ?_
  · refine ⟨rfl,reading,rfl,fun h => absurd h (Native.Raw.not_timedOut (by simp)),by rintro _ ⟨⟩⟩
  refine Op.ensures_refuse_bind (fun hpassed => ?_) fun hbefore => ?_
  · exact ⟨rfl,reading,rfl,fun _ => hpassed,by rintro _ ⟨⟩⟩
  refine ensures_pure ⟨rfl,reading,rfl,fun h => absurd h (Native.Raw.not_timedOut_ok _),?_⟩
  rintro _ ⟨⟩
  exact ⟨by omega,rfl⟩

/-- A command with controls of its own from the common deadline. -/
theorem Nested.operation {α : Type} {r : Except Fault α} {reading given : Int} {ts : List Tick}
    (hbefore : reading < deadline) (hgiven : given = ceilMilliseconds (nanoseconds (deadline - reading)))
    (h : Timed (Unhurried o) given r ts) : Shared o deadline r (.read reading :: ts) := by
  subst hgiven
  obtain ⟨hoperation,hoverdue,_⟩ := h
  cases hoperation with
  | idle =>
    refine ⟨[],.read reading .done,fun ho htimeout => ?_⟩
    obtain ⟨_,_,⟨⟩,_⟩ := hoverdue ho htimeout
  | @begun start inner hinner =>
    have hone : Nested deadline [⟨reading,start⟩] (.read reading :: .read start :: (inner ++ [])) :=
      .command ⟨reading,start⟩ hbefore hinner .done
    rw [List.append_nil] at hone
    refine ⟨_,hone,fun ho htimeout => .inr ⟨_,List.mem_singleton_self _,?_⟩⟩
    obtain ⟨_,_,⟨⟩,hlate⟩ := hoverdue ho htimeout
    exact hlate.after [.read reading,.read start]

theorem executeWithin_ticks (o : Oracle Environment) (deadline : Int) (command : Command) (card : Card) :
    Ensures tickOf o (executeWithin deadline command) card fun r _ ts => Shared o deadline r ts := by
  refine ensures_bind (remainingOptions_ticks o deadline card) ?_ ?_
  · rintro _ _ _ ⟨_,reading,rfl,hpassed,_⟩
    exact .reading fun htimeout => hpassed htimeout.passed
  rintro options card _ ⟨_,reading,rfl,_,hgranted⟩
  obtain ⟨hbefore,htimeout⟩ := hgranted options rfl
  refine (executeLocked_ticks o command options card).mono fun _ _ ts hts => ?_
  exact Nested.operation hbefore htimeout hts

theorem readSettings_ticks (o : Oracle Environment) (deadline : Int) (file : Nat) (card : Card) :
    Ensures tickOf o (readSettings deadline file) card fun r _ ts => Shared o deadline r ts := by
  refine ensures_bind (remainingOptions_ticks o deadline card) ?_ ?_
  · rintro _ _ _ ⟨_,reading,rfl,hpassed,_⟩
    exact .reading fun htimeout => hpassed htimeout.passed
  rintro options card _ ⟨_,reading,rfl,_,hgranted⟩
  obtain ⟨hbefore,htimeout⟩ := hgranted options rfl
  refine Op.ensures_value_bind (fun _ _ => .reading ?_) fun number _ => ?_
  · rintro ⟨_,⟨⟩,_⟩
  refine Op.ensures_ofResult_bind (by rintro _ ⟨⟩) fun query _ => ?_
  refine ensures_bind (executeLocked_ticks o query options card) ?_ ?_
  · exact fun _ _ ts hts => Nested.operation hbefore htimeout hts.passed
  intro rawSettings card ts hts
  have hdone (r : Except Fault FileSettings) : Shared o deadline r (.read reading :: (ts ++ [])) := by
    rw [List.append_nil]
    exact Nested.operation hbefore htimeout hts.answered
  refine Op.ensures_onError (Op.ensures_ofResult ?_)
  cases Native.Checked.parseFileSettings rawSettings <;> exact hdone _

theorem checkTarget_code {command : Command} {file : FileSettings} {e : Error}
    (h : checkTarget command file = .error e) : e.code ≠ .timeout := by
  unfold checkTarget at h
  repeat' split at h
  all_goals cases h
  all_goals simp [invalid]

theorem verifyTargets_ticks (o : Oracle Environment) (deadline : Int) (commands : List Command)
    (settings : Nat → Option FileSettings) (card : Card) :
    Ensures tickOf o (verifyTargets deadline commands settings) card fun r _ ts => Shared o deadline r ts := by
  induction commands generalizing settings card with
  | nil => exact ensures_pure (.ok ())
  | cons command commands ih =>
    have htarget (file : FileSettings) (card : Card) : Ensures tickOf o (do
        Op.ofResult (checkTarget command file)
        verifyTargets deadline commands (Function.update settings (fileNumber command) (some file))) card
        fun r _ ts => Shared o deadline r ts :=
      Op.ensures_ofResult_bind (fun _ he => .refused (checkTarget_code he)) fun _ _ => ih _ card
    rw [verifyTargets]
    cases hsettings : settings (fileNumber command) with
    | some file => exact ensures_pure_bind (htarget file card)
    | none =>
      refine ensures_bind (readSettings_ticks o deadline (fileNumber command) card) (fun _ _ _ h => h.passed) ?_
      intro file card ts hts
      exact (htarget file card).mono fun _ _ _ h => hts.append h

theorem stage_ticks (o : Oracle Environment) (deadline : Int) (staged : Bool) (commands : List Command)
    (card : Card) : Ensures tickOf o (stage deadline staged commands) card fun r _ ts => Shared o deadline r ts := by
  induction commands generalizing staged card with
  | nil => exact ensures_pure (.ok ())
  | cons command commands ih =>
    refine ensures_bind (m := fun r _ ts => Shared o deadline r ts) (Op.ensures_mapError (Op.ensures_onError
      ((executeWithin_ticks o deadline command card).mono fun _ _ _ h => h.afterError.changeError (stagedError_code staged))))
      (fun _ _ _ h => h.passed) ?_
    intro _ card ts hts
    exact (ih true card).mono fun _ _ _ h => hts.append h

theorem commitStaged_ticks (o : Oracle Environment) (deadline : Int) (returnMac : Bool) (card : Card) :
    Ensures tickOf o (commitStaged deadline returnMac) card fun r _ ts => Shared o deadline r ts := by
  refine ensures_bind (m := fun r _ ts => ∃ reading, ts = [.read reading] ∧ (TimedOut r → deadline ≤ reading) ∧
    ∀ options, r = .ok options →
      reading < deadline ∧ options.timeout = ceilMilliseconds (nanoseconds (deadline - reading)))
    (Op.ensures_mapError (Op.ensures_onError ((remainingOptions_ticks o deadline card).mono ?_))) ?_ ?_
  · rintro ((e | _) | _) _ ts ⟨_,reading,hread,hpassed,hgranted⟩
    · refine ⟨reading,hread,fun htimeout => hpassed ?_,by rintro _ ⟨⟩⟩
      obtain ⟨_,⟨⟩,hcode⟩ := htimeout
      exact ⟨e,rfl,hcode⟩
    · exact ⟨reading,hread,hpassed,by rintro _ ⟨⟩⟩
    · exact ⟨reading,hread,hpassed,hgranted⟩
  · rintro _ _ _ ⟨reading,rfl,hpassed,_⟩
    exact .reading fun htimeout => hpassed htimeout.passed
  rintro options card _ ⟨reading,rfl,_,hgranted⟩
  obtain ⟨hbefore,htimeout⟩ := hgranted options rfl
  have hexecute (commit : Command) (card : Card) : Ensures tickOf o
      (Op.mapError Error.asUnknown (Op.onError (fun _ => Card.invalidate) (executeLocked commit options))) card
      fun r _ ts => Shared o deadline r (.read reading :: ts) := by
    refine Op.ensures_mapError (Op.ensures_onError ((executeLocked_ticks o commit options card).mono ?_))
    intro r _ ts hts
    exact (Nested.operation hbefore htimeout hts).afterError.changeError Error.asUnknown_code
  cases returnMac with
  | false => exact ensures_pure_bind (hexecute _ card)
  | true => exact ensures_pure_bind (hexecute _ card)

/-- The clock of a transaction: its first reading fixes the common deadline of all its commands. -/
theorem executeTransaction_ticks (o : Oracle Environment) (plan : TransactionPlan) (returnMac : Bool)
    (options : ExchangeOptions) (card : Card) :
    Ensures tickOf o (executeTransaction plan returnMac options) card fun r _ ts => Untimed (Unhurried o) r ts ∨
      ∃ start ts', ts = .read start :: ts' ∧ 0 < options.timeout ∧
        Shared o (nanoseconds (start + options.timeout * nanosecondsPerMillisecond)) r ts' := by
  have hlocked : Ensures tickOf o (executeTransactionLocked plan.operations returnMac options) card
      fun r _ ts => Untimed (Unhurried o) r ts ∨ ∃ start ts', ts = .read start :: ts' ∧ 0 < options.timeout ∧
        Shared o (nanoseconds (start + options.timeout * nanosecondsPerMillisecond)) r ts' := by
    refine Op.ensures_catchAll (Ensures.mono (show Ensures tickOf o _ card fun r _ ts => Untimed (Unhurried o) r ts ∨
      ∃ start ts', ts = .read start :: ts' ∧ 0 < options.timeout ∧
        Shared o (nanoseconds (start + options.timeout * nanosecondsPerMillisecond)) r ts' from ?_) ?_)
    · refine ensures_get_bind ?_
      refine Op.ensures_refuse_bind (fun _ => .inl (.refused (by simp [sessionInvalid]))) fun _ => ?_
      refine Op.ensures_refuse_bind (fun _ => .inl (.refused (by simp [invalid]))) fun hplan => ?_
      have htimeout : 0 < options.timeout := by
        rw [not_or,not_or] at hplan
        omega
      refine Op.ensures_now_bind fun start => ?_
      have hstart {r : Except Fault Bytes} {ts : List Tick}
          (h : Shared o (nanoseconds (start + options.timeout * nanosecondsPerMillisecond)) r ts) :
          Untimed (Unhurried o) r ([Tick.read start] ++ ts) ∨ ∃ start' ts',
            [Tick.read start] ++ ts = .read start' :: ts' ∧ 0 < options.timeout ∧
            Shared o (nanoseconds (start' + options.timeout * nanosecondsPerMillisecond)) r ts' :=
        .inr ⟨start,ts,rfl,htimeout,h⟩
      refine Op.ensures_refuse_bind (fun _ => hstart (.refused (by simp [invalid]))) fun _ => ?_
      refine ensures_bind (verifyTargets_ticks o _ plan.operations _ card) (fun _ _ _ h => hstart h.passed) ?_
      intro _ card ts hverified
      refine ensures_bind (stage_ticks o _ false plan.operations card)
        (fun _ _ _ h => hstart (hverified.append h.passed)) ?_
      intro _ card ts' hstaged
      refine (commitStaged_ticks o _ returnMac card).mono fun _ _ _ hcommitted => ?_
      exact hstart (hverified.append (hstaged.append hcommitted))
    · rintro r _ ts (huntimed | ⟨start,ts',hts,htimeout,hshared⟩)
      · exact .inl (huntimed.afterThrow (by simp))
      · exact .inr ⟨start,ts',hts,htimeout,hshared.afterThrow (by simp)⟩
  refine Op.ensures_admission_bind fun admission => ?_
  refine Program.ensures_refuse_bind (fun _ => .inl ⟨rfl,fun _ => ?_⟩) fun _ => ?_
  · rintro ⟨_,⟨⟩,_⟩
  exact Op.ensures_refuse_bind (fun _ => .inl (.refused (by simp [busy]))) fun _ => hlocked

end Transactions
section Pacing
variable {start timeout : Int} {cs : List Subcommand} {ts : List Tick}

theorem Nested.fresh {deadline : Int} (h : Nested deadline cs ts) : Fresh ts := by
  cases h with
  | done => exact fresh_nil
  | read reading _ => exact fresh_read reading _
  | command c _ _ _ => exact fresh_read c.granted _

theorem handed_command (c : Subcommand) {inner rest : List Tick} (hinner : Fresh inner) (hrest : Fresh rest) :
    handed (.read c.granted :: .read c.started :: (inner ++ rest)) = handed inner ++ handed rest := by
  have hfresh : Fresh (inner ++ rest) := by
    cases inner with
    | nil => exact hrest
    | cons t inner =>
      rintro given _ heq
      obtain ⟨rfl,_⟩ := List.cons.inj heq
      exact hinner given inner rfl
  rw [handed_read c.granted (fresh_read c.started _),handed_read c.started hfresh,handed_append hrest]

theorem Nested.own {deadline : Int} (h : Nested deadline cs ts) : timeouts ts = (handed ts).map Prod.snd := by
  induction h with
  | done => rfl
  | read reading hts ih =>
    rw [handed_read reading hts.fresh]
    exact ih
  | command c _ hinner hts ih =>
    rw [handed_command c hinner.fresh hts.fresh,timeouts_read,timeouts_read,timeouts_append,List.map_append,
      hinner.own,ih]

/-- A frame of one command of a transaction, with what the command and the frame are granted. -/
structure Subcommand.Grants (start timeout : Int) (c : Subcommand) (p : Int × Int) : Prop where
  after : start ≤ c.granted
  begun : c.granted ≤ c.started
  handed : c.started ≤ p.1
  early : c.granted < start + timeout * nanosecondsPerMillisecond
  before : p.1 < c.started + c.timeout (start + timeout * nanosecondsPerMillisecond) * nanosecondsPerMillisecond
  budget : c.timeout (start + timeout * nanosecondsPerMillisecond) = timeout - (c.granted - start) / 1000000
  given : p.2 = c.timeout (start + timeout * nanosecondsPerMillisecond) - (p.1 - c.started) / 1000000

section Grants
variable {c : Subcommand} {p : Int × Int}

/-- A frame gets no more than remained when its command was granted its controls. -/
theorem Subcommand.Grants.le (h : c.Grants start timeout p) : p.2 ≤ timeout - (c.granted - start) / 1000000 := by
  have hhanded := h.handed
  have hgiven := h.given
  rw [h.budget] at hgiven
  omega

/-- A frame gets no less than what remains of the common deadline. -/
theorem Subcommand.Grants.ge (h : c.Grants start timeout p) : timeout - (p.1 - start) / 1000000 ≤ p.2 := by
  have hbegun := h.begun
  have hgiven := h.given
  rw [h.budget] at hgiven
  omega

theorem Subcommand.Grants.bounded (h : c.Grants start timeout p) : 0 < p.2 ∧ p.2 ≤ timeout := by
  have hle := h.le
  have hafter := h.after
  have hgiven := h.given
  have hbefore := h.before
  unfold nanosecondsPerMillisecond at hbefore hgiven
  omega

/-- Rounding up and the time until a command begins are all that a frame can be late by. -/
theorem Subcommand.Grants.lateness (h : c.Grants start timeout p) :
    p.1 < start + timeout * nanosecondsPerMillisecond + nanosecondsPerMillisecond + (c.started - c.granted) := by
  have hbefore := h.before
  rw [h.budget] at hbefore
  unfold nanosecondsPerMillisecond at *
  omega

/-- The deadline of a command is the common one exactly when no time is lost to it and none to rounding. -/
theorem Subcommand.Grants.shares (h : c.Grants start timeout p) :
    c.started + c.timeout (start + timeout * nanosecondsPerMillisecond) * nanosecondsPerMillisecond ≤
        start + timeout * nanosecondsPerMillisecond ↔
      c.started = c.granted ∧ (c.granted - start) % 1000000 = 0 := by
  have hbegun := h.begun
  rw [h.budget]
  unfold nanosecondsPerMillisecond
  constructor <;> omega

end Grants

/-- A command that begins: what its frames are granted follows from its own deadline. -/
theorem Subcommand.grants_of_governed {c : Subcommand} {inner rest : List Tick}
    (hfits : Native.Raw.Fits start timeout) (hafter : start ≤ c.granted)
    (hbefore : c.granted < start + timeout * nanosecondsPerMillisecond)
    (hinner : Governed (c.ownDeadline (start + timeout * nanosecondsPerMillisecond)) inner)
    (hrising : Rising (.read c.granted :: .read c.started :: (inner ++ rest)))
    (hword : Native.Raw.Word64 c.started)
    (hown : Native.Raw.Fits c.started (c.timeout (start + timeout * nanosecondsPerMillisecond))) :
    ∀ p ∈ handed inner, c.Grants start timeout p := by
  have hbegun : c.granted ≤ c.started := hrising.first c.started List.mem_cons_self
  have hbudget : c.timeout (start + timeout * nanosecondsPerMillisecond) =
      timeout - (c.granted - start) / 1000000 := Native.Raw.remaining_eq hfits hafter hbefore
  have hpositive : 0 < c.timeout (start + timeout * nanosecondsPerMillisecond) := by
    rw [hbudget]
    unfold nanosecondsPerMillisecond at hbefore
    omega
  have hdeadline := Native.Raw.deadline_eq hword hpositive hown
  unfold Subcommand.ownDeadline at hinner
  rw [hdeadline] at hinner
  have hwhole : Rising ((.read c.started :: inner) ++ rest) := hrising.tail
  have hrising' : Rising (.read c.started :: inner) := hwhole.left
  intro p hp
  obtain ⟨hhanded,hearly,hgiven⟩ := hinner.granted hown hrising' p hp
  exact ⟨hafter,hbegun,hhanded,hbefore,hearly,hbudget,hgiven⟩

/-- A clock that runs after a start, in numbers that can be counted. -/
structure Running (start : Int) (ts : List Tick) : Prop where
  rising : Rising ts
  after : ∀ reading ∈ instants ts, start ≤ reading
  word : ∀ reading ∈ instants ts, Native.Raw.Word64 reading

theorem Running.tail {t : Tick} (h : Running start (t :: ts)) : Running start ts := by
  have hmem : ∀ reading ∈ instants ts, reading ∈ instants (t :: ts) := by
    intro reading hreading
    cases t with
    | read _ => exact List.mem_cons_of_mem _ hreading
    | frame _ => exact hreading
  exact ⟨h.rising.tail,fun r hr => h.after r (hmem r hr),fun r hr => h.word r (hmem r hr)⟩

theorem Running.right {ts' : List Tick} (h : Running start (ts ++ ts')) : Running start ts' := by
  have hmem : ∀ reading ∈ instants ts', reading ∈ instants (ts ++ ts') := by
    intro reading hreading
    rw [instants_append]
    exact List.mem_append_right _ hreading
  exact ⟨h.rising.right,fun r hr => h.after r (hmem r hr),fun r hr => h.word r (hmem r hr)⟩

/-- A command of a transaction that began in time, at a reading that can be counted. -/
structure Subcommand.Begun (start timeout : Int) (c : Subcommand) : Prop where
  after : start ≤ c.granted
  early : c.granted < start + timeout * nanosecondsPerMillisecond
  started : c.granted ≤ c.started
  word : Native.Raw.Word64 c.started

theorem Nested.mem {deadline : Int} (h : Nested deadline cs ts) :
    ∀ c ∈ cs, c.granted ∈ instants ts ∧ c.started ∈ instants ts := by
  induction h with
  | done => exact fun c hc => absurd hc List.not_mem_nil
  | read reading _ ih => exact fun c hc => ⟨List.mem_cons_of_mem _ (ih c hc).1,List.mem_cons_of_mem _ (ih c hc).2⟩
  | @command c _ cs inner rest _ _ ih =>
    intro c' hc
    rw [instants_read,instants_read,instants_append]
    rcases List.mem_cons.mp hc with rfl | hc
    · exact ⟨List.mem_cons_self,List.mem_cons_of_mem _ List.mem_cons_self⟩
    · obtain ⟨hgranted,hstarted⟩ := ih c' hc
      exact ⟨List.mem_cons_of_mem _ (List.mem_cons_of_mem _ (List.mem_append_right _ hgranted)),
        List.mem_cons_of_mem _ (List.mem_cons_of_mem _ (List.mem_append_right _ hstarted))⟩

theorem Nested.begun (h : Nested (start + timeout * nanosecondsPerMillisecond) cs ts) (hrunning : Running start ts) :
    ∀ c ∈ cs, c.Begun start timeout := by
  induction h with
  | done => exact fun c hc => absurd hc List.not_mem_nil
  | read reading _ ih => exact ih hrunning.tail
  | @command c hbefore cs inner rest _ _ ih =>
    intro c' hc
    rcases List.mem_cons.mp hc with rfl | hc
    · have hgranted : c'.granted ∈ instants (.read c'.granted :: .read c'.started :: (inner ++ rest)) :=
        List.mem_cons_self
      have hstarted : c'.started ∈ instants (.read c'.granted :: .read c'.started :: (inner ++ rest)) :=
        List.mem_cons_of_mem _ List.mem_cons_self
      exact ⟨hrunning.after _ hgranted,hbefore,hrunning.rising.first _ List.mem_cons_self,hrunning.word _ hstarted⟩
    · exact ih hrunning.tail.tail.right c' hc

/-- The deadline of a command does not come before the common one. -/
theorem Subcommand.Begun.ownDeadline {c : Subcommand} (h : c.Begun start timeout) (hfits : Native.Raw.Fits start timeout)
    (hown : Native.Raw.Fits c.started (c.timeout (start + timeout * nanosecondsPerMillisecond))) :
    start + timeout * nanosecondsPerMillisecond ≤ c.ownDeadline (start + timeout * nanosecondsPerMillisecond) := by
  obtain ⟨hafter,hearly,hstarted,hword⟩ := h
  have hbudget : c.timeout (start + timeout * nanosecondsPerMillisecond) =
      timeout - (c.granted - start) / 1000000 := Native.Raw.remaining_eq hfits hafter hearly
  have hpositive : 0 < c.timeout (start + timeout * nanosecondsPerMillisecond) := by
    rw [hbudget]
    unfold nanosecondsPerMillisecond at hearly
    omega
  unfold Subcommand.ownDeadline
  rw [Native.Raw.deadline_eq hword hpositive hown,hbudget]
  unfold nanosecondsPerMillisecond
  omega

/-- What is over for a command is over for its transaction. -/
theorem Nested.late (hfits : Native.Raw.Fits start timeout)
    (hown : ∀ c ∈ cs, Native.Raw.Fits c.started (c.timeout (start + timeout * nanosecondsPerMillisecond)))
    (h : Nested (start + timeout * nanosecondsPerMillisecond) cs ts) (hrunning : Running start ts)
    (hexpired : Expired (start + timeout * nanosecondsPerMillisecond) cs ts) :
    Late (start + timeout * nanosecondsPerMillisecond) ts := by
  obtain hlate | ⟨c,hc,hlate⟩ := hexpired
  · exact hlate
  · exact hlate.mono ((h.begun hrunning c hc).ownDeadline hfits (hown c hc))

section Common
variable (hfits : Native.Raw.Fits start timeout)
  (hown : ∀ c ∈ cs, Native.Raw.Fits c.started (c.timeout (start + timeout * nanosecondsPerMillisecond)))
  (h : Nested (start + timeout * nanosecondsPerMillisecond) cs ts) (hrunning : Running start ts)
include hfits hown h hrunning

/-- Every frame of a transaction belongs to a command that was granted what remained. -/
theorem Nested.grants : ∀ p ∈ handed ts, ∃ c ∈ cs, c.granted ∈ instants ts ∧ c.Grants start timeout p := by
  induction h with
  | done => exact fun p hp => absurd hp List.not_mem_nil
  | read reading hts ih =>
    intro p hp
    rw [handed_read reading hts.fresh] at hp
    obtain ⟨c,hc,hmem,hgrants⟩ := ih hown hrunning.tail p hp
    exact ⟨c,hc,List.mem_cons_of_mem _ hmem,hgrants⟩
  | @command c hbefore cs inner rest hinner hts ih =>
    intro p hp
    rw [handed_command c hinner.fresh hts.fresh] at hp
    rcases List.mem_append.mp hp with hp | hp
    · have hgranted : c.granted ∈ instants (.read c.granted :: .read c.started :: (inner ++ rest)) :=
        List.mem_cons_self
      have hstarted : c.started ∈ instants (.read c.granted :: .read c.started :: (inner ++ rest)) :=
        List.mem_cons_of_mem _ List.mem_cons_self
      exact ⟨c,List.mem_cons_self,hgranted,Subcommand.grants_of_governed hfits (hrunning.after _ hgranted)
        hbefore hinner hrunning.rising (hrunning.word _ hstarted) (hown c List.mem_cons_self) p hp⟩
    · have hrest : Running start rest := hrunning.tail.tail.right
      obtain ⟨c',hc,hmem,hgrants⟩ := ih (fun c' hc => hown c' (List.mem_cons_of_mem _ hc)) hrest p hp
      refine ⟨c',List.mem_cons_of_mem _ hc,?_,hgrants⟩
      rw [instants_read,instants_read,instants_append]
      exact List.mem_cons_of_mem _ (List.mem_cons_of_mem _ (List.mem_append_right _ hmem))

/-- A later command is granted no more than an earlier frame got. -/
theorem Nested.falling : (handed ts).Pairwise fun p q => p.2 ≥ q.2 := by
  induction h with
  | done => exact .nil
  | read reading hts ih =>
    rw [handed_read reading hts.fresh]
    exact ih hown hrunning.tail
  | @command c hbefore cs inner rest hinner hts ih =>
    have hgranted : c.granted ∈ instants (.read c.granted :: .read c.started :: (inner ++ rest)) :=
      List.mem_cons_self
    have hstarted : c.started ∈ instants (.read c.granted :: .read c.started :: (inner ++ rest)) :=
      List.mem_cons_of_mem _ List.mem_cons_self
    have hfirst := Subcommand.grants_of_governed hfits (hrunning.after _ hgranted) hbefore hinner
      hrunning.rising (hrunning.word _ hstarted) (hown c List.mem_cons_self)
    have hrest : Running start rest := hrunning.tail.tail.right
    have hlater : ∀ c' ∈ cs, Native.Raw.Fits c'.started
        (c'.timeout (start + timeout * nanosecondsPerMillisecond)) :=
      fun c' hc => hown c' (List.mem_cons_of_mem _ hc)
    rw [handed_command c hinner.fresh hts.fresh]
    refine List.pairwise_append.mpr ⟨?_,ih hlater hrest,?_⟩
    · exact Native.Raw.falling_of_granted hrunning.rising.tail.tail.left fun p hp => (hfirst p hp).given
    · intro p hp q hq
      obtain ⟨c',_,hmem,hgrants⟩ := hts.grants hfits hlater hrest q hq
      have hacross : p.1 ≤ c'.granted :=
        hrunning.rising.tail.tail.across (mem_instants_of_handed hp) hmem
      have hge := (hfirst p hp).ge
      have hle := hgrants.le
      omega

theorem Nested.paced : Paced timeout ts := by
  refine ⟨h.own,?_,?_⟩
  · intro given hgiven
    rw [h.own] at hgiven
    obtain ⟨p,hp,rfl⟩ := List.mem_map.mp hgiven
    obtain ⟨c,_,_,hgrants⟩ := h.grants hfits hown hrunning p hp
    exact hgrants.bounded
  · rw [h.own]
    exact List.pairwise_map.mpr (h.falling hfits hown hrunning)

end Common
end Pacing
section Agreement
variable {τ : Type} {budget : Iso7816.Raw.Budget}

/-- One reading decides the same over a budget of elapsed time as over the deadline of an operation. -/
theorem budget_next_ticks (o : Oracle Environment) (messages : Iso7816.Raw.BudgetMessages)
    (sent : Bool) (s : τ) : Ensures tickOf o (budget.next messages sent) s fun r s' ts =>
      s' = s ∧ ((ts = [] ∧ ¬TimedOut r) ∨ ∃ reading, ts = [.read reading] ∧
        (0 < budget.options.timeout → Native.Raw.Word64 budget.started →
          Native.Raw.Fits budget.started budget.options.timeout → budget.started ≤ reading →
          Decided (nanoseconds (budget.started + budget.options.timeout * nanosecondsPerMillisecond))
            reading r)) := by
  refine Op.ensures_generation_bind fun _ => ?_
  refine Op.ensures_refuse_bind (fun _ => ⟨rfl,.inl ⟨rfl,Native.Raw.not_timedOut (by simp)⟩⟩) fun _ => ?_
  refine Op.ensures_stopRequested_bind fun _ => ?_
  refine Op.ensures_refuse_bind (fun _ => ⟨rfl,.inl ⟨rfl,Native.Raw.not_timedOut (by simp)⟩⟩) fun _ => ?_
  refine Op.ensures_now_bind fun reading => ?_
  refine Op.ensures_refuse_bind (fun hover => ⟨rfl,.inr ⟨reading,rfl,?_⟩⟩) fun hbefore => ?_
  · intro htimeout hword hfits hstart
    rw [Native.Raw.deadline_eq hword htimeout hfits]
    refine ⟨iff_of_true ⟨_,rfl,rfl⟩ ?_,by rintro _ ⟨⟩⟩
    unfold nanosecondsPerMillisecond
    rw [Int.tdiv_eq_ediv_of_nonneg (by omega)] at hover
    omega
  refine ensures_pure ⟨rfl,.inr ⟨reading,rfl,fun htimeout hword hfits hstart => ?_⟩⟩
  rw [Native.Raw.deadline_eq hword htimeout hfits]
  rw [Int.tdiv_eq_ediv_of_nonneg (by omega)] at hbefore ⊢
  have hearly : reading < budget.started + budget.options.timeout * nanosecondsPerMillisecond := by
    unfold nanosecondsPerMillisecond
    omega
  refine ⟨iff_of_false (Native.Raw.not_timedOut_ok _) (by omega),?_⟩
  rintro _ ⟨⟩
  exact ⟨hearly,(Native.Raw.remaining_eq hfits hstart hearly).symm⟩

end Agreement
section Deadlines

/-- The clock of a transaction after its start: its frames are paced over all its commands, and a frame is
late only when its command outlives the common deadline. -/
structure Orderly (start timeout : Int) (cs : List Subcommand) (ts : List Tick) : Prop where
  paced : Paced timeout ts
  before : ∀ p ∈ handed ts, ∃ c ∈ cs, c.Grants start timeout p ∧ p.1 < start +
    timeout * nanosecondsPerMillisecond + nanosecondsPerMillisecond + (c.started - c.granted)

/-- A clock under which every command of a transaction has a deadline that can be counted. -/
structure Counted (start timeout : Int) (cs : List Subcommand) (ts : List Tick) : Prop where
  clock : Native.Raw.Countable timeout (.read start :: ts)
  own : ∀ c ∈ cs, Native.Raw.Fits c.started (c.timeout (start + timeout * nanosecondsPerMillisecond))

theorem Counted.running {start timeout : Int} {cs : List Subcommand} {ts : List Tick}
    (h : Counted start timeout cs ts) : Running start ts := by
  refine ⟨h.clock.rising.tail,h.clock.rising.first,fun reading hreading => ?_⟩
  exact h.clock.word reading (List.mem_cons_of_mem _ hreading)

theorem Counted.deadline {start timeout : Int} {cs : List Subcommand} {ts : List Tick} (htimeout : 0 < timeout)
    (h : Counted start timeout cs ts) : nanoseconds (start + timeout * nanosecondsPerMillisecond) =
      start + timeout * nanosecondsPerMillisecond :=
  Native.Raw.deadline_eq (h.clock.word start List.mem_cons_self) htimeout (h.clock.fits start rfl)

theorem Nested.orderly {start timeout : Int} {cs : List Subcommand} {ts : List Tick}
    (h : Nested (start + timeout * nanosecondsPerMillisecond) cs ts)
    (hcounted : Counted start timeout cs ts) : Orderly start timeout cs ts := by
  have hfits : Native.Raw.Fits start timeout := hcounted.clock.fits start rfl
  have hrunning := hcounted.running
  refine ⟨h.paced hfits hcounted.own hrunning,fun p hp => ?_⟩
  obtain ⟨c,hc,_,hgrants⟩ := h.grants hfits hcounted.own hrunning p hp
  exact ⟨c,hc,hgrants,hgrants.lateness⟩

/-- A timeout error comes after the deadline, unless the provider or a key service reports one of its own. -/
def Expires {α : Type} (o : Oracle Environment) (timeout : Int) (r : Except Fault α) (ts : List Tick) : Prop :=
  Unhurried o → TimedOut r → ∃ start ∈ (instants ts).head?, Late (start + timeout * nanosecondsPerMillisecond) ts

/-- Under a deadline that can be counted, frames are paced and a timeout error comes after it. -/
theorem timed_kept {α : Type} {o : Oracle Environment} {timeout : Int} {r : Except Fault α} {ts : List Tick}
    (htimeout : 0 < timeout) (h : Timed (Unhurried o) timeout r ts) (hclock : Native.Raw.Countable timeout ts) :
    Native.Raw.Punctual timeout ts ∧ Expires o timeout r ts := by
  refine ⟨h.operation.punctual htimeout hclock,fun ho htimedOut => ?_⟩
  obtain ⟨start,ts',rfl,hlate⟩ := h.overdue ho htimedOut
  rw [Native.Raw.deadline_eq (hclock.word start List.mem_cons_self) htimeout (hclock.fits start rfl)] at hlate
  exact ⟨start,rfl,hlate.after [.read start]⟩

/-- Deadlines that can be counted are kept: no operation gives up before its timeout, every frame is paced
and handed over before the deadline of its operation, and within a transaction before the common deadline
unless its command outlives it; and an elapsed-time budget decides the same. -/
theorem countable_deadlines_kept (o : Oracle Environment) (options : ExchangeOptions)
    (htimeout : 0 < options.timeout) :
    (∀ start, Native.Raw.Word64 start →
      (nanoseconds (start + options.timeout * nanosecondsPerMillisecond) =
          start + options.timeout * nanosecondsPerMillisecond ↔
        start + options.timeout * nanosecondsPerMillisecond < 2^63)) ∧
    (∀ (channel : Native.Raw.RawNativeChannel) request (card : Card),
      Ensures tickOf o (channel.exchange request options) card fun r _ ts =>
        Native.Raw.Countable options.timeout ts → Native.Raw.Punctual options.timeout ts ∧
          (TimedOut r → ∃ start ∈ (instants ts).head?,
            Native.Raw.Late (start + options.timeout * nanosecondsPerMillisecond) ts)) ∧
    (∀ command card, Ensures tickOf o (execute command options) card fun r _ ts =>
      Native.Raw.Countable options.timeout ts → Native.Raw.Punctual options.timeout ts ∧
        Expires o options.timeout r ts) ∧
    (∀ operation card, operation.timed → Ensures tickOf o (perform operation options) card fun r _ ts =>
      Native.Raw.Countable options.timeout ts → Native.Raw.Punctual options.timeout ts ∧
        Expires o options.timeout r ts) ∧
    (∀ deadline card, Ensures tickOf o (remainingOptions deadline) card fun r _ ts =>
      ∃ reading, ts = [.read reading] ∧ (TimedOut r → deadline ≤ reading)) ∧
    (∀ plan returnMac card, Ensures tickOf o (executeTransaction plan returnMac options) card fun r _ ts =>
      (ts = [] ∧ (Unhurried o → ¬TimedOut r)) ∨ ∃ start cs ts', ts = .read start :: ts' ∧
        Nested (nanoseconds (start + options.timeout * nanosecondsPerMillisecond)) cs ts' ∧
        (Counted start options.timeout cs ts' → Orderly start options.timeout cs ts' ∧
          (Unhurried o → TimedOut r → Late (start + options.timeout * nanosecondsPerMillisecond) ts') ∧
          ((∀ c ∈ cs, c.started = c.granted ∧ (c.granted - start) % 1000000 = 0) →
            ∀ p ∈ handed ts', p.1 < start + options.timeout * nanosecondsPerMillisecond))) ∧
    (∀ messages budget sent (card : Card), budget.options = options →
      Ensures tickOf o (Iso7816.Raw.Budget.next messages budget sent) card fun r _ ts =>
        (ts = [] ∧ ¬TimedOut r) ∨ ∃ reading, ts = [.read reading] ∧
          (Native.Raw.Word64 budget.started → Native.Raw.Fits budget.started options.timeout →
            budget.started ≤ reading →
              Decided (nanoseconds (budget.started + options.timeout * nanosecondsPerMillisecond)) reading r)) := by
  refine ⟨fun start hstart => Native.Raw.deadline_iff hstart htimeout,?_,?_,?_,?_,?_,?_⟩
  · intro channel request card
    refine (Native.Raw.RawNativeChannel.exchange_ticks True o channel request options card).mono ?_
    rintro r _ ts hts hclock
    refine ⟨hts.operation.punctual htimeout hclock,fun htimedOut => ?_⟩
    obtain ⟨start,ts',rfl,hend⟩ := hts.overdue trivial htimedOut
    rw [Native.Raw.deadline_eq (hclock.word start List.mem_cons_self) htimeout (hclock.fits start rfl)] at hend
    exact ⟨start,rfl,hend.after [.read start]⟩
  · intro command card
    exact (execute_ticks o command options card).mono fun _ _ _ hts hclock => timed_kept htimeout hts hclock
  · intro operation card htimed
    exact (perform_ticks o htimed options card).mono fun _ _ _ hts hclock => timed_kept htimeout hts hclock
  · intro deadline card
    refine (remainingOptions_ticks o deadline card).mono ?_
    rintro _ _ _ ⟨_,reading,rfl,hpassed,_⟩
    exact ⟨reading,rfl,hpassed⟩
  · intro plan returnMac card
    refine (executeTransaction_ticks o plan returnMac options card).mono ?_
    rintro _ _ _ (huntimed | ⟨start,ts,rfl,_,cs,hnested,hexpired⟩)
    · exact .inl ⟨huntimed.still,huntimed.code⟩
    refine .inr ⟨start,cs,ts,rfl,hnested,fun hcounted => ?_⟩
    rw [hcounted.deadline htimeout] at hnested hexpired
    have horderly := hnested.orderly hcounted
    refine ⟨horderly,fun ho htimedOut => ?_,fun hshared p hp => ?_⟩
    · exact hnested.late (hcounted.clock.fits start rfl) hcounted.own hcounted.running (hexpired ho htimedOut)
    · obtain ⟨c,hc,hgrants,_⟩ := horderly.before p hp
      have hown := hgrants.shares.mpr (hshared c hc)
      have hbefore := hgrants.before
      omega
  · intro messages budget sent card hoptions
    subst hoptions
    refine (budget_next_ticks o messages sent card).mono ?_
    rintro _ _ _ ⟨_,hearly | ⟨reading,rfl,hdecided⟩⟩
    · exact .inl hearly
    · exact .inr ⟨reading,rfl,hdecided htimeout⟩

/-- A scripted environment with a clock that shows these readings in order. -/
def clocked (times : List Int) (script : Script) : Oracle Environment
  | h,.now => (times[(instants (ticks h)).length]?.getD 0 : Int)
  | h,query => scripted script h query

def versionRequest : Native.Raw.Request := {command := 0x60,data := [],maximumResponse := 28}

/-- Two frames of one operation with two milliseconds, the second after one and a half. -/
def twoFrames : Run Environment Card Fault Native.Raw.Response :=
  (⟨.direct⟩ : Native.Raw.RawNativeChannel).exchange versionRequest ⟨2⟩
    (clocked [0,0,1500000] {replies := [.ok [0xAF,0x04],.ok [0x00,0x01]]}) [] freshCard

/-- One byte to a backup file. -/
def oneByteWrite : Command where
  opcode := 0x3D
  header := [0x01,0x00,0x00,0x00,0x01,0x00,0x00]
  data := [0x55]
  requestMode := .plain

/-- A clock on which the write of a transaction goes out after two and a half milliseconds, and the commit comes
after six. -/
def dragging : Oracle Environment :=
  clocked [0,0,0,0,2000000,2000000,2500000,6000000]
    {replies := [.ok [0x01,0x00,0xEE,0xEE,0x20,0x00,0x00,0x91,0x00],.ok [0x91,0x00]]}

def lateCommit : Run Environment Card Fault Bytes :=
  executeTransaction ⟨[oneByteWrite],by decide,by decide⟩ false ⟨5⟩ dragging [] freshCard

theorem clocked_unhurried (times : List Int) (replies : List (Except Fault Bytes)) :
    Unhurried (clocked times {replies}) where
  random _ _ := Native.Raw.not_timedOut_ok _
  cbc _ _ _ _ _ := Native.Raw.not_timedOut_ok _
  cmac _ _ _ := Native.Raw.not_timedOut_ok _
  derive _ _ _ := Native.Raw.not_timedOut_ok _
  resolve _ _ := Native.Raw.not_timedOut_ok _

theorem countable_deadlines_kept_runs :
    (handed (ticks twoFrames.events) = [(0,2),(1500000,1)] ∧ Native.Raw.Punctual 2 (ticks twoFrames.events)) ∧
    handed (ticks lateCommit.events) = [(0,5),(2500000,3)] ∧ TimedOut lateCommit.result ∧
      Paced 5 (ticks lateCommit.events).tail ∧ Late 5000000 (ticks lateCommit.events).tail := by
  refine ⟨?_,?_⟩
  · have hticks : ticks twoFrames.events = [.read 0,.read 0,.frame 2,.read 1500000,.frame 1] := by
      decide +kernel
    have hclock : Native.Raw.Countable 2 (ticks twoFrames.events) := by
      rw [hticks]
      refine ⟨by decide,by decide,?_⟩
      rintro _ ⟨⟩
      decide
    have hkept := (countable_deadlines_kept (clocked [0,0,1500000] {replies := [.ok [0xAF,0x04],.ok [0x00,0x01]]})
      ⟨2⟩ (by decide)).2.1 ⟨.direct⟩ versionRequest freshCard []
    refine ⟨?_,(hkept hclock).1⟩
    rw [hticks]
    rfl
  · have hticks : ticks lateCommit.events = [.read 0,.read 0,.read 0,.read 0,.frame 5,.read 2000000,.read 2000000,
        .read 2500000,.frame 3,.read 6000000] := by
      decide +kernel
    have htimedOut : TimedOut lateCommit.result :=
      ⟨⟨.timeout,"Transaction deadline expired",.unknown,0⟩,by decide +kernel,rfl⟩
    obtain ⟨_,_,_,_,_,htransaction,_⟩ := countable_deadlines_kept dragging ⟨5⟩ (by decide)
    have hkept := htransaction ⟨[oneByteWrite],by decide,by decide⟩ false freshCard []
    rcases hkept with ⟨hnone,_⟩ | ⟨start,cs,ts,hts,hnested,hcounted⟩
    · cases hticks.symm.trans hnone
    obtain ⟨rfl,rfl⟩ : 0 = start ∧ _ = ts := by simpa using hticks.symm.trans hts
    have hown : ∀ c ∈ cs, Native.Raw.Fits c.started (c.timeout 5000000) := by
      have hall : ∀ granted ∈ [(0 : Int),2000000,2500000,6000000], ∀ started ∈ [(0 : Int),2000000,2500000,6000000],
          Native.Raw.Fits started (Subcommand.timeout 5000000 ⟨granted,started⟩) := by
        decide
      intro c hc
      obtain ⟨hgranted,hstarted⟩ := hnested.mem c hc
      exact hall c.granted (by simpa [instants] using hgranted) c.started (by simpa [instants] using hstarted)
    obtain ⟨horderly,hlate,_⟩ := hcounted ⟨⟨by decide,by decide,by rintro _ ⟨⟩; decide⟩,hown⟩
    rw [hticks]
    exact ⟨rfl,htimedOut,horderly.paced,hlate (clocked_unhurried _ _) htimedOut⟩

/-- An operation with the longest timeout, on a clock that stands still. -/
def unending : Run Environment Card Fault Native.Raw.Response :=
  (⟨.direct⟩ : Native.Raw.RawNativeChannel).exchange versionRequest ⟨2^63 - 1⟩ (scripted {}) [] freshCard

/-- The longest timeout is over at once, and a transaction of one millisecond hands a frame over when that
has passed. -/
theorem deadlines_missed :
    (unending.result = .error (.error ⟨.timeout,"Native operation deadline expired",.notSent,0⟩) ∧
      ticks unending.events = [.read 0,.read 0]) ∧
    ticks (executeTransaction ⟨[oneByteWrite],by decide,by decide⟩ false ⟨1⟩
        (clocked [0,1,1,1000000] {}) [] freshCard).events =
      [.read 0,.read 1,.read 1,.read 1000000,.frame 1] := by
  refine ⟨⟨?_,?_⟩,?_⟩
  · decide +kernel
  · decide +kernel
  · decide +kernel

end Deadlines
end DesfireSdk.Managed
