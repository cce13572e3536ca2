import DesfireSdk.Interaction.Runs
import DesfireSdk.Managed.Evidence
import DesfireSdk.Managed.TransactionSettled

/-!
A planned transaction as a run of single commands: the settings it reads, the mutations it
stages and the commit that ends it.
-/
namespace DesfireSdk.Managed
open Interaction Program Model
open Native.Raw (Replied)
open Native.Secure (Told)
open Native.Checked (Command)

/-- One command of an operation, with the environment and the history it meets. -/
abbrev Turn := Step Environment (Command × ExchangeOptions)

def executeCommand (command : Command × ExchangeOptions) : Op Card Bytes :=
  executeLocked command.1 command.2

/-- The commands of some turns in order. -/
def commands (turns : List Turn) : List Command := turns.map fun turn => turn.operation.1

/-- The frames of some events are those of the turns, one after another. -/
structure Turns (o : Oracle Environment) (card : Card) (turns : List Turn) (es : Trace Environment) :
    Prop where
  oracle : ∀ turn ∈ turns, turn.oracle = o
  frames : deliveries es = deliveries (log executeCommand card turns)

namespace Turns
variable {o : Oracle Environment} {card : Card} {turns turns' : List Turn} {es es' : Trace Environment}

theorem nil (hes : deliveries es = []) : Turns o card [] es := ⟨by simp,hes⟩

theorem append (h : Turns o card turns es) (h' : Turns o (final executeCommand card turns) turns' es') :
    Turns o card (turns ++ turns') (es ++ es') where
  oracle := List.forall_mem_append.mpr ⟨h.oracle,h'.oracle⟩
  frames := by rw [log_append,deliveries_append,deliveries_append,h.frames,h'.frames]

theorem quietly (h : Turns o card turns es') (hes : deliveries es = []) : Turns o card turns (es ++ es') where
  oracle := h.oracle
  frames := by
    rw [deliveries_append,hes]
    exact h.frames

/-- A turn before the turns of the state it leaves. -/
theorem cons {turn : Turn} (hturn : turn.oracle = o) (hes : (turn.run executeCommand card).events = es)
    (h : Turns o (turn.run executeCommand card).state turns es') :
    Turns o card (turn :: turns) (es ++ es') where
  oracle := List.forall_mem_cons.mpr ⟨hturn,h.oracle⟩
  frames := by rw [log,hes,deliveries_append,deliveries_append,h.frames]

theorem single {turn : Turn} (hturn : turn.oracle = o) (hes : (turn.run executeCommand card).events = es) :
    Turns o card [turn] es := by
  have hnil : Turns o (turn.run executeCommand card).state [] [] := .nil rfl
  have h := cons hturn hes hnil
  rwa [List.append_nil] at h

end Turns

section Rules
variable {o : Oracle Environment} {card : Card} {deadline : Int}

/-- Every execution of a command is a turn, and it catches what is thrown. -/
theorem executeLocked_turn (o : Oracle Environment) (command : Command) (options : ExchangeOptions)
    (card : Card) : Ensures some o (executeLocked command options) card fun r card' es =>
      r ≠ .error .thrown ∧ ∃ turn : Turn, turn.oracle = o ∧ turn.operation.1 = command ∧
        turn.run executeCommand card = ⟨r,card',es⟩ := by
  intro h
  rw [shown_some]
  refine ⟨Op.catchAll_not_thrown o h card,⟨(command,options),o,h⟩,rfl,rfl,?_⟩
  simp only [Step.run,executeCommand]

end Rules

section Verification
variable {o : Oracle Environment} {card card' : Card} {deadline : Int}

/-- The turn asks for the settings of a file. -/
def Asks (file : Nat) (turn : Turn) : Prop :=
  ∃ number : FileNumber, number.value = file ∧ Native.Checked.getFileSettings number = .ok turn.operation.1

/-- The turn asks for the settings of a file and gets them. -/
def Reports (file : Nat) (settings : FileSettings) (card : Card) (turn : Turn) : Prop :=
  Asks file turn ∧ ∃ payload, (turn.run executeCommand card).result = .ok payload ∧
    Native.Checked.parseFileSettings payload = .ok settings

theorem Asks.fileNumber {file : Nat} {turn : Turn} (h : Asks file turn) :
    fileNumber turn.operation.1 = file := by
  obtain ⟨number,rfl,hquery⟩ := h
  have hbound := number.bounded
  have hcommand := Except.ok.inj hquery
  rw [← hcommand]
  simp only [Managed.fileNumber,Native.Checked.management,List.headD_cons,UInt8.toNat_ofNat']
  omega

/-- Every way the settings of one file can be read. -/
inductive ReadRun (o : Oracle Environment) (file : Nat) (card : Card) :
    Except Fault FileSettings → Card → Trace Environment → Prop
  | unasked {f card' es} (hes : deliveries es = []) : ReadRun o file card (.error f) card' es
  | failed {turn f card' es} (hturns : Turns o card [turn] es) (hasks : Asks file turn) :
      ReadRun o file card (.error f) card' es
  | read {turn settings es} (hturns : Turns o card [turn] es) (hreports : Reports file settings card turn) :
      ReadRun o file card (.ok settings) (turn.run executeCommand card).state es

theorem readSettings_runs {file : Nat} (hfile : file ≤ 31) (card : Card) :
    Ensures some o (readSettings deadline file) card (ReadRun o file card) := by
  refine ensures_bind (remainingOptions_local False) ?_ ?_
  · intro f card' es h
    exact .unasked h.silent
  intro budget card' es h
  have hes := h.silent
  obtain rfl : card = card' := h.state.symm
  rw [number_make hfile]
  refine ensures_pure_bind (Op.ensures_ofResult_bind (fun _ h => by cases h) fun query hquery => ?_)
  have hasks {turn : Turn} (hturn : turn.operation.1 = query) : Asks file turn := ⟨⟨file,hfile⟩,rfl,hturn ▸ hquery⟩
  refine ensures_bind (executeLocked_turn o query budget card) ?_ ?_
  · rintro f card' es' ⟨_,turn,hturn,hcommand,hrun⟩
    exact .failed ((Turns.single hturn (by rw [hrun])).quietly hes) (hasks hcommand)
  · rintro payload card' es' ⟨_,turn,hturn,hcommand,hrun⟩
    have hturns : Turns o card [turn] (es ++ (es' ++ [])) := by
      rw [List.append_nil]
      exact (Turns.single hturn (by rw [hrun])).quietly hes
    refine Op.ensures_onError (Op.ensures_ofResult ?_)
    cases hparsed : Native.Checked.parseFileSettings payload with
    | error e => exact .failed hturns (hasks hcommand)
    | ok settings =>
      have hreports : Reports file settings card turn := ⟨hasks hcommand,payload,by rw [hrun],hparsed⟩
      have hread := ReadRun.read hturns hreports
      rw [hrun] at hread
      exact hread

/-- The settings of the targets are known or were asked for, and every mutation fits them. -/
structure Verified (o : Oracle Environment) (operations : List Command)
    (settings : Nat → Option FileSettings) (card : Card) (queries : List Turn) (r : Except Fault Unit)
    (card' : Card) (es : Trace Environment) : Prop where
  turns : Turns o card queries es
  asked : ∀ turn ∈ queries, ∃ command ∈ operations,
    settings (fileNumber command) = none ∧ Asks (fileNumber command) turn
  once : ((commands queries).map fileNumber).Nodup
  state : r = .ok () → card' = final executeCommand card queries
  checked : r = .ok () → ∀ command ∈ operations, ∃ file, checkTarget command file = .ok () ∧
    (settings (fileNumber command) = some file ∨
      Sometime executeCommand (Reports (fileNumber command) file) card queries)

theorem update_none {settings : Nat → Option FileSettings} {file : FileSettings} {number other : Nat}
    (h : Function.update settings number (some file) other = none) :
    other ≠ number ∧ settings other = none := by
  by_cases hother : other = number
  · subst hother
    rw [Function.update_self] at h
    cases h
  · exact ⟨hother,by rwa [Function.update_of_ne hother] at h⟩

theorem update_some {settings : Nat → Option FileSettings} {file file' : FileSettings} {number other : Nat}
    (h : Function.update settings number (some file) other = some file') :
    (other = number ∧ file' = file) ∨ settings other = some file' := by
  by_cases hother : other = number
  · subst hother
    rw [Function.update_self] at h
    exact .inl ⟨rfl,(Option.some.inj h).symm⟩
  · exact .inr (by rwa [Function.update_of_ne hother] at h)

namespace Verified
variable {command : Command} {rest : List Command} {settings : Nat → Option FileSettings}
  {file : FileSettings} {queries : List Turn} {r : Except Fault Unit} {es es' : Trace Environment} {f : Fault}

/-- Nothing was asked before the verification failed. -/
theorem unasked (hes : deliveries es = []) :
    Verified o (command :: rest) settings card [] (.error f) card' es where
  turns := .nil hes
  asked := by simp
  once := List.nodup_nil
  state := by simp
  checked := by simp

/-- The only question for the first target failed, or its answer does not fit. -/
theorem failed {turn : Turn} (hturns : Turns o card [turn] es) (hasks : Asks (fileNumber command) turn)
    (hnone : settings (fileNumber command) = none) :
    Verified o (command :: rest) settings card [turn] (.error f) card' es where
  turns := hturns
  asked := by
    intro t ht
    rw [List.mem_singleton.mp ht]
    exact ⟨command,List.mem_cons_self,hnone,hasks⟩
  once := by simp [commands]
  state := by simp
  checked := by simp

/-- The settings of the first target were known. -/
theorem known (hsettings : settings (fileNumber command) = some file)
    (hcheck : checkTarget command file = .ok ())
    (h : Verified o rest (Function.update settings (fileNumber command) (some file)) card queries r card' es) :
    Verified o (command :: rest) settings card queries r card' es where
  turns := h.turns
  asked := by
    intro turn hturn
    obtain ⟨c,hc,hnone,hasks⟩ := h.asked turn hturn
    exact ⟨c,List.mem_cons_of_mem _ hc,(update_none hnone).2,hasks⟩
  once := h.once
  state := h.state
  checked := by
    intro hr c hc
    obtain rfl | hc := List.mem_cons.mp hc
    · exact ⟨file,hcheck,.inl hsettings⟩
    · obtain ⟨file',hcheck',hknown | hread⟩ := h.checked hr c hc
      · obtain ⟨hnumber,rfl⟩ | hknown := update_some hknown
        · exact ⟨file',hcheck',.inl (hnumber ▸ hsettings)⟩
        · exact ⟨file',hcheck',.inl hknown⟩
      · exact ⟨file',hcheck',.inr hread⟩

/-- The settings of the first target were read. -/
theorem read {turn : Turn} (hturns : Turns o card [turn] es)
    (hreports : Reports (fileNumber command) file card turn)
    (hnone : settings (fileNumber command) = none) (hcheck : checkTarget command file = .ok ())
    (h : Verified o rest (Function.update settings (fileNumber command) (some file))
      (turn.run executeCommand card).state queries r card' es') :
    Verified o (command :: rest) settings card (turn :: queries) r card' (es ++ es') where
  turns := hturns.append h.turns
  asked := by
    intro t ht
    obtain rfl | ht := List.mem_cons.mp ht
    · exact ⟨command,List.mem_cons_self,hnone,hreports.1⟩
    · obtain ⟨c,hc,hnone',hasks⟩ := h.asked t ht
      exact ⟨c,List.mem_cons_of_mem _ hc,(update_none hnone').2,hasks⟩
  once := by
    refine List.nodup_cons.mpr ⟨?_,h.once⟩
    intro hmem
    obtain ⟨c,hc,hsame⟩ := List.mem_map.mp hmem
    obtain ⟨t,ht,rfl⟩ := List.mem_map.mp hc
    obtain ⟨c,_,hnone',hasks⟩ := h.asked t ht
    rw [hasks.fileNumber,hreports.1.fileNumber] at hsame
    exact (update_none hnone').1 hsame
  state := h.state
  checked := by
    intro hr c hc
    obtain rfl | hc := List.mem_cons.mp hc
    · exact ⟨file,hcheck,.inr (.inl hreports)⟩
    · obtain ⟨file',hcheck',hknown | hread⟩ := h.checked hr c hc
      · obtain ⟨hnumber,rfl⟩ | hknown := update_some hknown
        · exact ⟨file',hcheck',.inr (.inl (hnumber ▸ hreports))⟩
        · exact ⟨file',hcheck',.inl hknown⟩
      · exact ⟨file',hcheck',.inr (.inr hread)⟩

end Verified

/-- The targets are verified one after another, and the settings of each file are asked for once. -/
theorem verifyTargets_verified (operations : List Command) (settings : Nat → Option FileSettings)
    (hfiles : ∀ command ∈ operations, fileNumber command ≤ 31) (card : Card) :
    Ensures some o (verifyTargets deadline operations settings) card fun r card' es =>
      ∃ queries, Verified o operations settings card queries r card' es := by
  induction operations generalizing card settings with
  | nil => exact ensures_pure ⟨[],.nil rfl,by simp,List.nodup_nil,fun _ => rfl,by simp⟩
  | cons command rest ih =>
    obtain ⟨hfile,hrest⟩ := List.forall_mem_cons.mp hfiles
    unfold verifyTargets
    cases hsettings : settings (fileNumber command) with
    | some file =>
      refine ensures_pure_bind (Op.ensures_ofResult_bind (fun _ _ => ⟨[],.unasked rfl⟩) fun _ hcheck => ?_)
      refine (ih _ hrest card).mono ?_
      rintro r card' es ⟨queries,h⟩
      exact ⟨queries,h.known hsettings hcheck⟩
    | none =>
      refine ensures_bind (readSettings_runs hfile card) ?_ ?_
      · intro f card' es h
        cases h with
        | unasked hes => exact ⟨[],.unasked hes⟩
        | failed hturns hasks => exact ⟨_,.failed hturns hasks hsettings⟩
      · intro file card' es h
        cases h with
        | read hturns hreports =>
          refine Op.ensures_ofResult_bind (fun e _ => ?_) fun _ hcheck => ?_
          · rw [List.append_nil]
            exact ⟨_,.failed hturns hreports.1 hsettings⟩
          · refine (ih _ hrest _).mono ?_
            rintro r card' es' ⟨queries,h⟩
            exact ⟨_,.read hturns hreports hsettings hcheck h⟩

end Verification

section Staging
variable {o : Oracle Environment} {card card' : Card} {deadline : Int}

/-- The card accepted the command of the turn: the last frame was answered with a complete status 00. -/
def Accepted (card : Card) (turn : Turn) : Prop :=
  Replied card.raw.framing 0x00 (deliveries (turn.run executeCommand card).events)

theorem transactional_opcode {command : Command} (h : isTransactionalMutation command = true) :
    command.opcode ∈ ([0x0C,0xDC,0x1C,0x3B,0xDB,0xEB,0x3D] : List Byte) := by
  simp only [isTransactionalMutation,Bool.and_eq_true,Bool.or_eq_true,beq_iff_eq] at h
  obtain ⟨⟨⟨⟨⟨⟨_,hopcode⟩,_⟩,_⟩,_⟩,_⟩,_⟩ := h
  simp only [List.mem_cons,List.not_mem_nil,or_false]
  rcases hopcode with (((h | h) | h) | (h | h) | h) | h <;> simp [h]

/-- The response of a mutation is not parsed. -/
theorem transactional_parsed {command : Command} (h : isTransactionalMutation command = true)
    (payload : Bytes) : Native.Checked.checkParsed command.opcode command.header payload = .ok () := by
  have hopcode := transactional_opcode h
  simp only [List.mem_cons,List.not_mem_nil,or_false] at hopcode
  rcases hopcode with h | h | h | h | h | h | h <;> rw [h] <;> rfl

/-- The turn of a mutation reports truthfully what the card answered. -/
theorem executeLocked_mutation {command : Command} (hbuilt : Native.Checked.Built command)
    (htransactional : isTransactionalMutation command = true) (o : Oracle Environment)
    (options : ExchangeOptions) (card : Card) :
    Ensures some o (executeLocked command options) card fun r card' es => r ≠ .error .thrown ∧
      Told card.raw.framing r es ∧ ∃ turn : Turn, turn.oracle = o ∧ turn.operation.1 = command ∧
        turn.run executeCommand card = ⟨r,card',es⟩ := by
  intro h
  obtain ⟨hthrown,hturn⟩ := executeLocked_turn o command options card h
  refine ⟨hthrown,?_,hturn⟩
  have hrun := executeLocked_runs o command options card h
  obtain htold | ⟨payload,e,_,_,hparsed⟩ := hrun.told (Native.Checked.built_paired hbuilt)
  · exact htold
  · rw [transactional_parsed htransactional payload] at hparsed
    cases hparsed

/-- Every way one mutation can go. -/
inductive MutationRun (o : Oracle Environment) (staged : Bool) (command : Command) (card : Card) :
    Except Fault Bytes → Card → Trace Environment → Prop
  | unsent {e card' es} (hes : deliveries es = [])
      (hends : staged = true → e.outcome = .unknown ∧ card'.usable = false) :
      MutationRun o staged command card (.error (.error e)) card' es
  | failed {turn e card' es} (hturns : Turns o card [turn] es) (hcommand : turn.operation.1 = command)
      (hends : staged = true ∨ Accepted card turn → e.outcome = .unknown ∧ card'.usable = false) :
      MutationRun o staged command card (.error (.error e)) card' es
  | staged {turn payload es} (hturns : Turns o card [turn] es) (hcommand : turn.operation.1 = command)
      (haccepted : Accepted card turn) :
      MutationRun o staged command card (.ok payload) (turn.run executeCommand card).state es

/-- After a staged mutation, or with an unknown outcome, a failure ends the state. -/
theorem stagedError_ends {staged : Bool} {e : Error} (h : staged = true ∨ e.outcome = .unknown) :
    (stagedError staged e).outcome = .unknown ∧
      (if staged = true ∨ e.outcome = .unknown then card.invalidate else card).usable = false := by
  unfold stagedError
  rw [if_pos h,if_pos h]
  exact ⟨rfl,rfl⟩

theorem stagedStep_runs (staged : Bool) {command : Command} (hbuilt : Native.Checked.Built command)
    (htransactional : isTransactionalMutation command = true) (card : Card) :
    Ensures some o (Op.mapError (stagedError staged)
      (Op.onError (fun e card => if staged ∨ e.outcome = .unknown then card.invalidate else card)
        (executeWithin deadline command))) card (MutationRun o staged command card) := by
  refine Op.ensures_mapError (Op.ensures_onError ?_)
  refine ensures_bind (remainingOptions_local False) ?_ ?_
  · rintro (e | _) card' es h
    · exact .unsent h.silent fun hstaged => stagedError_ends (.inl hstaged)
    · exact (h.thrown rfl).elim
  intro budget card' es h
  have hes := h.silent
  obtain rfl : card = card' := h.state.symm
  refine (executeLocked_mutation hbuilt htransactional o budget card).mono ?_
  rintro r card' es' ⟨hthrown,htold,turn,hturn,hcommand,hrun⟩
  have hturns : Turns o card [turn] (es ++ es') := (Turns.single hturn (by rw [hrun])).quietly hes
  have haccepted : Accepted card turn ↔ Replied card.raw.framing 0x00 (deliveries es') := by
    unfold Accepted
    rw [hrun]
  rcases r with (e | _) | payload
  · refine .failed hturns hcommand ?_
    rintro (hstaged | h)
    · exact stagedError_ends (.inl hstaged)
    · exact stagedError_ends (.inr (htold.accepted e rfl (haccepted.mp h)))
  · exact absurd rfl hthrown
  · have hstaged : MutationRun o staged command card (.ok payload) (turn.run executeCommand card).state
        (es ++ es') := .staged hturns hcommand (haccepted.mpr (htold.success payload rfl))
    rw [hrun] at hstaged
    exact hstaged

/-- The mutations went out in order until one failed, and a failure after an accepted one is final. -/
structure Staged (o : Oracle Environment) (staged : Bool) (operations : List Command) (card : Card)
    (mutations : List Turn) (r : Except Fault Unit) (card' : Card) (es : Trace Environment) : Prop where
  turns : Turns o card mutations es
  order : commands mutations <+: operations
  complete : r = .ok () → card' = final executeCommand card mutations ∧
    commands mutations = operations ∧ Along executeCommand Accepted card mutations
  failure : ∀ f, r = .error f → staged = true ∨ Sometime executeCommand Accepted card mutations →
    ∃ e, f = .error e ∧ e.outcome = .unknown ∧ card'.usable = false

theorem stage_staged (staged : Bool) (operations : List Command)
    (hbuilt : ∀ command ∈ operations, Native.Checked.Built command)
    (htransactional : ∀ command ∈ operations, isTransactionalMutation command = true) (card : Card) :
    Ensures some o (stage deadline staged operations) card fun r card' es =>
      ∃ mutations, Staged o staged operations card mutations r card' es := by
  induction operations generalizing card staged with
  | nil => exact ensures_pure ⟨[],.nil rfl,List.nil_prefix,fun _ => ⟨rfl,rfl,trivial⟩,by simp⟩
  | cons command rest ih =>
    obtain ⟨hcommand,hrest⟩ := List.forall_mem_cons.mp hbuilt
    obtain ⟨hmutation,hmutations⟩ := List.forall_mem_cons.mp htransactional
    refine ensures_bind (stagedStep_runs staged hcommand hmutation card) ?_ ?_
    · intro f card' es h
      cases h with
      | unsent hes hends =>
        refine ⟨[],.nil hes,List.nil_prefix,by simp,?_⟩
        rintro _ ⟨⟩ (hstaged | hnone)
        · exact ⟨_,rfl,hends hstaged⟩
        · exact hnone.elim
      | failed hturns hcommand hends =>
        refine ⟨_,hturns,⟨rest,by rw [← hcommand]; rfl⟩,by simp,?_⟩
        rintro _ ⟨⟩ (hstaged | haccepted | hnone)
        · exact ⟨_,rfl,hends (.inl hstaged)⟩
        · exact ⟨_,rfl,hends (.inr haccepted)⟩
        · exact hnone.elim
    · intro payload card' es h
      cases h with
      | staged hturns hcommand haccepted =>
        refine (ih true hrest hmutations _).mono ?_
        rintro r card' es' ⟨mutations,h⟩
        refine ⟨_,hturns.append h.turns,?_,?_,?_⟩
        · rw [← hcommand]
          exact List.cons_prefix_cons.mpr ⟨rfl,h.order⟩
        · intro hr
          obtain ⟨hstate,hall,halong⟩ := h.complete hr
          refine ⟨hstate,?_,haccepted,halong⟩
          rw [← hcommand,← hall]
          rfl
        · intro f hf _
          exact h.failure f hf (.inl rfl)

end Staging

section Commit
variable {o : Oracle Environment} {card card' : Card} {deadline : Int}

/-- At most one commit goes out, and only its acceptance succeeds. -/
structure Committed (o : Oracle Environment) (returnMac : Bool) (card : Card) (commits : List Turn)
    (r : Except Fault Bytes) (card' : Card) (es : Trace Environment) : Prop where
  turns : Turns o card commits es
  single : commits = [] ∨ ∃ turn, commits = [turn] ∧
    Native.Checked.commitTransaction returnMac = .ok turn.operation.1
  failure : ∀ f, r = .error f → ∃ e, f = .error e ∧ e.outcome = .unknown ∧ card'.usable = false

theorem commitStaged_committed (returnMac : Bool) (card : Card) :
    Ensures some o (commitStaged deadline returnMac) card fun r card' es =>
      ∃ commits, Committed o returnMac card commits r card' es := by
  refine ensures_bind (Op.ensures_mapError (Op.ensures_onError ((remainingOptions_local False).mono ?_))) ?_ ?_
    (m := fun r card' es => deliveries es = [] ∧ (∀ options, r = .ok options → card' = card) ∧
      ∀ f, r = .error f → ∃ e, f = .error e ∧ e.outcome = .unknown ∧ card'.usable = false)
  · rintro ((e | _) | options) card' es h
    · refine ⟨h.silent,by simp [Op.changeError,Op.afterError],?_⟩
      rintro _ ⟨⟩
      exact ⟨_,rfl,rfl,rfl⟩
    · exact (h.thrown rfl).elim
    · exact ⟨h.silent,fun _ _ => h.state,by simp [Op.changeError,Op.afterError]⟩
  · rintro f card' es ⟨hes,_,hfailure⟩
    refine ⟨[],.nil hes,.inl rfl,?_⟩
    rintro _ ⟨⟩
    exact hfailure _ rfl
  rintro budget card' es ⟨hes,hstate,_⟩
  obtain rfl := hstate budget rfl
  obtain ⟨commit,hcommit⟩ := commitTransaction_ok returnMac
  rw [hcommit]
  refine ensures_bind_known (fun _ => ⟨rfl,rfl,rfl⟩) ?_
  refine Op.ensures_mapError (Op.ensures_onError ?_)
  refine (executeLocked_turn o commit budget card').mono ?_
  rintro r card'' es' ⟨hthrown,turn,hturn,hcommand,hrun⟩
  refine ⟨[turn],(Turns.single hturn (by rw [hrun])).quietly hes,.inr ⟨turn,rfl,by rw [hcommand]; exact hcommit⟩,?_⟩
  rcases r with (e | _) | payload
  · rintro _ ⟨⟩
    exact ⟨_,rfl,rfl,rfl⟩
  · exact absurd rfl hthrown
  · simp [Op.changeError,Op.afterError]

end Commit

section Journal
variable {o : Oracle Environment} {card card' : Card} {returnMac : Bool}

/-- A transaction as single commands: settings are asked for, mutations follow once every target is
verified, and a commit follows once every mutation was accepted. -/
structure Journal (o : Oracle Environment) (operations : List Command) (returnMac : Bool) (card : Card)
    (queries mutations commits : List Turn) (r : Except Fault Bytes) (card' : Card)
    (es : Trace Environment) : Prop where
  turns : Turns o card (queries ++ (mutations ++ commits)) es
  asked : ∀ turn ∈ queries, ∃ command ∈ operations, Asks (fileNumber command) turn
  once : ((commands queries).map fileNumber).Nodup
  verified : mutations ++ commits ≠ [] → ∀ command ∈ operations, ∃ file, checkTarget command file = .ok () ∧
    Sometime executeCommand (Reports (fileNumber command) file) card queries
  order : commands mutations <+: operations
  commit : commits = [] ∨ ∃ turn, commits = [turn] ∧
    Native.Checked.commitTransaction returnMac = .ok turn.operation.1 ∧ commands mutations = operations ∧
    Along executeCommand Accepted (final executeCommand card queries) mutations
  failure : ∀ f, r = .error f →
    Sometime executeCommand Accepted (final executeCommand card queries) mutations →
    ∃ e, f = .error e ∧ e.outcome = .unknown ∧ card'.usable = false

namespace Journal
variable {operations : List Command} {queries mutations commits : List Turn} {r : Except Fault Bytes}
  {es es' : Trace Environment} {f : Fault}

theorem empty (hes : deliveries es = []) : Journal o operations returnMac card [] [] [] r card' es where
  turns := .nil hes
  asked := by simp
  once := List.nodup_nil
  verified := by simp
  order := List.nil_prefix
  commit := .inl rfl
  failure := by
    intro f _ hnone
    exact hnone.elim

theorem quietly (hes : deliveries es = [])
    (h : Journal o operations returnMac card queries mutations commits r card' es') :
    Journal o operations returnMac card queries mutations commits r card' (es ++ es') :=
  {h with turns := h.turns.quietly hes}

/-- An exception ends the transaction with an unknown outcome. -/
theorem caught {e : Error} (he : e.outcome = .unknown)
    (h : Journal o operations returnMac card queries mutations commits (.error .thrown) card' es) :
    Journal o operations returnMac card queries mutations commits (.error (.error e)) card'.invalidate es :=
  {h with failure := fun _ hf _ => ⟨e,(Except.error.inj hf).symm,he,rfl⟩}

/-- The verification failed. -/
theorem unverified (h : Verified o operations (fun _ => none) card queries (.error f) card' es) :
    Journal o operations returnMac card queries [] [] (.error f) card' es where
  turns := by simpa using h.turns
  asked := by
    intro turn hturn
    obtain ⟨command,hcommand,_,hasks⟩ := h.asked turn hturn
    exact ⟨command,hcommand,hasks⟩
  once := h.once
  verified := by simp
  order := List.nil_prefix
  commit := .inl rfl
  failure := by
    intro f _ hnone
    exact hnone.elim

/-- The targets are verified once the verification succeeds. -/
theorem reported (h : Verified o operations (fun _ => none) card queries (.ok ()) card' es) :
    ∀ command ∈ operations, ∃ file, checkTarget command file = .ok () ∧
      Sometime executeCommand (Reports (fileNumber command) file) card queries := by
  intro command hcommand
  obtain ⟨file,hcheck,hknown | hread⟩ := h.checked rfl command hcommand
  · cases hknown
  · exact ⟨file,hcheck,hread⟩

/-- A mutation failed. -/
theorem unstaged {card₁ : Card} (hverified : Verified o operations (fun _ => none) card queries (.ok ()) card₁ es)
    (h : Staged o false operations card₁ mutations (.error f) card' es') :
    Journal o operations returnMac card queries mutations [] (.error f) card' (es ++ es') := by
  have hstate := hverified.state rfl
  subst hstate
  refine {turns := ?_,asked := ?_,once := hverified.once,verified := ?_,order := h.order,
          commit := .inl rfl,failure := ?_}
  · rw [List.append_nil]
    exact hverified.turns.append h.turns
  · intro turn hturn
    obtain ⟨command,hcommand,_,hasks⟩ := hverified.asked turn hturn
    exact ⟨command,hcommand,hasks⟩
  · intro _
    exact reported hverified
  · rintro _ ⟨⟩ haccepted
    exact h.failure f rfl (.inr haccepted)

/-- Every mutation was accepted, and a commit went out or failed before it did. -/
theorem committed {card₁ card₂ : Card} {es'' : Trace Environment}
    (hverified : Verified o operations (fun _ => none) card queries (.ok ()) card₁ es)
    (hstaged : Staged o false operations card₁ mutations (.ok ()) card₂ es')
    (h : Committed o returnMac card₂ commits r card' es'') :
    Journal o operations returnMac card queries mutations commits r card' (es ++ (es' ++ es'')) := by
  have hstate := hverified.state rfl
  subst hstate
  obtain ⟨hstate,hall,haccepted⟩ := hstaged.complete rfl
  subst hstate
  refine {turns := hverified.turns.append (hstaged.turns.append h.turns),asked := ?_,once := hverified.once,
          verified := ?_,order := hstaged.order,commit := ?_,failure := ?_}
  · intro turn hturn
    obtain ⟨command,hcommand,_,hasks⟩ := hverified.asked turn hturn
    exact ⟨command,hcommand,hasks⟩
  · intro _
    exact reported hverified
  · obtain hnone | ⟨turn,hturn,hcommit⟩ := h.single
    · exact .inl hnone
    · exact .inr ⟨turn,hturn,hcommit,hall,haccepted⟩
  · intro f hf _
    exact h.failure f hf

end Journal

theorem executeTransactionLocked_journal {operations : List Command} (returnMac : Bool)
    (options : ExchangeOptions) (hbuilt : ∀ command ∈ operations, Native.Checked.Built command) (card : Card) :
    Ensures some o (executeTransactionLocked operations returnMac options) card fun r card' es =>
      ∃ queries mutations commits, Journal o operations returnMac card queries mutations commits r card' es := by
  let journal (r : Except Fault Bytes) (card' : Card) (es : Trace Environment) : Prop :=
    ∃ queries mutations commits, Journal o operations returnMac card queries mutations commits r card' es
  refine Op.ensures_catchAll (Ensures.mono (?_ : Ensures some o _ card journal) ?_)
  · refine ensures_get_bind ?_
    refine Op.ensures_refuse_bind (fun _ => ⟨[],[],[],.empty rfl⟩) fun _ => ?_
    refine Op.ensures_refuse_bind (fun _ => ⟨[],[],[],.empty rfl⟩) fun _ => ?_
    refine Op.ensures_now_bind fun now => ?_
    refine Op.ensures_refuse_bind (fun _ => ⟨[],[],[],.empty rfl⟩) fun hmutations => ?_
    simp only [Bool.not_eq_false,List.all_eq_true] at hmutations
    have hfiles : ∀ command ∈ operations, fileNumber command ≤ 31 := by
      intro command hcommand
      exact fileNumber_le (hmutations command hcommand)
    have hquiet : deliveries [(⟨.now,now⟩ : Event Environment)] = [] := rfl
    refine ensures_bind (verifyTargets_verified operations (fun _ => none) hfiles card) ?_ ?_
    · rintro f card₁ es₁ ⟨queries,hverified⟩
      exact ⟨queries,[],[],(Journal.unverified hverified).quietly hquiet⟩
    rintro _ card₁ es₁ ⟨queries,hverified⟩
    refine ensures_bind (stage_staged false operations hbuilt hmutations card₁) ?_ ?_
    · rintro f card₂ es₂ ⟨mutations,hstaged⟩
      exact ⟨queries,mutations,[],(Journal.unstaged hverified hstaged).quietly hquiet⟩
    rintro _ card₂ es₂ ⟨mutations,hstaged⟩
    refine (commitStaged_committed returnMac card₂).mono ?_
    rintro r card₃ es₃ ⟨commits,hcommitted⟩
    exact ⟨queries,mutations,commits,(Journal.committed hverified hstaged hcommitted).quietly hquiet⟩
  · rintro r card' es ⟨queries,mutations,commits,h⟩
    rcases r with (e | _) | payload
    · exact ⟨queries,mutations,commits,h⟩
    · exact ⟨queries,mutations,commits,h.caught rfl⟩
    · exact ⟨queries,mutations,commits,h⟩

/-- The journal of a planned transaction on any card. -/
theorem executeTransaction_journal (plan : TransactionPlan) (returnMac : Bool) (options : ExchangeOptions)
    (hbuilt : ∀ command ∈ plan.operations, Native.Checked.Built command) (card : Card) :
    Ensures some o (executeTransaction plan returnMac options) card fun r card' es =>
      ∃ queries mutations commits,
        Journal o plan.operations returnMac card queries mutations commits r card' es := by
  refine (admitted_runs (executeTransactionLocked_journal returnMac options hbuilt card)).mono ?_
  intro r card' es h
  cases h with
  | unlocked | reentered => exact ⟨[],[],[],.empty rfl⟩
  | entered h =>
    obtain ⟨queries,mutations,commits,h⟩ := h
    exact ⟨queries,mutations,commits,h.quietly rfl⟩

end Journal
end DesfireSdk.Managed
