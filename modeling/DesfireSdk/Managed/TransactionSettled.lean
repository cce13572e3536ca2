import DesfireSdk.Managed.AuthenticationSettled
import DesfireSdk.Managed.Transactions

/-! The effect of a planned transaction on the managed state. -/
namespace DesfireSdk.Managed
open Interaction Program Model
open Native.Checked (Command)

section Transaction
variable {o : Oracle Environment} {card : Card} {deadline : Int}

theorem remainingOptions_local (throwing : Prop) :
    Ensures some o (remainingOptions deadline) card (LocalRun card throwing) := by
  refine Op.ensures_now_bind fun _ => ?_
  refine Op.ensures_stopRequested_bind fun _ => ?_
  refine Op.ensures_refuse_bind (fun _ => .error rfl rfl) fun _ => ?_
  refine Op.ensures_refuse_bind (fun _ => .error rfl rfl) fun _ => ?_
  exact ensures_pure (.ok rfl)

/-- A mutation names its file in five bits. -/
theorem fileNumber_le {command : Command} (h : isTransactionalMutation command = true) :
    fileNumber command ≤ 31 := by
  simp only [isTransactionalMutation,Bool.and_eq_true,decide_eq_true_eq] at h
  have hbyte : command.header.headD 0 ≤ 31 := h.1.1.1.2
  exact UInt8.le_iff_toNat_le.mp hbyte

theorem number_make {maximum value : Nat} (h : value ≤ maximum) :
    (Number.make value : Result (Number maximum)) = .ok ⟨value,h⟩ := dif_pos h

theorem readSettings_settled {file : Nat} (hinv : card.Inv) (husable : card.usable = true)
    (hfile : file ≤ 31) :
    Ensures some o (readSettings deadline file) card (Settled card False fun _ => False) := by
  refine local_settled hinv husable (remainingOptions_local _) fun budget => ?_
  rw [number_make hfile]
  refine ensures_pure_bind (Op.ensures_ofResult_bind (fun _ h => by cases h) fun query _ => ?_)
  refine settled_bind (executeLocked_settled hinv) ?_
  exact fun _ _ hinv' hopen' => settled_ofResult hinv' hopen'

theorem checkTarget_error {command : Command} {file : FileSettings} {e : Error}
    (h : checkTarget command file = .error e) : e.outcome = .notSent := by
  unfold checkTarget at h
  split at h
  · cases h
    rfl
  split at h <;> cases h
  rfl

/-- Before anything is read the state only has to be usable: the first reading meets the gate. -/
theorem verifyTargets_settled (operations : List Command) (settings : Nat → Option FileSettings)
    (hinv : card.Inv) (husable : card.usable = true)
    (hfiles : ∀ command ∈ operations, fileNumber command ≤ 31)
    (hopen : card.Open ∨ (operations ≠ [] ∧ ∀ file, settings file = none)) :
    Ensures some o (verifyTargets deadline operations settings) card
      (Settled card False fun _ => False) := by
  induction operations generalizing card settings with
  | nil =>
    obtain hopen | ⟨hne,_⟩ := hopen
    · exact ensures_pure (.moved hopen (.ok _) (.rfl hinv husable))
    · exact absurd rfl hne
  | cons command rest ih =>
    obtain ⟨hfile,hrest⟩ := List.forall_mem_cons.mp hfiles
    have hchecked {card : Card} (hinv : card.Inv) (hopen : card.Open) (file : FileSettings) :
        Ensures some o (do
          Op.ofResult (checkTarget command file)
          verifyTargets deadline rest (Function.update settings (fileNumber command) (some file)))
          card (Settled card False fun _ => False) :=
      local_settled hinv hopen.usable (local_ofResult fun _ => checkTarget_error)
        fun _ => ih _ hinv hopen.usable hrest (.inl hopen)
    unfold verifyTargets
    cases hsettings : settings (fileNumber command) with
    | some file =>
      obtain hopen | ⟨_,hnone⟩ := hopen
      · exact ensures_pure_bind (hchecked hinv hopen file)
      · rw [hnone] at hsettings
        cases hsettings
    | none =>
      exact settled_bind (readSettings_settled hinv husable hfile)
        fun file _ hinv' hopen' => hchecked hinv' hopen' file

theorem executeWithin_settled {command : Command} (hinv : card.Inv) (hopen : card.Open) :
    Ensures some o (executeWithin deadline command) card (Settled card False fun _ => False) :=
  local_settled hinv hopen.usable (remainingOptions_local _) fun _ => executeLocked_settled hinv

/-- After a mutation was staged every failure ends the state. -/
theorem stagedStep_settled (staged : Bool) (command : Command) (hinv : card.Inv)
    (hopen : card.Open) :
    Ensures some o (Op.mapError (stagedError staged)
      (Op.onError (fun e card => if staged ∨ e.outcome = .unknown then card.invalidate else card)
        (executeWithin deadline command))) card (Settled card False fun _ => False) := by
  refine Op.ensures_mapError (Op.ensures_onError ((executeWithin_settled hinv hopen).mono ?_))
  rintro ((e | _) | _) card' es h
  · change Settled card False (fun _ => False) (.error (.error (stagedError staged e)))
      (if staged = true ∨ e.outcome = .unknown then card'.invalidate else card') es
    unfold stagedError
    by_cases hends : staged = true ∨ e.outcome = .unknown
    · rw [if_pos hends,if_pos hends]
      exact h.erased hopen.usable
    · rw [if_neg hends,if_neg hends]
      exact h
  · exact h.not_thrown.elim
  · exact h

theorem stage_settled (staged : Bool) (operations : List Command) (hinv : card.Inv)
    (hopen : card.Open) :
    Ensures some o (stage deadline staged operations) card (Settled card False fun _ => False) := by
  induction operations generalizing card staged with
  | nil => exact ensures_pure (.moved hopen (.ok _) (.rfl hinv hopen.usable))
  | cons command rest ih =>
    exact settled_bind (stagedStep_settled staged command hinv hopen)
      fun _ _ hinv' hopen' => ih true hinv' hopen'

theorem commitTransaction_ok (returnMac : Bool) :
    ∃ command, Native.Checked.commitTransaction returnMac = .ok command := by
  cases returnMac <;> exact ⟨_,rfl⟩

theorem commitStaged_settled {returnMac : Bool} (hinv : card.Inv) (hopen : card.Open) :
    Ensures some o (commitStaged deadline returnMac) card (Settled card False fun _ => False) := by
  refine ensures_bind (Op.ensures_mapError (Op.ensures_onError ((remainingOptions_local False).mono ?_))) ?_ ?_
    (m := fun r card' es => (∃ e, r = .error (.error e) ∧ card' = card.invalidate) ∨
      ∃ options, r = .ok options ∧ LocalRun card False (.ok options : Except Fault ExchangeOptions) card' es)
  · rintro ((e | _) | options) card' es h
    · exact .inl ⟨_,rfl,by rw [← h.state]; rfl⟩
    · exact (h.thrown rfl).elim
    · exact .inr ⟨options,rfl,h⟩
  · rintro _ _ _ (⟨e,⟨⟩,rfl⟩ | ⟨_,⟨⟩,_⟩)
    exact .wiped hopen.admits
  rintro options _ es (⟨_,⟨⟩,_⟩ | ⟨_,_,rfl,hes,_,_⟩)
  obtain ⟨commit,hcommit⟩ := commitTransaction_ok returnMac
  rw [hcommit]
  refine ensures_bind_known (fun _ => ⟨rfl,rfl,rfl⟩) ?_
  refine Op.ensures_mapError (Op.ensures_onError ((executeLocked_settled hinv).mono ?_))
  rintro ((e | _) | _) card' es' h
  · exact (h.erased hopen.usable).after hinv hopen.usable hes
  · exact h.not_thrown.elim
  · exact h.after hinv hopen.usable hes

theorem executeTransactionLocked_settled {operations : List Command} {returnMac : Bool}
    {options : ExchangeOptions} (hinv : card.Inv) :
    Ensures some o (executeTransactionLocked operations returnMac options) card
      (Settled card False fun _ => False) := by
  refine Op.ensures_catchAll (settled_caught ?_)
  refine ensures_get_bind ?_
  refine Op.ensures_refuse_bind (fun _ => .refused rfl (by simp)) fun husable => ?_
  have husable : card.usable = true := by simpa using fun h => husable (.inl h)
  refine Op.ensures_refuse_bind (fun _ => .refused rfl (by simp)) fun hoperations => ?_
  refine Op.ensures_now_bind fun now => ?_
  refine Op.ensures_refuse_bind (fun _ => .refused rfl (by simp [external])) fun hmutations => ?_
  have hfiles : ∀ command ∈ operations, fileNumber command ≤ 31 := fun command hcommand => by
    simp only [Bool.not_eq_false,List.all_eq_true] at hmutations
    exact fileNumber_le (hmutations command hcommand)
  have hne : operations ≠ [] := fun h => hoperations (.inl h)
  refine (settled_bind (verifyTargets_settled operations (fun _ => none) hinv husable hfiles
    (.inr ⟨hne,fun _ => rfl⟩)) fun _ _ hinv' hopen' => ?_).mono fun _ _ _ h =>
      h.quietly [⟨.now,now⟩] (by simp [external])
  refine settled_bind (stage_settled false operations hinv' hopen') fun _ _ hinv' hopen' => ?_
  exact commitStaged_settled hinv' hopen'

theorem executeTransaction_operated {plan : TransactionPlan} {returnMac : Bool}
    {options : ExchangeOptions} (hinv : card.Inv) :
    Ensures some o (executeTransaction plan returnMac options) card
      (Operated card False fun _ => False) :=
  admitted_operated rfl (executeTransactionLocked_settled hinv)

end Transaction
end DesfireSdk.Managed
