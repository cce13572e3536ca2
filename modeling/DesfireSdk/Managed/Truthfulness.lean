import DesfireSdk.Managed.Evidence
import DesfireSdk.Managed.Gate

/-! What the result of one managed command is worth over an honest transport. -/
namespace DesfireSdk.Managed
open Interaction Program Native.Secure
open Native.Raw (Replied)
open Native.Checked (Command Built)

/-- The transport's own errors deny transmission only of frames that did not reach the card, and
leave everything else open. -/
def Honest (reached : Delivery → Prop) (ds : List Delivery) : Prop :=
  ∀ d ∈ ds, ∀ e : Error, d.handover.answer = .error (.error e) →
    (e.outcome = .notSent ∧ ¬reached d) ∨ e.outcome = .unknown

/-- What a result promises about the frames of its command: none reached the card, or the card
refused it with this status, or accepted it and the payload is authentic. A rejection without any
frame repeats an error of the crypto provider. -/
structure Truthful (card : Card) (request : Request) (reached : Delivery → Prop) (r : Except Fault Bytes)
    (es : Trace Environment) : Prop where
  notSent : ∀ e, r = .error (.error e) → e.outcome = .notSent → ∀ d ∈ deliveries es, ¬reached d
  rejected : ∀ e, r = .error (.error e) → e.outcome = .rejected →
    Refused card.raw.framing e (deliveries es) ∨ (deliveries es = [] ∧ Supplied e es)
  success : ∀ payload, r = .ok payload → Replied card.raw.framing 0x00 (deliveries es) ∧
    (Reads card request → Authentic card es payload)

section Truth
variable {o : Oracle Environment} {card card' : Card} {command : Command} {reached : Delivery → Prop}

theorem Honest.withheld {ds : List Delivery} (hhonest : Honest reached ds) {d : Delivery} (hd : d ∈ ds)
    (hwithheld : d.Withheld) : ¬reached d := by
  obtain ⟨e,hanswer,he⟩ := hwithheld
  obtain ⟨_,h⟩ | h := hhonest d hd e hanswer
  · exact h
  · rw [he] at h
    cases h

theorem Honest.unclaimed {ds : List Delivery} (hhonest : Honest reached ds) : ¬Claimed ds := by
  rintro ⟨d,hd,e,hanswer,he⟩
  obtain ⟨h,_⟩ | h := hhonest d hd e hanswer <;> rw [he] at h <;> cases h

theorem ExecuteRun.truthful {r : Except Fault Bytes} {es : Trace Environment}
    (h : ExecuteRun o command card r card' es) (hpaired : command.Paired)
    (hhonest : Honest reached (deliveries es)) : Truthful card (secureRequest command) reached r es := by
  obtain htold | ⟨payload,e,rfl,_,hparsed⟩ := h.told hpaired
  · refine ⟨?_,?_,?_⟩
    · intro e hr he d hd
      exact hhonest.withheld hd (htold.notSent e hr he d hd)
    · intro e hr he
      obtain hrefused | hclaimed | hsupplied := htold.rejected e hr he
      · exact .inl hrefused
      · exact absurd hclaimed hhonest.unclaimed
      · exact .inr hsupplied
    · rintro payload rfl
      exact ⟨htold.success payload rfl,h.authentic hpaired⟩
  · have hdelivered := Native.Checked.checkParsed_delivered _ _ _ e hparsed
    refine ⟨?_,?_,by simp⟩
    · rintro _ ⟨⟩ he
      rcases hdelivered with h | h <;> rw [he] at h <;> cases h
    · rintro _ ⟨⟩ he
      rcases hdelivered with h | h <;> rw [he] at h <;> cases h

theorem truthful_refused {e : Error} {es : Trace Environment} {request : Request} (he : e.outcome = .notSent)
    (hes : deliveries es = []) : Truthful card request reached (.error (.error e)) es where
  notSent := by simp [hes]
  rejected := by
    rintro _ ⟨⟩ h
    rw [he] at h
    cases h
  success := by simp

/-- Every built command on any card, with every provider and every honest transport, has a truthful
result. -/
theorem execute_truthful (hbuilt : Built command) (options : ExchangeOptions) (o : Oracle Environment)
    (h : Trace Environment) (card : Card) (reached : Delivery → Prop)
    (hhonest : Honest reached (deliveries (execute command options o h card).events)) :
    Truthful card (secureRequest command) reached (execute command options o h card).result
      (execute command options o h card).events := by
  have hrun : Ensures some o (execute command options) card
      (AdmittedRun card busy (ExecuteRun o command card)) := admitted_runs (executeLocked_runs o command options card)
  specialize hrun h
  rw [shown_some] at hrun
  generalize execute command options o h card = run at hrun hhonest
  obtain ⟨r,card',es⟩ := run
  cases hrun with
  | unlocked => exact ⟨by simp,by simp,by simp⟩
  | reentered => exact truthful_refused rfl rfl
  | entered hentered =>
    have htruthful := hentered.truthful (Native.Checked.built_paired hbuilt) hhonest
    refine ⟨htruthful.notSent,?_,?_⟩
    · intro e hr he
      obtain hrefused | ⟨hes,hsupplied⟩ := htruthful.rejected e hr he
      · exact .inl hrefused
      · exact .inr ⟨hes,hsupplied.after [⟨.admission .card,Admission.entered⟩]⟩
    · intro payload hr
      obtain ⟨hreplied,hauthentic⟩ := htruthful.success payload hr
      refine ⟨hreplied,fun hreads => (hauthentic hreads).mono rfl ?_⟩
      intro event hevent
      exact List.mem_cons_of_mem _ hevent

/-- The command for the free memory. -/
def freeMemoryCommand : Command := {opcode := 0x6E,minimumResponse := 3,maximumResponse := 3}

/-- A card with the session of a login. -/
def loggedIn : Card := (login.run performCall freshCard).state

/-- A reader that hands over a reply of this session. -/
def faithfulReader : Oracle Environment :=
  scripted {replies := [.ok ([0x00,0x08,0x00] ++ [0x00,0x08,0x00,0x00,0x80,0x00,0x00,0x00] ++ [0x91,0x00])]}

/-- A reader that hands over the frame and loses the reply. -/
def lossyReader : Oracle Environment := scripted {replies := [.error (.error ⟨.transport,"Reader lost",.unknown,0⟩)]}

theorem execute_truthful_loggedIn :
    Reads loggedIn (secureRequest freeMemoryCommand) ∧
      (execute freeMemoryCommand {} faithfulReader [] loggedIn).result = .ok [0x00,0x08,0x00] ∧
      Truthful loggedIn (secureRequest freeMemoryCommand) (fun _ => True)
        (execute freeMemoryCommand {} faithfulReader [] loggedIn).result
        (execute freeMemoryCommand {} faithfulReader [] loggedIn).events ∧
      (execute freeMemoryCommand {} lossyReader [] loggedIn).result =
        .error (.error ⟨.transport,"Reader lost",.unknown,0⟩) ∧
      Truthful loggedIn (secureRequest freeMemoryCommand) (fun _ => True)
        (execute freeMemoryCommand {} lossyReader [] loggedIn).result
        (execute freeMemoryCommand {} lossyReader [] loggedIn).events := by
  refine ⟨⟨rfl,.inl (by decide)⟩,rfl,execute_truthful (.freeMemory rfl) {} faithfulReader [] loggedIn _ ?_,rfl,
    execute_truthful (.freeMemory rfl) {} lossyReader [] loggedIn _ ?_⟩
  · intro d hd e hanswer
    obtain rfl := List.mem_singleton.mp (show d ∈ [_] from hd)
    cases hanswer
  · intro d hd e hanswer
    obtain rfl := List.mem_singleton.mp (show d ∈ [_] from hd)
    cases hanswer
    exact .inr rfl

/-- A provider that answers every block operation with a rejection of its own. -/
def claimedRejection : Error := ⟨.crypto,"Card refused",.rejected,0x9E⟩

def claimant : Step Environment Call :=
  ⟨(.execute freeMemoryCommand,{}),scripted {cbc := fun _ _ _ _ => .error (.error claimedRejection)},[]⟩

/-- After a login a provider's own rejection is reported, although no frame went out. -/
theorem claimant_unanswered :
    ReachableCard (login.run performCall freshCard).state ∧ Built freeMemoryCommand ∧
      (claimant.run performCall (login.run performCall freshCard).state).result =
        .error (.error claimedRejection) ∧ claimedRejection.outcome = .rejected ∧
      deliveries (claimant.run performCall (login.run performCall freshCard).state).events = [] ∧
      ¬Refused freshCard.raw.framing claimedRejection
        (deliveries (claimant.run performCall (login.run performCall freshCard).state).events) := by
  have hnone : deliveries (claimant.run performCall (login.run performCall freshCard).state).events = [] := rfl
  refine ⟨login_reachable,.freeMemory rfl,rfl,rfl,hnone,?_⟩
  rw [hnone]
  rintro ⟨status,_,_,_,hreplied⟩
  exact Native.Raw.not_replied_nil hreplied

end Truth
end DesfireSdk.Managed
