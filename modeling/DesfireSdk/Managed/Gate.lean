import DesfireSdk.Iso7816.Evidence
import DesfireSdk.Managed.Runs

/-!
The gate that a local authentication reset closes: what opens it again, and what stays
behind it.
-/
namespace DesfireSdk.Managed
open Interaction Program

section Answers
variable {o : Oracle Environment} {card : Card} {command : Iso7816.Checked.Command}
  {options : ExchangeOptions}

/-- A resetting command returns the status word of a complete reply. -/
theorem isoCommand_concluded (hresets : command.resetsAuthentication = true) :
    Ensures some o (isoCommand command options) card fun r _ es =>
      ∀ response, r = .ok response → Iso7816.Concluded response.status (deliveries es) := by
  refine admitted_success ?_ fun _ _ h => h
  refine ensures_get_bind ?_
  refine Op.ensures_refuse_bind (by simp) fun _ => ?_
  refine Op.ensures_refuse_bind (by simp) fun _ => ?_
  refine checkGeneration_bind (by simp) ?_
  refine Op.ensures_refuse_bind (by simp) fun _ => ?_
  refine ensures_modify_bind (Op.ensures_catchAll ?_)
  have hexchange : Ensures some o (exchangeIso command options) (isoReady card command) fun r _ es =>
      Iso7816.Evidence Iso7816.Checked.Response.raw [] false r (deliveries es) := by
    rw [isoReady,if_pos hresets]
    exact ensures_get_bind (Iso7816.Checked.Channel.exchange_evidence o command options _ _).full
  refine ensures_bind (m := fun r _ es => ∀ response, r = .ok response →
    Iso7816.Concluded response.status (deliveries es)) (Op.ensures_onError (hexchange.mono ?_)) ?_ ?_
  · rintro ((e | _) | response) _ es h
    · rintro _ ⟨⟩
    · rintro _ ⟨⟩
    · exact fun response hresponse => (h.replied response hresponse).1
  · rintro (e | _) _ _ _ <;> rintro _ ⟨⟩
  rintro response card' es h
  have hconcluded := h response rfl
  refine checkGeneration_bind (fun _ => by rintro _ ⟨⟩) (ensures_modify_bind (ensures_pure ?_))
  rintro _ ⟨⟩
  have hlast : deliveries (es ++ [⟨.generation,card'.generation⟩]) = deliveries es := by
    rw [deliveries_append]
    exact List.append_nil _
  change Iso7816.Concluded response.status (deliveries (es ++ [⟨.generation,card'.generation⟩]))
  rwa [hlast]

theorem perform_concluded (hresets : command.resetsAuthentication = true) :
    Ensures some o (perform (.isoCommand command) options) card fun r _ es =>
      ∀ response, r = .ok (.response response) → Iso7816.Concluded response.status (deliveries es) := by
  refine Op.ensures_returning ((isoCommand_concluded hresets).mono ?_)
  intro r _ es h response hresult
  cases r with
  | error f => cases hresult
  | ok answer =>
    cases hresult
    exact h _ rfl

end Answers

/-- The card accepts a command that resets its authentication but selects nothing, while a
reset is pending. -/
def Slips (card : Card) (step : Step Environment Call) : Prop :=
  card.authenticationResetPending = true ∧
  ∃ command, step.operation.1 = .isoCommand command ∧ command.resetsAuthentication = true ∧
    command.isSelection = false ∧
    Iso7816.Concluded 0x9000 (deliveries (step.run performCall card).events)

/-- The replies that agree with the card on what is selected and authenticated. That a selection is one of a DF is
read from its P1 alone, as the host reads it: every P1 but 02, although a card may find an EF under P1 00 too. -/
def Operation.Synchronized : Operation → Reply → Prop
  | .selectApplication _,_ | .authenticateStandardAes ..,_ | .authenticateEv2FirstAes ..,_
  | .authenticateEv2NonFirstAes ..,_ | .reset,_ => True
  | .isoCommand command,.response response =>
    command.isSelection = true ∧ command.resetsAuthentication = true ∧ response.status = 0x9000
  | _,_ => False

/-- The step is a selection, a native authentication or a transport reset that succeeds. -/
def Resynchronizes (card : Card) (step : Step Environment Call) : Prop :=
  ∃ reply, (step.run performCall card).result = .ok reply ∧ step.operation.1.Synchronized reply

section Runs
variable {card : Card}

theorem EraseRun.gated {r : Except Fault Unit} {card' : Card} {es : Trace Environment}
    (h : EraseRun card r card' es) (hgated : card.Gated) : card'.Gated := by
  cases h with
  | unlocked | refused => exact hgated
  | erased =>
    rcases hgated with hpending | husable
    · left
      change (card.authenticationResetPending || card.authenticated) = true
      rw [hpending,Bool.true_or]
    · right
      exact husable

/-- What releases the gate resynchronizes, or is a resetting command that selects nothing. -/
theorem Operation.Released.kinds {operation : Operation} {reply : Reply}
    (h : operation.Released reply) : operation.Synchronized reply ∨
      ∃ command response, operation = .isoCommand command ∧ reply = .response response ∧
        command.isSelection = false ∧ IsoReleased command response := by
  cases operation with
  | selectApplication | authenticateStandardAes | authenticateEv2FirstAes | authenticateEv2NonFirstAes =>
    exact .inl trivial
  | isoCommand command =>
    cases reply with
    | response response =>
      cases hselection : command.isSelection with
      | true => exact .inl ⟨hselection,h⟩
      | false => exact .inr ⟨command,response,rfl,rfl,hselection,h⟩
    | done | information | payload | version | memory | files | names => cases h
  | authenticateIsoAes | execute | executeTransaction | getVersion | freeMemory | fileIds | dfNames
  | resetAuthentication | reset => cases h

/-- A released gate was opened by a reply that resynchronizes, or by one that slips through. -/
theorem step_released {step : Step Environment Call} {reply : Reply}
    (hpending : card.authenticationResetPending = true)
    (hresult : (step.run performCall card).result = .ok reply)
    (hreleased : step.operation.1.Released reply) : Resynchronizes card step ∨ Slips card step := by
  rcases hreleased.kinds with hsync | ⟨command,response,hoperation,rfl,hselection,hresets,hstatus⟩
  · exact .inl ⟨reply,hresult,hsync⟩
  · have hconcludes : Ensures some step.oracle (perform (.isoCommand command) step.operation.2) card _ :=
      perform_concluded hresets
    have hrun := hconcludes step.history
    rw [shown_some,← hoperation] at hrun
    have hconcluded := hrun response hresult
    rw [hstatus] at hconcluded
    exact .inr ⟨hpending,command,hoperation,hresets,hselection,hconcluded⟩

/-- A step that neither resynchronizes nor slips through keeps the gate closed. -/
theorem step_gated (hinv : card.Inv) (hgated : card.Gated) {step : Step Environment Call}
    (hslips : ¬Slips card step) (hresync : ¬Resynchronizes card step) :
    (step.run performCall card).state.Gated := by
  have hrun := step_runs hinv step
  generalize hstep : step.run performCall card = run at hrun
  cases hrun with
  | operated _ h =>
    cases h with
    | unlocked => exact hgated
    | settled h =>
      rcases h.gated hgated with hgated' | ⟨reply,hr,hreleased⟩
      · exact hgated'
      · have hpending : card.authenticationResetPending = true := by
          refine hgated.resolve_right fun husable => ?_
          obtain ⟨_,_,e,he⟩ := h.unusable husable
          rw [hr] at he
          cases he
        have hopened := step_released hpending (by rw [hstep]; exact hr) hreleased
        exact (hopened.elim hresync hslips).elim
  | reset hoperation h =>
    cases h with
    | unlocked | refused => exact hgated
    | failed => exact .inr rfl
    | fresh =>
      refine absurd ⟨.done,?_,?_⟩ hresync
      · rw [hstep]; rfl
      · rw [hoperation]; trivial
  | erase _ h => exact h.gated hgated

/-- Behind the gate an operation that does not release it fails without a frame. -/
theorem step_withheld (hinv : card.Inv) (hgated : card.Gated) {step : Step Environment Call}
    (hordinary : step.operation.1.ordinary) (hkeeps : ¬step.operation.1.releasing) :
    deliveries (step.run performCall card).events = [] ∧
      ∃ f, (step.run performCall card).result = .error f := by
  have hrun := step_runs hinv step
  generalize step.run performCall card = run at hrun
  cases hrun with
  | operated _ h =>
    cases h with
    | unlocked => exact ⟨rfl,_,rfl⟩
    | settled h =>
      obtain ⟨hds,e,he⟩ := h.withheld hgated hkeeps
      exact ⟨hds,_,he⟩
  | reset hoperation => rw [hoperation] at hordinary; exact hordinary.elim
  | erase hoperation => rw [hoperation] at hordinary; exact hordinary.elim

/-- After a local reset of an active authentication, ordinary operations stay behind the gate
until the card is resynchronized, in every run in which no command slips through. -/
theorem gate_holds (hcard : ReachableCard card) (hactive : card.authenticated = true)
    {erase : Step Environment Call} (herase : erase.operation.1 = .resetAuthentication)
    (hok : ∃ reply, (erase.run performCall card).result = .ok reply) (steps : List (Step Environment Call))
    (hslips : Along performCall (fun card step => ¬Slips card step) (erase.run performCall card).state steps)
    (hwaits : Along performCall (fun card step => ¬Resynchronizes card step)
      (erase.run performCall card).state steps)
    (next : Step Environment Call) (hordinary : next.operation.1.ordinary)
    (hkeeps : ¬next.operation.1.releasing) :
    deliveries (next.run performCall (final performCall (erase.run performCall card).state steps)).events = [] ∧
      ∃ f, (next.run performCall (final performCall (erase.run performCall card).state steps)).result =
        .error f := by
  have hinv := inv_of_reachable hcard
  have hclosed : (erase.run performCall card).state.Inv ∧ (erase.run performCall card).state.Gated := by
    have hrun := step_runs hinv erase
    refine ⟨hrun.inv hinv,?_⟩
    obtain ⟨reply,hreply⟩ := hok
    generalize erase.run performCall card = run at hrun hreply
    cases hrun with
    | operated hordinary => rw [herase] at hordinary; exact hordinary.elim
    | reset hreset => rw [herase] at hreset; cases hreset
    | erase _ h =>
      cases h with
      | unlocked | refused => cases hreply
      | erased =>
        left
        change (card.authenticationResetPending || card.authenticated) = true
        rw [hactive,Bool.or_true]
  have hkept := (hslips.and hwaits).final (I := fun card => card.Inv ∧ card.Gated)
    (fun card step h hstep => ⟨(step_runs h.1 step).inv h.1,step_gated h.1 h.2 hstep.1 hstep.2⟩) hclosed
  exact step_withheld hkept.1 hkept.2 hordinary hkeeps

def eraseLogin : Step Environment Call := answered .resetAuthentication []

def readMemory : Step Environment Call := answered .freeMemory [[0,0,0,0x91,0x00]]

/-- GET CHALLENGE for sixteen bytes. -/
def challenge : Iso7816.Checked.Command := ⟨⟨0x00,0x84,0x00,0x00,[],some 16,.automatic⟩⟩

def drawChallenge : Step Environment Call :=
  answered (.isoCommand challenge) [zeros 16 ++ [0x90,0x00]]

theorem gate_holds_readMemory :
    deliveries (readMemory.run performCall
        (final performCall freshCard [login,eraseLogin,readMemory])).events = [] ∧
      ∃ f, (readMemory.run performCall
        (final performCall freshCard [login,eraseLogin,readMemory])).result = .error f := by
  have herase : eraseLogin.operation.1 = .resetAuthentication := rfl
  refine gate_holds login_reachable rfl herase ⟨.done,rfl⟩ [readMemory] ?_ ?_ readMemory trivial id
  · refine ⟨?_,trivial⟩
    rintro ⟨_,_,hoperation,_⟩
    cases hoperation
  · exact ⟨fun ⟨_,_,hsync⟩ => hsync.elim,trivial⟩

/-- A challenge the card answers opens the gate, and memory is read in plain before any selection,
authentication or transport reset. -/
theorem drawChallenge_reopens :
    Iso7816.Checked.Command.getChallenge 16 .automatic = .ok challenge ∧
    (final performCall freshCard [login]).authenticated = true ∧
    (final performCall freshCard [login,eraseLogin]).authenticationResetPending = true ∧
    ¬Resynchronizes (final performCall freshCard [login,eraseLogin]) drawChallenge ∧
    deliveries (readMemory.run performCall
      (final performCall freshCard [login,eraseLogin,drawChallenge])).events ≠ [] ∧
    (readMemory.run performCall
      (final performCall freshCard [login,eraseLogin,drawChallenge])).result = .ok (.memory 0) := by
  refine ⟨rfl,rfl,rfl,?_,by decide,rfl⟩
  rintro ⟨reply,_,hsync⟩
  cases reply with
  | response response => cases hsync.1
  | done | information | payload | version | memory | files | names => exact hsync.elim

end Runs
end DesfireSdk.Managed
