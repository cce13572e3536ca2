import DesfireSdk.Iso7816.Steps
import DesfireSdk.Managed.Iso7816
import DesfireSdk.Managed.Rules

/-! The effect of ISO commands on the managed state. -/
namespace DesfireSdk.Managed
open Interaction Program

/-- The state from which an ISO command talks to the card. -/
def isoReady (card : Card) (command : Iso7816.Checked.Command) : Card :=
  if command.resetsAuthentication then {card.clearAuthentication with authenticationResetPending := false}
  else card

/-- What an ISO command releases: a resetting command that the card accepted. -/
def IsoReleased (command : Iso7816.Checked.Command) (response : Iso7816.Checked.Response) : Prop :=
  command.resetsAuthentication = true ∧ response.status = 0x9000

section Iso
variable {o : Oracle Environment} {card : Card} {command : Iso7816.Checked.Command}
  {options : ExchangeOptions}

/-- Putting everything back undoes the preparation. -/
theorem restore_isoReady : restoreAuthentication card (isoReady card command) = card := by
  unfold isoReady
  split <;> rfl

/-- The exchange moves nothing but the ISO session, which stays valid after an answer. -/
inductive ExchangeIsoRun (card : Card) : Except Fault Iso7816.Checked.Response → Card → Prop
  | session {r} {session session' : Iso7816.Aes.Session} (h : card.isoSession = some session)
      (hvalid : ∀ response, r = .ok response → session'.valid = true) :
      ExchangeIsoRun card r {card with isoSession := some session'}
  | plain {r} (h : card.isoSession = none) : ExchangeIsoRun card r card

theorem exchangeIso_runs (hvalid : ∀ session ∈ card.isoSession, session.valid = true) :
    Ensures some o (exchangeIso command options) card fun r card' _ => ExchangeIsoRun card r card' := by
  refine ensures_get_bind ?_
  cases hiso : card.isoSession with
  | some session =>
    refine ensures_focus ((Iso7816.Aes.Session.execute_valid o command options _
      (hvalid session hiso)).mono ?_)
    exact fun r session' _ h => .session hiso h
  | none =>
    refine (Iso7816.Checked.Channel.exchange_keeps command options _).ensures.mono ?_
    rintro r _ _ rfl
    exact .plain hiso

theorem isoReady_of_not_resets (h : ¬command.resetsAuthentication = true) :
    isoReady card command = card := if_neg h

theorem ExchangeIsoRun.bound {r : Except Fault Iso7816.Checked.Response} {card' : Card}
    (h : ExchangeIsoRun (isoReady card command) r card') : card.Bound card' := by
  have hready : card.Bound (isoReady card command) := by
    unfold isoReady
    split <;> exact ⟨rfl,rfl⟩
  cases h with
  | session => exact hready.trans ⟨rfl,rfl⟩
  | plain => exact hready

/-- A resetting command is exchanged without a session. -/
theorem ExchangeIsoRun.resetting {r : Except Fault Iso7816.Checked.Response} {card' : Card}
    (h : ExchangeIsoRun (isoReady card command) r card') (hresets : command.resetsAuthentication = true) :
    card' = isoReady card command := by
  have hnone : (isoReady card command).isoSession = none := by rw [isoReady,if_pos hresets]; rfl
  cases h with
  | session h => rw [hnone] at h; cases h
  | plain => rfl

/-- A state without authentication that waits for nothing is ready as it is. -/
theorem isoReady_eq (hinv : card.Inv) (hauth : card.authenticated = false)
    (hpending : card.authenticationResetPending = false) : isoReady card command = card := by
  unfold isoReady
  split
  · rw [hinv.clearAuthentication_eq hauth]
    cases card
    simp_all
  · rfl

/-- A failed exchange gives the state back, ends it, or has not changed it. -/
theorem afterIsoCommand_settled {e : Error} {card' : Card} {es : Trace Environment} (hinv : card.Inv)
    (hadmits : Admits card (command.resetsAuthentication = true)
      (.error (.error e) : Except Fault Iso7816.Checked.Response) es)
    (h : ExchangeIsoRun (isoReady card command) (.error (.error e)) card') :
    Settled card (command.resetsAuthentication = true) (IsoReleased command) (.error (.error e))
      (afterIsoCommand card command e card') es := by
  unfold afterIsoCommand
  by_cases hrestore : e.outcome = .notSent ∧ command.resetsAuthentication = true
  · rw [if_pos hrestore,h.resetting hrestore.2,restore_isoReady]
    exact .unmoved hinv (by simp [hrestore.1]) hadmits
  rw [if_neg hrestore]
  by_cases hends : card.authenticated = true ∨ card.authenticationResetPending = true ∨
      card'.isoSession.isSome = true ∨ e.outcome = .unknown
  · rw [if_pos hends,h.bound.invalidate]
    exact .wiped hadmits
  rw [if_neg hends]
  simp only [not_or,Bool.not_eq_true] at hends
  obtain ⟨hauth,hpending,hiso,he⟩ := hends
  cases h with
  | session => simp at hiso
  | plain =>
    rw [isoReady_eq hinv hauth hpending]
    exact .unmoved hinv he hadmits

/-- A complete answer to a resetting command releases the gate or gives everything back; any
other answer leaves a valid session. -/
theorem afterIsoResponse_settled {response : Iso7816.Checked.Response} {card' : Card}
    {es : Trace Environment} (hinv : card.Inv) (husable : card.usable = true)
    (hopen : ¬command.resetsAuthentication = true → card.Open ∧ card.hasNativeSession = false)
    (h : ExchangeIsoRun (isoReady card command) (.ok response) card') :
    Settled card (command.resetsAuthentication = true) (IsoReleased command) (.ok response)
      (afterIsoResponse card command response card') es := by
  by_cases hresets : command.resetsAuthentication = true
  · have hadmits : Admits card (command.resetsAuthentication = true) (.ok response) es :=
      .released husable hresets
    have hnone : (isoReady card command).isoSession = none := by rw [isoReady,if_pos hresets]; rfl
    rw [h.resetting hresets]
    have hvalid : ¬∃ session ∈ (isoReady card command).isoSession, session.valid = false := by
      simp [hnone]
    unfold afterIsoResponse
    rw [if_pos hresets,if_neg hvalid]
    by_cases hstatus : response.status = 0x9000
    · rw [if_pos hstatus]
      refine .kept hadmits (.ok _) ?_ fun _ => .inr ⟨response,rfl,hresets,hstatus⟩
      rw [isoReady,if_pos hresets]
      exact ⟨Card.inv_of_unauthenticated rfl rfl husable,husable,⟨rfl,rfl⟩,fun _ => rfl⟩
    · rw [if_neg hstatus,restore_isoReady]
      exact .kept hadmits (.ok _) (.rfl hinv husable) .inl
  obtain ⟨hopen,hnative⟩ := hopen hresets
  rw [isoReady_of_not_resets hresets] at h
  unfold afterIsoResponse
  cases h with
  | @session session session' h hvalid =>
    have hvalid' : session'.valid = true := hvalid response rfl
    rw [if_neg hresets,if_neg (by simp [hvalid'])]
    refine .moved hopen (.ok _) ⟨?_,husable,⟨rfl,rfl⟩,id⟩
    exact {
      native := hinv.native
      separate := fun h => by simp [Card.hasNativeSession] at h hnative; simp [hnative] at h
      key := hinv.key
      standardReady := hinv.standardReady
      ev2Ready := hinv.ev2Ready
      isoValid := by rintro _ ⟨⟩; exact hvalid'
      pending := fun hpending => by simp [hopen.settled] at hpending
      unusable := fun h => by simp [husable] at h }
  | plain h =>
    rw [if_neg hresets,if_neg (by simp [h])]
    exact .moved hopen (.ok _) (.rfl hinv husable)

/-- Behind the gate an ISO command talks to the card only when it resets the authentication. -/
theorem isoCommand_operated (hinv : card.Inv) :
    Ensures some o (isoCommand command options) card
      (Operated card (command.resetsAuthentication = true) (IsoReleased command)) := by
  refine admitted_operated rfl (ensures_get_bind ?_)
  refine Op.ensures_refuse_bind (fun _ => .refused rfl (by simp)) fun husable => ?_
  have husable : card.usable = true := by simpa using husable
  refine Op.ensures_refuse_bind (fun _ => .refused rfl (by simp)) fun hsettled => ?_
  refine checkGeneration_bind (fun _ => .wiped (.failed husable rfl)) ?_
  refine Op.ensures_refuse_bind (fun _ => .refused rfl (by simp [external])) fun hnative => ?_
  have hopen (hresets : ¬command.resetsAuthentication = true) :
      card.Open ∧ card.hasNativeSession = false := by
    simp only [Bool.not_eq_true] at hresets
    simp only [hresets,and_true,Bool.not_eq_true] at hsettled hnative
    exact ⟨⟨husable,hsettled⟩,hnative⟩
  have hadmits {r : Except Fault Iso7816.Checked.Response} {es : Trace Environment} :
      Admits card (command.resetsAuthentication = true) r es := by
    by_cases hresets : command.resetsAuthentication = true
    · exact .released husable hresets
    · exact (hopen hresets).1.admits
  refine ensures_modify_bind (Op.ensures_catchAll ?_)
  have hvalid : ∀ session ∈ (isoReady card command).isoSession, session.valid = true := by
    unfold isoReady
    split
    · simp [Card.clearAuthentication]
    · exact hinv.isoValid
  refine ensures_bind (m := fun r card' _ =>
    (∃ response, r = .ok response ∧ ExchangeIsoRun (isoReady card command) (.ok response) card') ∨
    (r = .error .thrown ∧ ∃ r', ExchangeIsoRun (isoReady card command) r' card') ∨
    ∃ e card₁, r = .error (.error e) ∧ card' = afterIsoCommand card command e card₁ ∧
      ExchangeIsoRun (isoReady card command) (.error (.error e)) card₁)
    (Op.ensures_onError ((exchangeIso_runs hvalid).mono ?_)) ?_ ?_
  · rintro ((e | _) | response) card' _ h
    · exact .inr (.inr ⟨e,card',rfl,rfl,h⟩)
    · exact .inr (.inl ⟨rfl,_,h⟩)
    · exact .inl ⟨response,rfl,h⟩
  · rintro _ card' es (⟨_,⟨⟩,_⟩ | ⟨⟨⟩,_,h⟩ | ⟨e,card₁,⟨⟩,rfl,h⟩)
    · change Settled card _ _ (.error (.error _)) card'.invalidate _
      rw [h.bound.invalidate]
      exact .wiped (hadmits (r := .error (.error _)))
    · exact afterIsoCommand_settled hinv (hadmits (r := .error (.error _))) h
  rintro response card' es (⟨_,⟨⟩,h⟩ | ⟨⟨⟩,_⟩ | ⟨_,_,⟨⟩,_⟩)
  refine checkGeneration_bind (fun _ => ?_) ?_
  · change Settled card _ _ (.error (.error _)) card'.invalidate _
    rw [h.bound.invalidate]
    exact .wiped (hadmits (r := .error (.error _)))
  · exact ensures_modify_bind (ensures_pure (afterIsoResponse_settled hinv husable hopen h))

end Iso
end DesfireSdk.Managed
