import DesfireSdk.Managed.IsoSettled
import DesfireSdk.Managed.KeyResolution
import DesfireSdk.Managed.Operation

/-! Authentication attempts that send nothing, and the states they leave. -/
namespace DesfireSdk.Managed
open Interaction Program Model

/-- Without a frame, or with a refusal from the card, the whole state is as it was. -/
structure Undisturbed {α : Type} (Refused : α → Prop) (card : Card) (r : Except Fault α) (card' : Card) : Prop where
  unsent : ∀ e, r = .error (.error e) → e.outcome = .notSent → e.code ≠ .cardRemoved → card' = card
  refused : ∀ a, r = .ok a → Refused a → card' = card

/-- An error after which something may have been sent, or a refusal that puts everything back. -/
structure Spent {α : Type} (Refused : α → Prop) (card : Card) (r : Except Fault α) (card' : Card) : Prop where
  error : ∀ e, r = .error (.error e) → e.outcome ≠ .notSent
  refused : ∀ a, r = .ok a → Refused a → card' = card

section Rules
variable {o : Oracle Environment} {card card' : Card} {α β : Type} {Refused : β → Prop}

theorem Undisturbed.same {r : Except Fault β} : Undisturbed Refused card r card :=
  ⟨fun _ _ _ _ => rfl,fun _ _ _ => rfl⟩

theorem Undisturbed.removed {message : String} {outcome : Outcome} :
    Undisturbed Refused card (.error (.error ⟨.cardRemoved,message,outcome,0⟩)) card' := by
  refine ⟨?_,fun a ha => ?_⟩
  · intro e he _ hcode
    cases he
    exact absurd rfl hcode
  · cases ha

theorem Spent.undisturbed {r : Except Fault β} (h : Spent Refused card r card') :
    Undisturbed Refused card r card' :=
  ⟨fun e he hunsent _ => absurd hunsent (h.error e he),h.refused⟩

/-- An exception counts as a frame. -/
theorem undisturbed_catchAll {p : Op Card β} {cleanup : Card → Card} {e : Error} (he : e.outcome ≠ .notSent)
    {s : Card} (hp : Ensures some o p s fun r card' _ => Undisturbed Refused card r card') :
    Ensures some o (Op.catchAll cleanup e p) s fun r card' _ => Undisturbed Refused card r card' := by
  refine Op.ensures_catchAll (hp.mono ?_)
  rintro ((e' | _) | a) card' _ h
  · exact h
  · refine ⟨?_,fun a ha => ?_⟩
    · intro e' he' hunsent
      cases he'
      exact absurd hunsent he
    · cases ha
  · exact h

/-- A first part that leaves the state. -/
theorem undisturbed_bind {p : Op Card α} {f : α → Op Card β}
    (hp : Ensures some o p card fun r card' _ => Undisturbed (fun _ => True) card r card')
    (hf : ∀ a, Ensures some o (f a) card fun r card' _ => Undisturbed Refused card r card') :
    Ensures some o (p >>= f) card fun r card' _ => Undisturbed Refused card r card' := by
  refine ensures_bind hp ?_ ?_
  · intro e card' _ h
    refine ⟨?_,fun a ha => ?_⟩
    · intro e' he'
      cases he'
      exact h.unsent e' rfl
    · cases ha
  · intro a card' _ h
    rw [h.refused a rfl trivial]
    exact hf a

theorem undisturbed_refuse {c : Prop} [Decidable c] {e : Error} :
    Ensures some o (Op.refuse c e) card fun r card' _ => Undisturbed (fun _ => True) card r card' :=
  ensures_ite (fun _ => ensures_fail .same) fun _ => ensures_pure .same

/-- A proof on a state that has set something aside, which a failure without a frame brings back. -/
theorem undisturbed_proof {proof : Op Card α} {ready : Card} {restore : Error → Card → Card} {rest : α → Op Card β}
    (hproof : Ensures some o proof ready fun _ card' _ => card' = ready)
    (hrestore : ∀ e, e.outcome = .notSent → restore e ready = card)
    (hrest : ∀ a, Ensures some o (rest a) ready fun r card' _ => Spent Refused card r card') :
    Ensures some o (Op.onError restore proof >>= rest) ready fun r card' _ => Undisturbed Refused card r card' := by
  refine ensures_bind (m := fun r card' _ => (∀ e, r = .error (.error e) → card' = restore e ready) ∧
    ∀ a, r = .ok a → card' = ready) ?_ ?_ ?_
  · refine Op.ensures_onError (hproof.mono ?_)
    rintro ((e | _) | a) _ _ rfl
    · exact ⟨by rintro _ ⟨⟩; rfl,by simp⟩
    · exact ⟨by simp,by simp⟩
    · exact ⟨by simp,fun _ _ => rfl⟩
  · intro e card' _ h
    refine ⟨?_,fun a ha => ?_⟩
    · intro e' he' hunsent _
      cases he'
      rw [h.1 e' rfl]
      exact hrestore e' hunsent
    · cases ha
  · intro a card' _ h
    rw [h.2 a rfl]
    exact (hrest a).mono fun _ _ _ hspent => hspent.undisturbed

theorem undisturbed_admitted {refusal : Error} {p : Op Card β}
    (hp : Ensures some o p card fun r card' _ => Undisturbed Refused card r card') :
    Ensures some o (admitted refusal p) card fun r card' _ => Undisturbed Refused card r card' := by
  refine (admitted_runs hp).mono ?_
  intro r card' es h
  cases h with
  | unlocked => exact .same
  | reentered => exact .same
  | entered h => exact h

/-- After the proof the generation is compared first. -/
theorem spent_checkGeneration {message : String} {f : Unit → Op Card β} {s : Card}
    (hf : Ensures some o (f ()) s fun r card' _ => Spent Refused card r card') :
    Ensures some o (checkGeneration message .unknown >>= f) s fun r card' _ => Spent Refused card r card' := by
  refine checkGeneration_bind (fun _ => ⟨?_,?_⟩) hf
  · intro e he
    cases he
    exact Outcome.noConfusion
  · intro a ha
    cases ha

end Rules

section Authentications
variable {o : Oracle Environment} {card : Card} {options : ExchangeOptions} {α β : Type}

theorem preflight_undisturbed (requireEv2Session : Bool) (options : ExchangeOptions) :
    Ensures some o (authenticationPreflightLocked requireEv2Session options) card fun r card' _ =>
      Undisturbed (fun _ => True) card r card' := by
  refine ((preflight_runs _ _).and (preflight_error _ _)).mono ?_
  intro r card' es h
  obtain ⟨hrun,herror⟩ := h
  refine ⟨?_,?_⟩
  · intro e he _ hcode
    rcases herror e he with hsame | hremoved
    · exact hsame
    · rw [hremoved] at hcode
      exact absurd rfl hcode
  · intro _ ha _
    cases hrun with
    | refused => cases ha
    | removed => cases ha
    | passed => rfl

theorem obtainKey_undisturbed (profile : AuthenticationProfile) (isoKey : Option Iso7816.Checked.KeyReference)
    (source : KeySource) : Ensures some o (obtainKey profile isoKey source) card fun r card' _ =>
      Undisturbed (fun _ => True) card r card' := by
  refine (obtainKey_local profile isoKey source).mono ?_
  intro r card' es h
  rw [h.state]
  exact .same

/-- What follows a native proof fails with an unknown outcome only. -/
theorem renewal_spent {M N : Type} {create : M → Result N} {message : String} {f : N → Op Card α}
    {material : M} {s : Card} (hf : ∀ session h s, ∃ a, (f session o h s).result = .ok a) :
    Ensures some o (do
      checkGeneration message .unknown
      let session ← Op.onError (fun _ => Card.invalidate) (Op.mapError Error.asUnknown
        (Op.ofResult (create material)))
      f session) s fun r card' _ => Spent (fun _ => False) card r card' := by
  apply spent_checkGeneration
  cases hcreate : create material with
  | error e =>
    intro h
    refine ⟨?_,fun _ _ => False.elim⟩
    intro e' he'
    cases he'
    simp [Error.asUnknown]
  | ok session =>
    refine ensures_bind_known (fun _ => ⟨rfl,rfl,rfl⟩) fun h => ?_
    obtain ⟨a,ha⟩ := hf session h s
    refine ⟨?_,fun _ _ => False.elim⟩
    intro e he
    rw [ha] at he
    cases he

theorem afterProof_restores {e : Error} (he : e.outcome = .notSent) :
    afterProof card.isoSession e {card with isoSession := none} = card := by
  rw [afterProof,if_pos he]

theorem authenticateEv2Locked_undisturbed {first : Bool} {keyNumber : KeyNumber} {key : Aes128Key}
    {pcdCapabilities : Bytes} :
    Ensures some o (authenticateEv2Locked first keyNumber key pcdCapabilities options) card fun r card' _ =>
      Undisturbed (fun _ => False) card r card' := by
  apply undisturbed_catchAll (by decide)
  refine undisturbed_bind undisturbed_refuse fun _ => undisturbed_bind undisturbed_refuse fun _ => ?_
  refine ensures_get_bind (begin_bind (fun _ _ _ _ => .same) fun transaction es _ => ?_)
  refine ensures_modify_bind (undisturbed_proof (keeps_within _).ensures (fun e he => afterProof_restores he) ?_)
  intro material
  exact renewal_spent fun session h s => ⟨_,rfl⟩

theorem authenticateStandardAesLocked_undisturbed {keyNumber : KeyNumber} {key : Aes128Key} :
    Ensures some o (authenticateStandardAesLocked keyNumber key options) card fun r card' _ =>
      Undisturbed (fun _ => False) card r card' := by
  apply undisturbed_catchAll (by decide)
  refine undisturbed_bind undisturbed_refuse fun _ => ?_
  refine ensures_get_bind (begin_bind (fun _ _ _ _ => .same) fun transaction es _ => ?_)
  refine ensures_modify_bind (undisturbed_proof (keeps_within _).ensures (fun e he => afterProof_restores he) ?_)
  intro material
  exact renewal_spent fun session h s => ⟨_,rfl⟩

theorem authenticateIsoAesLocked_undisturbed {reference : Iso7816.Checked.KeyReference} {key : Aes128Key} :
    Ensures some o (authenticateIsoAesLocked reference key options) card fun r card' _ =>
      Undisturbed (fun _ => False) card r card' := by
  refine ensures_get_bind ?_
  refine undisturbed_bind undisturbed_refuse fun _ => undisturbed_bind undisturbed_refuse fun _ => ?_
  refine ensures_modify_bind (undisturbed_catchAll (by decide) ?_)
  refine undisturbed_proof ((Iso7816.Aes.authenticate_valid o _ _ _ _ _).mono fun _ _ _ h => h.1) ?_ ?_
  · intro e he
    rw [afterIsoProof,if_pos he]
    rfl
  · intro session
    apply spent_checkGeneration
    refine ensures_modify ⟨?_,fun _ _ => False.elim⟩
    intro e he
    cases he

/-- The lock, the preflight and the key come before every authentication. -/
theorem authentication_undisturbed {requireEv2Session : Bool} {profile : AuthenticationProfile}
    {isoKey : Option Iso7816.Checked.KeyReference} {source : KeySource} {f : Aes128Key → Op Card α}
    (hf : ∀ key, Ensures some o (f key) card fun r card' _ => Undisturbed (fun _ => False) card r card') :
    Ensures some o (admitted busy do
      authenticationPreflightLocked requireEv2Session options
      let key ← obtainKey profile isoKey source
      f key) card fun r card' _ => Undisturbed (fun _ => False) card r card' := by
  apply undisturbed_admitted
  apply undisturbed_bind (preflight_undisturbed _ _)
  intro _
  exact undisturbed_bind (obtainKey_undisturbed _ _ _) hf

theorem checkCapabilities_undisturbed (pcdCapabilities : Bytes) (source : KeySource) :
    Ensures some o (checkCapabilities pcdCapabilities source) card fun r card' _ =>
      Undisturbed (fun _ => True) card r card' := by
  cases source with
  | direct key => exact ensures_pure .same
  | derived => exact undisturbed_refuse
  | provided => exact undisturbed_refuse

end Authentications

section Iso
variable {o : Oracle Environment} {card : Card} {command : Iso7816.Checked.Command} {options : ExchangeOptions}

theorem isoReady_resetting (hresets : command.resetsAuthentication = true) :
    (isoReady card command).isoSession = none := by
  rw [isoReady,if_pos hresets]
  rfl

/-- A resetting command talks to the card without any session. -/
theorem exchangeIso_resetting (hresets : command.resetsAuthentication = true) :
    Ensures some o (exchangeIso command options) (isoReady card command) fun _ card' _ =>
      card' = isoReady card command := by
  refine (exchangeIso_runs (by simp [isoReady_resetting hresets])).mono ?_
  intro r card' _ h
  exact h.resetting hresets

theorem afterIsoResponse_refused {response : Iso7816.Checked.Response} (hresets : command.resetsAuthentication = true)
    (hstatus : response.status ≠ 0x9000) :
    afterIsoResponse card command response (isoReady card command) = card := by
  have hvalid : ¬∃ session ∈ (isoReady card command).isoSession, session.valid = false := by
    simp [isoReady_resetting hresets]
  unfold afterIsoResponse
  rw [if_pos hresets,if_neg hvalid,if_neg hstatus]
  exact restore_isoReady

theorem isoCommand_undisturbed (hresets : command.resetsAuthentication = true) :
    Ensures some o (isoCommand command options) card fun r card' _ =>
      Undisturbed (fun response => response.status ≠ 0x9000) card r card' := by
  apply undisturbed_admitted
  refine ensures_get_bind ?_
  refine undisturbed_bind undisturbed_refuse fun _ => undisturbed_bind undisturbed_refuse fun _ => ?_
  refine checkGeneration_bind (fun _ => .removed) ?_
  refine undisturbed_bind undisturbed_refuse fun _ => ensures_modify_bind ?_
  refine undisturbed_catchAll (by decide) (undisturbed_proof (exchangeIso_resetting hresets) ?_ ?_)
  · intro e he
    rw [afterIsoCommand,if_pos ⟨he,hresets⟩]
    exact restore_isoReady
  · intro response
    apply spent_checkGeneration
    refine ensures_modify_bind (ensures_pure ⟨?_,?_⟩)
    · intro e he
      cases he
    · intro _ ha hstatus
      cases ha
      exact afterIsoResponse_refused hresets hstatus

end Iso

/-- The operations that set a session aside before they talk to the card. -/
def Operation.attempts : Operation → Bool
  | .authenticateStandardAes .. | .authenticateEv2FirstAes .. | .authenticateEv2NonFirstAes .. |
    .authenticateIsoAes .. => true
  | .isoCommand command => command.resetsAuthentication
  | _ => false

/-- The card answered an ISO command with something else than success. -/
def Reply.refuses : Reply → Prop
  | .response answer => answer.status ≠ 0x9000
  | _ => False

section Operations
variable {o : Oracle Environment} {card : Card} {α : Type}

theorem undisturbed_returning {R : α → Prop} {f : α → Reply} {p : Op Card α}
    (hf : ∀ a, (f a).refuses → R a)
    (hp : Ensures some o p card fun r card' _ => Undisturbed R card r card') :
    Ensures some o (Op.returning f p) card fun r card' _ => Undisturbed Reply.refuses card r card' := by
  refine Op.ensures_returning (hp.mono ?_)
  intro r card' _ h
  refine ⟨?_,?_⟩
  · intro e he
    apply h.unsent e
    cases r with
    | error fault =>
      cases he
      rfl
    | ok a => cases he
  · intro reply hreply hrefuses
    cases r with
    | error fault => cases hreply
    | ok a =>
      cases hreply
      exact h.refused a rfl (hf a hrefuses)

/-- From every state and against every environment, an attempt that sent nothing, or an ISO command
that the card refused, leaves exactly the state it found. -/
theorem attempts_undisturbed (operation : Operation) (options : ExchangeOptions) (o : Oracle Environment)
    (card : Card) (h : operation.attempts = true) :
    Ensures some o (perform operation options) card fun r card' _ => Undisturbed Reply.refuses card r card' := by
  cases operation with
  | authenticateStandardAes keyNumber source =>
    apply undisturbed_returning (R := fun _ => False) (fun _ => id)
    exact authentication_undisturbed fun key => authenticateStandardAesLocked_undisturbed
  | authenticateEv2FirstAes keyNumber source pcdCapabilities =>
    apply undisturbed_returning (R := fun _ => False) (fun _ => id)
    apply undisturbed_admitted
    apply undisturbed_bind (preflight_undisturbed _ _)
    intro _
    apply undisturbed_bind (checkCapabilities_undisturbed _ _)
    intro _
    apply undisturbed_bind (obtainKey_undisturbed _ _ _)
    intro key
    exact authenticateEv2Locked_undisturbed
  | authenticateEv2NonFirstAes keyNumber source =>
    apply undisturbed_returning (R := fun _ => False) (fun _ => id)
    exact authentication_undisturbed fun key => authenticateEv2Locked_undisturbed
  | authenticateIsoAes reference source =>
    apply undisturbed_returning (R := fun _ => False) (fun _ => id)
    exact authentication_undisturbed fun key => authenticateIsoAesLocked_undisturbed
  | isoCommand command =>
    exact undisturbed_returning (fun _ => id) (isoCommand_undisturbed h)
  | _ => cases h

/-- A selection that the card refuses while a local reset waits. -/
def refusedSelection : Iso7816.Checked.Command := ⟨{cla := 0,ins := 0xA4,p1 := 0x04,p2 := 0}⟩

theorem attempts_undisturbed_selection :
    Ensures some (scripted {replies := [.ok [0x6A,0x82]]}) (perform (.isoCommand refusedSelection) {})
      {raw := ⟨.isoWrapped⟩,generation := 0,authenticationResetPending := true} fun r card' _ =>
        Undisturbed Reply.refuses {raw := ⟨.isoWrapped⟩,generation := 0,authenticationResetPending := true} r card' :=
  attempts_undisturbed (.isoCommand refusedSelection) {} _ _ rfl

end Operations
end DesfireSdk.Managed
