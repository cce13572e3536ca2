import DesfireSdk.Managed.Gate
import DesfireSdk.Security.Ev2.Counters

/-! NonFirst re-authentication carries the counter of a session over, so counters never repeat. -/
namespace DesfireSdk.Managed
open Interaction Program Model
open Security.Ev2 (Session AuthenticationMaterial)

section Renewal
variable {o : Oracle Environment} {card : Card} {options : ExchangeOptions}

/-- The call `renew` leads from one session to the other. -/
def Carried (s renewed : Session) : Prop :=
  ∃ material, ∀ o history, (Session.renew material o history s).state = renewed ∧
    (Session.renew material o history s).result.isOk = true

theorem carried {s renewed : Session} (hready : s.phase = .ready) (hrenewed : renewed.phase = .ready)
    (hinformation : renewed.authentication = s.authentication) (hcounter : renewed.counter = s.counter) :
    Carried s renewed := by
  have hcreated : Session.create ⟨renewed.encryptionKey,renewed.macKey,renewed.authentication⟩ s.counter =
      .ok renewed := by
    unfold Session.create
    rw [dif_pos ⟨renewed.encryptionKeySize,renewed.macKeySize⟩,← hcounter]
    cases renewed
    cases hrenewed
    rfl
  refine ⟨⟨renewed.encryptionKey,renewed.macKey,renewed.authentication⟩,fun o history => ?_⟩
  have hadmitted : ¬(s.phase = .invalid ∨ renewed.authentication ≠ s.authentication) := by
    simp [hready,hinformation]
  have hreaches : Yields o (Session.renew ⟨renewed.encryptionKey,renewed.macKey,renewed.authentication⟩) s []
      renewed := by
    refine Reaches.get_bind (Op.reaches_refuse_bind hadmitted ?_)
    refine Reaches.quiet_bind (Op.reaches_ofResult hcreated) ?_
    exact Reaches.modify_bind Reaches.pure
  obtain ⟨hresult,hstate,_⟩ := hreaches history (shown_blind history)
  refine ⟨hstate,?_⟩
  rw [hresult]
  rfl

/-- A success leads from the session before to one that it was carried to. -/
def Carries {α : Type} (card : Card) (r : Except Fault α) (card' : Card) : Prop :=
  r.isOk = true → ∃ s renewed, card.ev2Session = some s ∧ card'.ev2Session = some renewed ∧ Carried s renewed

theorem authenticateEv2Locked_carries {keyNumber : KeyNumber} {key : Aes128Key} {pcdCapabilities : Bytes}
    (hcard : card.Inv) (hactive : card.ev2Session ≠ none) :
    Ensures some o (authenticateEv2Locked false keyNumber key pcdCapabilities options) card
      fun r card' _ => Carries card r card' := by
  refine authenticateEv2Locked_runs.mono ?_
  intro r card' _ hrun hok
  cases hrun with
  | kept => cases hok
  | wiped => cases hok
  | renewed h =>
    obtain ⟨renewed,hready,hinformation,hcounter,hsame,rfl⟩ := h.renewed
    obtain ⟨s,hs⟩ := Option.ne_none_iff_exists'.mp hactive
    rw [hs] at hcounter hsame
    refine ⟨s,renewed,hs,rfl,?_⟩
    exact carried (hcard.ev2Ready s hs) hready (hinformation.trans (hsame rfl)) hcounter

theorem authenticateEv2NonFirstAes_carries (keyNumber : KeyNumber) (source : KeySource) (hcard : card.Inv) :
    Ensures some o (authenticateEv2NonFirstAes keyNumber source options) card fun r card' _ => Carries card r card' := by
  have hlocked : Ensures some o (do
      authenticationPreflightLocked true options
      let key ← obtainKey .ev2NonFirst none source
      authenticateEv2Locked false (source.keyNumber keyNumber) key [] options) card
        fun r card' _ => Carries card r card' := by
    refine ensures_bind (preflight_runs _ _) ?_ ?_
    · intro fault card' es hrun hok
      cases hok
    · intro _ card' es hrun
      cases hrun with
      | passed husable hactive hes =>
        refine ensures_bind (obtainKey_local _ _ _) ?_ ?_
        · intro fault card' es hrun hok
          cases hok
        · intro key card' es hrun
          obtain rfl := hrun.state
          exact authenticateEv2Locked_carries hcard (hactive rfl)
  refine (admitted_runs hlocked).mono ?_
  intro r card' es hrun hok
  cases hrun with
  | unlocked => cases hok
  | reentered => cases hok
  | entered h => exact h hok

end Renewal

section Sessions
open Security.Ev2.Session

/-- Every run of a session, in any order of calls and renewals: each preparation uses the next counter,
short of the last one, the inputs of all vectors differ, and a failure without an excuse ends the session;
and NonFirst re-authentication of a card is such a renewal. -/
theorem counters_never_repeat (material : AuthenticationMaterial) (start : UInt16) (s : Session)
    (hcreated : Session.create material start = .ok s) (steps : List (Step Environment Security.Ev2.Call))
    (step : Step Environment Security.Ev2.Call) :
    (prepared (final Session.perform s steps) step = true →
      Numbered (start.toNat + preparations s steps) (final Session.perform s steps) step) ∧
    ((∀ step ∈ steps, step.operation.Representable) → (inputs s steps).Nodup) ∧
    (∀ fault, (step.run Session.perform (final Session.perform s steps)).result = .error fault →
      Failed (final Session.perform s steps) step fault) ∧
    (Ended (final Session.perform s steps) → ∀ later, Along Session.perform (fun s step =>
      Ended s ∧ (step.run Session.perform s).result.isOk = false) (final Session.perform s steps) later) ∧
    ∀ (o : Oracle Environment) (card : Card) (keyNumber : KeyNumber) (source : KeySource) (options : ExchangeOptions),
      ReachableCard card → Ensures some o (authenticateEv2NonFirstAes keyNumber source options) card
        fun r card' _ => Carries card r card' := by
  have hcounts := run_counts steps (create_counts hcreated)
  rw [Nat.zero_add] at hcounts
  refine ⟨fun hprepared => numbered hcounts hprepared,fun hrepresentable => ?_,fun fault hfault => failed hfault,
    fun hended later => hended.forever later,?_⟩
  · exact (run_progress hrepresentable (.nothing s)).distinct
  · intro o card keyNumber source options hcard
    exact authenticateEv2NonFirstAes_carries keyNumber source (inv_of_reachable hcard)

/-- The session with keys of zeros that starts at zero. -/
def zeroInfo : AuthenticationInfo := ⟨zeros 4,zeros 6,zeros 6,zeros_four,zeros_six,zeros_six⟩
def zeroMaterial : AuthenticationMaterial := ⟨zeros 16,zeros 16,zeroInfo⟩
def zeroSession : Session := ⟨zeros 16,zeros 16,zeroInfo,0,.ready,zeros_sixteen,zeros_sixteen⟩

/-- A call on a session whose provider leaves blocks as they are. -/
def zeroStep (call : Security.Ev2.Call) : Step Environment Security.Ev2.Call := ⟨call,scripted {},[]⟩

/-- A Full command with its answer, and a renewal. -/
def zeroRenewed : List (Step Environment Security.Ev2.Call) :=
  [zeroStep (.prepareFull 0x3D [0x02] [0x01]),
    zeroStep (.verifyAndDecryptFullResponse ⟨0x00,0x80 :: zeros 23⟩ none),zeroStep (.renew zeroMaterial)]

/-- A second Full command, whose answer has a wrong MAC, and a command after that. -/
def zeroRun : List (Step Environment Security.Ev2.Call) :=
  zeroRenewed ++ [zeroStep (.prepareFull 0x3D [0x02] [0x01]),
    zeroStep (.verifyResponse ⟨0x00,[1,2,3,4,5,6,7,8]⟩),zeroStep (.prepareMac 0x3D [0x02] [0x01])]

theorem zeroRun_representable : ∀ step ∈ zeroRun, step.operation.Representable := by decide

theorem counters_never_repeat_zero :
    Numbered 1 (final Session.perform zeroSession zeroRenewed) (zeroStep (.prepareFull 0x3D [0x02] [0x01])) ∧
    (inputs zeroSession zeroRun).Nodup ∧ (inputs zeroSession zeroRun).length = 3 ∧
    Ended (final Session.perform zeroSession zeroRun) := by
  obtain ⟨hnumbered,_⟩ := counters_never_repeat zeroMaterial 0 zeroSession rfl zeroRenewed
    (zeroStep (.prepareFull 0x3D [0x02] [0x01]))
  obtain ⟨_,hdistinct,_⟩ := counters_never_repeat zeroMaterial 0 zeroSession rfl zeroRun
    (zeroStep (.prepareMac 0x3D [0x02] [0x01]))
  exact ⟨hnumbered rfl,hdistinct zeroRun_representable,rfl,⟨rfl,rfl,rfl⟩⟩

end Sessions
end DesfireSdk.Managed
