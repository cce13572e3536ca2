import DesfireSdk.Managed.Card
import DesfireSdk.Native.Secure.Cases

/-! Every way the execution of one checked command can go. -/
namespace DesfireSdk.Managed
open Interaction Program Native.Secure

namespace Card

/-- Neither uncertain nor waiting for a resynchronization. -/
structure Open (card : Card) : Prop where
  usable : card.usable = true
  settled : card.authenticationResetPending = false

/-- The same transport under the same generation. -/
structure Bound (card card' : Card) : Prop where
  raw : card'.raw = card.raw
  generation : card'.generation = card.generation

theorem Bound.rfl {card : Card} : card.Bound card := ⟨Eq.refl _,Eq.refl _⟩

theorem Bound.trans {a b c : Card} (h : a.Bound b) (h' : b.Bound c) : a.Bound c :=
  ⟨h'.raw.trans h.raw,h'.generation.trans h.generation⟩

/-- What invalidation leaves depends on nothing but the transport. -/
theorem Bound.invalidate {card card' : Card} (h : card.Bound card') :
    card'.invalidate = card.invalidate := by
  simp only [Card.invalidate,clearAuthentication,clearNativeSession,h.raw,h.generation]

end Card

section Rules
variable {o : Oracle Environment} {s : Card}

theorem checkGeneration_cases {message : String} {outcome : Outcome} :
    Ensures some o (checkGeneration message outcome) s fun r s' es =>
      (∃ generation, r = .error (.error ⟨.cardRemoved,message,outcome,0⟩) ∧ s' = s.invalidate ∧
        es = [⟨.generation,generation⟩]) ∨
      (r = .ok () ∧ s' = s ∧ es = [⟨.generation,s.generation⟩]) := by
  refine ensures_get_bind (Op.ensures_generation_bind fun generation => ?_)
  intro h
  unfold Op.refuseAfter
  by_cases hgeneration : generation = s.generation
  · rw [if_neg (not_not_intro hgeneration)]
    exact .inr ⟨rfl,rfl,by rw [hgeneration]; rfl⟩
  · rw [if_pos hgeneration]
    exact .inl ⟨generation,rfl,rfl,rfl⟩

theorem checkGeneration_bind {α : Type} {message : String} {outcome : Outcome} {f : Unit → Op Card α}
    {post : Except Fault α → Card → Trace Environment → Prop}
    (hremoved : ∀ generation,
      post (.error (.error ⟨.cardRemoved,message,outcome,0⟩)) s.invalidate [⟨.generation,generation⟩])
    (hsame : Ensures some o (f ()) s fun r s' es => post r s' (⟨.generation,s.generation⟩ :: es)) :
    Ensures some o (checkGeneration message outcome >>= f) s post := by
  refine ensures_bind checkGeneration_cases ?_ ?_
  · rintro _ _ _ (⟨generation,⟨⟩,rfl,rfl⟩ | ⟨⟨⟩,_⟩)
    exact hremoved generation
  · rintro _ _ _ (⟨_,⟨⟩,_⟩ | ⟨_,rfl,rfl⟩)
    exact hsame

/-- Every way an operation under the card lock can go. -/
inductive AdmittedRun {α : Type} (card : Card) (refusal : Error)
    (post : Except Fault α → Card → Trace Environment → Prop) :
    Except Fault α → Card → Trace Environment → Prop
  | unlocked : AdmittedRun card refusal post (.error .thrown) card [⟨.admission .card,Admission.failed⟩]
  | reentered : AdmittedRun card refusal post (.error (.error refusal)) card
      [⟨.admission .card,Admission.busy⟩]
  | entered {r card' es} (h : post r card' es) : AdmittedRun card refusal post r card'
      ([⟨.admission .card,Admission.entered⟩] ++ es)

theorem admitted_runs {α : Type} {refusal : Error} {p : Op Card α}
    {post : Except Fault α → Card → Trace Environment → Prop} (hp : Ensures some o p s post) :
    Ensures some o (admitted refusal p) s (AdmittedRun s refusal post) := by
  refine Op.ensures_admission_bind fun admission => ?_
  cases admission with
  | failed => exact Program.ensures_refuse_bind (fun _ => .unlocked) fun h => absurd rfl h
  | busy =>
    refine Program.ensures_refuse_bind (fun h => by cases h) fun _ => ?_
    exact Op.ensures_refuse_bind (fun _ => .reentered) fun h => absurd rfl h
  | entered =>
    refine Program.ensures_refuse_bind (fun h => by cases h) fun _ => ?_
    refine Op.ensures_refuse_bind (fun h => by cases h) fun _ => ?_
    exact hp.mono fun _ _ _ h => .entered h

/-- A success under the card lock is a success of the operation itself. -/
theorem admitted_success {α : Type} {refusal : Error} {p : Op Card α} {q : α → Trace Environment → Prop}
    (hp : Ensures some o p s fun r _ es => ∀ a, r = .ok a → q a es)
    (hentered : ∀ a es, q a es → q a ([⟨.admission .card,Admission.entered⟩] ++ es)) :
    Ensures some o (admitted refusal p) s fun r _ es => ∀ a, r = .ok a → q a es := by
  refine (admitted_runs hp).mono ?_
  intro r card es h a ha
  cases h with
  | unlocked => cases ha
  | reentered => cases ha
  | entered h => exact hentered _ _ (h a ha)

end Rules

/-- The exchange under the session that is active, or under none. -/
inductive SecureRun (o : Oracle Environment) (card : Card) (request : Request) :
    Except Fault Bytes → Card → Trace Environment → Prop
  | ev2 {session session' r es} (h : card.ev2Session = some session)
      (hrun : ProtectedRun o card.raw request session (Ev2Prepare request session) (Ev2Accept request)
        r session' es) :
      SecureRun o card request r {card with ev2Session := some session'} es
  | standardAes {session session' r es} (hev2 : card.ev2Session = none)
      (h : card.standardAesSession = some session)
      (hrun : ProtectedRun o card.raw request session
        (Security.StandardAes.Session.PrepareCase session (aesProtectedLength request)) (AesAccept request) r session' es) :
      SecureRun o card request r {card with standardAesSession := some session'} es
  | unprotected {r es} (h : card.hasNativeSession = false)
      (hrun : UnprotectedRun o card.raw request r (deliveries es)) :
      SecureRun o card request r card es

theorem exchangeSecure_runs (o : Oracle Environment) (request : Request) (options : ExchangeOptions)
    (card : Card) : Ensures some o (exchangeSecure request options) card (SecureRun o card request) := by
  refine ensures_get_bind ?_
  cases hev2 : card.ev2Session with
  | some session =>
    exact ensures_focus ((exchangeProtected_runs prepare_ev2Cases fun _ response =>
      accept_ev2Cases response).mono fun r session' es hrun => .ev2 hev2 hrun)
  | none =>
    cases haes : card.standardAesSession with
    | some session =>
      exact ensures_focus ((exchangeProtected_runs prepare_aesCases fun _ response =>
        accept_aesCases response).mono fun r session' es hrun => .standardAes hev2 haes hrun)
    | none =>
      refine (exchangeUnprotected_runs o card.raw request options card).full.mono ?_
      rintro r _ es ⟨rfl,hrun⟩
      exact .unprotected (by simp [Card.hasNativeSession,hev2,haes]) hrun

theorem SecureRun.bound {o : Oracle Environment} {card card' : Card} {request : Request}
    {r : Except Fault Bytes} {es : Trace Environment} (h : SecureRun o card request r card' es) :
    card.Bound card' := by
  cases h <;> exact ⟨rfl,rfl⟩

def managedFailure : Error := ⟨.internal,"Managed native command failed",.unknown,0⟩

/-- The state after a verified answer. -/
def endSession (command : Native.Checked.Command) (card : Card) : Card :=
  if command.invalidatesSession then {card.clearNativeSession with authenticatedKey := none} else card

/-- Every way the execution of one command can go. -/
inductive ExecuteRun (o : Oracle Environment) (command : Native.Checked.Command) (card : Card) :
    Except Fault Bytes → Card → Trace Environment → Prop
  | refused {e es} (he : e.outcome = .notSent) (hes : Untouched es) :
      ExecuteRun o command card (.error (.error e)) card es
  | removed {e es} (hopen : card.Open) (he : e.outcome = .notSent) (hes : Untouched es) :
      ExecuteRun o command card (.error (.error e)) card.invalidate es
  | failed {e card' es₀ es} (hopen : card.Open) (hcontext : requireContext card command = .ok ())
      (h₀ : Untouched es₀)
      (hrun : SecureRun o card (secureRequest command) (.error (.error e)) card' es) :
      ExecuteRun o command card (.error (.error e)) (afterExchange card.hasNativeSession e card')
        (es₀ ++ es)
  | threw {card' es₀ es} (hopen : card.Open) (hcontext : requireContext card command = .ok ())
      (h₀ : Untouched es₀)
      (hrun : SecureRun o card (secureRequest command) (.error .thrown) card' es) :
      ExecuteRun o command card (.error (.error managedFailure)) card.invalidate (es₀ ++ es)
  | changed {e payload card' es₀ es es₁} (hopen : card.Open)
      (hcontext : requireContext card command = .ok ()) (h₀ : Untouched es₀)
      (hrun : SecureRun o card (secureRequest command) (.ok payload) card' es) (h₁ : Untouched es₁)
      (he : e.outcome = .unknown) :
      ExecuteRun o command card (.error (.error e)) card.invalidate (es₀ ++ (es ++ es₁))
  | unparsed {e payload card' es₀ es es₁} (hopen : card.Open)
      (hcontext : requireContext card command = .ok ()) (h₀ : Untouched es₀)
      (hrun : SecureRun o card (secureRequest command) (.ok payload) card' es) (h₁ : Untouched es₁)
      (he : Native.Checked.checkParsed command.opcode command.header payload = .error e) :
      ExecuteRun o command card (.error (.error e)) card.invalidate (es₀ ++ (es ++ es₁))
  | done {payload card' es₀ es es₁} (hopen : card.Open)
      (hcontext : requireContext card command = .ok ()) (h₀ : Untouched es₀)
      (hrun : SecureRun o card (secureRequest command) (.ok payload) card' es) (h₁ : Untouched es₁)
      (hparsed : Native.Checked.checkParsed command.opcode command.header payload = .ok ()) :
      ExecuteRun o command card (.ok payload) (endSession command card') (es₀ ++ (es ++ es₁))

theorem executeLocked_runs (o : Oracle Environment) (command : Native.Checked.Command)
    (options : ExchangeOptions) (card : Card) :
    Ensures some o (executeLocked command options) card (ExecuteRun o command card) := by
  refine Op.ensures_catchAll (ensures_get_bind ?_)
  refine Op.ensures_refuse_bind (fun _ => .refused rfl (by simp)) fun husable => ?_
  refine Op.ensures_refuse_bind (fun _ => .refused rfl (by simp)) fun hsettled => ?_
  have hopen : card.Open := ⟨by simpa using husable,by simpa using hsettled⟩
  refine Op.ensures_refuse_bind (fun _ => .refused rfl (by simp)) fun _ => ?_
  refine Op.ensures_refuse_bind (fun _ => .refused rfl (by simp)) fun _ => ?_
  refine checkGeneration_bind (fun _ => .removed hopen rfl (by simp [external])) ?_
  refine Op.ensures_ofResult_bind (fun e he => .refused ?_ (by simp [external])) fun _ hcontext => ?_
  · unfold requireContext at he
    repeat' split at he
    all_goals cases he
    all_goals rfl
  have h₀ : Untouched [⟨.generation,card.generation⟩] := by simp [external]
  refine ensures_bind (Op.ensures_onError
    ((exchangeSecure_runs o (secureRequest command) options card).mono ?_)) ?_ ?_
    (m := fun r s' es =>
      (∃ payload, r = .ok payload ∧ SecureRun o card (secureRequest command) (.ok payload) s' es) ∨
      (r = .error .thrown ∧ SecureRun o card (secureRequest command) (.error .thrown) s' es) ∨
      ∃ e card', r = .error (.error e) ∧ s' = afterExchange card.hasNativeSession e card' ∧
        SecureRun o card (secureRequest command) (.error (.error e)) card' es)
  · rintro ((e | _) | payload) card' es hrun
    · exact .inr (.inr ⟨e,card',rfl,rfl,hrun⟩)
    · exact .inr (.inl ⟨rfl,hrun⟩)
    · exact .inl ⟨payload,rfl,hrun⟩
  · rintro _ _ es (⟨_,⟨⟩,_⟩ | ⟨⟨⟩,hrun⟩ | ⟨e,card',⟨⟩,rfl,hrun⟩)
    · have hthrew := ExecuteRun.threw hopen hcontext h₀ hrun
      rwa [← hrun.bound.invalidate] at hthrew
    · exact .failed hopen hcontext h₀ hrun
  rintro payload card' es (⟨_,⟨⟩,hrun⟩ | ⟨⟨⟩,_⟩ | ⟨_,_,⟨⟩,_⟩)
  have hbound := hrun.bound
  refine checkGeneration_bind (fun generation => ?_) ?_
  · have hchanged := ExecuteRun.changed (e := ⟨.cardRemoved,"Card changed during managed command",
      .unknown,0⟩) hopen hcontext h₀ hrun
      (show Untouched [⟨.generation,generation⟩] by simp [external]) rfl
    rwa [← hbound.invalidate] at hchanged
  have h₁ : Untouched [⟨.generation,card'.generation⟩] := by simp [external]
  refine ensures_bind (Op.ensures_onError (Op.ensures_ofResult ?_)) ?_ ?_
    (m := fun r s' es' => es' = [] ∧
      ((r = .ok () ∧ s' = card' ∧
        Native.Checked.checkParsed command.opcode command.header payload = .ok ()) ∨
      ∃ e, r = .error (.error e) ∧ s' = card'.invalidate ∧
        Native.Checked.checkParsed command.opcode command.header payload = .error e))
  · cases hparsed : Native.Checked.checkParsed command.opcode command.header payload with
    | error e => exact ⟨rfl,.inr ⟨e,rfl,rfl,rfl⟩⟩
    | ok _ => exact ⟨rfl,.inl ⟨rfl,rfl,rfl⟩⟩
  · rintro _ _ _ ⟨rfl,⟨⟨⟩,_⟩ | ⟨e,⟨⟩,rfl,hparsed⟩⟩
    have hunparsed := ExecuteRun.unparsed hopen hcontext h₀ hrun h₁ hparsed
    rwa [← hbound.invalidate] at hunparsed
  rintro _ _ _ ⟨rfl,⟨_,rfl,hparsed⟩ | ⟨_,⟨⟩,_⟩⟩
  refine ensures_modify_bind ?_
  exact ensures_pure (.done hopen hcontext h₀ hrun h₁ hparsed)

end DesfireSdk.Managed
