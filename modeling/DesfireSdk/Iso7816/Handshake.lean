import DesfireSdk.Iso7816.Chaining
import DesfireSdk.Iso7816.Steps
import DesfireSdk.Security.Handshake

/-!
# What an ISO login is worth

The three commands of an ISO AES login under every transport, card and provider.
-/
namespace DesfireSdk.Iso7816.Aes
open Interaction Program Security

/-- A command was answered with these data and without complaint. -/
structure Heard (command : Checked.Command) (answer : Bytes) (ds : List Delivery) : Prop where
  once : Checked.SentOnce command ds
  concluded : Concluded successStatus ds
  data : received ds = answer

/-- The commands of a login, with the proof of the host in the second. -/
structure Commands (reference : Checked.KeyReference) (encoding : Raw.LengthEncoding) (hostSecond ciphertext : Bytes) where
  getChallenge : Checked.Command
  external : Checked.Command
  internal : Checked.Command
  getChallenge_made : Checked.Command.getChallenge 16 encoding = .ok getChallenge
  external_made : Checked.Command.externalAuthenticate .aes128 reference ciphertext encoding = .ok external
  internal_made : Checked.Command.internalAuthenticate .aes128 reference hostSecond encoding = .ok internal

/-- The frames of a login up to any point of it. -/
inductive OwnFrames (reference : Checked.KeyReference) (encoding : Raw.LengthEncoding) : List Delivery → Prop
  | none : OwnFrames reference encoding []
  | challenged {command ds} (hmade : Checked.Command.getChallenge 16 encoding = .ok command)
      (hds : Checked.SentOnce command ds) : OwnFrames reference encoding ds
  | proved {hostSecond ciphertext ds ds'} (commands : Commands reference encoding hostSecond ciphertext)
      (challenge : Bytes) (hds : Heard commands.getChallenge challenge ds)
      (hds' : Checked.SentOnce commands.external ds') : OwnFrames reference encoding (ds ++ ds')
  | checked {hostSecond ciphertext ds ds' ds''} (commands : Commands reference encoding hostSecond ciphertext)
      (challenge : Bytes) (hds : Heard commands.getChallenge challenge ds) (hds' : Heard commands.external [] ds')
      (hds'' : Checked.SentOnce commands.internal ds'') : OwnFrames reference encoding (ds ++ (ds' ++ ds''))

/-- The session of a complete login with the frames and computations it comes from. -/
structure Proved (reference : Checked.KeyReference) (encoding : Raw.LengthEncoding) (derivedKey : Bytes)
    (session : Session) (hostRandom challenge ciphertext answer cardProof : Bytes) (es : Trace Environment) : Prop where
  drawn : Observed es (.random 32) (.ok hostRandom)
  hostSize : hostRandom.length = 32
  proved : Observed es (.cbc derivedKey (zeros 16) (hostRandom.take 16 ++ challenge) true) (.ok ciphertext)
  opened : Observed es (.cbc derivedKey (ciphertext.drop 16) answer false) (.ok cardProof)
  echoed : cardProof.drop 16 = hostRandom.drop 16
  frames : ∃ (commands : Commands reference encoding (hostRandom.drop 16) ciphertext) (ds ds' ds'' : List Delivery),
    deliveries es = ds ++ (ds' ++ ds'') ∧ Heard commands.getChallenge challenge ds ∧
      Heard commands.external [] ds' ∧ Heard commands.internal answer ds''
  key : session.key = hostRandom.take 4 ++ cardProof.take 4 ++ ((hostRandom.take 16).drop 12).take 4 ++
    (cardProof.drop 12).take 4
  generation : Observed es .generation session.generation
  bound : session.reference = reference

/-- What a login sent, admits and returns; the flag tells whether anything was attempted. -/
structure Sound (reference : Checked.KeyReference) (encoding : Raw.LengthEncoding) (derivedKey : Bytes)
    (r : Except Fault Session) (attempted : Bool) (es : Trace Environment) : Prop where
  own : OwnFrames reference encoding (deliveries es)
  evident : ∀ e, r = .error (.error e) → e.outcome = .notSent → ∀ d ∈ deliveries es, d.Withheld
  unattempted : attempted = false → deliveries es = []
  proved : ∀ session, r = .ok session → ∃ hostRandom challenge ciphertext answer cardProof,
    Proved reference encoding derivedKey session hostRandom challenge ciphertext answer cardProof es

section Handshake
variable {o : Oracle Environment} {reference : Checked.KeyReference} {encoding : Raw.LengthEncoding} {derivedKey : Bytes}
  {es : Trace Environment}

theorem Sound.quiet {f : Fault} {attempted : Bool} (hes : deliveries es = []) :
    Sound reference encoding derivedKey (.error f) attempted es := by
  refine ⟨?_,fun e _ _ d hd => ?_,fun _ => hes,fun session hsession => ?_⟩
  · rw [hes]
    exact .none
  · rw [hes] at hd
    cases hd
  · cases hsession

/-- A failure after the first answer. -/
theorem Sound.admitted {f : Fault} (hown : OwnFrames reference encoding (deliveries es))
    (hf : ∀ e, f = .error e → e.outcome ≠ .notSent) : Sound reference encoding derivedKey (.error f) true es := by
  refine ⟨hown,fun e he hsent => ?_,fun h => ?_,fun session hsession => ?_⟩
  · cases he
    exact absurd hsent (hf e rfl)
  · cases h
  · cases hsession

theorem made_getChallenge {command : Checked.Command} (h : Checked.Command.getChallenge 16 encoding = .ok command) :
    Checked.Made command ∧ command.isRead = false := by
  refine ⟨.getChallenge h,?_⟩
  rw [(Checked.make_of_guarded h).2]
  rfl

theorem made_external {cryptogram : Bytes} {command : Checked.Command}
    (h : Checked.Command.externalAuthenticate .aes128 reference cryptogram encoding = .ok command) :
    Checked.Made command ∧ command.isRead = false := by
  refine ⟨.externalAuthenticate h,?_⟩
  rw [(Checked.make_of_guarded h).2]
  rfl

theorem made_internal {challenge : Bytes} {command : Checked.Command}
    (h : Checked.Command.internalAuthenticate .aes128 reference challenge encoding = .ok command) :
    Checked.Made command ∧ command.isRead = false := by
  refine ⟨.internalAuthenticate h,?_⟩
  rw [(Checked.make_of_guarded h).2]
  rfl

/-- One exchange of a command that is no read. -/
theorem exchange_heard {τ : Type} {s : τ} {command : Checked.Command} (hmade : Checked.Made command ∧ command.isRead = false)
    (options : ExchangeOptions) (limits : Checked.Limits) :
    Ensures some o (Checked.Channel.exchange command options limits) s fun r s' es => s' = s ∧
      Checked.SentOnce command (deliveries es) ∧ Evidence Checked.Response.raw [] false r (deliveries es) := by
  have hkept : Ensures some o (Checked.Channel.exchange command options limits) s fun _ s' _ => s' = s :=
    (Checked.Channel.exchange_keeps command options limits).ensures
  have honce := (Checked.Channel.exchange_once o hmade.1 hmade.2 options limits s).full
  have hevidence := (Checked.Channel.exchange_evidence o command options limits s).full
  exact (hkept.and (honce.and hevidence)).mono fun r s' es h => h

theorem requireSuccess_ok {response : Checked.Response} {size : Nat} {operation : String} {response' : Checked.Response}
    (h : requireSuccess response size operation = .ok response') :
    response' = response ∧ response.status = successStatus ∧ response.data.length = size := by
  unfold requireSuccess at h
  split at h
  · cases h
  rename_i hsuccess
  split at h
  · cases h
  rename_i hsize
  cases h
  refine ⟨rfl,?_,Decidable.not_not.mp hsize⟩
  simpa [Checked.Response.success,successStatus] using hsuccess

theorem requireSuccess_outcome {response : Checked.Response} {size : Nat} {operation : String} {e : Error}
    (h : requireSuccess response size operation = .error e) : e.outcome ≠ .notSent := by
  unfold requireSuccess at h
  split at h
  · cases h
    exact Outcome.noConfusion
  split at h <;> cases h
  exact Outcome.noConfusion

theorem heard_of {command : Checked.Command} {response : Checked.Response} {ds : List Delivery}
    (honce : Checked.SentOnce command ds) (hevidence : Evidence Checked.Response.raw [] false (.ok response) ds)
    (hstatus : response.status = successStatus) : Heard command response.data ds := by
  obtain ⟨hconcluded,hdata⟩ := hevidence.replied response rfl
  refine ⟨honce,?_,hdata.symm⟩
  rw [← hstatus]
  exact hconcluded

/-- A later exchange with the check of its answer. -/
theorem phase_heard {command : Checked.Command} (hmade : Checked.Made command ∧ command.isRead = false)
    (options : ExchangeOptions) (limits : Checked.Limits) (size : Nat) (operation : String) {attempted : Bool} :
    Ensures some o (Op.mapError Error.afterDelivery do
      let response ← Checked.Channel.exchange command options limits
      Op.ofResult (requireSuccess response size operation)) attempted fun r s' es => s' = attempted ∧
        Checked.SentOnce command (deliveries es) ∧ (∀ e, r = .error (.error e) → e.outcome ≠ .notSent) ∧
          ∀ response, r = .ok response → response.data.length = size ∧ Heard command response.data (deliveries es) := by
  have hchanged : ∀ (r : Except Fault Checked.Response) (e : Error),
      (Op.changeError Error.afterDelivery r attempted).1 = .error (.error e) → e.outcome ≠ .notSent := by
    intro r e h
    rcases r with (_ | _) | _ <;> cases h
    exact Error.afterDelivery_outcome _
  refine Op.ensures_mapError (ensures_bind (exchange_heard hmade options limits) ?_ ?_)
  · intro f s' es h
    obtain ⟨hkept,honce,_⟩ := h
    refine ⟨?_,honce,fun e he => ?_,fun response hresponse => ?_⟩
    · rcases f with e | _ <;> exact hkept
    · cases f <;> cases he
      exact Error.afterDelivery_outcome _
    · cases f <;> cases hresponse
  intro response s' es h
  obtain ⟨hkept,honce,hevidence⟩ := h
  refine Op.ensures_ofResult ?_
  rw [List.append_nil]
  cases hsuccess : requireSuccess response size operation with
  | error e =>
    refine ⟨hkept,honce,fun e' he' => ?_,fun response' h => ?_⟩
    · cases he'
      exact Error.afterDelivery_outcome _
    · cases h
  | ok response' =>
    obtain ⟨rfl,hstatus,hsize⟩ := requireSuccess_ok hsuccess
    refine ⟨hkept,honce,fun e he => ?_,fun response'' h => ?_⟩
    · cases he
    · cases h
      exact ⟨hsize,heard_of honce hevidence hstatus⟩

/-- The controls of a later command. -/
theorem next_controls {budget : Raw.Budget} {sent attempted : Bool} :
    Ensures some o (budget.next authenticationMessages sent) attempted fun r s' es => s' = attempted ∧
      deliveries es = [] ∧ ∀ e, r = .error (.error e) → e.outcome = if sent then .unknown else .notSent := by
  have hkept : Keeps (budget.next authenticationMessages sent : Op Bool ExchangeOptions) := by
    refine keeps_bind (keeps_ask _) fun _ => keeps_bind (keeps_refuse _ _) fun _ => ?_
    refine keeps_bind (keeps_ask _) fun _ => keeps_bind (keeps_refuse _ _) fun _ => ?_
    exact keeps_bind (keeps_ask _) fun _ => keeps_bind (keeps_refuse _ _) fun _ => keeps_pure _
  refine (hkept.ensures.and Raw.budget_next.full).mono fun r s' es h => ?_
  obtain ⟨hstate,hquiet,_,houtcome⟩ := h
  exact ⟨hstate,hquiet,houtcome⟩

/-- What a login knows once the card accepted the proof of the host. -/
structure Accepted (reference : Checked.KeyReference) (encoding : Raw.LengthEncoding) (derivedKey hostRandom challenge ciphertext : Bytes)
    (generation : UInt64) (commands : Commands reference encoding (hostRandom.drop 16) ciphertext)
    (ds ds' : List Delivery) (es : Trace Environment) : Prop where
  drawn : Observed es (.random 32) (.ok hostRandom)
  hostSize : hostRandom.length = 32
  proved : Observed es (.cbc derivedKey (zeros 16) (hostRandom.take 16 ++ challenge) true) (.ok ciphertext)
  generation : Observed es .generation generation
  challenged : Heard commands.getChallenge challenge ds
  accepted : Heard commands.external [] ds'
  sent : deliveries es = ds ++ ds'

theorem lastPhase_sound {hostRandom challenge ciphertext : Bytes} {budget : Raw.Budget}
    {commands : Commands reference encoding (hostRandom.drop 16) ciphertext} {ds ds' : List Delivery}
    (h : Accepted reference encoding derivedKey hostRandom challenge ciphertext budget.generation commands ds ds' es) :
    Ensures some o (do
      let remaining ← budget.next authenticationMessages true
      let third ← Op.mapError Error.afterDelivery do
        let response ← Checked.Channel.exchange commands.internal remaining ⟨32,4,false⟩
        Op.ofResult (requireSuccess response 32 "ISO INTERNAL AUTHENTICATE")
      let cardProof ← Op.mapError Error.afterDelivery
        (Op.secretOutput "ISO AES provider returned the wrong card proof length"
          (Op.cbc derivedKey (ciphertext.drop 16) third.data false) 32)
      Op.refuse (constantTimeEqual (hostRandom.drop 16) (cardProof.drop 16) = false)
        ⟨.authentication,"ISO card proof does not match the host challenge",.unknown,0⟩
      let _ ← budget.next authenticationMessages true
      pure ({
        reference
        key := (hostRandom.take 16).take 4 ++ cardProof.take 4 ++ ((hostRandom.take 16).drop 12).take 4 ++
          (cardProof.drop 12).take 4
        generation := budget.generation } : Session)) true fun r attempted es' =>
      Sound reference encoding derivedKey r attempted (es ++ es') := by
  have hown : ∀ {quiet : Trace Environment}, deliveries quiet = [] →
      OwnFrames reference encoding (deliveries (es ++ quiet)) := by
    intro quiet hquiet
    rw [deliveries_quiet hquiet,h.sent]
    exact .proved commands challenge h.challenged h.accepted.once
  refine ensures_bind next_controls ?_ ?_
  · intro f s' quiet hnext
    obtain ⟨rfl,hquiet,houtcome⟩ := hnext
    refine .admitted (hown hquiet) fun e he => ?_
    rw [houtcome e (by rw [he])]
    exact Outcome.noConfusion
  intro remaining s' quiet hnext
  obtain ⟨rfl,hquiet,_⟩ := hnext
  refine ensures_bind (phase_heard (made_internal commands.internal_made) _ _ _ _) ?_ ?_
  · intro f s' es' hphase
    obtain ⟨rfl,honce,houtcome,_⟩ := hphase
    refine .admitted ?_ fun e he => houtcome e (by rw [he])
    rw [deliveries_append,h.sent,deliveries_append,hquiet,List.nil_append,List.append_assoc]
    exact .checked commands challenge h.challenged h.accepted honce
  intro third s' es' hphase
  obtain ⟨rfl,honce,_,hheard⟩ := hphase
  obtain ⟨hsize,hheard⟩ := hheard third rfl
  have hown' : ∀ {later : Trace Environment}, deliveries later = [] →
      deliveries (es ++ (quiet ++ (es' ++ later))) = ds ++ (ds' ++ deliveries es') := by
    intro later hlater
    simp only [deliveries_append,h.sent,hquiet,hlater,List.nil_append,List.append_nil,List.append_assoc]
  have hfails : ∀ {f : Fault} {later : Trace Environment}, deliveries later = [] →
      (∀ e, f = .error e → e.outcome ≠ .notSent) →
      Sound reference encoding derivedKey (.error f) true (es ++ (quiet ++ (es' ++ later))) := by
    intro f later hlater hf
    refine .admitted ?_ hf
    rw [hown' hlater]
    exact .checked commands challenge h.challenged h.accepted honce
  refine ensures_bind (Op.PrimitiveCase.change Error.afterDelivery (Op.cbc_secret _ _ _ _ _ _)) ?_ ?_
  · intro f s' events hcase
    cases hcase with
    | failed reply e hreply => exact hfails rfl fun e he => by cases he; exact Error.afterDelivery_outcome _
    | threw => exact hfails rfl fun e he => nomatch he
  intro cardProof s' events hcase
  cases hcase with
  | computed _ hproof =>
  refine Op.ensures_refuse_bind (fun _ => ?_) fun hequal => ?_
  · exact hfails rfl fun e he => by cases he; exact Outcome.noConfusion
  refine ensures_bind next_controls ?_ ?_
  · intro f s' last hnext
    obtain ⟨rfl,hlast,houtcome⟩ := hnext
    refine hfails hlast fun e he => ?_
    rw [houtcome e (by rw [he])]
    exact Outcome.noConfusion
  intro _ s' last hnext
  obtain ⟨rfl,hlast,_⟩ := hnext
  have hall : deliveries (es ++ (quiet ++ (es' ++ ([⟨.cbc derivedKey (ciphertext.drop 16) third.data false,
      .ok cardProof⟩] ++ (last ++ []))))) = ds ++ (ds' ++ deliveries es') := by
    refine hown' ?_
    rw [List.append_nil]
    exact hlast
  refine ensures_pure ⟨?_,fun e he => ?_,fun hattempted => ?_,fun session hsession => ?_⟩
  · rw [hall]
    exact .checked commands challenge h.challenged h.accepted honce
  · cases he
  · cases hattempted
  cases hsession
  refine ⟨hostRandom,challenge,ciphertext,third.data,cardProof,h.drawn.left _,h.hostSize,h.proved.left _,?_,
    (equal_of_compared hequal).symm,⟨commands,ds,ds',deliveries es',hall,h.challenged,h.accepted,hheard⟩,?_,
    h.generation.left _,rfl⟩
  · simp [Observed]
  · rw [List.take_take]
    rfl

/-- What a login knows once the card gave its challenge. -/
structure Challenged (reference : Checked.KeyReference) (encoding : Raw.LengthEncoding) (hostRandom challenge : Bytes)
    (generation : UInt64) (getChallenge internal : Checked.Command) (es : Trace Environment) : Prop where
  drawn : Observed es (.random 32) (.ok hostRandom)
  hostSize : hostRandom.length = 32
  generation : Observed es .generation generation
  challenge_made : Checked.Command.getChallenge 16 encoding = .ok getChallenge
  internal_made : Checked.Command.internalAuthenticate .aes128 reference (hostRandom.drop 16) encoding = .ok internal
  challenged : Heard getChallenge challenge (deliveries es)

theorem laterPhases_sound {hostRandom challenge : Bytes} {budget : Raw.Budget} {getChallenge internal : Checked.Command}
    (h : Challenged reference encoding hostRandom challenge budget.generation getChallenge internal es) :
    Ensures some o (do
      let ciphertext ← Op.mapError Error.afterDelivery
        (Op.secretOutput "ISO AES provider returned the wrong proof length"
          (Op.cbc derivedKey (zeros 16) (hostRandom.take 16 ++ challenge) true) 32)
      let external ← Op.value
        (Checked.Command.externalAuthenticate .aes128 reference ciphertext encoding)
      let remaining ← budget.next authenticationMessages true
      let _ ← Op.mapError Error.afterDelivery do
        let response ← Checked.Channel.exchange external remaining ⟨32,4,false⟩
        Op.ofResult (requireSuccess response 0 "ISO EXTERNAL AUTHENTICATE")
      let remaining ← budget.next authenticationMessages true
      let third ← Op.mapError Error.afterDelivery do
        let response ← Checked.Channel.exchange internal remaining ⟨32,4,false⟩
        Op.ofResult (requireSuccess response 32 "ISO INTERNAL AUTHENTICATE")
      let cardProof ← Op.mapError Error.afterDelivery
        (Op.secretOutput "ISO AES provider returned the wrong card proof length"
          (Op.cbc derivedKey (ciphertext.drop 16) third.data false) 32)
      Op.refuse (constantTimeEqual (hostRandom.drop 16) (cardProof.drop 16) = false)
        ⟨.authentication,"ISO card proof does not match the host challenge",.unknown,0⟩
      let _ ← budget.next authenticationMessages true
      pure ({
        reference
        key := (hostRandom.take 16).take 4 ++ cardProof.take 4 ++ ((hostRandom.take 16).drop 12).take 4 ++
          (cardProof.drop 12).take 4
        generation := budget.generation } : Session)) true fun r attempted es' =>
      Sound reference encoding derivedKey r attempted (es ++ es') := by
  have hfails : ∀ {f : Fault} {quiet : Trace Environment}, deliveries quiet = [] →
      (∀ e, f = .error e → e.outcome ≠ .notSent) →
      Sound reference encoding derivedKey (.error f) true (es ++ quiet) := by
    intro f quiet hquiet hf
    refine .admitted ?_ hf
    rw [deliveries_quiet hquiet]
    exact .challenged h.challenge_made h.challenged.once
  refine ensures_bind (Op.PrimitiveCase.change Error.afterDelivery (Op.cbc_secret _ _ _ _ _ _)) ?_ ?_
  · intro f s' events hcase
    cases hcase with
    | failed reply e hreply => exact hfails rfl fun e he => by cases he; exact Error.afterDelivery_outcome _
    | threw => exact hfails rfl fun e he => nomatch he
  intro ciphertext s' events hcase
  cases hcase with
  | computed _ hciphertext =>
  refine Op.ensures_value_bind (fun _ _ => hfails rfl fun e he => nomatch he) fun external hexternal => ?_
  refine ensures_bind next_controls ?_ ?_
  · intro f s' quiet hnext
    obtain ⟨rfl,hquiet,houtcome⟩ := hnext
    refine hfails hquiet fun e he => ?_
    rw [houtcome e (by rw [he])]
    exact Outcome.noConfusion
  intro remaining s' quiet hnext
  obtain ⟨rfl,hquiet,_⟩ := hnext
  refine ensures_bind (phase_heard (made_external hexternal) _ _ _ _) ?_ ?_
  · intro f s' es' hphase
    obtain ⟨rfl,honce,houtcome,_⟩ := hphase
    refine .admitted ?_ fun e he => houtcome e (by rw [he])
    have hsent : deliveries (es ++ ([⟨.cbc derivedKey (zeros 16) (hostRandom.take 16 ++ challenge) true,
        .ok ciphertext⟩] ++ (quiet ++ es'))) = deliveries es ++ deliveries es' := by
      simp only [deliveries_append,hquiet]
      rfl
    rw [hsent]
    exact .proved ⟨getChallenge,external,internal,h.challenge_made,hexternal,h.internal_made⟩ challenge h.challenged honce
  intro second s' es' hphase
  obtain ⟨rfl,_,_,hheard⟩ := hphase
  obtain ⟨hsize,hheard⟩ := hheard second rfl
  rw [List.length_eq_zero_iff] at hsize
  rw [hsize] at hheard
  have haccepted : Accepted reference encoding derivedKey hostRandom challenge ciphertext budget.generation
      ⟨getChallenge,external,internal,h.challenge_made,hexternal,h.internal_made⟩ (deliveries es) (deliveries es')
      (es ++ ([⟨.cbc derivedKey (zeros 16) (hostRandom.take 16 ++ challenge) true,.ok ciphertext⟩] ++ (quiet ++ es'))) := by
    refine ⟨h.drawn.left _,h.hostSize,List.mem_append_right _ List.mem_cons_self,h.generation.left _,h.challenged,hheard,?_⟩
    simp only [deliveries_append,hquiet]
    rfl
  refine (lastPhase_sound haccepted).mono fun r attempted es'' hsound => ?_
  simpa using hsound

/-- A step before the first frame, after others. -/
theorem Sound.quiet_bind {α : Type} {p : Op Bool α} {f : α → Op Bool Session} {m : α → Trace Environment → Prop}
    (hes : deliveries es = []) (hp : Ensures some o p false fun r attempted es' =>
      attempted = false ∧ deliveries es' = [] ∧ ∀ a, r = .ok a → m a es')
    (hf : ∀ a es', deliveries (es ++ es') = [] → m a es' → Ensures some o (f a) false fun r attempted es'' =>
      Sound reference encoding derivedKey r attempted (es ++ es' ++ es'')) :
    Ensures some o (p >>= f) false fun r attempted es' => Sound reference encoding derivedKey r attempted (es ++ es') := by
  refine ensures_bind hp ?_ ?_
  · intro e s' es' h
    refine .quiet ?_
    rw [deliveries_quiet h.2.1,hes]
  · intro a s' es' h
    obtain ⟨rfl,hquiet,hm⟩ := h
    refine (hf a es' ?_ (hm a rfl)).mono fun r attempted es'' hsound => ?_
    · rw [deliveries_quiet hquiet,hes]
    · rw [← List.append_assoc]
      exact hsound

theorem Sound.refuse_bind {c : Prop} [Decidable c] {e : Error} {f : Unit → Op Bool Session} (hes : deliveries es = [])
    (hf : Ensures some o (f ()) false fun r attempted es' => Sound reference encoding derivedKey r attempted (es ++ es')) :
    Ensures some o (Op.refuse c e >>= f) false fun r attempted es' =>
      Sound reference encoding derivedKey r attempted (es ++ es') := by
  refine Op.ensures_refuse_bind (fun _ => .quiet ?_) fun _ => hf
  rw [List.append_nil,hes]

theorem start_sampled {options : ExchangeOptions} {attempted : Bool} :
    Ensures some o (Raw.Budget.start options) attempted fun r s' es => s' = attempted ∧ deliveries es = [] ∧
      ∀ budget, r = .ok budget → Observed es .generation budget.generation := by
  refine Op.ensures_generation_bind fun generation => Op.ensures_now_bind fun started => ?_
  refine ensures_pure ⟨rfl,rfl,fun budget hbudget => ?_⟩
  cases hbudget
  exact List.mem_cons_self

theorem controls_quiet {budget : Raw.Budget} {sent : Bool} :
    Ensures some o (budget.next authenticationMessages sent) false fun r s' es => s' = false ∧ deliveries es = [] ∧
      ∀ a, r = .ok a → True :=
  next_controls.mono fun _ _ _ h => ⟨h.1,h.2.1,fun _ _ => trivial⟩

theorem capabilities_quiet : Ensures some o (Op.capabilities : Op Bool TransportCapabilities) false fun r s' es =>
    s' = false ∧ deliveries es = [] ∧ ∀ a, r = .ok a → True := by
  refine ensures_ask_bind fun h => ?_
  cases o h .capabilities with
  | none => exact ensures_fail ⟨rfl,rfl,fun _ _ => trivial⟩
  | some limits => exact ensures_pure ⟨rfl,rfl,fun _ _ => trivial⟩

theorem value_quiet {α : Type} (r : Result α) : Ensures some o (Op.value r : Op Bool α) false fun r' s' es =>
    s' = false ∧ deliveries es = [] ∧ ∀ a, r' = .ok a → r = .ok a := by
  cases r with
  | error e => exact ensures_fail ⟨rfl,rfl,fun a ha => by cases ha⟩
  | ok a => exact ensures_pure ⟨rfl,rfl,fun a' ha => by cases ha; rfl⟩

theorem transmittable_quiet (command : Checked.Command) :
    Ensures some o (requireTransmittable command) false fun r s' es => s' = false ∧ deliveries es = [] ∧
      ∀ a, r = .ok a → True := by
  refine Op.ensures_value_bind (fun _ _ => ⟨rfl,rfl,fun _ _ => trivial⟩) fun frame _ => ?_
  refine Op.ensures_capabilities_bind ⟨rfl,rfl,fun _ _ => trivial⟩ fun h limits _ => ?_
  unfold Op.refuse Program.refuse
  refine ensures_ite (fun _ => ensures_fail ?_) fun _ => ensures_pure ?_ <;> exact ⟨rfl,rfl,fun _ _ => trivial⟩

theorem random_quiet (message : String) (size : Nat) :
    Ensures some o (Op.secretOutput message (Op.random size) size : Op Bool Bytes) false fun r s' es =>
      s' = false ∧ deliveries es = [] ∧ ∀ a, r = .ok a → a.length = size ∧ Observed es (.random size) (.ok a) := by
  refine (random_secret message size).mono fun r s' es hcase => ?_
  cases hcase with
  | failed reply e hreply => exact ⟨rfl,rfl,fun a ha => by cases ha⟩
  | threw => exact ⟨rfl,rfl,fun a ha => by cases ha⟩
  | computed output hsize =>
    refine ⟨rfl,rfl,fun a ha => ?_⟩
    cases ha
    exact ⟨hsize,List.mem_cons_self⟩

/-- The phases of a login once its commands are prepared. -/
theorem firstPhase_sound {hostRandom : Bytes} {budget : Raw.Budget} {getChallenge internal : Checked.Command}
    {remaining : ExchangeOptions} (hsampled : Observed es .generation budget.generation)
    (hdrawn : Observed es (.random 32) (.ok hostRandom)) (hsize : hostRandom.length = 32) (hes : deliveries es = [])
    (hgetChallenge : Checked.Command.getChallenge 16 encoding = .ok getChallenge)
    (hinternal : Checked.Command.internalAuthenticate .aes128 reference (hostRandom.drop 16) encoding = .ok internal) :
    Ensures some o (do
      let response ← Checked.Channel.exchange getChallenge remaining ⟨16,4,false⟩
      let challenge ← Op.ofResult (requireSuccess response 16 "ISO GET CHALLENGE")
      let ciphertext ← Op.mapError Error.afterDelivery
        (Op.secretOutput "ISO AES provider returned the wrong proof length"
          (Op.cbc derivedKey (zeros 16) (hostRandom.take 16 ++ challenge.data) true) 32)
      let external ← Op.value
        (Checked.Command.externalAuthenticate .aes128 reference ciphertext encoding)
      let remaining ← budget.next authenticationMessages true
      let _ ← Op.mapError Error.afterDelivery do
        let response ← Checked.Channel.exchange external remaining ⟨32,4,false⟩
        Op.ofResult (requireSuccess response 0 "ISO EXTERNAL AUTHENTICATE")
      let remaining ← budget.next authenticationMessages true
      let third ← Op.mapError Error.afterDelivery do
        let response ← Checked.Channel.exchange internal remaining ⟨32,4,false⟩
        Op.ofResult (requireSuccess response 32 "ISO INTERNAL AUTHENTICATE")
      let cardProof ← Op.mapError Error.afterDelivery
        (Op.secretOutput "ISO AES provider returned the wrong card proof length"
          (Op.cbc derivedKey (ciphertext.drop 16) third.data false) 32)
      Op.refuse (constantTimeEqual (hostRandom.drop 16) (cardProof.drop 16) = false)
        ⟨.authentication,"ISO card proof does not match the host challenge",.unknown,0⟩
      let _ ← budget.next authenticationMessages true
      pure ({
        reference
        key := (hostRandom.take 16).take 4 ++ cardProof.take 4 ++ ((hostRandom.take 16).drop 12).take 4 ++
          (cardProof.drop 12).take 4
        generation := budget.generation } : Session)) true fun r attempted es' =>
      Sound reference encoding derivedKey r attempted (es ++ es') := by
  have hsent : ∀ es' : Trace Environment, deliveries (es ++ es') = deliveries es' := by
    intro es'
    rw [deliveries_append,hes,List.nil_append]
  refine ensures_bind (exchange_heard (made_getChallenge hgetChallenge) _ _) ?_ ?_
  · intro f s' es' hexchange
    obtain ⟨rfl,honce,hevidence⟩ := hexchange
    refine ⟨?_,fun e he hnotSent => ?_,fun h => ?_,fun session hsession => ?_⟩
    · rw [hsent]
      exact .challenged hgetChallenge honce
    · rw [hsent]
      exact (hevidence.notSent e (by cases he; rfl) hnotSent).2
    · cases h
    · cases hsession
  intro response s' es' hexchange
  obtain ⟨rfl,honce,hevidence⟩ := hexchange
  refine Op.ensures_ofResult_bind (fun e he => ?_) fun challenge hchallenge => ?_
  · refine .admitted ?_ fun e' he' => ?_
    · rw [List.append_nil,hsent]
      exact .challenged hgetChallenge honce
    · cases he'
      exact requireSuccess_outcome he
  obtain ⟨rfl,hstatus,_⟩ := requireSuccess_ok hchallenge
  have hheard : Challenged reference encoding hostRandom challenge.data budget.generation getChallenge internal
      (es ++ es') := by
    refine ⟨hdrawn.left _,hsize,hsampled.left _,hgetChallenge,hinternal,?_⟩
    rw [hsent]
    exact heard_of honce hevidence hstatus
  refine (laterPhases_sound hheard).mono fun r attempted es'' hsound => ?_
  rw [← List.append_assoc]
  exact hsound

theorem prove_sound (o : Oracle Environment) (reference : Checked.KeyReference) (derivedKey : Bytes)
    (options : ExchangeOptions) (encoding : Raw.LengthEncoding) :
    Ensures some o (prove reference derivedKey options encoding) false fun r attempted es =>
      Sound reference encoding derivedKey r attempted ([] ++ es) := by
  refine .refuse_bind rfl (.quiet_bind rfl capabilities_quiet fun capabilities es₁ h₁ _ => .refuse_bind h₁ ?_)
  refine .quiet_bind h₁ start_sampled fun budget es₂ h₂ hgeneration => ?_
  refine .quiet_bind h₂ controls_quiet fun _ es₃ h₃ _ => ?_
  refine .quiet_bind h₃ (random_quiet _ 32) fun hostRandom es₄ h₄ hrandom => ?_
  refine .quiet_bind h₄ (value_quiet _) fun getChallenge es₅ h₅ hgetChallenge => ?_
  refine .quiet_bind h₅ (value_quiet _) fun internal es₆ h₆ hinternal => ?_
  refine .quiet_bind h₆ (value_quiet _) fun probe es₇ h₇ _ => ?_
  refine .quiet_bind h₇ (transmittable_quiet _) fun _ es₈ h₈ _ => ?_
  refine .quiet_bind h₈ (transmittable_quiet _) fun _ es₉ h₉ _ => ?_
  refine .quiet_bind h₉ (transmittable_quiet _) fun _ es₁₀ h₁₀ _ => ?_
  refine .quiet_bind h₁₀ controls_quiet fun remaining es₁₁ h₁₁ _ => ?_
  refine ensures_modify_bind ?_
  have hsampled : Observed ([] ++ es₁ ++ es₂ ++ es₃ ++ es₄ ++ es₅ ++ es₆ ++ es₇ ++ es₈ ++ es₉ ++ es₁₀ ++ es₁₁)
      .generation budget.generation := by
    have hmem : (⟨.generation,budget.generation⟩ : Event Environment) ∈ es₂ := hgeneration
    simp [Observed,hmem]
  have hdrawn : Observed ([] ++ es₁ ++ es₂ ++ es₃ ++ es₄ ++ es₅ ++ es₆ ++ es₇ ++ es₈ ++ es₉ ++ es₁₀ ++ es₁₁)
      (.random 32) (.ok hostRandom) := by
    have hmem : (⟨.random 32,.ok hostRandom⟩ : Event Environment) ∈ es₄ := hrandom.2
    simp [Observed,hmem]
  generalize [] ++ es₁ ++ es₂ ++ es₃ ++ es₄ ++ es₅ ++ es₆ ++ es₇ ++ es₈ ++ es₉ ++ es₁₀ ++ es₁₁ = es at *
  exact firstPhase_sound hsampled hdrawn hrandom.1 h₁₁ hgetChallenge hinternal

/-- What an ISO login sends and admits, and what its session rests on. -/
theorem authenticate_proved {τ : Type} (o : Oracle Environment) (reference : Checked.KeyReference) (derivedKey : Bytes)
    (options : ExchangeOptions) (encoding : Raw.LengthEncoding) (s : τ) :
    Ensures some o (authenticate reference derivedKey options encoding) s fun r _ es => r ≠ .error .thrown ∧
      OwnFrames reference encoding (deliveries es) ∧
      (∀ e, r = .error (.error e) → e.outcome = .notSent → ∀ d ∈ deliveries es, d.Withheld) ∧
      ∀ session, r = .ok session → ∃ hostRandom challenge ciphertext answer cardProof,
        Proved reference encoding derivedKey session hostRandom challenge ciphertext answer cardProof es := by
  refine ensures_within (ensures_settle ((prove_sound o reference derivedKey options encoding).mono ?_))
  intro r attempted es h
  obtain ⟨hown,hevident,hunattempted,hproved⟩ := h
  refine ⟨?_,hown,fun e he hsent => ?_,fun session hsession => ?_⟩
  · rcases r with (_ | _) | _ <;> exact nofun
  · rcases r with (e' | _) | a
    · exact hevident e (by cases he; rfl) hsent
    · cases attempted with
      | true =>
        cases he
        cases hsent
      | false =>
        intro d hd
        have hnone := hunattempted rfl
        rw [List.nil_append] at hnone
        rw [hnone] at hd
        cases hd
    · cases he
  · rcases r with (e' | _) | a <;> cases hsession
    exact hproved _ rfl

/-- Whatever transport, card, random source and provider do: an ISO login sends its own commands only, in order,
denies no frame that may have reached the card, and opens a session for a card that returned this run's second
nonce under the key. -/
theorem authenticate_sound {τ : Type} (o : Oracle Environment) (reference : Checked.KeyReference) (derivedKey : Bytes)
    (options : ExchangeOptions) (encoding : Raw.LengthEncoding) (s : τ) :
    Ensures some o (authenticate reference derivedKey options encoding) s fun r _ es =>
      OwnFrames reference encoding (deliveries es) ∧
      (∀ e, r = .error (.error e) → e.outcome = .notSent → ∀ d ∈ deliveries es, d.Withheld) ∧
      ∀ session, r = .ok session → ∃ hostRandom challenge ciphertext answer cardProof,
        Proved reference encoding derivedKey session hostRandom challenge ciphertext answer cardProof es :=
  (authenticate_proved o reference derivedKey options encoding s).mono fun _ _ _ h => h.2

end Handshake
end DesfireSdk.Iso7816.Aes
