import DesfireSdk.Managed.Determined
import DesfireSdk.Managed.Truthfulness
import DesfireSdk.Transports.Transport

/-!
# The engine over a transport

What a managed operation reports and samples says what the reader behind the transport was given.
-/
namespace DesfireSdk.Transports
open Interaction Program
open Managed (Card Operation perform Truthful Honest)

/-- The environment that a transport makes of its host and its reader. -/
abbrev CardTransport.environment {R : Signature} {σ : Type} (t : CardTransport R σ) (l : Oracle (Host R))
    (k : Station (Host R) σ) : Oracle Environment := t.driver.oracle l k

/-- The calls an operation makes below, after a history. -/
def CardTransport.callsOf {R : Signature} {σ : Type} (t : CardTransport R σ) (l : Oracle (Host R))
    (k : Station (Host R) σ) (h es : Trace Environment) : Trace (Host R) :=
  t.driver.calls l (reached (t.driver.observe l) k h) es

/-- A delivery the transport does not deny. -/
def Passed (d : Delivery) : Prop := CardTransport.withheld d.handover.answer = false

/-- What a run above says of the calls it made below: the reader took the frames that were not denied, and
two readings of the generation agree when nothing in between changed the card's state. -/
structure Attested {R : Signature} {σ : Type} (t : CardTransport R σ) (taken : Event (Host R) → Option Bytes)
    (weight : Event (Host R) → Nat) (l : Oracle (Host R)) (k : Station (Host R) σ) (h es : Trace Environment) :
    Prop where
  frames : shown taken (t.callsOf l k h es) = shown CardTransport.sent es
  generations : ∀ before between rest first second generation generation',
    es = before ++ first :: (between ++ second :: rest) → CardTransport.reading first = some generation →
    CardTransport.reading second = some generation' →
    CardTransport.changes weight (t.callsOf l k (h ++ before) (first :: between)) < 2^64 →
    (generation = generation' ↔ CardTransport.changes weight (t.callsOf l k (h ++ before) (first :: between)) = 0)

/-- What the result of a command is worth for the frames the reader took. -/
structure Reported (card : Card) (request : Native.Secure.Request) (frames : List Bytes) (r : Except Fault Bytes)
    (es : Trace Environment) : Prop where
  truthful : Truthful card request Passed r es
  notSent : ∀ e, r = .error (.error e) → e.outcome = .notSent → frames = []
  success : ∀ payload, r = .ok payload → frames ≠ []

section Commands
variable {R : Signature} {σ : Type} {t : CardTransport R σ} {taken : Event (Host R) → Option Bytes} {l : Oracle (Host R)}
  {k : Station (Host R) σ} {h : Trace Environment}

/-- A transport that is evident and counts changes attests every program of the engine. -/
theorem attested {τ α : Type} {p : Op τ α} [Determined p] {weight : Event (Host R) → Nat} {generationOf : σ → UInt64}
    (ht : t.Evident taken) (hcounts : t.Counts weight generationOf) (s : τ) :
    Attested t taken weight l k h (p (t.environment l k) h s).events where
  frames := CardTransport.run_sent ht k h s
  generations := by
    intro before between rest first second generation generation' hes hfirst hsecond hbound
    have hserves : t.driver.Serves l (reached (t.driver.observe l) k h) (p (t.environment l k) h s).events :=
      Driver.run_serves k h s
    rw [hes] at hserves
    unfold CardTransport.callsOf at hbound ⊢
    rw [reached_append] at hbound ⊢
    exact CardTransport.readings_agree hcounts hserves hfirst hsecond hbound

theorem sent_eq_nil {es : Trace Environment} (hes : ∀ d ∈ deliveries es, ¬Passed d) : shown CardTransport.sent es = [] := by
  refine List.filterMap_eq_nil_iff.mpr fun event hevent => ?_
  obtain ⟨query,reply⟩ := event
  cases query with
  | exchange frame options =>
    have hd : (⟨frame,options,reply⟩ : Delivery) ∈ deliveries es := List.mem_filterMap.mpr ⟨_,hevent,rfl⟩
    have hwithheld : CardTransport.withheld reply.answer = true := by simpa [Passed] using hes _ hd
    simp [CardTransport.sent,hwithheld]
  | _ => rfl

theorem sent_ne_nil {es : Trace Environment} {d : Delivery} (hd : d ∈ deliveries es) (hpassed : Passed d) :
    shown CardTransport.sent es ≠ [] := by
  obtain ⟨⟨query,reply⟩,hevent,hdelivery⟩ := List.mem_filterMap.mp hd
  cases query with
  | exchange frame options =>
    cases hdelivery
    have hsent : CardTransport.sent ⟨.exchange frame options,reply⟩ = some frame := by
      unfold Passed at hpassed
      simp [CardTransport.sent,hpassed]
    exact List.ne_nil_of_mem (List.mem_filterMap.mpr ⟨_,hevent,hsent⟩)
  | _ => cases hdelivery

theorem replied_passed {framing : Native.Framing} {status : Byte} {ds : List Delivery}
    (h : Native.Raw.Replied framing status ds) : ∃ d ∈ ds, Passed d := by
  obtain ⟨before,d,bytes,final,rfl,hanswer,_⟩ := h
  refine ⟨d,List.mem_append_right _ (List.mem_singleton_self d),?_⟩
  simp [Passed,hanswer,CardTransport.withheld]

/-- A candid transport is honest about what it passed. -/
theorem candid_honest {τ α : Type} {p : Op τ α} [Determined p] (ht : t.Candid l) (s : τ) :
    Honest Passed (deliveries (p (t.environment l k) h s).events) := by
  intro d hd e hanswer
  have hserves : t.driver.Serves l (reached (t.driver.observe l) k h) (p (t.environment l k) h s).events :=
    Driver.run_serves k h s
  obtain ⟨event,hevent,hdelivery⟩ := List.mem_filterMap.mp hd
  have hcandid := hserves.forall (I := fun _ => True) (fun _ _ _ => trivial)
    (fun k e _ hreply => CardTransport.step_candid ht k e hreply) trivial event hevent d hdelivery e hanswer
  rcases hcandid with he | he
  · refine .inl ⟨he,?_⟩
    simp [Passed,hanswer,CardTransport.withheld,he]
  · exact .inr he

/-- A command under its lock tells the truth over every honest transport. -/
theorem admitted_truthful {o : Oracle Environment} {card card' : Card} {command : Native.Checked.Command}
    {r : Except Fault Bytes} {es : Trace Environment}
    (hrun : Managed.AdmittedRun card Managed.busy (Managed.ExecuteRun o command card) r card' es)
    (hbuilt : Native.Checked.Built command) (hhonest : Honest Passed (deliveries es)) :
    Truthful card (Managed.secureRequest command) Passed r es := by
  cases hrun with
  | unlocked => exact ⟨by simp,by simp,by simp⟩
  | reentered => exact Managed.truthful_refused rfl rfl
  | entered hentered =>
    have htruthful := hentered.truthful (Native.Checked.built_paired hbuilt) hhonest
    refine ⟨htruthful.notSent,fun e hr he => ?_,fun payload hr => ?_⟩
    · obtain hrefused | ⟨hes,hsupplied⟩ := htruthful.rejected e hr he
      · exact .inl hrefused
      · exact .inr ⟨hes,hsupplied.after [⟨.admission .card,Admission.entered⟩]⟩
    · obtain ⟨hreplied,hauthentic⟩ := htruthful.success payload hr
      exact ⟨hreplied,fun hreads => (hauthentic hreads).mono rfl fun _ => List.mem_cons_of_mem _⟩

instance execute_determined (command : Native.Checked.Command) (options : ExchangeOptions) :
    Determined (Managed.execute command options) := by
  unfold Managed.execute
  infer_instance

/-- What a command reports over an evident and candid transport is true of the frames its reader took. -/
theorem execute_reported (ht : t.Evident taken) (hcandid : t.Candid l) {command : Native.Checked.Command}
    (hbuilt : Native.Checked.Built command) (options : ExchangeOptions) (card : Card) :
    Reported card (Managed.secureRequest command)
      (shown taken (t.callsOf l k h (Managed.execute command options (t.environment l k) h card).events))
      (Managed.execute command options (t.environment l k) h card).result
      (Managed.execute command options (t.environment l k) h card).events := by
  have hframes := CardTransport.run_sent (l := l) (p := Managed.execute command options) ht k h card
  have hhonest := @candid_honest R σ t l k h Card Bytes (Managed.execute command options) _ hcandid card
  have hrun : Managed.AdmittedRun card Managed.busy (Managed.ExecuteRun (t.environment l k) command card) _ _ _ :=
    Managed.admitted_runs (Managed.executeLocked_runs (t.environment l k) command options card) h
  rw [shown_some] at hrun
  have htruthful := admitted_truthful hrun hbuilt hhonest
  refine ⟨htruthful,fun e hresult houtcome => ?_,fun payload hresult => ?_⟩
  · exact hframes.trans (sent_eq_nil (htruthful.notSent e hresult houtcome))
  · obtain ⟨d,hd,hpassed⟩ := replied_passed (htruthful.success payload hresult).1
    rw [CardTransport.callsOf,hframes]
    exact sent_ne_nil hd hpassed

end Commands
end DesfireSdk.Transports
