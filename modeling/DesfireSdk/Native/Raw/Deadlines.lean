import DesfireSdk.Foundation.Clock
import DesfireSdk.Native.Raw.Frames

/-! The clock of one native operation: its deadline, and the timeouts of its frames. -/
namespace DesfireSdk.Native.Raw
open Interaction Program

section Arithmetic

/-- A signed 64-bit number of nanoseconds. -/
def Word64 (n : Int) : Prop := -2^63 ≤ n ∧ n < 2^63

/-- The deadline of an operation can be counted in nanoseconds. -/
def Fits (start timeout : Int) : Prop :=
  timeout * nanosecondsPerMillisecond < 2^63 ∧ start + timeout * nanosecondsPerMillisecond < 2^63

instance (n : Int) : Decidable (Word64 n) := inferInstanceAs (Decidable (_ ∧ _))

instance (start timeout : Int) : Decidable (Fits start timeout) := inferInstanceAs (Decidable (_ ∧ _))

theorem nanoseconds_eq {n : Int} (h : Word64 n) : nanoseconds n = n := by
  unfold Word64 at h
  unfold nanoseconds
  rw [Int.bmod_def]
  split <;> omega

/-- A deadline is the start plus the timeout exactly when that sum can be counted. -/
theorem deadline_iff {start timeout : Int} (hstart : Word64 start) (htimeout : 0 < timeout) :
    nanoseconds (start + timeout * nanosecondsPerMillisecond) = start + timeout * nanosecondsPerMillisecond ↔
      start + timeout * nanosecondsPerMillisecond < 2^63 := by
  unfold Word64 at hstart
  unfold nanosecondsPerMillisecond
  constructor
  · intro h
    have hbound := Int.bmod_lt (x := start + timeout * 1000000) (m := 2^64) (by decide)
    unfold nanoseconds at h
    rw [h] at hbound
    omega
  · intro h
    exact nanoseconds_eq ⟨by omega,h⟩

theorem deadline_eq {start timeout : Int} (hstart : Word64 start) (htimeout : 0 < timeout)
    (h : Fits start timeout) : nanoseconds (start + timeout * nanosecondsPerMillisecond) =
      start + timeout * nanosecondsPerMillisecond :=
  (deadline_iff hstart htimeout).mpr h.2

/-- What remains of a timeout is rounded up to whole milliseconds. -/
theorem remaining_eq {start timeout reading : Int} (h : Fits start timeout)
    (hreading : start ≤ reading) (hbefore : reading < start + timeout * nanosecondsPerMillisecond) :
    ceilMilliseconds (nanoseconds (start + timeout * nanosecondsPerMillisecond - reading)) =
      timeout - (reading - start) / 1000000 := by
  have hword : Word64 (start + timeout * nanosecondsPerMillisecond - reading) := by
    unfold Word64
    unfold Fits at h
    omega
  rw [nanoseconds_eq hword]
  unfold ceilMilliseconds nanosecondsPerMillisecond
  omega

end Arithmetic

/-- The clock under one deadline: every frame follows a reading of its own before the deadline, and is
given what remains then. -/
inductive Governed (deadline : Int) : List Tick → Prop
  | done : Governed deadline []
  | read (reading : Int) {ts : List Tick} (hts : Governed deadline ts) :
      Governed deadline (.read reading :: ts)
  | frame (reading : Int) (hbefore : reading < deadline) {ts : List Tick} (hts : Governed deadline ts) :
      Governed deadline (.read reading ::
        .frame (ceilMilliseconds (nanoseconds (deadline - reading))) :: ts)

/-- The clock of one operation with a timeout. -/
inductive Operation (timeout : Int) : List Tick → Prop
  | idle : Operation timeout []
  | begun (start : Int) {ts : List Tick}
      (hts : Governed (nanoseconds (start + timeout * nanosecondsPerMillisecond)) ts) :
      Operation timeout (.read start :: ts)

section Runs
variable {o : Oracle Environment} {deadline : Int}

theorem Governed.append {ts ts' : List Tick} (h : Governed deadline ts) (h' : Governed deadline ts') :
    Governed deadline (ts ++ ts') := by
  induction h with
  | done => exact h'
  | read reading _ ih => exact .read reading ih
  | frame reading hbefore _ ih => exact .frame reading hbefore ih

section Pacing
variable {start timeout : Int} {ts : List Tick}

theorem Governed.fresh (h : Governed deadline ts) : Fresh ts := by
  cases h with
  | done => exact fresh_nil
  | read reading _ => exact fresh_read reading _
  | frame reading _ _ => exact fresh_read reading _

theorem Governed.own (h : Governed deadline ts) : timeouts ts = (handed ts).map Prod.snd := by
  induction h with
  | done => rfl
  | read reading hts ih =>
    rw [handed_read reading hts.fresh]
    exact ih
  | frame reading _ _ ih =>
    rw [timeouts_read,timeouts_frame,handed,List.map_cons,ih]

theorem Governed.before (h : Governed deadline ts) : ∀ p ∈ handed ts,
    p.1 < deadline ∧ p.2 = ceilMilliseconds (nanoseconds (deadline - p.1)) := by
  induction h with
  | done => exact fun p hp => absurd hp List.not_mem_nil
  | read reading hts ih =>
    rw [handed_read reading hts.fresh]
    exact ih
  | frame reading hbefore _ ih =>
    intro p hp
    rw [handed] at hp
    rcases List.mem_cons.mp hp with rfl | hp
    · exact ⟨hbefore,rfl⟩
    · exact ih p hp

/-- Under a deadline that can be counted, every frame gets what is left of the timeout, rounded up. -/
theorem Governed.granted (hfits : Fits start timeout)
    (h : Governed (start + timeout * nanosecondsPerMillisecond) ts) (hrising : Rising (.read start :: ts)) :
    ∀ p ∈ handed ts, start ≤ p.1 ∧ p.1 < start + timeout * nanosecondsPerMillisecond ∧
      p.2 = timeout - (p.1 - start) / 1000000 := by
  intro p hp
  obtain ⟨hbefore,hgiven⟩ := h.before p hp
  have hstart : start ≤ p.1 := hrising.first p.1 (mem_instants_of_handed hp)
  rw [remaining_eq hfits hstart hbefore] at hgiven
  exact ⟨hstart,hbefore,hgiven⟩

/-- What is granted from a start only shrinks as the clock goes on. -/
theorem falling_of_granted (hrising : Rising ts)
    (hgranted : ∀ p ∈ handed ts, p.2 = timeout - (p.1 - start) / 1000000) :
    (handed ts).Pairwise fun p q => p.2 ≥ q.2 := by
  refine hrising.handed.imp_of_mem ?_
  intro p q hp hq hle
  have hp' := hgranted p hp
  have hq' := hgranted q hq
  omega

theorem paced_of_granted (hrising : Rising ts) (hown : timeouts ts = (handed ts).map Prod.snd)
    (hgranted : ∀ p ∈ handed ts, start ≤ p.1 ∧ p.1 < start + timeout * nanosecondsPerMillisecond ∧
      p.2 = timeout - (p.1 - start) / 1000000) : Paced timeout ts := by
  refine ⟨hown,?_,?_⟩
  · intro given hgiven
    rw [hown] at hgiven
    obtain ⟨p,hp,rfl⟩ := List.mem_map.mp hgiven
    obtain ⟨hstart,hbefore,hsnd⟩ := hgranted p hp
    unfold nanosecondsPerMillisecond at hbefore
    omega
  · rw [hown]
    exact List.pairwise_map.mpr (falling_of_granted hrising fun p hp => (hgranted p hp).2.2)

/-- A clock that never runs backwards, with a deadline that can be counted. -/
structure Countable (timeout : Int) (ts : List Tick) : Prop where
  rising : Rising ts
  word : ∀ reading ∈ instants ts, Word64 reading
  fits : ∀ start ∈ (instants ts).head?, Fits start timeout

/-- The clock of one operation whose frames are paced, and none of them late. -/
structure Punctual (timeout : Int) (ts : List Tick) : Prop where
  paced : Paced timeout ts
  before : ∀ start ∈ (instants ts).head?, ∀ p ∈ handed ts, p.1 < start + timeout * nanosecondsPerMillisecond

theorem Operation.punctual (h : Operation timeout ts) (htimeout : 0 < timeout) (hclock : Countable timeout ts) :
    Punctual timeout ts := by
  cases h with
  | idle =>
    refine ⟨⟨rfl,by rintro _ ⟨⟩,.nil⟩,?_⟩
    rintro _ ⟨⟩
  | begun start hts =>
    have hstart : Fits start timeout := hclock.fits start rfl
    rw [deadline_eq (hclock.word start List.mem_cons_self) htimeout hstart] at hts
    have hgranted := hts.granted hstart hclock.rising
    rw [← handed_read start hts.fresh] at hgranted
    have hown := hts.own
    rw [← handed_read start hts.fresh,← timeouts_read start] at hown
    refine ⟨paced_of_granted hclock.rising hown hgranted,?_⟩
    rintro _ ⟨⟩ p hp
    exact (hgranted p hp).2.1

end Pacing

/-- The operation reports that its time is over. -/
def TimedOut {α : Type} (r : Except Fault α) : Prop := ∃ e : Error, r = .error (.error e) ∧ e.code = .timeout

theorem not_timedOut {α : Type} {e : Error} (hcode : e.code ≠ .timeout) :
    ¬TimedOut (.error (.error e) : Except Fault α) := by
  rintro ⟨_,⟨⟩,h⟩
  exact hcode h

theorem not_timedOut_ok {α : Type} (a : α) : ¬TimedOut (.ok a : Except Fault α) := by
  rintro ⟨_,⟨⟩,_⟩

theorem TimedOut.passed {α β : Type} {f : Fault} (h : TimedOut (.error f : Except Fault α)) :
    TimedOut (.error f : Except Fault β) := by
  obtain ⟨e,⟨⟩,hcode⟩ := h
  exact ⟨e,rfl,hcode⟩

/-- Neither the crypto provider nor a key service reports a timeout of its own. -/
structure Unhurried (o : Oracle Environment) : Prop where
  random : ∀ h size, ¬TimedOut (o h (.random size))
  cbc : ∀ h key iv input encrypt, ¬TimedOut (o h (.cbc key iv input encrypt))
  cmac : ∀ h key input, ¬TimedOut (o h (.cmac key input))
  derive : ∀ h masterKey context, ¬TimedOut (o h (.derive masterKey context))
  resolve : ∀ h request, ¬TimedOut (o h (.resolve request))

/-- The clock ends at or after the deadline, or with a frame that is still out. -/
inductive Late (deadline : Int) : List Tick → Prop
  | frame (ts : List Tick) (timeout : Int) : Late deadline (ts ++ [.frame timeout])
  | read (ts : List Tick) (reading : Int) (h : deadline ≤ reading) : Late deadline (ts ++ [.read reading])

theorem Late.after (ts : List Tick) {ts' : List Tick} (h : Late deadline ts') : Late deadline (ts ++ ts') := by
  cases h with
  | frame ts' timeout =>
    rw [← List.append_assoc]
    exact .frame _ timeout
  | read ts' reading hlate =>
    rw [← List.append_assoc]
    exact .read _ reading hlate

theorem Late.mono {deadline' : Int} {ts : List Tick} (h : Late deadline ts) (hle : deadline' ≤ deadline) :
    Late deadline' ts := by
  cases h with
  | frame ts timeout => exact .frame ts timeout
  | read ts reading hlate => exact .read ts reading (by omega)

/-- The clock of one operation ends after its deadline. -/
def Overdue (timeout : Int) (ts : List Tick) : Prop :=
  ∃ start ts', ts = .read start :: ts' ∧ Late (nanoseconds (start + timeout * nanosecondsPerMillisecond)) ts'

/-- The clock of one operation, which ends after its deadline or with a frame that is still out when the operation
reports a timeout, and with a frame when it succeeds. -/
structure Timed {α : Type} (fair : Prop) (timeout : Int) (r : Except Fault α) (ts : List Tick) : Prop where
  operation : Operation timeout ts
  overdue : fair → TimedOut r → Overdue timeout ts
  framed : ∀ a, r = .ok a → Overdue timeout ts

/-- The clock was not looked at, and its time is not what ended the operation. -/
structure Untimed {α : Type} (fair : Prop) (r : Except Fault α) (ts : List Tick) : Prop where
  still : ts = []
  code : fair → ¬TimedOut r

section Results
variable {α β : Type} {timeout : Int} {ts : List Tick} {r : Except Fault α} {f : Fault} {e : Error}
  {fair : Prop}

theorem Untimed.refused (hcode : e.code ≠ .timeout) : Untimed fair (.error (.error e) : Except Fault α) [] :=
  ⟨rfl,fun _ => not_timedOut hcode⟩

theorem Untimed.ok (a : α) : Untimed fair (.ok a : Except Fault α) [] := ⟨rfl,fun _ => not_timedOut_ok a⟩

theorem Untimed.timed (h : Untimed fair (.error f : Except Fault α) ts) : Timed fair timeout (.error f : Except Fault β) ts := by
  obtain ⟨rfl,hcode⟩ := h
  exact ⟨.idle,fun ho htimeout => absurd htimeout.passed (hcode ho),by rintro _ ⟨⟩⟩

theorem Untimed.passed (h : Untimed fair (.error f : Except Fault α) ts) : Untimed fair (.error f : Except Fault β) ts :=
  ⟨h.still,fun ho htimeout => h.code ho htimeout.passed⟩

theorem Untimed.afterError {τ : Type} {cleanup : Error → τ → τ} {s : τ} (h : Untimed fair r ts) :
    Untimed fair (Op.afterError cleanup r s).1 ts := by
  rcases r with (_ | _) | _ <;> exact h

theorem Untimed.changeError {τ : Type} {change : Error → Error} {s : τ} (h : Untimed fair r ts)
    (hchange : ∀ e : Error, e.code ≠ .timeout → (change e).code ≠ .timeout) :
    Untimed fair (Op.changeError change r s).1 ts := by
  rcases r with (e | _) | _
  · exact ⟨h.still,fun ho => not_timedOut (hchange e fun hcode => h.code ho ⟨e,rfl,hcode⟩)⟩
  · exact h
  · exact h

theorem Untimed.afterThrow {τ : Type} {cleanup : τ → τ} {s : τ} (h : Untimed fair r ts) (hcode : e.code ≠ .timeout) :
    Untimed fair (Op.afterThrow cleanup e r s).1 ts := by
  rcases r with (_ | _) | _
  · exact h
  · exact ⟨h.still,fun _ => not_timedOut hcode⟩
  · exact h

theorem Untimed.sized {r : Except Fault Bytes} {message : String} {expected : Nat} (h : Untimed fair r ts) :
    Untimed fair (Op.sized message expected r) ts := by
  rcases r with _ | output
  · exact h
  simp only [Op.sized]
  split
  · exact h
  · exact ⟨h.still,fun _ => not_timedOut (by simp)⟩

theorem Timed.refused (hcode : e.code ≠ .timeout) : Timed fair timeout (.error (.error e) : Except Fault α) [] :=
  (Untimed.refused (α := α) hcode).timed

theorem Timed.thrown : Timed fair timeout (.error .thrown : Except Fault α) [] := by
  refine ⟨.idle,fun _ => ?_,?_⟩
  · rintro ⟨_,⟨⟩,_⟩
  · rintro _ ⟨⟩

theorem Timed.afterError {τ : Type} {cleanup : Error → τ → τ} {s : τ} (h : Timed fair timeout r ts) :
    Timed fair timeout (Op.afterError cleanup r s).1 ts := by
  rcases r with (_ | _) | _ <;> exact h

theorem Timed.afterThrow {τ : Type} {cleanup : τ → τ} {s : τ} (h : Timed fair timeout r ts) (hcode : e.code ≠ .timeout) :
    Timed fair timeout (Op.afterThrow cleanup e r s).1 ts := by
  rcases r with (_ | _) | _
  · exact h
  · exact ⟨h.operation,fun _ htimeout => absurd htimeout (not_timedOut hcode),by rintro _ ⟨⟩⟩
  · exact h

theorem Timed.passed (h : Timed fair timeout (.error f : Except Fault α) ts) :
    Timed fair timeout (.error f : Except Fault β) ts :=
  ⟨h.operation,fun ho htimeout => h.overdue ho htimeout.passed,by rintro _ ⟨⟩⟩

/-- After a success the clock ends with a frame, whatever comes of it. -/
theorem Timed.answered {a : α} {r : Except Fault β} (h : Timed fair timeout (.ok a : Except Fault α) ts) :
    Timed fair timeout r ts :=
  ⟨h.operation,fun _ _ => h.framed a rfl,fun _ _ => h.framed a rfl⟩

theorem Timed.map {g : α → β} (h : Timed fair timeout r ts) : Timed fair timeout (r.map g) ts := by
  rcases r with _ | a
  · exact h.passed
  · exact h.answered

end Results

section Providers
variable {τ β : Type} {s : τ} {message : String} {expected : Nat}

theorem cbc_untimed (key iv input : Bytes) (encrypt : Bool) :
    Ensures tickOf o (Op.secretOutput message (Op.cbc key iv input encrypt) expected) s fun r s' ts =>
      s' = s ∧ Untimed (Unhurried o) r ts :=
  Op.ensures_secretOutput (Op.ensures_cbc fun h => ⟨rfl,Untimed.sized ⟨rfl,fun ho => ho.cbc h key iv input encrypt⟩⟩)

theorem cmac_untimed (key input : Bytes) :
    Ensures tickOf o (Op.secretOutput message (Op.cmac key input) expected) s fun r s' ts =>
      s' = s ∧ Untimed (Unhurried o) r ts :=
  Op.ensures_secretOutput (Op.ensures_cmac fun h => ⟨rfl,Untimed.sized ⟨rfl,fun ho => ho.cmac h key input⟩⟩)

theorem random_untimed (size : Nat) :
    Ensures tickOf o (Op.secretOutput message (Op.random size) expected) s fun r s' ts => s' = s ∧ Untimed (Unhurried o) r ts := by
  refine Op.ensures_secretOutput (ensures_ask_bind fun h => ensures_ofExcept ?_)
  exact ⟨rfl,Untimed.sized ⟨rfl,fun ho => ho.random h size⟩⟩

/-- A step that the clock does not see, and what follows it. -/
theorem ensures_untimed_bind {α : Type} {fair : Prop} {p : Op τ α} {f : α → Op τ β} {post : Except Fault β → τ → List Tick → Prop}
    (hp : Ensures tickOf o p s fun r _ ts => Untimed fair r ts)
    (herror : ∀ f s', Untimed fair (.error f : Except Fault β) [] → post (.error f) s' [])
    (hf : ∀ a s', Ensures tickOf o (f a) s' post) : Ensures tickOf o (p >>= f) s post := by
  refine ensures_bind hp ?_ ?_
  · intro f s' ts h
    obtain rfl := h.still
    exact herror f s' h.passed
  · intro a s' ts h
    obtain rfl := h.still
    exact hf a s'

theorem untimed_catchAll {α : Type} {fair : Prop} {cleanup : τ → τ} {e : Error} (hcode : e.code ≠ .timeout) {p : Op τ α}
    (hp : Ensures tickOf o p s fun r _ ts => Untimed fair r ts) :
    Ensures tickOf o (Op.catchAll cleanup e p) s fun r _ ts => Untimed fair r ts :=
  Op.ensures_catchAll (hp.mono fun _ _ _ h => h.afterThrow hcode)

theorem untimed_onError {α : Type} {fair : Prop} {cleanup : Error → τ → τ} {p : Op τ α}
    (hp : Ensures tickOf o p s fun r _ ts => Untimed fair r ts) :
    Ensures tickOf o (Op.onError cleanup p) s fun r _ ts => Untimed fair r ts :=
  Op.ensures_onError (hp.mono fun _ _ _ h => h.afterError)

end Providers

namespace Transaction
variable {fair : Prop}

/-- What one reading decides: the deadline has passed exactly at or after it, and what is granted before it
is what remains. -/
structure Decided (deadline reading : Int) (r : Except Fault ExchangeOptions) : Prop where
  expired : TimedOut r ↔ deadline ≤ reading
  granted : ∀ options, r = .ok options →
    reading < deadline ∧ options.timeout = ceilMilliseconds (nanoseconds (deadline - reading))

theorem remainingOptions_ticks (o : Oracle Environment) (t : Transaction) :
    Ensures tickOf o remainingOptions t fun r t' ts =>
      t' = t ∧ ∃ reading, ts = [.read reading] ∧ Decided t.deadline reading r := by
  refine ensures_get_bind (Op.ensures_now_bind fun reading => ?_)
  refine Op.ensures_refuse_bind (fun hpassed => ?_) fun hbefore => ?_
  · exact ⟨rfl,reading,rfl,iff_of_true ⟨_,rfl,rfl⟩ hpassed,by rintro _ ⟨⟩⟩
  have hrefused (e : Error) (hcode : e.code ≠ .timeout) :
      Decided t.deadline reading (.error (.error e) : Except Fault ExchangeOptions) :=
    ⟨iff_of_false (not_timedOut hcode) hbefore,by rintro _ ⟨⟩⟩
  refine Op.ensures_generation_bind fun _ => ?_
  refine Op.ensures_refuse_bind (fun _ => ⟨rfl,reading,rfl,hrefused _ (by simp)⟩) fun _ => ?_
  refine Op.ensures_stopRequested_bind fun _ => ?_
  refine Op.ensures_refuse_bind (fun _ => ⟨rfl,reading,rfl,hrefused _ (by simp)⟩) fun _ => ?_
  refine ensures_pure ⟨rfl,reading,rfl,iff_of_false (not_timedOut_ok _) hbefore,?_⟩
  rintro _ ⟨⟩
  exact ⟨by omega,rfl⟩

/-- The clock of an exchange under a deadline, which a timeout error never comes before; an answer ends it with
its frame. -/
structure Clocked {α : Type} (fair : Prop) (deadline : Int) (r : Except Fault α) (ts : List Tick) : Prop where
  governed : Governed deadline ts
  late : fair → TimedOut r → Late deadline ts
  framed : ∀ a, r = .ok a → ∃ ts₀ given, ts = ts₀ ++ [.frame given]

theorem Clocked.passed {α β : Type} {f : Fault} {ts : List Tick} (h : Clocked fair deadline (.error f : Except Fault α) ts) :
    Clocked fair deadline (.error f : Except Fault β) ts :=
  ⟨h.governed,fun hfair htimeout => h.late hfair htimeout.passed,by rintro _ ⟨⟩⟩

theorem Clocked.refused {α : Type} {e : Error} (hcode : e.code ≠ .timeout) :
    Clocked fair deadline (.error (.error e) : Except Fault α) [] :=
  ⟨.done,fun _ htimeout => absurd htimeout (not_timedOut hcode),by rintro _ ⟨⟩⟩

theorem Clocked.changeError {α τ : Type} {r : Except Fault α} {ts : List Tick} {change : Error → Error} {s : τ}
    (h : Clocked fair deadline r ts) (hchange : ∀ e : Error, (change e).code = e.code) :
    Clocked fair deadline (Op.changeError change r s).1 ts := by
  rcases r with (e | _) | _
  · refine ⟨h.governed,fun hfair htimeout => h.late hfair ?_,by rintro _ ⟨⟩⟩
    obtain ⟨_,⟨⟩,hcode⟩ := htimeout
    exact ⟨e,rfl,(hchange e).symm.trans hcode⟩
  · exact h
  · exact h

/-- After an answer the clock ends with a frame, whatever comes of it. -/
theorem Clocked.answered {α β : Type} {a : α} {r : Except Fault β} {ts : List Tick}
    (h : Clocked fair deadline (.ok a : Except Fault α) ts) : Clocked fair deadline r ts := by
  obtain ⟨ts₀,given,rfl⟩ := h.framed a rfl
  exact ⟨h.governed,fun _ _ => .frame ts₀ given,fun _ _ => ⟨ts₀,given,rfl⟩⟩

theorem Clocked.append {α β : Type} {a : α} {r : Except Fault β} {ts ts' : List Tick}
    (h : Clocked fair deadline (.ok a : Except Fault α) ts) (h' : Clocked fair deadline r ts') : Clocked fair deadline r (ts ++ ts') := by
  refine ⟨h.governed.append h'.governed,fun hfair htimeout => (h'.late hfair htimeout).after _,fun b hb => ?_⟩
  obtain ⟨ts₀,given,rfl⟩ := h'.framed b hb
  exact ⟨ts ++ ts₀,given,(List.append_assoc ..).symm⟩

/-- One frame is handed over before the deadline, with what remains, or not at all. -/
theorem exchangeFrame_ticks (fair : Prop) (o : Oracle Environment) (command : Byte) (data : Bytes) (t : Transaction) :
    Ensures tickOf o (exchangeFrame command data) t fun r t' ts =>
      t'.deadline = t.deadline ∧ Clocked fair t.deadline r ts := by
  refine ensures_bind (remainingOptions_ticks o t) ?_ ?_
  · rintro f t _ ⟨rfl,reading,rfl,hdecided⟩
    refine ⟨rfl,.read reading .done,fun _ htimeout => ?_,by rintro _ ⟨⟩⟩
    exact .read [] reading (hdecided.expired.mp htimeout.passed)
  rintro controls t _ ⟨rfl,reading,rfl,hdecided⟩
  obtain ⟨hbefore,htimeout⟩ := hdecided.granted controls rfl
  have hunsent (f : Fault) (hf : ¬TimedOut (.error f : Except Fault Response)) :
      t.deadline = t.deadline ∧ Clocked fair t.deadline (.error f : Except Fault Response) ([.read reading] ++ []) :=
    ⟨rfl,.read reading .done,fun _ h => absurd h hf,by rintro _ ⟨⟩⟩
  have hcapacity (message : String) :
      (normalizeDelivery (invalid message) t.sentAnyFrame).code ≠ .timeout := by
    simp [invalid]
  refine ensures_get_bind (Op.ensures_capabilities_bind (hunsent _ (by rintro ⟨_,⟨⟩,_⟩)) fun _ limits _ => ?_)
  refine Op.ensures_refuse_bind (fun _ => hunsent _ (not_timedOut (hcapacity _))) fun _ => ?_
  refine ensures_bind (m := fun r t' ts => t' = t ∧ ts = [] ∧ ∀ f, r = .error f → ¬TimedOut r) ?_ ?_ ?_
  · refine Op.ensures_mapError (Op.ensures_ofResult ?_)
    cases hencode : encode command data t.framing with
    | error e =>
      refine ⟨rfl,rfl,fun _ _ => not_timedOut ?_⟩
      rw [normalizeDelivery_code,(encode_error hencode).2]
      simp
    | ok frame => exact ⟨rfl,rfl,by rintro _ ⟨⟩⟩
  · rintro f t _ ⟨rfl,rfl,hcode⟩
    exact hunsent f fun htimeout => hcode f rfl htimeout.passed
  rintro frame t _ ⟨rfl,rfl,_⟩
  refine Op.ensures_refuse_bind (fun _ => hunsent _ (not_timedOut (hcapacity _))) fun _ => ?_
  have hsent (r : Except Fault Response) : t.deadline = t.deadline ∧
      Clocked fair t.deadline r [.read reading,.frame controls.timeout] := by
    refine ⟨rfl,?_,fun _ _ => .frame [.read reading] controls.timeout,fun _ _ => ⟨[.read reading],_,rfl⟩⟩
    rw [htimeout]
    exact .frame reading hbefore .done
  refine ensures_bind (m := fun _ t' ts => t' = t ∧ ts = [.frame controls.timeout]) ?_ ?_ ?_
  · refine Op.ensures_mapError (Op.ensures_catchAll (Op.ensures_transportExchange fun reply => ?_))
    rcases reply.answer with (_ | _) | _ <;> exact ⟨rfl,rfl⟩
  · rintro _ t _ ⟨rfl,rfl⟩
    exact hsent _
  rintro reply t _ ⟨rfl,rfl⟩
  refine ensures_modify_bind (Op.ensures_generation_bind fun _ => ?_)
  refine Op.ensures_refuse_bind (fun _ => hsent _) fun _ => ?_
  refine Op.ensures_refuse_bind (fun _ => hsent _) fun _ => ?_
  exact Op.ensures_ofResult (hsent _)

theorem exchangeLoop_ticks (fair : Prop) (o : Oracle Environment) (request : Request) (perFrame frames : Nat) (first : Bool)
    (chain : Chain) (t : Transaction) :
    Ensures tickOf o (exchangeLoop request perFrame frames first chain) t fun r t' ts =>
      t'.deadline = t.deadline ∧ Clocked fair t.deadline r ts := by
  induction frames generalizing first chain t with
  | zero =>
    exact Op.ensures_reject ⟨rfl,.done,fun _ h => absurd h (not_timedOut (by simp)),by rintro _ ⟨⟩⟩
  | succ frames ih =>
    refine ensures_bind (exchangeFrame_ticks fair o chain.command _ t) ?_ ?_
    · rintro f t' ts ⟨hdeadline,hclocked⟩
      exact ⟨hdeadline,hclocked.passed⟩
    rintro response t' ts ⟨hdeadline,hclocked⟩
    have hstopped (r : Except Fault Response) : t'.deadline = t.deadline ∧ Clocked fair t.deadline r (ts ++ []) := by
      rw [List.append_nil]
      exact ⟨hdeadline,hclocked.answered⟩
    refine Op.ensures_refuse_bind (fun _ => hstopped _) fun _ => ?_
    refine Op.ensures_refuse_bind (fun _ => hstopped _) fun _ => ?_
    refine ensures_ite (fun _ => ?_) fun _ => ?_
    · exact Op.ensures_refuse_bind (fun _ => hstopped _) fun _ => ensures_pure (hstopped _)
    · refine (ih false _ t').mono fun _ t'' ts' hrest => ?_
      rw [hdeadline] at hrest
      exact ⟨hrest.1,hclocked.append hrest.2⟩

theorem exchange_ticks (fair : Prop) (o : Oracle Environment) (request : Request) (t : Transaction) :
    Ensures tickOf o (exchange request) t fun r _ ts => Clocked fair t.deadline r ts := by
  apply ensures_get_bind
  have hrefused (message : String) : Clocked fair t.deadline (.error (.error
      (normalizeDelivery (invalid message) t.sentAnyFrame)) : Except Fault Response) [] :=
    ⟨.done,fun _ h => absurd h (not_timedOut (by simp [invalid])),by rintro _ ⟨⟩⟩
  refine Op.ensures_refuse_bind (fun _ => hrefused _) fun _ => ?_
  refine Op.ensures_capabilities_bind ⟨.done,fun _ => by rintro ⟨_,⟨⟩,_⟩,by rintro _ ⟨⟩⟩ fun _ limits _ => ?_
  refine Op.ensures_refuse_bind (fun _ => hrefused _) fun _ => ?_
  refine Op.ensures_refuse_bind (fun _ => hrefused _) fun _ => ?_
  refine Op.ensures_refuse_bind (fun _ => hrefused _) fun _ => ?_
  refine Op.ensures_refuse_bind (fun _ => hrefused _) fun _ => ?_
  exact (exchangeLoop_ticks fair o request _ _ true _ t).mono fun _ _ _ h => h.2

end Transaction

namespace RawNativeChannel
variable {τ : Type} {fair : Prop}

/-- What an exchange under the deadline of its operation makes of the clock. -/
theorem timed_of_clocked {α : Type} {start timeout : Int} {r : Except Fault α} {ts : List Tick}
    (h : Transaction.Clocked fair (nanoseconds (start + timeout * nanosecondsPerMillisecond)) r ts) :
    Timed fair timeout r (.read start :: ts) := by
  refine ⟨.begun start h.governed,fun hfair htimeout => ⟨start,ts,rfl,h.late hfair htimeout⟩,fun a ha => ?_⟩
  obtain ⟨ts₀,given,rfl⟩ := h.framed a ha
  exact ⟨start,_,rfl,.frame ts₀ given⟩

theorem begin_ticks (fair : Prop) (o : Oracle Environment) (channel : RawNativeChannel) (options : ExchangeOptions) (s : τ) :
    Ensures tickOf o (channel.begin options) s fun r s' ts =>
      s' = s ∧ (Untimed fair r ts ∧ (∃ f, r = .error f) ∨
      ∃ start t, r = .ok t ∧ ts = [.read start] ∧ 0 < options.timeout ∧
        t.deadline = nanoseconds (start + options.timeout * nanosecondsPerMillisecond)) := by
  have hrefused (e : Error) (hcode : e.code ≠ .timeout) :
      s = s ∧ (Untimed fair (.error (.error e) : Except Fault Transaction) [] ∧
          (∃ f, (.error (.error e) : Except Fault Transaction) = .error f) ∨
      ∃ start t, (.error (.error e) : Except Fault Transaction) = .ok t ∧ [] = [Tick.read start] ∧
        0 < options.timeout ∧
        t.deadline = nanoseconds (start + options.timeout * nanosecondsPerMillisecond)) :=
    ⟨rfl,.inl ⟨.refused hcode,_,rfl⟩⟩
  refine Op.ensures_refuse_bind (fun _ => hrefused _ (by simp [invalid])) fun hpositive => ?_
  refine Op.ensures_stopRequested_bind fun _ => ?_
  refine Op.ensures_refuse_bind (fun _ => hrefused _ (by simp)) fun _ => ?_
  refine Op.ensures_admission_bind fun _ => ?_
  refine Op.ensures_refuse_bind (fun _ => hrefused _ (by simp)) fun _ => ?_
  refine Op.ensures_refuse_bind (fun _ => hrefused _ (by simp)) fun _ => ?_
  refine Op.ensures_now_bind fun start => Op.ensures_generation_bind fun _ => ?_
  exact ensures_pure ⟨rfl,.inr ⟨start,_,rfl,rfl,by omega,rfl⟩⟩

/-- An operation begins, and goes on under the deadline of its start. -/
theorem ensures_begin_bind {o : Oracle Environment} {channel : RawNativeChannel} {options : ExchangeOptions} {s : τ}
    {β : Type} {f : Transaction → Op τ β} {post : Except Fault β → τ → List Tick → Prop}
    (hrefused : ∀ f ts, Untimed fair (.error f : Except Fault β) ts → post (.error f) s ts)
    (hbegun : ∀ start t, t.deadline = nanoseconds (start + options.timeout * nanosecondsPerMillisecond) →
      Ensures tickOf o (f t) s fun r s' ts => post r s' (.read start :: ts)) :
    Ensures tickOf o (channel.begin options >>= f) s post := by
  refine ensures_bind (begin_ticks fair o channel options s) ?_ ?_
  · rintro f _ ts ⟨rfl,⟨huntimed,_⟩ | ⟨_,_,⟨⟩,_⟩⟩
    exact hrefused f ts huntimed.passed
  rintro t _ _ ⟨rfl,⟨_,_,⟨⟩⟩ | ⟨start,_,⟨⟩,rfl,_,hdeadline⟩⟩
  exact hbegun start t hdeadline

/-- The clock of an exchange is that of one operation. -/
theorem exchange_ticks (fair : Prop) (o : Oracle Environment) (channel : RawNativeChannel) (request : Request)
    (options : ExchangeOptions) (s : τ) :
    Ensures tickOf o (channel.exchange request options) s fun r _ ts => Timed fair options.timeout r ts := by
  refine ensures_begin_bind (fun _ _ h => h.timed) fun start t hdeadline => ?_
  refine ensures_within ((Transaction.exchange_ticks fair o request t).mono fun r _ ts hts => ?_)
  rw [hdeadline] at hts
  exact timed_of_clocked hts

end RawNativeChannel
end Runs
end DesfireSdk.Native.Raw
