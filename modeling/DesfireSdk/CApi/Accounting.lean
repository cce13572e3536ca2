import DesfireSdk.CApi.Registry

/-! The frames of all threads account for the operation locks and the activity markers. -/
namespace DesfireSdk.CApi
open Interaction
open Function (update update_self update_of_ne)

/-- The entry whose operation lock the call holds. -/
def Frame.held : Frame → Option EntryId
  | .locked _ _ entry | .tested entry | .marking entry | .running entry | .clearing entry
  | .finishing entry | .closing _ entry | .sealing _ entry | .erasing _ entry | .leaving _ entry
  | .unlocking entry => some entry
  | _ => none

/-- The entry on which the call has an operation in progress. -/
def Frame.operated : Frame → Option EntryId
  | .running entry | .clearing entry => some entry
  | _ => none

/-- The entry that the call found inactive. -/
def Frame.idle : Frame → Option EntryId
  | .tested entry | .marking entry | .finishing entry | .closing _ entry | .sealing _ entry
  | .erasing _ entry | .leaving _ entry => some entry
  | _ => none

def Frame.holds (entry : EntryId) (frame : Frame) : Bool := frame.held = some entry

def Frame.operates (entry : EntryId) (frame : Frame) : Bool := frame.operated = some entry

theorem Frame.held_of_operated {frame : Frame} {entry : EntryId} (h : frame.operated = some entry) :
    frame.held = some entry := by
  cases frame <;> first | exact h | cases h

theorem Frame.held_of_idle {frame : Frame} {entry : EntryId} (h : frame.idle = some entry) :
    frame.held = some entry := by
  cases frame <;> first | exact h | cases h

/-- Where callbacks run a lock is held only for an operation. -/
theorem Frame.operated_of_callsOut {frame : Frame} (h : frame.callsOut = true) : frame.held = frame.operated := by
  cases frame <;> first | rfl | cases h

theorem Frame.callsOut_of_idle {frame : Frame} {entry : EntryId} (h : frame.idle = some entry) :
    frame.callsOut = false := by
  cases frame <;> first | rfl | cases h

section Accounts
variable {T : Type} [DecidableEq T] {s s' : State T} {t : T}

/-- What a step does to the frames of its thread, the operation locks and the activity markers. -/
inductive Shift (t : T) (s : State T) (s' : State T) : Prop
  | pushed (frame : Frame) (hthreads : s'.threads = update s.threads t (frame :: s.threads t))
      (hnested : ∀ f ∈ (s.threads t).head?, f.callsOut = true)
      (hheld : frame.held = none)
      (hentries : ∀ e, (s'.entries e).operation = (s.entries e).operation ∧
        (s'.entries e).active = (s.entries e).active)
  | replaced (frame frame' : Frame) (rest : List Frame) (hframes : s.threads t = frame :: rest)
      (hthreads : s'.threads = update s.threads t (frame' :: rest)) (hheld : frame'.held = frame.held)
      (hoperated : frame'.operated = frame.operated)
      (hidle : ∀ e, frame'.idle = some e → frame.idle = some e ∨ (s.entries e).active = false)
      (hentries : ∀ e, (s'.entries e).operation = (s.entries e).operation ∧
        (s'.entries e).active = (s.entries e).active)
  | popped (frame : Frame) (rest : List Frame) (hframes : s.threads t = frame :: rest)
      (hthreads : s'.threads = update s.threads t rest) (hheld : frame.held = none)
      (hentries : ∀ e, (s'.entries e).operation = (s.entries e).operation ∧
        (s'.entries e).active = (s.entries e).active)
  | acquired (frame frame' : Frame) (rest : List Frame) (entry : EntryId) (operation : RecursiveMutex T)
      (hframes : s.threads t = frame :: rest) (hthreads : s'.threads = update s.threads t (frame' :: rest))
      (hheld : frame.held = none) (hheld' : frame'.held = some entry) (hoperated' : frame'.operated = none)
      (hidle' : frame'.idle = none) (hlock : (s.entries entry).operation.tryLock t = some operation)
      (hentries : s'.entries = update s.entries entry {s.entries entry with operation})
  | released (frame : Frame) (rest : List Frame) (entry : EntryId) (hframes : s.threads t = frame :: rest)
      (hthreads : s'.threads = update s.threads t rest) (hheld : frame.held = some entry)
      (hoperated : frame.operated = none)
      (hentries : s'.entries = update s.entries entry
        {s.entries entry with operation := (s.entries entry).operation.unlock})
  | marked (rest : List Frame) (entry : EntryId) (hframes : s.threads t = .marking entry :: rest)
      (hthreads : s'.threads = update s.threads t (.running entry :: rest))
      (hentries : s'.entries = update s.entries entry {s.entries entry with active := true})
  | cleared (rest : List Frame) (entry : EntryId) (hframes : s.threads t = .clearing entry :: rest)
      (hthreads : s'.threads = update s.threads t (.finishing entry :: rest))
      (hentries : s'.entries = update s.entries entry {s.entries entry with active := false})

/-- A step of one call changes the frames of its thread, and one entry at most. -/
theorem proceed_shift {frame : Frame} {rest : List Frame} {event : Event}
    (hframes : s.threads t = frame :: rest) (h : proceed t s rest frame = some (event,s')) : Shift t s s' := by
  have hpop (hheld : frame.held = none) (hs : some (Event.silent,s.setFrames t rest) = some (event,s')) :
      Shift t s s' := by
    obtain ⟨rfl,rfl⟩ := Prod.mk.inj (Option.some.inj hs)
    exact .popped frame rest hframes rfl hheld fun _ => ⟨rfl,rfl⟩
  have hreplace (frame' : Frame) (hheld : frame'.held = frame.held) (hoperated : frame'.operated = frame.operated)
      (hidle : ∀ e, frame'.idle = some e → frame.idle = some e ∨ (s.entries e).active = false)
      (hs : some (Event.silent,s.setFrames t (frame' :: rest)) = some (event,s')) : Shift t s s' := by
    obtain ⟨rfl,rfl⟩ := Prod.mk.inj (Option.some.inj hs)
    exact .replaced frame frame' rest hframes rfl hheld hoperated hidle fun _ => ⟨rfl,rfl⟩
  cases frame with
  | opening kind =>
    obtain ⟨rfl,rfl⟩ := Prod.mk.inj (Option.some.inj h)
    exact .replaced _ _ rest hframes rfl rfl rfl (by simp [Frame.idle]) fun _ => ⟨rfl,rfl⟩
  | registering kind entry =>
    simp only [proceed] at h
    split at h
    · cases h
    split at h
    · exact hpop rfl h
    · obtain ⟨rfl,rfl⟩ := Prod.mk.inj (Option.some.inj h)
      exact .popped _ rest hframes rfl rfl fun _ => ⟨rfl,rfl⟩
  | looking call handle =>
    simp only [proceed] at h
    split at h
    · exact hpop rfl h
    split at h
    · cases h
    split at h
    · exact hpop rfl h
    · obtain ⟨rfl,rfl⟩ := Prod.mk.inj (Option.some.inj h)
      refine .replaced _ _ rest hframes rfl ?_ ?_ ?_ fun _ => ⟨rfl,rfl⟩
      · cases call <;> rfl
      · cases call <;> rfl
      · cases call <;> simp [Call.frame,Frame.idle]
  | retained call handle entry =>
    simp only [proceed] at h
    cases hlock : (s.entries entry).operation.tryLock t with
    | none =>
      rw [hlock] at h
      exact hpop rfl h
    | some operation =>
      rw [hlock] at h
      obtain ⟨rfl,rfl⟩ := Prod.mk.inj (Option.some.inj h)
      exact .acquired _ _ rest entry operation hframes rfl rfl rfl rfl rfl hlock rfl
  | signalling entry => exact hpop rfl h
  | locked call handle entry =>
    simp only [proceed] at h
    split at h
    · exact hreplace (.unlocking entry) rfl rfl (by simp [Frame.idle]) h
    rename_i hactive
    have hinactive : ∀ e, some entry = some e → Frame.idle (.locked call handle entry) = some e ∨
        (s.entries e).active = false := by
      rintro e ⟨⟩
      exact .inr (by simpa using hactive)
    split at h
    · exact hreplace (.closing handle entry) rfl rfl hinactive h
    · exact hreplace (.tested entry) rfl rfl hinactive h
  | tested entry =>
    simp only [proceed] at h
    split at h
    · exact hreplace (.unlocking entry) rfl rfl (by simp [Frame.idle]) h
    · exact hreplace (.marking entry) rfl rfl (fun _ hidle => .inl hidle) h
  | marking entry =>
    obtain ⟨rfl,rfl⟩ := Prod.mk.inj (Option.some.inj h)
    exact .marked rest entry hframes rfl rfl
  | running entry =>
    obtain ⟨rfl,rfl⟩ := Prod.mk.inj (Option.some.inj h)
    exact .replaced _ _ rest hframes rfl rfl rfl (by simp [Frame.idle]) fun _ => ⟨rfl,rfl⟩
  | clearing entry =>
    obtain ⟨rfl,rfl⟩ := Prod.mk.inj (Option.some.inj h)
    exact .cleared rest entry hframes rfl rfl
  | finishing entry =>
    obtain ⟨rfl,rfl⟩ := Prod.mk.inj (Option.some.inj h)
    exact .released _ rest entry hframes rfl rfl rfl rfl
  | closing handle entry =>
    simp only [proceed] at h
    split at h
    · cases h
    · obtain ⟨rfl,rfl⟩ := Prod.mk.inj (Option.some.inj h)
      exact .replaced _ _ rest hframes rfl rfl rfl (fun _ hidle => .inl hidle) fun _ => ⟨rfl,rfl⟩
  | sealing handle entry =>
    obtain ⟨rfl,rfl⟩ := Prod.mk.inj (Option.some.inj h)
    refine .replaced _ _ rest hframes rfl rfl rfl (fun _ hidle => .inl hidle) ?_
    intro e
    by_cases he : e = entry
    · subst he
      simp [State.setEntry,State.setFrames]
    · simp [State.setEntry,State.setFrames,he]
  | erasing handle entry =>
    simp only [proceed] at h
    split at h
    · exact hreplace (.leaving handle entry) rfl rfl (fun _ hidle => .inl hidle) h
    · obtain ⟨rfl,rfl⟩ := Prod.mk.inj (Option.some.inj h)
      exact .replaced _ _ rest hframes rfl rfl rfl (fun _ hidle => .inl hidle) fun _ => ⟨rfl,rfl⟩
  | leaving handle entry =>
    obtain ⟨rfl,rfl⟩ := Prod.mk.inj (Option.some.inj h)
    exact .replaced _ _ rest hframes rfl rfl rfl (by simp [Frame.idle]) fun _ => ⟨rfl,rfl⟩
  | unlocking entry =>
    obtain ⟨rfl,rfl⟩ := Prod.mk.inj (Option.some.inj h)
    exact .released _ rest entry hframes rfl rfl rfl rfl

theorem fail_shift {frame : Frame} {rest : List Frame} {event : Event}
    (hframes : s.threads t = frame :: rest) (h : fail t s rest frame = some (event,s')) : Shift t s s' := by
  cases frame with
  | opening | registering | looking | retained | signalling =>
    obtain ⟨rfl,rfl⟩ := Prod.mk.inj (Option.some.inj h)
    exact .popped _ rest hframes rfl rfl fun _ => ⟨rfl,rfl⟩
  | running | closing =>
    obtain ⟨rfl,rfl⟩ := Prod.mk.inj (Option.some.inj h)
    exact .replaced _ _ rest hframes rfl rfl rfl (by simp [Frame.idle]) fun _ => ⟨rfl,rfl⟩
  | locked | tested | marking | clearing | finishing | sealing | erasing | leaving | unlocking => cases h

theorem exhaust_shift {frame : Frame} {rest : List Frame} {event : Event}
    (hframes : s.threads t = frame :: rest) (h : exhaust t s rest frame = some (event,s')) : Shift t s s' := by
  cases frame with
  | registering kind entry =>
    simp only [exhaust] at h
    split at h
    · cases h
    split at h
    · cases h
    · obtain ⟨rfl,rfl⟩ := Prod.mk.inj (Option.some.inj h)
      exact .popped _ rest hframes rfl rfl fun _ => ⟨rfl,rfl⟩
  | _ => cases h

theorem step_shift {move : Move} {event : Event} (h : step t move s = some (event,s')) : Shift t s s' := by
  cases hframes : s.threads t with
  | nil =>
    cases move with
    | call request =>
      simp only [step,hframes] at h
      obtain ⟨rfl,rfl⟩ := Prod.mk.inj (Option.some.inj h)
      refine .pushed request.frame (by rw [hframes]; rfl) (by simp [hframes]) ?_ fun _ => ⟨rfl,rfl⟩
      cases request <;> rfl
    | proceed | fail | exhaust => simp [step,hframes] at h
  | cons frame rest =>
    cases move with
    | call request =>
      simp only [step,hframes] at h
      split at h
      · rename_i hcalls
        obtain ⟨rfl,rfl⟩ := Prod.mk.inj (Option.some.inj h)
        refine .pushed request.frame (by rw [hframes]; rfl) ?_ ?_ fun _ => ⟨rfl,rfl⟩
        · simpa [hframes] using hcalls
        · cases request <;> rfl
      · cases h
    | proceed =>
      simp only [step,hframes] at h
      exact proceed_shift hframes h
    | fail =>
      simp only [step,hframes] at h
      exact fail_shift hframes h
    | exhaust =>
      simp only [step,hframes] at h
      exact exhaust_shift hframes h

/-- The frames of one thread account for its share of one entry. -/
structure Account (entry : EntryId) (frames : List Frame) (depth : Nat) (active : Bool) : Prop where
  held : frames.countP (Frame.holds entry) = depth
  operated : frames.countP (Frame.operates entry) = if active = true ∧ depth ≠ 0 then 1 else 0
  idle : ∀ frame ∈ frames, frame.idle = some entry → active = false

structure Accounted (s : State T) : Prop where
  account : ∀ t entry, Account entry (s.threads t) ((s.entries entry).operation.depth t) (s.entries entry).active
  owned : ∀ entry, (s.entries entry).active = true → ∃ t, (s.entries entry).operation.depth t ≠ 0
  nested : ∀ t, ∀ frame ∈ (s.threads t).tail, frame.callsOut = true

namespace Account
variable {entry : EntryId} {frame frame' : Frame} {frames rest : List Frame} {depth : Nat} {active : Bool}

theorem holds_eq : frame.holds entry = true ↔ frame.held = some entry := by simp [Frame.holds]

theorem operates_eq : frame.operates entry = true ↔ frame.operated = some entry := by simp [Frame.operates]

/-- A frame that holds the lock and one that does not count differently. -/
theorem countP_holds (frame : Frame) (rest : List Frame) : (frame :: rest).countP (Frame.holds entry) =
    rest.countP (Frame.holds entry) + if frame.held = some entry then 1 else 0 := by
  rw [List.countP_cons]
  simp [Frame.holds]

theorem countP_operates (frame : Frame) (rest : List Frame) : (frame :: rest).countP (Frame.operates entry) =
    rest.countP (Frame.operates entry) + if frame.operated = some entry then 1 else 0 := by
  rw [List.countP_cons]
  simp [Frame.operates]

theorem operates_le (frames : List Frame) :
    frames.countP (Frame.operates entry) ≤ frames.countP (Frame.holds entry) := by
  refine List.countP_mono_left ?_
  intro frame _ h
  exact holds_eq.mpr (Frame.held_of_operated (operates_eq.mp h))

/-- A frame without a share in the entry. -/
theorem push (h : Account entry frames depth active) (hheld : frame.held ≠ some entry) :
    Account entry (frame :: frames) depth active where
  held := by rw [countP_holds,if_neg hheld,h.held,Nat.add_zero]
  operated := by rw [countP_operates,if_neg (mt Frame.held_of_operated hheld),h.operated,Nat.add_zero]
  idle := by
    intro f hf hidle
    obtain rfl | hf := List.mem_cons.mp hf
    · exact absurd (Frame.held_of_idle hidle) hheld
    · exact h.idle f hf hidle

theorem pop (h : Account entry (frame :: rest) depth active) (hheld : frame.held ≠ some entry) :
    Account entry rest depth active where
  held := by
    have hcount := h.held
    rwa [countP_holds,if_neg hheld,Nat.add_zero] at hcount
  operated := by
    have hcount := h.operated
    rwa [countP_operates,if_neg (mt Frame.held_of_operated hheld),Nat.add_zero] at hcount
  idle := fun f hf => h.idle f (List.mem_cons_of_mem _ hf)

theorem replace (h : Account entry (frame :: rest) depth active) (hheld : frame'.held = frame.held)
    (hoperated : frame'.operated = frame.operated)
    (hidle : frame'.idle = some entry → frame.idle = some entry ∨ active = false) :
    Account entry (frame' :: rest) depth active where
  held := by
    have hcount := h.held
    rwa [countP_holds,← hheld,← countP_holds] at hcount
  operated := by
    have hcount := h.operated
    rwa [countP_operates,← hoperated,← countP_operates] at hcount
  idle := by
    intro f hf hfidle
    obtain rfl | hf := List.mem_cons.mp hf
    · obtain hframe | hactive := hidle hfidle
      · exact h.idle _ List.mem_cons_self hframe
      · exact hactive
    · exact h.idle f (List.mem_cons_of_mem _ hf) hfidle

/-- The lock is taken once more; an operation in progress would be the thread's own. -/
theorem acquire (h : Account entry rest depth active) (hactive : active = true → depth ≠ 0)
    (hheld : frame'.held = some entry) (hoperated : frame'.operated = none) (hidle : frame'.idle = none) :
    Account entry (frame' :: rest) (depth+1) active where
  held := by rw [countP_holds,if_pos hheld,h.held]
  operated := by
    rw [countP_operates,hoperated,if_neg (by simp),h.operated,Nat.add_zero]
    by_cases hact : active = true
    · rw [if_pos ⟨hact,hactive hact⟩,if_pos ⟨hact,Nat.succ_ne_zero depth⟩]
    · rw [if_neg fun h => hact h.1,if_neg fun h => hact h.1]
  idle := by
    intro f hf hfidle
    obtain rfl | hf := List.mem_cons.mp hf
    · rw [hidle] at hfidle
      cases hfidle
    · exact h.idle f hf hfidle

/-- The lock is given back once; an operation in progress keeps its own share. -/
theorem release (h : Account entry (frame :: rest) depth active) (hheld : frame.held = some entry)
    (hoperated : frame.operated = none) : Account entry rest (depth-1) active where
  held := by
    have hcount := h.held
    rw [countP_holds,if_pos hheld] at hcount
    omega
  operated := by
    have hcount := h.held
    have hoperates := h.operated
    have hle : rest.countP (Frame.operates entry) ≤ rest.countP (Frame.holds entry) := operates_le rest
    rw [countP_holds,if_pos hheld] at hcount
    rw [countP_operates,hoperated,if_neg (by simp),Nat.add_zero] at hoperates
    rw [hoperates] at hle ⊢
    by_cases hact : active = true
    · rw [if_pos ⟨hact,by omega⟩] at hle ⊢
      rw [if_pos ⟨hact,by omega⟩]
    · rw [if_neg fun h => hact h.1,if_neg fun h => hact h.1]
  idle := fun f hf => h.idle f (List.mem_cons_of_mem _ hf)

/-- The inactive entry of a marking frame becomes active. -/
theorem mark (h : Account entry (.marking entry :: rest) depth active) (hnested : ∀ f ∈ rest, f.callsOut = true) :
    Account entry (.running entry :: rest) depth true where
  held := h.held
  operated := by
    have hinactive : active = false := h.idle _ List.mem_cons_self rfl
    have hcount := h.held
    have hoperates := h.operated
    rw [countP_holds,if_pos (show (Frame.marking entry).held = some entry from rfl)] at hcount
    rw [countP_operates,if_neg (by simp [Frame.operated]),if_neg (by simp [hinactive])] at hoperates
    have hdepth : depth ≠ 0 := by omega
    rw [countP_operates,if_pos (show (Frame.running entry).operated = some entry from rfl),if_pos ⟨rfl,hdepth⟩]
    omega
  idle := by
    intro f hf hidle
    obtain rfl | hf := List.mem_cons.mp hf
    · cases hidle
    · have hcalls := hnested f hf
      rw [Frame.callsOut_of_idle hidle] at hcalls
      cases hcalls

theorem clear (h : Account entry (.clearing entry :: rest) depth active) :
    Account entry (.finishing entry :: rest) depth false where
  held := h.held
  operated := by
    have hoperates := h.operated
    rw [countP_operates,if_pos (show (Frame.clearing entry).operated = some entry from rfl)] at hoperates
    rw [countP_operates,if_neg (by simp [Frame.operated]),if_neg (by simp)]
    split at hoperates <;> omega
  idle := fun _ _ _ => rfl

/-- A thread without the lock has no share, whatever the marker says. -/
theorem unheld (h : Account entry frames 0 active) (active' : Bool) : Account entry frames 0 active' where
  held := h.held
  operated := by
    have hoperates := h.operated
    simpa using hoperates
  idle := by
    intro f hf hidle
    have hnone := List.countP_eq_zero.mp h.held f hf
    exact absurd (holds_eq.mpr (Frame.held_of_idle hidle)) hnone

/-- A frame that holds the lock is counted. -/
theorem depth_of_held (h : Account entry (frame :: rest) depth active) (hheld : frame.held = some entry) :
    depth ≠ 0 := by
  have hcount := h.held
  rw [countP_holds,if_pos hheld] at hcount
  omega

end Account

theorem initial_accounted : Accounted ({} : State T) where
  account t entry := ⟨rfl,rfl,by simp⟩
  owned := by simp
  nested := by simp

/-- The frames behind an update of one thread. -/
theorem threads_other {frames : List Frame} {t' : T} (hthreads : s'.threads = update s.threads t frames)
    (ht : t' ≠ t) : s'.threads t' = s.threads t' := by rw [hthreads,update_of_ne ht]

theorem threads_own {frames : List Frame} (hthreads : s'.threads = update s.threads t frames) :
    s'.threads t = frames := by rw [hthreads,update_self]

omit [DecidableEq T] in
theorem entries_other {entry e : EntryId} {value : Entry T} (hentries : s'.entries = update s.entries entry value)
    (he : e ≠ entry) : s'.entries e = s.entries e := by rw [hentries,update_of_ne he]

omit [DecidableEq T] in
theorem entries_own {entry : EntryId} {value : Entry T} (hentries : s'.entries = update s.entries entry value) :
    s'.entries entry = value := by rw [hentries,update_self]

/-- Shares of untouched entries and of other threads stay. -/
theorem Accounted.kept (h : Accounted s) {t' : T} {e : EntryId} (hthreads : s'.threads t' = s.threads t')
    (hentries : (s'.entries e).operation = (s.entries e).operation ∧ (s'.entries e).active = (s.entries e).active) :
    Account e (s'.threads t') ((s'.entries e).operation.depth t') (s'.entries e).active := by
  rw [hthreads,hentries.1,hentries.2]
  exact h.account t' e

theorem Accounted.tail (h : Accounted s) {frame : Frame} {rest : List Frame} (hframes : s.threads t = frame :: rest) :
    ∀ f ∈ rest, f.callsOut = true := by
  have hnested := h.nested t
  rwa [hframes] at hnested

/-- Whoever holds the lock of an entry in some call owns it. -/
theorem Accounted.owner (h : Accounted s) {frame : Frame} {e : EntryId} (hframe : frame ∈ s.threads t)
    (hheld : frame.held = some e) : (s.entries e).operation.depth t ≠ 0 := by
  rw [← (h.account t e).held]
  have hpos := List.countP_pos_iff.mpr ⟨frame,hframe,Account.holds_eq.mpr hheld⟩
  exact Nat.ne_of_gt hpos

theorem Accounted.owner_eq (h : Accounted s) {frame frame' : Frame} {t' : T} {e : EntryId}
    (hframe : frame ∈ s.threads t) (hheld : frame.held = some e) (hframe' : frame' ∈ s.threads t')
    (hheld' : frame'.held = some e) : t = t' :=
  RecursiveMutex.owner_unique (h.owner hframe hheld) (h.owner hframe' hheld')

/-- Every step keeps the accounts of all threads and entries. -/
theorem Shift.account (hshift : Shift t s s') (h : Accounted s) (t' : T) (e : EntryId) :
    Account e (s'.threads t') ((s'.entries e).operation.depth t') (s'.entries e).active := by
  have hown := h.account t e
  cases hshift with
  | pushed frame hthreads hnested hheld hentries =>
    by_cases ht : t' = t
    · subst ht
      rw [threads_own hthreads,(hentries e).1,(hentries e).2]
      exact hown.push (by simp [hheld])
    · exact h.kept (threads_other hthreads ht) (hentries e)
  | replaced frame frame' rest hframes hthreads hheld hoperated hidle hentries =>
    by_cases ht : t' = t
    · subst ht
      rw [hframes] at hown
      rw [threads_own hthreads,(hentries e).1,(hentries e).2]
      exact hown.replace hheld hoperated (hidle e)
    · exact h.kept (threads_other hthreads ht) (hentries e)
  | popped frame rest hframes hthreads hheld hentries =>
    by_cases ht : t' = t
    · subst ht
      rw [hframes] at hown
      rw [threads_own hthreads,(hentries e).1,(hentries e).2]
      exact hown.pop (by simp [hheld])
    · exact h.kept (threads_other hthreads ht) (hentries e)
  | acquired frame frame' rest entry operation hframes hthreads hheld hheld' hoperated' hidle' hlock hentries =>
    rw [hframes] at hown
    have hrest := hown.pop (by simp [hheld])
    by_cases he : e = entry
    · subst he
      have hdepth := RecursiveMutex.tryLock_depth hlock t'
      rw [entries_own hentries]
      change Account e (s'.threads t') (operation.depth t') (s.entries e).active
      by_cases ht : t' = t
      · subst ht
        rw [threads_own hthreads,hdepth,if_pos rfl]
        refine hrest.acquire ?_ hheld' hoperated' hidle'
        intro hactive hzero
        obtain ⟨owner,howner⟩ := h.owned e hactive
        by_cases ho : owner = t'
        · subst ho
          exact howner hzero
        · exact howner (RecursiveMutex.tryLock_unowned hlock ho)
      · rw [threads_other hthreads ht,hdepth,if_neg ht,Nat.add_zero]
        exact h.account t' e
    · have hsame := entries_other hentries he
      by_cases ht : t' = t
      · subst ht
        rw [threads_own hthreads,hsame]
        exact hrest.push (by simp [hheld',Ne.symm he])
      · exact h.kept (threads_other hthreads ht) (by rw [hsame]; exact ⟨rfl,rfl⟩)
  | released frame rest entry hframes hthreads hheld hoperated hentries =>
    rw [hframes] at hown
    by_cases he : e = entry
    · subst he
      have hdepth := RecursiveMutex.unlock_depth (hown.depth_of_held hheld) t'
      rw [entries_own hentries]
      change Account e (s'.threads t') ((s.entries e).operation.unlock.depth t') (s.entries e).active
      by_cases ht : t' = t
      · subst ht
        rw [threads_own hthreads,hdepth,if_pos rfl]
        exact hown.release hheld hoperated
      · rw [threads_other hthreads ht,hdepth,if_neg ht,Nat.sub_zero]
        exact h.account t' e
    · have hsame := entries_other hentries he
      by_cases ht : t' = t
      · subst ht
        rw [threads_own hthreads,hsame]
        exact hown.pop (by simp [hheld,Ne.symm he])
      · exact h.kept (threads_other hthreads ht) (by rw [hsame]; exact ⟨rfl,rfl⟩)
  | marked rest entry hframes hthreads hentries =>
    rw [hframes] at hown
    by_cases he : e = entry
    · subst he
      rw [entries_own hentries]
      change Account e (s'.threads t') ((s.entries e).operation.depth t') true
      by_cases ht : t' = t
      · subst ht
        rw [threads_own hthreads]
        exact hown.mark (h.tail hframes)
      · have hother := h.account t' e
        have hdepth : (s.entries e).operation.depth t' = 0 := by
          by_contra hne
          exact ht (RecursiveMutex.owner_unique hne (hown.depth_of_held rfl))
        rw [threads_other hthreads ht,hdepth]
        rw [hdepth] at hother
        exact hother.unheld true
    · have hsame := entries_other hentries he
      by_cases ht : t' = t
      · subst ht
        rw [threads_own hthreads,hsame]
        have hrest := hown.pop (by simp [Frame.held,Ne.symm he])
        exact hrest.push (by simp [Frame.held,Ne.symm he])
      · exact h.kept (threads_other hthreads ht) (by rw [hsame]; exact ⟨rfl,rfl⟩)
  | cleared rest entry hframes hthreads hentries =>
    rw [hframes] at hown
    by_cases he : e = entry
    · subst he
      rw [entries_own hentries]
      change Account e (s'.threads t') ((s.entries e).operation.depth t') false
      by_cases ht : t' = t
      · subst ht
        rw [threads_own hthreads]
        exact hown.clear
      · have hother := h.account t' e
        have hdepth : (s.entries e).operation.depth t' = 0 := by
          by_contra hne
          exact ht (RecursiveMutex.owner_unique hne (hown.depth_of_held rfl))
        rw [threads_other hthreads ht,hdepth]
        rw [hdepth] at hother
        exact hother.unheld false
    · have hsame := entries_other hentries he
      by_cases ht : t' = t
      · subst ht
        rw [threads_own hthreads,hsame]
        have hrest := hown.pop (by simp [Frame.held,Ne.symm he])
        exact hrest.push (by simp [Frame.held,Ne.symm he])
      · exact h.kept (threads_other hthreads ht) (by rw [hsame]; exact ⟨rfl,rfl⟩)

/-- An active entry is locked by the thread whose operation is in progress. -/
theorem Shift.owned (hshift : Shift t s s') (h : Accounted s) (e : EntryId)
    (hactive : (s'.entries e).active = true) : ∃ t', (s'.entries e).operation.depth t' ≠ 0 := by
  have haccount := hshift.account h
  have hkept (hentries : (s'.entries e).operation = (s.entries e).operation ∧
      (s'.entries e).active = (s.entries e).active) : ∃ t', (s'.entries e).operation.depth t' ≠ 0 := by
    rw [hentries.1]
    rw [hentries.2] at hactive
    exact h.owned e hactive
  cases hshift with
  | pushed _ _ _ _ hentries => exact hkept (hentries e)
  | replaced _ _ _ _ _ _ _ _ hentries => exact hkept (hentries e)
  | popped _ _ _ _ _ hentries => exact hkept (hentries e)
  | acquired frame frame' rest entry operation hframes hthreads _ hheld' _ _ _ hentries =>
    by_cases he : e = entry
    · subst he
      have hown := haccount t e
      rw [threads_own hthreads] at hown
      exact ⟨t,hown.depth_of_held hheld'⟩
    · exact hkept (by rw [entries_other hentries he]; exact ⟨rfl,rfl⟩)
  | released frame rest entry hframes hthreads hheld hoperated hentries =>
    by_cases he : e = entry
    · subst he
      have hold := h.account t e
      rw [hframes] at hold
      rw [entries_own hentries] at hactive
      change (s.entries e).active = true at hactive
      have hoperates := hold.operated
      rw [Account.countP_operates,hoperated,if_neg (by simp),Nat.add_zero,
        if_pos ⟨hactive,hold.depth_of_held hheld⟩] at hoperates
      have hown := haccount t e
      rw [threads_own hthreads] at hown
      have hle : rest.countP (Frame.operates e) ≤ rest.countP (Frame.holds e) := Account.operates_le rest
      rw [hown.held,hoperates] at hle
      exact ⟨t,by omega⟩
    · exact hkept (by rw [entries_other hentries he]; exact ⟨rfl,rfl⟩)
  | marked rest entry hframes hthreads hentries =>
    by_cases he : e = entry
    · subst he
      have hown := haccount t e
      rw [threads_own hthreads] at hown
      exact ⟨t,hown.depth_of_held rfl⟩
    · exact hkept (by rw [entries_other hentries he]; exact ⟨rfl,rfl⟩)
  | cleared rest entry hframes hthreads hentries =>
    by_cases he : e = entry
    · subst he
      rw [entries_own hentries] at hactive
      cases hactive
    · exact hkept (by rw [entries_other hentries he]; exact ⟨rfl,rfl⟩)

/-- Calls nest only where callbacks run. -/
theorem Shift.nested (hshift : Shift t s s') (h : Accounted s) (t' : T) :
    ∀ frame ∈ (s'.threads t').tail, frame.callsOut = true := by
  by_cases ht : t' = t
  · subst ht
    cases hshift with
    | pushed frame hthreads hnested =>
      rw [threads_own hthreads]
      intro f hf
      cases hframes : s.threads t' with
      | nil =>
        rw [hframes] at hf
        cases hf
      | cons top rest =>
        rw [hframes] at hf hnested
        obtain rfl | hf := List.mem_cons.mp hf
        · exact hnested f rfl
        · exact h.tail hframes f hf
    | replaced frame frame' rest hframes hthreads =>
      rw [threads_own hthreads]
      exact h.tail hframes
    | popped frame rest hframes hthreads =>
      rw [threads_own hthreads]
      exact fun f hf => h.tail hframes f (List.mem_of_mem_tail hf)
    | acquired frame frame' rest entry operation hframes hthreads =>
      rw [threads_own hthreads]
      exact h.tail hframes
    | released frame rest entry hframes hthreads =>
      rw [threads_own hthreads]
      exact fun f hf => h.tail hframes f (List.mem_of_mem_tail hf)
    | marked rest entry hframes hthreads =>
      rw [threads_own hthreads]
      exact h.tail hframes
    | cleared rest entry hframes hthreads =>
      rw [threads_own hthreads]
      exact h.tail hframes
  · have hsame : s'.threads t' = s.threads t' := by
      cases hshift with
      | pushed _ hthreads | popped _ _ _ hthreads | replaced _ _ _ _ hthreads
      | acquired _ _ _ _ _ _ hthreads | released _ _ _ _ hthreads | marked _ _ _ hthreads
      | cleared _ _ _ hthreads => exact threads_other hthreads ht
    rw [hsame]
    exact h.nested t'

theorem Shift.accounted (hshift : Shift t s s') (h : Accounted s) : Accounted s' :=
  ⟨hshift.account h,hshift.owned h,hshift.nested h⟩

end Accounts
end DesfireSdk.CApi
