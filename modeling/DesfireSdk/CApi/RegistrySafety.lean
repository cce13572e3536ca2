import DesfireSdk.CApi.Accounting

/-! Whatever the threads do, handles stay unique, operations exclusive and closed entries closed. -/
namespace DesfireSdk.CApi
open Interaction
open Function (update update_self update_of_ne)

/-- The handle and the entry that a call looked up under it. -/
def Frame.named : Frame → Option (Handle × EntryId)
  | .retained _ handle entry | .locked _ handle entry | .closing handle entry | .sealing handle entry
  | .erasing handle entry => some (handle,entry)
  | _ => none

/-- The entry that the call has closed and is about to erase. -/
def Frame.sealed : Frame → Option EntryId
  | .erasing _ entry => some entry
  | _ => none

/-- The entry that the call found open and is about to use. -/
def Frame.admitted : Frame → Option EntryId
  | .marking entry => some entry
  | _ => none

def Event.openedHandle : Event → Option Handle
  | .opened handle _ => some handle
  | _ => none

def Event.closedHandle : Event → Option Handle
  | .closed handle _ => some handle
  | _ => none

/-- The events that say nothing about a handle. -/
def Event.nameless : Event → Bool
  | .opened .. | .resolved .. | .closed .. => false
  | _ => true

/-- The events that say nothing about a handle or a start. -/
def Event.quiet : Event → Bool
  | .started _ => false
  | event => event.nameless

section Effects
variable {T : Type} [DecidableEq T] {s s' : State T} {t : T}

/-- A frame of a thread after a step comes from one before it. -/
structure Derived (s : State T) (t : T) (frame : Frame) : Prop where
  named : ∀ name, frame.named = some name → ∃ f ∈ s.threads t, f.named = some name
  sealed : ∀ entry, frame.sealed = some entry → ∃ f ∈ s.threads t, f.sealed = some entry
  admitted : ∀ entry, frame.admitted = some entry → (∃ f ∈ s.threads t, f.admitted = some entry) ∨
    (s.entries entry).closed = false

omit [DecidableEq T] in
theorem derived_old {frame : Frame} (h : frame ∈ s.threads t) : Derived s t frame :=
  ⟨fun _ hname => ⟨frame,h,hname⟩,fun _ hsealed => ⟨frame,h,hsealed⟩,fun _ hadmitted => .inl ⟨frame,h,hadmitted⟩⟩

omit [DecidableEq T] in
theorem derived_blank {frame : Frame} (hnamed : frame.named = none) (hsealed : frame.sealed = none)
    (hadmitted : frame.admitted = none) : Derived s t frame :=
  ⟨by simp [hnamed],by simp [hsealed],by simp [hadmitted]⟩

/-- The registries only pass over handles. -/
def Passed (s s' : State T) : Prop :=
  ∀ kind, (s'.registry kind).live = (s.registry kind).live ∧
    (s.registry kind).next.toNat ≤ (s'.registry kind).next.toNat

/-- What a step does to the registries, the closed flags and the log. -/
inductive Effect (t : T) (s : State T) : Event → State T → Prop
  | quiet {event s'} (hevent : event.quiet = true) (hother : ∀ t' ≠ t, s'.threads t' = s.threads t')
      (hown : ∀ f ∈ s'.threads t, Derived s t f) (hregistry : Passed s s')
      (hclosed : ∀ e, (s'.entries e).closed = (s.entries e).closed) : Effect t s event s'
  | opened {kind entry s'} (hother : ∀ t' ≠ t, s'.threads t' = s.threads t')
      (hown : ∀ f ∈ s'.threads t, Derived s t f)
      (hregistry : ∀ kind' ≠ kind, s'.registry kind' = s.registry kind')
      (hlive : (s'.registry kind).live = update (s.registry kind).live (s.registry kind).next (some entry))
      (hnext : (s'.registry kind).next.toNat = (s.registry kind).next.toNat + 1)
      (hclosed : s'.entries = s.entries) : Effect t s (.opened ⟨kind,(s.registry kind).next⟩ entry) s'
  | resolved {handle entry frame rest s'} (hlive : (s.registry handle.kind).live handle.value = some entry)
      (hframes : ∀ f ∈ rest, f ∈ s.threads t)
      (hthreads : s'.threads = update s.threads t (frame :: rest))
      (hnamed : ∀ name, frame.named = some name → name = (handle,entry)) (hsealed : frame.sealed = none)
      (hadmitted : frame.admitted = none) (hregistry : s'.registry = s.registry)
      (hclosed : s'.entries = s.entries) : Effect t s (.resolved handle entry) s'
  | started {entry s'} (hframe : .marking entry ∈ s.threads t) (hother : ∀ t' ≠ t, s'.threads t' = s.threads t')
      (hown : ∀ f ∈ s'.threads t, Derived s t f) (hregistry : s'.registry = s.registry)
      (hclosed : ∀ e, (s'.entries e).closed = (s.entries e).closed) : Effect t s (.started entry) s'
  | sealed {handle entry rest s'} (hframes : s.threads t = .sealing handle entry :: rest)
      (hthreads : s'.threads = update s.threads t (.erasing handle entry :: rest))
      (hregistry : s'.registry = s.registry)
      (hclosed : s'.entries = update s.entries entry {s.entries entry with closed := true}) :
      Effect t s .silent s'
  | closed {handle entry rest s'} (hframes : s.threads t = .erasing handle entry :: rest)
      (hlive : ∃ e, (s.registry handle.kind).live handle.value = some e)
      (hother : ∀ t' ≠ t, s'.threads t' = s.threads t') (hown : ∀ f ∈ s'.threads t, Derived s t f)
      (hregistry : ∀ kind ≠ handle.kind, s'.registry kind = s.registry kind)
      (hlive' : (s'.registry handle.kind).live = update (s.registry handle.kind).live handle.value none)
      (hnext : (s'.registry handle.kind).next = (s.registry handle.kind).next)
      (hclosed : s'.entries = s.entries) : Effect t s (.closed handle entry) s'

theorem setFrames_other (s : State T) (t : T) (frames : List Frame) (t' : T) (ht : t' ≠ t) :
    (s.setFrames t frames).threads t' = s.threads t' := update_of_ne ht _ _

theorem setFrames_own (s : State T) (t : T) (frames : List Frame) :
    (s.setFrames t frames).threads t = frames := update_self _ _ _

theorem next_succ {next : UInt64} (h : next ≠ UInt64.ofNat (2^64 - 1)) : (next + 1).toNat = next.toNat + 1 := by
  have hne : next.toNat ≠ 2^64 - 1 := by
    intro heq
    exact h (UInt64.toNat_inj.mp (by rw [heq]; rfl))
  have hlt := next.toNat_lt
  rw [UInt64.toNat_add]
  change (next.toNat + 1) % 2^64 = _
  omega

omit [DecidableEq T] in
theorem passed_rfl (s : State T) : Passed s s := fun _ => ⟨rfl,Nat.le_refl _⟩

/-- The innermost frame is replaced or dropped, and nothing shared is touched. -/
theorem effect_frames {event : Event} {frame : Frame} {rest frames : List Frame}
    (hframes : s.threads t = frame :: rest) (hevent : event.quiet = true)
    (hfront : ∀ f ∈ frames, f ∈ rest ∨ Derived s t f) (hthreads : s'.threads = update s.threads t frames)
    (hregistry : Passed s s') (hclosed : ∀ e, (s'.entries e).closed = (s.entries e).closed) :
    Effect t s event s' := by
  refine .quiet hevent ?_ ?_ hregistry hclosed
  · intro t' ht
    rw [hthreads,update_of_ne ht]
  · rw [hthreads,update_self]
    intro f hf
    obtain hrest | hderived := hfront f hf
    · exact derived_old (by rw [hframes]; exact List.mem_cons_of_mem _ hrest)
    · exact hderived

omit [DecidableEq T] in
theorem front_rest {rest : List Frame} : ∀ f ∈ rest, f ∈ rest ∨ Derived s t f := fun _ hf => .inl hf

omit [DecidableEq T] in
theorem front_cons {frame : Frame} {rest : List Frame} (h : Derived s t frame) :
    ∀ f ∈ frame :: rest, f ∈ rest ∨ Derived s t f := by
  intro f hf
  obtain rfl | hf := List.mem_cons.mp hf
  · exact .inr h
  · exact .inl hf

omit [DecidableEq T] in
/-- Only the named entry changes, and its closed flag stays. -/
theorem closed_setEntry {entry : EntryId} {value : Entry T} (h : value.closed = (s.entries entry).closed)
    (e : EntryId) : (update s.entries entry value e).closed = (s.entries e).closed := by
  by_cases he : e = entry
  · subst he
    rw [update_self,h]
  · rw [update_of_ne he]

omit [DecidableEq T] in
/-- Another owner of the map changes neither handles nor entries. -/
theorem passed_guard (s : State T) (kind : Kind) (owner : Option T) :
    Passed s (s.setRegistry kind {s.registry kind with guard := owner}) := by
  intro kind'
  by_cases hkind : kind' = kind
  · subst hkind
    simp [State.setRegistry]
  · simp [State.setRegistry,hkind]

theorem proceed_effect {frame : Frame} {rest : List Frame} {event : Event}
    (hframes : s.threads t = frame :: rest) (h : proceed t s rest frame = some (event,s')) :
    Effect t s event s' := by
  have htop : frame ∈ s.threads t := by
    rw [hframes]
    exact List.mem_cons_self
  have hpop (hs : some (Event.silent,s.setFrames t rest) = some (event,s')) : Effect t s event s' := by
    obtain ⟨rfl,rfl⟩ := Prod.mk.inj (Option.some.inj hs)
    exact effect_frames hframes rfl front_rest rfl (passed_rfl s) fun _ => rfl
  have hreplace (frame' : Frame) (hderived : Derived s t frame')
      (hs : some (Event.silent,s.setFrames t (frame' :: rest)) = some (event,s')) : Effect t s event s' := by
    obtain ⟨rfl,rfl⟩ := Prod.mk.inj (Option.some.inj hs)
    exact effect_frames hframes rfl (front_cons hderived) rfl (passed_rfl s) fun _ => rfl
  have hnamed (frame' : Frame) (hname : frame'.named = frame.named) (hsealed : frame'.sealed = none)
      (hadmitted : frame'.admitted = none) : Derived s t frame' :=
    ⟨fun name h => ⟨frame,htop,hname ▸ h⟩,by simp [hsealed],by simp [hadmitted]⟩
  cases frame with
  | opening kind =>
    obtain ⟨rfl,rfl⟩ := Prod.mk.inj (Option.some.inj h)
    exact effect_frames hframes rfl (front_cons (derived_blank rfl rfl rfl)) rfl (passed_rfl s) fun _ => rfl
  | registering kind entry =>
    simp only [proceed] at h
    split at h
    · cases h
    split at h
    · exact hpop h
    · rename_i hnext
      obtain ⟨rfl,rfl⟩ := Prod.mk.inj (Option.some.inj h)
      refine .opened ?_ ?_ ?_ ?_ ?_ rfl
      · exact setFrames_other _ t rest
      · rw [setFrames_own]
        intro f hf
        exact derived_old (by rw [hframes]; exact List.mem_cons_of_mem _ hf)
      · intro kind' hkind
        exact update_of_ne hkind _ _
      · simp [State.setRegistry,State.setFrames]
      · simp only [State.setRegistry,State.setFrames,update_self]
        exact next_succ hnext
  | looking call handle =>
    simp only [proceed] at h
    split at h
    · exact hpop h
    split at h
    · cases h
    split at h
    · exact hpop h
    · rename_i entry hlive
      obtain ⟨rfl,rfl⟩ := Prod.mk.inj (Option.some.inj h)
      refine .resolved hlive ?_ rfl ?_ ?_ ?_ rfl rfl
      · intro f hf
        rw [hframes]
        exact List.mem_cons_of_mem _ hf
      · intro name hname
        cases call <;> cases hname <;> rfl
      · cases call <;> rfl
      · cases call <;> rfl
  | retained call handle entry =>
    simp only [proceed] at h
    cases hlock : (s.entries entry).operation.tryLock t with
    | none =>
      rw [hlock] at h
      exact hpop h
    | some operation =>
      rw [hlock] at h
      obtain ⟨rfl,rfl⟩ := Prod.mk.inj (Option.some.inj h)
      refine effect_frames hframes rfl (front_cons (hnamed (.locked call handle entry) rfl rfl rfl)) rfl
        (passed_rfl s) ?_
      exact closed_setEntry rfl
  | signalling entry => exact hpop h
  | locked call handle entry =>
    simp only [proceed] at h
    split at h
    · exact hreplace _ (derived_blank rfl rfl rfl) h
    split at h
    · exact hreplace _ (hnamed (.closing handle entry) rfl rfl rfl) h
    · exact hreplace _ (derived_blank rfl rfl rfl) h
  | tested entry =>
    simp only [proceed] at h
    split at h
    · exact hreplace _ (derived_blank rfl rfl rfl) h
    · rename_i hclosed
      refine hreplace (.marking entry) ⟨by simp [Frame.named],by simp [Frame.sealed],?_⟩ h
      rintro e ⟨⟩
      exact .inr (by simpa using hclosed)
  | marking entry =>
    obtain ⟨rfl,rfl⟩ := Prod.mk.inj (Option.some.inj h)
    refine .started htop ?_ ?_ rfl ?_
    · exact setFrames_other _ t _
    · rw [setFrames_own]
      intro f hf
      obtain rfl | hf := List.mem_cons.mp hf
      · exact derived_blank rfl rfl rfl
      · exact derived_old (by rw [hframes]; exact List.mem_cons_of_mem _ hf)
    · exact closed_setEntry rfl
  | running entry =>
    obtain ⟨rfl,rfl⟩ := Prod.mk.inj (Option.some.inj h)
    exact effect_frames hframes rfl (front_cons (derived_blank rfl rfl rfl)) rfl (passed_rfl s) fun _ => rfl
  | clearing entry =>
    obtain ⟨rfl,rfl⟩ := Prod.mk.inj (Option.some.inj h)
    exact effect_frames hframes rfl (front_cons (derived_blank rfl rfl rfl)) rfl (passed_rfl s)
      (closed_setEntry rfl)
  | finishing entry =>
    obtain ⟨rfl,rfl⟩ := Prod.mk.inj (Option.some.inj h)
    exact effect_frames hframes rfl front_rest rfl (passed_rfl s) (closed_setEntry rfl)
  | closing handle entry =>
    simp only [proceed] at h
    split at h
    · cases h
    · obtain ⟨rfl,rfl⟩ := Prod.mk.inj (Option.some.inj h)
      exact effect_frames hframes rfl (front_cons (hnamed (.sealing handle entry) rfl rfl rfl)) rfl
        (passed_guard s handle.kind (some t)) fun _ => rfl
  | sealing handle entry =>
    obtain ⟨rfl,rfl⟩ := Prod.mk.inj (Option.some.inj h)
    exact .sealed hframes rfl rfl rfl
  | erasing handle entry =>
    simp only [proceed] at h
    split at h
    · exact hreplace _ (derived_blank rfl rfl rfl) h
    · rename_i entry' hlive
      obtain ⟨rfl,rfl⟩ := Prod.mk.inj (Option.some.inj h)
      refine .closed hframes ⟨entry',hlive⟩ ?_ ?_ ?_ ?_ ?_ rfl
      · exact setFrames_other _ t _
      · rw [setFrames_own]
        intro f hf
        obtain rfl | hf := List.mem_cons.mp hf
        · exact derived_blank rfl rfl rfl
        · exact derived_old (by rw [hframes]; exact List.mem_cons_of_mem _ hf)
      · intro kind hkind
        exact update_of_ne hkind _ _
      · simp [State.setRegistry,State.setFrames]
      · simp [State.setRegistry,State.setFrames]
  | leaving handle entry =>
    obtain ⟨rfl,rfl⟩ := Prod.mk.inj (Option.some.inj h)
    exact effect_frames hframes rfl (front_cons (derived_blank rfl rfl rfl)) rfl
      (passed_guard s handle.kind none) fun _ => rfl
  | unlocking entry =>
    obtain ⟨rfl,rfl⟩ := Prod.mk.inj (Option.some.inj h)
    exact effect_frames hframes rfl front_rest rfl (passed_rfl s) (closed_setEntry rfl)

theorem fail_effect {frame : Frame} {rest : List Frame} {event : Event}
    (hframes : s.threads t = frame :: rest) (h : fail t s rest frame = some (event,s')) : Effect t s event s' := by
  cases frame with
  | opening | registering | looking | retained | signalling =>
    obtain ⟨rfl,rfl⟩ := Prod.mk.inj (Option.some.inj h)
    exact effect_frames hframes rfl front_rest rfl (passed_rfl s) fun _ => rfl
  | running | closing =>
    obtain ⟨rfl,rfl⟩ := Prod.mk.inj (Option.some.inj h)
    exact effect_frames hframes rfl (front_cons (derived_blank rfl rfl rfl)) rfl (passed_rfl s) fun _ => rfl
  | locked | tested | marking | clearing | finishing | sealing | erasing | leaving | unlocking => cases h

theorem exhaust_effect {frame : Frame} {rest : List Frame} {event : Event}
    (hframes : s.threads t = frame :: rest) (h : exhaust t s rest frame = some (event,s')) : Effect t s event s' := by
  cases frame with
  | registering kind entry =>
    simp only [exhaust] at h
    split at h
    · cases h
    split at h
    · cases h
    · rename_i hnext
      obtain ⟨rfl,rfl⟩ := Prod.mk.inj (Option.some.inj h)
      refine effect_frames hframes rfl front_rest rfl ?_ fun _ => rfl
      intro kind'
      by_cases hkind : kind' = kind
      · subst hkind
        have hsucc := next_succ hnext
        simp only [State.setRegistry,State.setFrames,update_self]
        exact ⟨trivial,by omega⟩
      · simp [State.setRegistry,State.setFrames,hkind]
  | _ => cases h

theorem step_effect {move : Move} {event : Event} (h : step t move s = some (event,s')) : Effect t s event s' := by
  have hcall (request : Request) (hs : some (Event.began request,s.setFrames t (request.frame :: s.threads t)) =
      some (event,s')) : Effect t s event s' := by
    obtain ⟨rfl,rfl⟩ := Prod.mk.inj (Option.some.inj hs)
    refine .quiet rfl (setFrames_other _ t _) ?_ (passed_rfl s) fun _ => rfl
    rw [setFrames_own]
    intro f hf
    obtain rfl | hf := List.mem_cons.mp hf
    · cases request <;> exact derived_blank rfl rfl rfl
    · exact derived_old hf
  cases hframes : s.threads t with
  | nil =>
    cases move with
    | call request =>
      simp only [step,hframes] at h
      exact hcall request (by rw [hframes]; exact h)
    | proceed | fail | exhaust => simp [step,hframes] at h
  | cons frame rest =>
    cases move with
    | call request =>
      simp only [step,hframes] at h
      split at h
      · exact hcall request (by rw [hframes]; exact h)
      · cases h
    | proceed =>
      simp only [step,hframes] at h
      exact proceed_effect hframes h
    | fail =>
      simp only [step,hframes] at h
      exact fail_effect hframes h
    | exhaust =>
      simp only [step,hframes] at h
      exact exhaust_effect hframes h

/-- The log and the state agree. -/
structure Recorded (log : List Event) (s : State T) : Prop where
  fresh : ∀ handle entry, .opened handle entry ∈ log →
    handle.value.toNat < (s.registry handle.kind).next.toNat
  opened : (log.filterMap Event.openedHandle).Nodup
  live : ∀ handle entry, (s.registry handle.kind).live handle.value = some entry → .opened handle entry ∈ log
  named : ∀ t, ∀ frame ∈ s.threads t, ∀ handle entry, frame.named = some (handle,entry) →
    .opened handle entry ∈ log
  resolved : ∀ handle entry, .resolved handle entry ∈ log → .opened handle entry ∈ log
  erased : ∀ handle entry, .closed handle entry ∈ log → .opened handle entry ∈ log ∧
    (s.registry handle.kind).live handle.value = none ∧ (s.entries entry).closed = true
  closes : (log.filterMap Event.closedHandle).Nodup
  sealed : ∀ t, ∀ frame ∈ s.threads t, ∀ entry, frame.sealed = some entry → (s.entries entry).closed = true
  admitted : ∀ t, ∀ frame ∈ s.threads t, ∀ entry, frame.admitted = some entry →
    (s.entries entry).closed = false

omit [DecidableEq T] in
theorem initial_recorded : Recorded [] ({} : State T) := by
  constructor <;> simp

theorem opened_of_mem {log : List Event} {handle : Handle} (h : handle ∈ log.filterMap Event.openedHandle) :
    ∃ entry, .opened handle entry ∈ log := by
  obtain ⟨event,hevent,hhandle⟩ := List.mem_filterMap.mp h
  cases event with
  | opened handle' entry =>
    cases hhandle
    exact ⟨entry,hevent⟩
  | began | resolved | started | ended | released | closed | silent => cases hhandle

theorem closed_of_mem {log : List Event} {handle : Handle} (h : handle ∈ log.filterMap Event.closedHandle) :
    ∃ entry, .closed handle entry ∈ log := by
  obtain ⟨event,hevent,hhandle⟩ := List.mem_filterMap.mp h
  cases event with
  | closed handle' entry =>
    cases hhandle
    exact ⟨entry,hevent⟩
  | began | resolved | started | ended | released | opened | silent => cases hhandle

theorem filterMap_skip {α : Type} {f : Event → Option α} {log : List Event} {event : Event} (h : f event = none) :
    (log ++ [event]).filterMap f = log.filterMap f := by
  rw [List.filterMap_append,List.filterMap_cons,h]
  exact List.append_nil _

/-- A quiet event is none of those the log is read for. -/
theorem mem_append_quiet {log : List Event} {event e : Event} (hquiet : event.nameless = true)
    (he : e.nameless = false) (h : e ∈ log ++ [event]) : e ∈ log := by
  rcases List.mem_append.mp h with h | h
  · exact h
  · obtain rfl := List.mem_singleton.mp h
    rw [hquiet] at he
    cases he

namespace Recorded
variable {log : List Event} {event : Event}

/-- Derived frames keep their names, seals and admissions. -/
theorem frames_named (h : Recorded log s) (hother : ∀ t' ≠ t, s'.threads t' = s.threads t')
    (hown : ∀ f ∈ s'.threads t, Derived s t f) (t' : T) (frame : Frame) (hframe : frame ∈ s'.threads t')
    (handle : Handle) (entry : EntryId) (hname : frame.named = some (handle,entry)) : .opened handle entry ∈ log := by
  by_cases ht : t' = t
  · subst ht
    obtain ⟨f,hf,hf'⟩ := (hown frame hframe).named _ hname
    exact h.named t' f hf handle entry hf'
  · rw [hother t' ht] at hframe
    exact h.named t' frame hframe handle entry hname

theorem frames_sealed (h : Recorded log s) (hother : ∀ t' ≠ t, s'.threads t' = s.threads t')
    (hown : ∀ f ∈ s'.threads t, Derived s t f) (t' : T) (frame : Frame) (hframe : frame ∈ s'.threads t')
    (entry : EntryId) (hsealed : frame.sealed = some entry) : (s.entries entry).closed = true := by
  by_cases ht : t' = t
  · subst ht
    obtain ⟨f,hf,hf'⟩ := (hown frame hframe).sealed _ hsealed
    exact h.sealed t' f hf entry hf'
  · rw [hother t' ht] at hframe
    exact h.sealed t' frame hframe entry hsealed

theorem frames_admitted (h : Recorded log s) (hother : ∀ t' ≠ t, s'.threads t' = s.threads t')
    (hown : ∀ f ∈ s'.threads t, Derived s t f) (t' : T) (frame : Frame) (hframe : frame ∈ s'.threads t')
    (entry : EntryId) (hadmitted : frame.admitted = some entry) : (s.entries entry).closed = false := by
  by_cases ht : t' = t
  · subst ht
    obtain ⟨f,hf,hf'⟩ | hclosed := (hown frame hframe).admitted _ hadmitted
    · exact h.admitted t' f hf entry hf'
    · exact hclosed
  · rw [hother t' ht] at hframe
    exact h.admitted t' frame hframe entry hadmitted

theorem quiet (h : Recorded log s) (hevent : event.nameless = true) (hother : ∀ t' ≠ t, s'.threads t' = s.threads t')
    (hown : ∀ f ∈ s'.threads t, Derived s t f) (hregistry : Passed s s')
    (hclosed : ∀ e, (s'.entries e).closed = (s.entries e).closed) : Recorded (log ++ [event]) s' where
  fresh := by
    intro handle entry hopened
    exact Nat.lt_of_lt_of_le (h.fresh handle entry (mem_append_quiet hevent rfl hopened)) (hregistry handle.kind).2
  opened := by
    rw [filterMap_skip (by cases event <;> first | rfl | cases hevent)]
    exact h.opened
  live := by
    intro handle entry hlive
    rw [(hregistry handle.kind).1] at hlive
    exact List.mem_append_left _ (h.live handle entry hlive)
  named := by
    intro t' frame hframe handle entry hname
    exact List.mem_append_left _ (h.frames_named hother hown t' frame hframe handle entry hname)
  resolved := by
    intro handle entry hresolved
    exact List.mem_append_left _ (h.resolved handle entry (mem_append_quiet hevent rfl hresolved))
  erased := by
    intro handle entry herased
    obtain ⟨hopened,hlive,hflag⟩ := h.erased handle entry (mem_append_quiet hevent rfl herased)
    rw [(hregistry handle.kind).1,hclosed]
    exact ⟨List.mem_append_left _ hopened,hlive,hflag⟩
  closes := by
    rw [filterMap_skip (by cases event <;> first | rfl | cases hevent)]
    exact h.closes
  sealed := by
    intro t' frame hframe entry hsealed
    rw [hclosed]
    exact h.frames_sealed hother hown t' frame hframe entry hsealed
  admitted := by
    intro t' frame hframe entry hadmitted
    rw [hclosed]
    exact h.frames_admitted hother hown t' frame hframe entry hadmitted

/-- A new handle is larger than every one before it. -/
theorem opened_next {kind : Kind} {entry : EntryId} (h : Recorded log s)
    (hother : ∀ t' ≠ t, s'.threads t' = s.threads t') (hown : ∀ f ∈ s'.threads t, Derived s t f)
    (hregistry : ∀ kind' ≠ kind, s'.registry kind' = s.registry kind')
    (hlive : (s'.registry kind).live = update (s.registry kind).live (s.registry kind).next (some entry))
    (hnext : (s'.registry kind).next.toNat = (s.registry kind).next.toNat + 1)
    (hentries : s'.entries = s.entries) :
    Recorded (log ++ [.opened ⟨kind,(s.registry kind).next⟩ entry]) s' := by
  have hmem {e : Event} (he : e ∈ log ++ [.opened ⟨kind,(s.registry kind).next⟩ entry])
      (hne : e ≠ .opened ⟨kind,(s.registry kind).next⟩ entry) : e ∈ log := by
    rcases List.mem_append.mp he with he | he
    · exact he
    · exact absurd (List.mem_singleton.mp he) hne
  have hunused : ∀ e, .opened ⟨kind,(s.registry kind).next⟩ e ∉ log := by
    intro e he
    exact Nat.lt_irrefl _ (h.fresh _ e he)
  refine ⟨?_,?_,?_,?_,?_,?_,?_,?_,?_⟩
  · intro handle e hopened
    obtain ⟨kind',value⟩ := handle
    rcases List.mem_append.mp hopened with hopened | hopened
    · have hfresh := h.fresh _ e hopened
      by_cases hkind : kind' = kind
      · subst hkind
        change value.toNat < (s'.registry kind').next.toNat
        change value.toNat < (s.registry kind').next.toNat at hfresh
        omega
      · change value.toNat < (s'.registry kind').next.toNat
        rw [hregistry kind' hkind]
        exact hfresh
    · cases List.mem_singleton.mp hopened
      change (s.registry kind).next.toNat < (s'.registry kind).next.toNat
      omega
  · rw [List.filterMap_append]
    refine List.nodup_append.mpr ⟨h.opened,by simp [Event.openedHandle],?_⟩
    rintro handle hhandle _ hnew rfl
    simp only [List.filterMap_cons,Event.openedHandle,List.filterMap_nil,List.mem_singleton] at hnew
    obtain ⟨e,he⟩ := opened_of_mem hhandle
    subst hnew
    exact hunused e he
  · intro handle e hlive'
    obtain ⟨kind',value⟩ := handle
    by_cases hkind : kind' = kind
    · subst hkind
      change (s'.registry kind').live value = some e at hlive'
      rw [hlive] at hlive'
      by_cases hvalue : value = (s.registry kind').next
      · subst hvalue
        rw [update_self] at hlive'
        cases hlive'
        exact List.mem_append_right _ (List.mem_singleton_self _)
      · rw [update_of_ne hvalue] at hlive'
        exact List.mem_append_left _ (h.live ⟨kind',value⟩ e hlive')
    · change (s'.registry kind').live value = some e at hlive'
      rw [hregistry kind' hkind] at hlive'
      exact List.mem_append_left _ (h.live ⟨kind',value⟩ e hlive')
  · intro t' frame hframe handle e hname
    exact List.mem_append_left _ (h.frames_named hother hown t' frame hframe handle e hname)
  · intro handle e hresolved
    exact List.mem_append_left _ (h.resolved handle e (hmem hresolved (by simp)))
  · intro handle e herased
    obtain ⟨hopened,hdead,hflag⟩ := h.erased handle e (hmem herased (by simp))
    refine ⟨List.mem_append_left _ hopened,?_,by rw [hentries]; exact hflag⟩
    obtain ⟨kind',value⟩ := handle
    by_cases hkind : kind' = kind
    · subst hkind
      change (s'.registry kind').live value = none
      have hvalue : value ≠ (s.registry kind').next := by
        rintro rfl
        exact hunused e hopened
      rw [hlive,update_of_ne hvalue]
      exact hdead
    · change (s'.registry kind').live value = none
      rw [hregistry kind' hkind]
      exact hdead
  · rw [filterMap_skip rfl]
    exact h.closes
  · intro t' frame hframe e hsealed
    rw [hentries]
    exact h.frames_sealed hother hown t' frame hframe e hsealed
  · intro t' frame hframe e hadmitted
    rw [hentries]
    exact h.frames_admitted hother hown t' frame hframe e hadmitted

/-- Only live handles resolve. -/
theorem resolved_live {handle : Handle} {entry : EntryId} {frame : Frame} {rest : List Frame} (h : Recorded log s)
    (hlive : (s.registry handle.kind).live handle.value = some entry) (hframes : ∀ f ∈ rest, f ∈ s.threads t)
    (hthreads : s'.threads = update s.threads t (frame :: rest))
    (hnamed : ∀ name, frame.named = some name → name = (handle,entry)) (hsealed : frame.sealed = none)
    (hadmitted : frame.admitted = none) (hregistry : s'.registry = s.registry) (hentries : s'.entries = s.entries) :
    Recorded (log ++ [.resolved handle entry]) s' := by
  have hmem {e : Event} (he : e ∈ log ++ [.resolved handle entry]) (hne : e ≠ .resolved handle entry) : e ∈ log := by
    rcases List.mem_append.mp he with he | he
    · exact he
    · exact absurd (List.mem_singleton.mp he) hne
  have hopen := h.live handle entry hlive
  have hsame {t' : T} {f : Frame} (hf : f ∈ s'.threads t') : f ∈ s.threads t' ∨ f = frame := by
    by_cases ht : t' = t
    · subst ht
      rw [hthreads,update_self] at hf
      obtain rfl | hf := List.mem_cons.mp hf
      · exact .inr rfl
      · exact .inl (hframes f hf)
    · rw [hthreads,update_of_ne ht] at hf
      exact .inl hf
  refine ⟨?_,?_,?_,?_,?_,?_,?_,?_,?_⟩
  · intro handle' e hopened
    rw [hregistry]
    exact h.fresh handle' e (hmem hopened (by simp))
  · rw [filterMap_skip rfl]
    exact h.opened
  · intro handle' e hlive'
    rw [hregistry] at hlive'
    exact List.mem_append_left _ (h.live handle' e hlive')
  · intro t' f hf handle' e hname
    obtain hf | rfl := hsame hf
    · exact List.mem_append_left _ (h.named t' f hf handle' e hname)
    · cases hnamed _ hname
      exact List.mem_append_left _ hopen
  · intro handle' e hresolved
    rcases List.mem_append.mp hresolved with hresolved | hresolved
    · exact List.mem_append_left _ (h.resolved handle' e hresolved)
    · cases List.mem_singleton.mp hresolved
      exact List.mem_append_left _ hopen
  · intro handle' e herased
    rw [hregistry,hentries]
    obtain ⟨hopened,hdead,hflag⟩ := h.erased handle' e (hmem herased (by simp))
    exact ⟨List.mem_append_left _ hopened,hdead,hflag⟩
  · rw [filterMap_skip rfl]
    exact h.closes
  · intro t' f hf e hseal
    rw [hentries]
    obtain hf | rfl := hsame hf
    · exact h.sealed t' f hf e hseal
    · rw [hsealed] at hseal
      cases hseal
  · intro t' f hf e hadmit
    rw [hentries]
    obtain hf | rfl := hsame hf
    · exact h.admitted t' f hf e hadmit
    · rw [hadmitted] at hadmit
      cases hadmit

/-- An entry is sealed under its lock, so that no other thread is about to use it. -/
theorem sealed_held {handle : Handle} {entry : EntryId} {rest : List Frame} (h : Recorded log s)
    (haccounted : Accounted s) (hframes : s.threads t = .sealing handle entry :: rest)
    (hthreads : s'.threads = update s.threads t (.erasing handle entry :: rest))
    (hregistry : s'.registry = s.registry)
    (hentries : s'.entries = update s.entries entry {s.entries entry with closed := true}) :
    Recorded (log ++ [.silent]) s' := by
  have hkept {e : EntryId} (hflag : (s.entries e).closed = true) : (s'.entries e).closed = true := by
    by_cases he : e = entry
    · rw [he,entries_own hentries]
    · rw [entries_other hentries he]
      exact hflag
  have hsame {t' : T} {f : Frame} (hf : f ∈ s'.threads t') : f ∈ s.threads t' ∨ f = .erasing handle entry := by
    by_cases ht : t' = t
    · subst ht
      rw [threads_own hthreads] at hf
      obtain rfl | hf := List.mem_cons.mp hf
      · exact .inr rfl
      · exact .inl (by rw [hframes]; exact List.mem_cons_of_mem _ hf)
    · rw [threads_other hthreads ht] at hf
      exact .inl hf
  have hmem {e : Event} (he : e ∈ log ++ [.silent]) (hne : e ≠ .silent) : e ∈ log := by
    rcases List.mem_append.mp he with he | he
    · exact he
    · exact absurd (List.mem_singleton.mp he) hne
  refine ⟨?_,?_,?_,?_,?_,?_,?_,?_,?_⟩
  · intro handle' e hopened
    rw [hregistry]
    exact h.fresh handle' e (hmem hopened (by simp))
  · rw [filterMap_skip rfl]
    exact h.opened
  · intro handle' e hlive
    rw [hregistry] at hlive
    exact List.mem_append_left _ (h.live handle' e hlive)
  · intro t' f hf handle' e hname
    obtain hf | rfl := hsame hf
    · exact List.mem_append_left _ (h.named t' f hf handle' e hname)
    · cases hname
      refine List.mem_append_left _ (h.named t (.sealing handle entry) ?_ handle entry rfl)
      rw [hframes]
      exact List.mem_cons_self
  · intro handle' e hresolved
    exact List.mem_append_left _ (h.resolved handle' e (hmem hresolved (by simp)))
  · intro handle' e herased
    obtain ⟨hopened,hdead,hflag⟩ := h.erased handle' e (hmem herased (by simp))
    rw [hregistry]
    exact ⟨List.mem_append_left _ hopened,hdead,hkept hflag⟩
  · rw [filterMap_skip rfl]
    exact h.closes
  · intro t' f hf e hseal
    obtain hf | rfl := hsame hf
    · exact hkept (h.sealed t' f hf e hseal)
    · cases hseal
      rw [entries_own hentries]
  · intro t' f hf e hadmit
    obtain hf | rfl := hsame hf
    · have hopen := h.admitted t' f hf e hadmit
      by_cases he : e = entry
      · subst he
        cases f <;> cases hadmit
        have htop : .sealing handle e ∈ s.threads t := by
          rw [hframes]
          exact List.mem_cons_self
        obtain rfl := haccounted.owner_eq htop rfl hf rfl
        rw [hframes] at hf
        obtain hf | hf := List.mem_cons.mp hf
        · cases hf
        · cases haccounted.tail hframes _ hf
      · rw [entries_other hentries he]
        exact hopen
    · cases hadmit

/-- An erased handle stays dead. -/
theorem closed_live {handle : Handle} {entry : EntryId} {rest : List Frame} (h : Recorded log s)
    (hframes : s.threads t = .erasing handle entry :: rest)
    (hlive : ∃ e, (s.registry handle.kind).live handle.value = some e)
    (hother : ∀ t' ≠ t, s'.threads t' = s.threads t') (hown : ∀ f ∈ s'.threads t, Derived s t f)
    (hregistry : ∀ kind ≠ handle.kind, s'.registry kind = s.registry kind)
    (hlive' : (s'.registry handle.kind).live = update (s.registry handle.kind).live handle.value none)
    (hnext : (s'.registry handle.kind).next = (s.registry handle.kind).next) (hentries : s'.entries = s.entries) :
    Recorded (log ++ [.closed handle entry]) s' := by
  have hmem {e : Event} (he : e ∈ log ++ [.closed handle entry]) (hne : e ≠ .closed handle entry) : e ∈ log := by
    rcases List.mem_append.mp he with he | he
    · exact he
    · exact absurd (List.mem_singleton.mp he) hne
  have htop : .erasing handle entry ∈ s.threads t := by
    rw [hframes]
    exact List.mem_cons_self
  have hnextOf (kind : Kind) : (s'.registry kind).next = (s.registry kind).next := by
    by_cases hkind : kind = handle.kind
    · rw [hkind,hnext]
    · rw [hregistry kind hkind]
  have hliveOf (handle' : Handle) : (s'.registry handle'.kind).live handle'.value =
      if handle' = handle then none else (s.registry handle'.kind).live handle'.value := by
    by_cases hhandle : handle' = handle
    · subst hhandle
      rw [hlive',update_self,if_pos rfl]
    · rw [if_neg hhandle]
      by_cases hkind : handle'.kind = handle.kind
      · have hvalue : handle'.value ≠ handle.value := by
          intro hvalue
          obtain ⟨kind,value⟩ := handle'
          obtain ⟨kind',value'⟩ := handle
          cases hkind
          cases hvalue
          exact hhandle rfl
        rw [hkind,hlive',update_of_ne hvalue]
      · rw [hregistry _ hkind]
  refine ⟨?_,?_,?_,?_,?_,?_,?_,?_,?_⟩
  · intro handle' e hopened
    rw [hnextOf]
    exact h.fresh handle' e (hmem hopened (by simp))
  · rw [filterMap_skip rfl]
    exact h.opened
  · intro handle' e hlive''
    rw [hliveOf] at hlive''
    split at hlive''
    · cases hlive''
    · exact List.mem_append_left _ (h.live handle' e hlive'')
  · intro t' frame hframe handle' e hname
    exact List.mem_append_left _ (h.frames_named hother hown t' frame hframe handle' e hname)
  · intro handle' e hresolved
    exact List.mem_append_left _ (h.resolved handle' e (hmem hresolved (by simp)))
  · intro handle' e herased
    rw [hliveOf,hentries]
    rcases List.mem_append.mp herased with herased | herased
    · obtain ⟨hopened,hdead,hflag⟩ := h.erased handle' e herased
      refine ⟨List.mem_append_left _ hopened,?_,hflag⟩
      rw [hdead]
      split <;> rfl
    · cases List.mem_singleton.mp herased
      exact ⟨List.mem_append_left _ (h.named t _ htop handle entry rfl),if_pos rfl,h.sealed t _ htop entry rfl⟩
  · rw [List.filterMap_append]
    refine List.nodup_append.mpr ⟨h.closes,by simp [Event.closedHandle],?_⟩
    rintro handle' hhandle _ hnew rfl
    simp only [List.filterMap_cons,Event.closedHandle,List.filterMap_nil,List.mem_singleton] at hnew
    subst hnew
    obtain ⟨e,he⟩ := closed_of_mem hhandle
    obtain ⟨e',he'⟩ := hlive
    rw [(h.erased _ e he).2.1] at he'
    cases he'
  · intro t' frame hframe e hsealed
    rw [hentries]
    exact h.frames_sealed hother hown t' frame hframe e hsealed
  · intro t' frame hframe e hadmitted
    rw [hentries]
    exact h.frames_admitted hother hown t' frame hframe e hadmitted

end Recorded

/-- Every step keeps the agreement of log and state. -/
theorem Effect.recorded {log : List Event} {event : Event} (h : Effect t s event s') (hrecorded : Recorded log s)
    (haccounted : Accounted s) : Recorded (log ++ [event]) s' := by
  cases h with
  | quiet hevent hother hown hregistry hclosed =>
    refine hrecorded.quiet ?_ hother hown hregistry hclosed
    cases event <;> first | rfl | cases hevent
  | opened hother hown hregistry hlive hnext hclosed =>
    exact hrecorded.opened_next hother hown hregistry hlive hnext hclosed
  | resolved hlive hframes hthreads hnamed hsealed hadmitted hregistry hclosed =>
    exact hrecorded.resolved_live hlive hframes hthreads hnamed hsealed hadmitted hregistry hclosed
  | started hframe hother hown hregistry hclosed =>
    refine hrecorded.quiet rfl hother hown ?_ hclosed
    intro kind
    rw [hregistry]
    exact ⟨rfl,Nat.le_refl _⟩
  | sealed hframes hthreads hregistry hclosed =>
    exact hrecorded.sealed_held haccounted hframes hthreads hregistry hclosed
  | closed hframes hlive hother hown hregistry hlive' hnext hclosed =>
    exact hrecorded.closed_live hframes hlive hother hown hregistry hlive' hnext hclosed

/-- The calls of any number of threads from the empty registries. -/
abbrev Reached (log : List Event) (s : State T) : Prop := Runs Next {} log s

theorem reached_inv {log : List Event} (h : Reached log s) : Accounted s ∧ Recorded log s := by
  refine Runs.inv (I := fun log s => Accounted s ∧ Recorded log s) h ⟨initial_accounted,initial_recorded⟩ ?_
  rintro log s event s' ⟨haccounted,hrecorded⟩ ⟨t,move,hstep⟩
  exact ⟨(step_shift hstep).accounted haccounted,(step_effect hstep).recorded hrecorded haccounted⟩

/-- An operation on the entry is in progress in some call of the thread. -/
def InProgress (s : State T) (t : T) (entry : EntryId) : Prop := ∃ frame ∈ s.threads t, frame.operated = some entry

theorem Accounted.not_inProgress (h : Accounted s) {entry : EntryId} (hactive : (s.entries entry).active = false)
    (t : T) : ¬InProgress s t entry := by
  rintro ⟨frame,hframe,hoperated⟩
  have hcount := (h.account t entry).operated
  rw [hactive,if_neg (by simp)] at hcount
  have hnone := List.countP_eq_zero.mp hcount frame hframe
  exact hnone (Account.operates_eq.mpr hoperated)

/-- A property that at most one element has is met at one place. -/
theorem index_unique {α : Type} {p : α → Bool} {l : List α} (h : l.countP p ≤ 1) {i j : Nat} {x y : α}
    (hi : l[i]? = some x) (hj : l[j]? = some y) (hx : p x = true) (hy : p y = true) : i = j := by
  induction l generalizing i j with
  | nil => cases hi
  | cons a l ih =>
    have hrest {k : Nat} {z : α} (hk : l[k]? = some z) (hz : p z = true) : l.countP p ≠ 0 := by
      intro hzero
      exact List.countP_eq_zero.mp hzero z (List.mem_of_getElem? hk) hz
    rw [List.countP_cons] at h
    cases i with
    | zero =>
      cases j with
      | zero => rfl
      | succ j =>
        cases hi
        rw [if_pos hx] at h
        exact absurd (Nat.le_zero.mp (Nat.le_of_succ_le_succ h)) (hrest hj hy)
    | succ i =>
      cases j with
      | zero =>
        cases hj
        rw [if_pos hy] at h
        exact absurd (Nat.le_zero.mp (Nat.le_of_succ_le_succ h)) (hrest hi hx)
      | succ j => rw [ih (Nat.le_of_add_right_le h) hi hj]

theorem Accounted.exclusive (h : Accounted s) {entry : EntryId} {t' : T} {i j : Nat} {frame frame' : Frame}
    (hi : (s.threads t)[i]? = some frame) (hj : (s.threads t')[j]? = some frame')
    (hoperated : frame.operated = some entry) (hoperated' : frame'.operated = some entry) : t = t' ∧ i = j := by
  have hsame : t = t' := h.owner_eq (List.mem_of_getElem? hi) (Frame.held_of_operated hoperated)
    (List.mem_of_getElem? hj) (Frame.held_of_operated hoperated')
  subst hsame
  refine ⟨rfl,index_unique (p := Frame.operates entry) ?_ hi hj (Account.operates_eq.mpr hoperated)
    (Account.operates_eq.mpr hoperated')⟩
  rw [(h.account t entry).operated]
  split <;> omega

/-- After an operation its lock is free. -/
theorem Accounted.finished_free (h : Accounted s) {entry : EntryId} {rest : List Frame}
    (hframes : s.threads t = .finishing entry :: rest) :
    (s.entries entry).active = false ∧ (s.entries entry).operation.unlock = .free := by
  have haccount := h.account t entry
  rw [hframes] at haccount
  have hactive := haccount.idle _ List.mem_cons_self rfl
  have hheld : (s.entries entry).operation.depth t ≠ 0 := haccount.depth_of_held rfl
  refine ⟨hactive,RecursiveMutex.eq_free fun t' => ?_⟩
  rw [RecursiveMutex.unlock_depth hheld]
  by_cases ht : t' = t
  · subst ht
    rw [if_pos rfl]
    have hreleased := haccount.release rfl rfl
    rw [← hreleased.held,List.countP_eq_zero]
    intro frame hframe hholds
    have hoperated : frame.operated = some entry := by
      rw [← Frame.operated_of_callsOut (h.tail hframes frame hframe)]
      exact Account.holds_eq.mp hholds
    refine h.not_inProgress hactive t' ⟨frame,?_,hoperated⟩
    rw [hframes]
    exact List.mem_cons_of_mem _ hframe
  · rw [if_neg ht]
    by_contra hother
    exact ht (RecursiveMutex.owner_unique (by simpa using hother) hheld)

/-- What the registries promise in every state that any interleaving reaches. -/
structure Safe (log : List Event) (s : State T) : Prop where
  unreused : (log.filterMap Event.openedHandle).Nodup
  resolves : ∀ handle entry, .resolved handle entry ∈ log → .opened handle entry ∈ log
  exclusive : ∀ (entry : EntryId) (t t' : T) (i j : Nat) (frame frame' : Frame),
    (s.threads t)[i]? = some frame → (s.threads t')[j]? = some frame' →
    frame.operated = some entry → frame'.operated = some entry → t = t' ∧ i = j
  unclosed : ∀ t move handle entry s', step t move s = some (.closed handle entry,s') →
    ∀ t', ¬InProgress s t' entry
  final : ∀ handle entry, .closed handle entry ∈ log →
    ∀ t move s', step t move s ≠ some (.started entry,s')
  once : (log.filterMap Event.closedHandle).Nodup
  ends : ∀ t entry rest move, s.threads t = .running entry :: rest → move = .proceed ∨ move = .fail →
    ∃ s', step t move s = some (.ended entry,s') ∧ s'.threads t = .clearing entry :: rest
  clears : ∀ t entry rest, s.threads t = .clearing entry :: rest →
    ∃ s', step t .proceed s = some (.silent,s') ∧ s'.threads t = .finishing entry :: rest
  available : ∀ t entry rest, s.threads t = .finishing entry :: rest →
    ∃ s', step t .proceed s = some (.released entry,s') ∧ s'.threads t = rest ∧
      (s'.entries entry).active = false ∧ (s'.entries entry).operation = .free

/-- Handles stay unique, operations exclusive, closed entries closed and finished entries available,
for any number of threads and handles and any interleaving of their steps. -/
theorem registry_safe {log : List Event} (h : Reached log s) : Safe log s := by
  obtain ⟨haccounted,hrecorded⟩ := reached_inv h
  refine ⟨hrecorded.opened,hrecorded.resolved,?_,?_,?_,hrecorded.closes,?_,?_,?_⟩
  · intro entry t t' i j frame frame' hi hj hoperated hoperated'
    exact haccounted.exclusive hi hj hoperated hoperated'
  · intro t move handle entry s' hstep t'
    have heffect := step_effect hstep
    cases heffect with
    | quiet hevent => cases hevent
    | closed hframes =>
      have hidle := (haccounted.account t entry).idle (.erasing handle entry) (by rw [hframes]; exact List.mem_cons_self) rfl
      exact haccounted.not_inProgress hidle t'
  · intro handle entry hclosed t move s' hstep
    have hflag := (hrecorded.erased handle entry hclosed).2.2
    have heffect := step_effect hstep
    cases heffect with
    | quiet hevent => cases hevent
    | started hframe =>
      rw [hrecorded.admitted t _ hframe entry rfl] at hflag
      cases hflag
  · intro t entry rest move hframes hmove
    refine ⟨s.setFrames t (.clearing entry :: rest),?_,setFrames_own s t _⟩
    rcases hmove with rfl | rfl <;> simp only [step,hframes] <;> rfl
  · intro t entry rest hframes
    refine ⟨(s.setEntry entry {s.entries entry with active := false}).setFrames t (.finishing entry :: rest),
      ?_,setFrames_own _ t _⟩
    simp only [step,hframes]
    rfl
  · intro t entry rest hframes
    obtain ⟨hactive,hfree⟩ := haccounted.finished_free hframes
    refine ⟨(s.setEntry entry {s.entries entry with operation := (s.entries entry).operation.unlock}).setFrames t rest,
      ?_,setFrames_own _ t _,?_,?_⟩
    · simp only [step,hframes]
      rfl
    · simpa [State.setEntry,State.setFrames] using hactive
    · simpa [State.setEntry,State.setFrames] using hfree

/-- Thread 7 opens a card; while thread 9 operates on it, its close is refused; afterwards it closes it, and
thread 9 finds the handle stale. -/
def contended : List (Nat × Move) :=
  [(7,.call (.dfOpen .card)),(7,.proceed),(7,.proceed),
    (9,.call (.call (.invoke 5000) ⟨.card,1⟩)),(7,.call (.call .close ⟨.card,1⟩)),(9,.proceed),(7,.proceed),
    (9,.proceed),(9,.proceed),(9,.proceed),(9,.proceed),(7,.proceed),(9,.proceed),(9,.proceed),(9,.proceed),
    (7,.call (.call .close ⟨.card,1⟩)),(7,.proceed),(7,.proceed),(7,.proceed),(7,.proceed),(7,.proceed),(7,.proceed),
    (9,.call (.call (.invoke 5000) ⟨.card,1⟩)),(7,.proceed),(7,.proceed),(9,.proceed)]

def contendedLog : List Event :=
  [.began (.dfOpen .card),.silent,.opened ⟨.card,1⟩ 0,
    .began (.call (.invoke 5000) ⟨.card,1⟩),.began (.call .close ⟨.card,1⟩),.resolved ⟨.card,1⟩ 0,.resolved ⟨.card,1⟩ 0,
    .silent,.silent,.silent,.started 0,.silent,.ended 0,.silent,.released 0,
    .began (.call .close ⟨.card,1⟩),.resolved ⟨.card,1⟩ 0,.silent,.silent,.silent,.silent,.closed ⟨.card,1⟩ 0,
    .began (.call (.invoke 5000) ⟨.card,1⟩),.silent,.silent,.silent]

theorem registry_safe_contended : ∃ s : State Nat, play contended [] {} = some (contendedLog,s) ∧
    Safe contendedLog s ∧ (s.registry .card).live 1 = none ∧ s.threads 7 = [] ∧ s.threads 9 = [] := by
  have hplay : play contended [] ({} : State Nat) = some (contendedLog,_) := rfl
  exact ⟨_,hplay,registry_safe (play_runs .start hplay),rfl,rfl,rfl⟩

end Effects
end DesfireSdk.CApi
