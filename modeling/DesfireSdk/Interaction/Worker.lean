import DesfireSdk.Interaction.Threads

/-!
# A worker with interrupts

Items wait in a queue for one worker. An interrupt is requested on behalf of an item, but it is addressed
to the worker, and arrives some time later.
-/
namespace Interaction

/-- How far an item got. -/
inductive Stage
  | queued | running | removed | done
  deriving DecidableEq, Repr

/-- A worker with its queue, and the interrupts that have not arrived, each with the item it is for. -/
structure Worker (T : Type) where
  stage : T → Option Stage := fun _ => none
  queue : List T := []
  current : Option T := none
  interrupts : List T := []

namespace Worker

inductive Event (T : Type)
  | submit (t : T) | skip (t : T) | start (t : T) | act (t : T) | finish (t : T)
  | remove (t : T) | request (t : T) | interrupt (t : T) | drop (t : T) | drain | other

variable {T : Type} [DecidableEq T]

inductive Next : Worker T → Event T → Worker T → Prop
  | submit {w : Worker T} (t : T) (hstage : w.stage t = none) :
      Next w (.submit t) {w with stage := Function.update w.stage t (some .queued),queue := w.queue ++ [t]}
  | skip {w : Worker T} (t : T) (rest : List T) (hqueue : w.queue = t :: rest) :
      Next w (.skip t) {w with queue := rest}
  | start {w : Worker T} (t : T) (rest : List T) (hcurrent : w.current = none) (hqueue : w.queue = t :: rest)
      (hstage : w.stage t ≠ some .removed) :
      Next w (.start t)
        {w with stage := Function.update w.stage t (some .running),queue := rest,current := some t}
  | act {w : Worker T} (t : T) (hcurrent : w.current = some t) : Next w (.act t) w
  | finish {w : Worker T} (t : T) (hcurrent : w.current = some t) :
      Next w (.finish t) {w with stage := Function.update w.stage t (some .done),current := none}
  | remove {w : Worker T} (t : T) (hstage : w.stage t = some .queued ∨ w.stage t = some .removed) :
      Next w (.remove t) {w with stage := Function.update w.stage t (some .removed)}
  | request {w : Worker T} (t : T) (hstage : w.stage t = some .running ∨ w.stage t = some .done) :
      Next w (.request t) {w with interrupts := w.interrupts ++ [t]}
  | interrupt {w : Worker T} (t : T) (hrequested : t ∈ w.interrupts) :
      Next w (.interrupt t) {w with interrupts := w.interrupts.erase t}
  | drop {w : Worker T} (t : T) (hrequested : t ∈ w.interrupts) :
      Next w (.drop t) {w with interrupts := w.interrupts.erase t}
  | drain {w : Worker T} :
      Next w .drain {w with stage := fun t => if t ∈ w.queue then some .removed else w.stage t,queue := []}
  | other {w : Worker T} : Next w .other w

/-- The queue holds what was not started, once each; what runs is with the worker; and an interrupt is only
ever requested for what was started. -/
structure Inv (w : Worker T) : Prop where
  queued : ∀ t ∈ w.queue, w.stage t = some .queued ∨ w.stage t = some .removed
  once : w.queue.Nodup
  running : ∀ t, w.stage t = some .running ↔ w.current = some t
  requested : ∀ t ∈ w.interrupts, w.stage t = some .running ∨ w.stage t = some .done

omit [DecidableEq T] in
theorem inv_empty : ({} : Worker T).Inv := by
  refine ⟨fun t ht => absurd ht List.not_mem_nil,.nil,fun t => ?_,fun t ht => absurd ht List.not_mem_nil⟩
  constructor <;> rintro ⟨⟩

section Steps
variable {w w' : Worker T} {e : Event T}

theorem update_iff {stage : T → Option Stage} {t u : T} {s s' : Stage} :
    Function.update stage t (some s) u = some s' ↔ (u = t ∧ s = s') ∨ (u ≠ t ∧ stage u = some s') := by
  by_cases hu : u = t
  · subst hu
    simp
  · simp [hu]

omit [DecidableEq T] in
/-- An item that did not get as far is another one. -/
theorem ne_of_stage {stage : T → Option Stage} {t u : T} {s : Option Stage} {s' : Stage} (ht : stage t = s)
    (hu : stage u = some s') (hs : s ≠ some s') : u ≠ t := by
  rintro rfl
  exact hs (ht.symm.trans hu)

theorem Inv.submit (hinv : w.Inv) {t : T} (hstage : w.stage t = none) :
    ({w with stage := Function.update w.stage t (some .queued),queue := w.queue ++ [t]} : Worker T).Inv := by
  have hkept {u : T} {s : Stage} (hu : w.stage u = some s) :
      Function.update w.stage t (some .queued) u = some s :=
    update_iff.mpr (.inr ⟨ne_of_stage hstage hu (by simp),hu⟩)
  have hnew : t ∉ w.queue := by
    intro ht
    rcases hinv.queued t ht with h | h <;> exact ne_of_stage hstage h (by simp) rfl
  refine ⟨?_,?_,?_,?_⟩
  · intro u hu
    rcases List.mem_append.mp hu with hu | hu
    · rcases hinv.queued u hu with h | h
      · exact .inl (hkept h)
      · exact .inr (hkept h)
    · exact .inl (update_iff.mpr (.inl ⟨List.mem_singleton.mp hu,rfl⟩))
  · refine List.nodup_append.mpr ⟨hinv.once,List.pairwise_singleton _ t,?_⟩
    rintro u hu v hv rfl
    exact hnew (List.mem_singleton.mp hv ▸ hu)
  · intro u
    constructor
    · intro h
      rcases update_iff.mp h with ⟨_,⟨⟩⟩ | ⟨_,h⟩
      exact (hinv.running u).mp h
    · exact fun h => hkept ((hinv.running u).mpr h)
  · intro u hu
    rcases hinv.requested u hu with h | h
    · exact .inl (hkept h)
    · exact .inr (hkept h)

theorem Inv.start (hinv : w.Inv) {t : T} {rest : List T} (hcurrent : w.current = none)
    (hqueue : w.queue = t :: rest) :
    ({w with stage := Function.update w.stage t (some .running),queue := rest,current := some t} :
      Worker T).Inv := by
  have hmem {u : T} (hu : u ∈ rest) : u ∈ w.queue := by
    rw [hqueue]
    exact List.mem_cons_of_mem t hu
  have honce := hinv.once
  rw [hqueue] at honce
  have hidle {u : T} : w.stage u ≠ some .running := by
    intro h
    have hnone := (hinv.running u).mp h
    rw [hcurrent] at hnone
    cases hnone
  refine ⟨?_,(List.nodup_cons.mp honce).2,?_,?_⟩
  · intro u hu
    have hne : u ≠ t := by
      rintro rfl
      exact (List.nodup_cons.mp honce).1 hu
    rcases hinv.queued u (hmem hu) with h | h
    · exact .inl (update_iff.mpr (.inr ⟨hne,h⟩))
    · exact .inr (update_iff.mpr (.inr ⟨hne,h⟩))
  · intro u
    constructor
    · intro h
      rcases update_iff.mp h with ⟨rfl,_⟩ | ⟨_,h⟩
      · rfl
      · exact absurd h hidle
    · intro h
      obtain rfl := Option.some.inj h
      exact update_iff.mpr (.inl ⟨rfl,rfl⟩)
  · intro u hu
    rcases hinv.requested u hu with h | h
    · exact absurd h hidle
    · refine .inr (update_iff.mpr (.inr ⟨?_,h⟩))
      rintro rfl
      have ht : u ∈ w.queue := by
        rw [hqueue]
        exact List.mem_cons_self
      rcases hinv.queued u ht with h' | h' <;> rw [h] at h' <;> cases h'

theorem Inv.finish (hinv : w.Inv) {t : T} (hcurrent : w.current = some t) :
    ({w with stage := Function.update w.stage t (some .done),current := none} : Worker T).Inv := by
  have hrunning : w.stage t = some .running := (hinv.running t).mpr hcurrent
  refine ⟨?_,hinv.once,?_,?_⟩
  · intro u hu
    rcases hinv.queued u hu with h | h
    · exact .inl (update_iff.mpr (.inr ⟨ne_of_stage hrunning h (by simp),h⟩))
    · exact .inr (update_iff.mpr (.inr ⟨ne_of_stage hrunning h (by simp),h⟩))
  · intro u
    constructor
    · intro h
      rcases update_iff.mp h with ⟨_,⟨⟩⟩ | ⟨hne,h⟩
      have hu := (hinv.running u).mp h
      rw [hcurrent] at hu
      exact absurd (Option.some.inj hu).symm hne
    · rintro ⟨⟩
  · intro u hu
    by_cases hne : u = t
    · exact .inr (update_iff.mpr (.inl ⟨hne,rfl⟩))
    · rcases hinv.requested u hu with h | h
      · exact .inl (update_iff.mpr (.inr ⟨hne,h⟩))
      · exact .inr (update_iff.mpr (.inr ⟨hne,h⟩))

omit [DecidableEq T] in
/-- What is queued may be removed, wherever it waits. -/
theorem Inv.removed (hinv : w.Inv) {P : T → Prop} [DecidablePred P] {queue : List T}
    (hP : ∀ t, P t → w.stage t = some .queued ∨ w.stage t = some .removed)
    (hqueue : queue.Sublist w.queue) :
    ({w with stage := fun t => if P t then some .removed else w.stage t,queue := queue} : Worker T).Inv := by
  have hkept {u : T} {s : Stage} (hu : w.stage u = some s) (hqueued : s ≠ .queued) (hremoved : s ≠ .removed) :
      (if P u then some .removed else w.stage u) = some s := by
    rw [if_neg,hu]
    intro h
    rcases hP u h with h | h <;> rw [hu] at h
    · exact hqueued (Option.some.inj h)
    · exact hremoved (Option.some.inj h)
  refine ⟨?_,hinv.once.sublist hqueue,?_,?_⟩
  · intro u hu
    change (if P u then _ else _) = _ ∨ (if P u then _ else _) = _
    by_cases h : P u
    · exact .inr (if_pos h)
    · rw [if_neg h]
      exact hinv.queued u (hqueue.subset hu)
  · intro u
    constructor
    · intro h
      change (if P u then _ else _) = _ at h
      by_cases hu : P u
      · rw [if_pos hu] at h
        cases h
      · rw [if_neg hu] at h
        exact (hinv.running u).mp h
    · exact fun h => hkept ((hinv.running u).mpr h) (by simp) (by simp)
  · intro u hu
    rcases hinv.requested u hu with h | h
    · exact .inl (hkept h (by simp) (by simp))
    · exact .inr (hkept h (by simp) (by simp))

omit [DecidableEq T] in
theorem Inv.fewer (hinv : w.Inv) {interrupts : List T} (h : interrupts ⊆ w.interrupts) :
    ({w with interrupts := interrupts} : Worker T).Inv :=
  ⟨hinv.queued,hinv.once,hinv.running,fun t ht => hinv.requested t (h ht)⟩

theorem Inv.next (hinv : w.Inv) (h : Next w e w') : w'.Inv := by
  cases h with
  | submit t hstage => exact hinv.submit hstage
  | skip t rest hqueue =>
    have hsublist : rest.Sublist w.queue := by
      rw [hqueue]
      exact List.sublist_cons_self t rest
    exact ⟨fun u hu => hinv.queued u (hsublist.subset hu),hinv.once.sublist hsublist,hinv.running,
      hinv.requested⟩
  | start t rest hcurrent hqueue _ => exact hinv.start hcurrent hqueue
  | act t _ => exact hinv
  | finish t hcurrent => exact hinv.finish hcurrent
  | remove t hstage =>
    have hremoved := hinv.removed (P := fun u => u = t) (by rintro _ rfl; exact hstage) (.refl w.queue)
    have hupdate : (fun u => if u = t then some Stage.removed else w.stage u) =
        Function.update w.stage t (some .removed) := by
      funext u
      rw [Function.update_apply]
    rwa [hupdate] at hremoved
  | request t hstage =>
    refine ⟨hinv.queued,hinv.once,hinv.running,fun u hu => ?_⟩
    rcases List.mem_append.mp hu with hu | hu
    · exact hinv.requested u hu
    · obtain rfl := List.mem_singleton.mp hu
      exact hstage
  | interrupt t _ => exact hinv.fewer List.erase_subset
  | drop t _ => exact hinv.fewer List.erase_subset
  | drain => exact hinv.removed (P := fun t => t ∈ w.queue) hinv.queued (List.nil_sublist w.queue)
  | other => exact hinv

end Steps

section Interrupts
variable {w w' : Worker T} {e : Event T}

/-- What is done stays done. -/
theorem Next.done (hinv : w.Inv) (h : Next w e w') {t : T} (hstage : w.stage t = some .done) :
    w'.stage t = some .done := by
  have hqueue : t ∉ w.queue := by
    intro ht
    rcases hinv.queued t ht with h | h <;> rw [hstage] at h <;> cases h
  cases h with
  | submit u hu => exact update_iff.mpr (.inr ⟨ne_of_stage hu hstage (by simp),hstage⟩)
  | start u rest _ hu _ =>
    refine update_iff.mpr (.inr ⟨?_,hstage⟩)
    rintro rfl
    exact hqueue (hu ▸ List.mem_cons_self)
  | finish u hu =>
    exact update_iff.mpr (.inr ⟨ne_of_stage ((hinv.running u).mpr hu) hstage (by simp),hstage⟩)
  | remove u hu =>
    rcases hu with hu | hu <;> exact update_iff.mpr (.inr ⟨ne_of_stage hu hstage (by simp),hstage⟩)
  | drain =>
    change (if t ∈ w.queue then _ else _) = _
    rw [if_neg hqueue,hstage]
  | skip | act | request | interrupt | drop | other => exact hstage

theorem Next.removed (hinv : w.Inv) (h : Next w e w') {t : T} (hstage : w.stage t = some .removed) :
    w'.stage t = some .removed := by
  cases h with
  | submit u hu => exact update_iff.mpr (.inr ⟨ne_of_stage hu hstage (by simp),hstage⟩)
  | start u rest _ _ hu =>
    refine update_iff.mpr (.inr ⟨?_,hstage⟩)
    rintro rfl
    exact hu hstage
  | finish u hu =>
    exact update_iff.mpr (.inr ⟨ne_of_stage ((hinv.running u).mpr hu) hstage (by simp),hstage⟩)
  | remove u _ =>
    by_cases hne : t = u
    · exact update_iff.mpr (.inl ⟨hne,rfl⟩)
    · exact update_iff.mpr (.inr ⟨hne,hstage⟩)
  | drain =>
    change (if t ∈ w.queue then _ else _) = _
    rw [hstage,ite_self]
  | skip | act | request | interrupt | drop | other => exact hstage

/-- What was started runs or is done from then on. -/
theorem Next.begun (hinv : w.Inv) (h : Next w e w') {t : T}
    (hstage : w.stage t = some .running ∨ w.stage t = some .done) :
    w'.stage t = some .running ∨ w'.stage t = some .done := by
  rcases hstage with hstage | hstage
  · have hcurrent := (hinv.running t).mp hstage
    cases h with
    | submit u hu => exact .inl (update_iff.mpr (.inr ⟨ne_of_stage hu hstage (by simp),hstage⟩))
    | start u rest hu _ _ =>
      rw [hcurrent] at hu
      cases hu
    | finish u hu =>
      rw [hcurrent] at hu
      exact .inr (update_iff.mpr (.inl ⟨Option.some.inj hu,rfl⟩))
    | remove u hu =>
      rcases hu with hu | hu <;> exact .inl (update_iff.mpr (.inr ⟨ne_of_stage hu hstage (by simp),hstage⟩))
    | drain =>
      left
      change (if t ∈ w.queue then _ else _) = _
      rw [if_neg,hstage]
      intro ht
      rcases hinv.queued t ht with h | h <;> rw [hstage] at h <;> cases h
    | skip | act | request | interrupt | drop | other => exact .inl hstage
  · exact .inr (h.done hinv hstage)

/-- An interrupt is requested while its own item runs, and the item does not finish before it arrives. -/
def Timely (w : Worker T) : Event T → Prop
  | .request t => w.current = some t
  | .finish t => t ∉ w.interrupts
  | _ => True

/-- In timely steps every interrupt is for what runs. -/
theorem Next.aimed (h : Next w e w') (htimely : Timely w e) (haimed : ∀ t ∈ w.interrupts, w.current = some t) :
    ∀ t ∈ w'.interrupts, w'.current = some t := by
  cases h with
  | start t rest hcurrent _ _ =>
    intro u hu
    have hnone := haimed u hu
    rw [hcurrent] at hnone
    cases hnone
  | finish t hcurrent =>
    intro u hu
    have hown := haimed u hu
    rw [hcurrent] at hown
    obtain rfl := Option.some.inj hown
    exact absurd hu htimely
  | request t _ =>
    intro u hu
    rcases List.mem_append.mp hu with hu | hu
    · exact haimed u hu
    · obtain rfl := List.mem_singleton.mp hu
      exact htimely
  | interrupt t _ | drop t _ => exact fun u hu => haimed u (List.erase_subset hu)
  | submit | skip | act | remove | drain | other => exact haimed

/-- A step that is not timely leaves an interrupt whose item is done. -/
theorem Next.untimely (hinv : w.Inv) (h : Next w e w') (htimely : ¬Timely w e) :
    ∃ t ∈ w'.interrupts, w'.stage t = some .done := by
  cases h with
  | finish t hcurrent =>
    exact ⟨t,Classical.not_not.mp htimely,update_iff.mpr (.inl ⟨rfl,rfl⟩)⟩
  | request t hstage =>
    refine ⟨t,List.mem_append_right _ List.mem_cons_self,?_⟩
    rcases hstage with hstage | hstage
    · exact absurd ((hinv.running t).mp hstage) htimely
    · exact hstage
  | submit | skip | start | act | remove | interrupt | drop | drain | other => exact absurd trivial htimely

end Interrupts

section Histories
variable {events : List (Event T)} {w w' : Worker T}

theorem Inv.runs (hinv : w.Inv) (h : Runs Next w events w') : w'.Inv :=
  h.inv (I := fun _ w => w.Inv) hinv fun _ _ _ _ hinv hnext => hinv.next hnext

/-- What the events of a run say about the state it leaves. -/
structure Recorded (events : List (Event T)) (w : Worker T) : Prop where
  inv : w.Inv
  acted : ∀ t, .act t ∈ events → w.stage t = some .running ∨ w.stage t = some .done
  removed : ∀ t, .remove t ∈ events → w.stage t = some .removed
  requested : ∀ t ∈ w.interrupts, .request t ∈ events

theorem Recorded.next {e : Event T} (hrecorded : Recorded events w) (h : Next w e w') :
    Recorded (events ++ [e]) w' := by
  refine ⟨hrecorded.inv.next h,?_,?_,?_⟩
  · intro t ht
    rcases List.mem_append.mp ht with ht | ht
    · exact h.begun hrecorded.inv (hrecorded.acted t ht)
    · obtain rfl := List.mem_singleton.mp ht
      cases h with
      | act _ hcurrent => exact .inl ((hrecorded.inv.running t).mpr hcurrent)
  · intro t ht
    rcases List.mem_append.mp ht with ht | ht
    · exact h.removed hrecorded.inv (hrecorded.removed t ht)
    · obtain rfl := List.mem_singleton.mp ht
      cases h with
      | remove => exact update_iff.mpr (.inl ⟨rfl,rfl⟩)
  · intro t ht
    have hold (ht : t ∈ w.interrupts) : Event.request t ∈ events ++ [e] :=
      List.mem_append_left _ (hrecorded.requested t ht)
    cases h with
    | request u _ =>
      rcases List.mem_append.mp ht with ht | ht
      · exact hold ht
      · obtain rfl := List.mem_singleton.mp ht
        exact List.mem_append_right _ List.mem_cons_self
    | interrupt u _ | drop u _ => exact hold (List.erase_subset ht)
    | submit | skip | start | act | finish | remove | drain | other => exact hold ht

theorem recorded_of_runs (h : Runs Next {} events w) : Recorded events w := by
  refine h.inv ⟨inv_empty,?_,?_,?_⟩ fun _ _ _ _ hrecorded hnext => hrecorded.next hnext
  · exact fun t ht => absurd ht List.not_mem_nil
  · exact fun t ht => absurd ht List.not_mem_nil
  · exact fun t ht => absurd ht List.not_mem_nil

omit [DecidableEq T] in
/-- What was removed never acts, before or after. -/
theorem Recorded.silent (h : Recorded events w) {t : T} (hremove : .remove t ∈ events) :
    .act t ∉ events := by
  intro hact
  have hremoved := h.removed t hremove
  rcases h.acted t hact with hstage | hstage <;> rw [hremoved] at hstage <;> cases hstage

/-- In a run of timely steps every interrupt is for what runs. -/
theorem aimed_of_runs (h : Runs (fun w e w' => Next w e w' ∧ Timely w e) {} events w) :
    ∀ t ∈ w.interrupts, w.current = some t :=
  h.inv (I := fun _ w => ∀ t ∈ w.interrupts, w.current = some t) (fun _ ht => absurd ht List.not_mem_nil)
    fun _ _ _ _ haimed hnext => hnext.1.aimed hnext.2 haimed

/-- An interrupt that outlived its item never finds it running again. -/
theorem Inv.stray (hinv : w.Inv) {t : T} (hstage : w.stage t = some .done) (h : Runs Next w events w') :
    w'.current ≠ some t := by
  have hdone : w'.Inv ∧ w'.stage t = some .done :=
    h.inv (I := fun _ w => w.Inv ∧ w.stage t = some .done) ⟨hinv,hstage⟩
      fun _ _ _ _ hstate hnext => ⟨hstate.1.next hnext,hnext.done hstate.1 hstate.2⟩
  intro hcurrent
  have hrunning := (hdone.1.running t).mpr hcurrent
  rw [hdone.2] at hrunning
  cases hrunning

end Histories
end Worker
end Interaction
