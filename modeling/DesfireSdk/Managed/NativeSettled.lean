import DesfireSdk.Managed.Discovery
import DesfireSdk.Managed.Rules

/-! The effect of selection, discovery, execution and reset on the managed state. -/
namespace DesfireSdk.Managed
open Interaction Program

theorem begin_keeps {τ : Type} (channel : Native.Raw.RawNativeChannel) (options : ExchangeOptions) :
    Keeps (channel.begin options : Op τ Native.Raw.Transaction) := by
  refine keeps_bind (keeps_refuse _ _) fun _ => ?_
  refine keeps_bind (keeps_ask _) fun _ => ?_
  refine keeps_bind (keeps_refuse _ _) fun _ => ?_
  refine keeps_bind (keeps_ask _) fun _ => ?_
  refine keeps_bind (keeps_refuse _ _) fun _ => ?_
  refine keeps_bind (keeps_refuse _ _) fun _ => ?_
  refine keeps_bind (keeps_ask _) fun _ => ?_
  exact keeps_bind (keeps_ask _) fun _ => keeps_pure _

theorem exchange_keeps {τ : Type} (channel : Native.Raw.RawNativeChannel) (request : Native.Raw.Request)
    (options : ExchangeOptions) : Keeps (channel.exchange request options : Op τ Native.Raw.Response) :=
  keeps_bind (begin_keeps channel options) fun _ => keeps_within _

section Rules
variable {α β : Type} {o : Oracle Environment} {card : Card}

theorem begin_bind {channel : Native.Raw.RawNativeChannel} {options : ExchangeOptions}
    {f : Native.Raw.Transaction → Op Card α} {post : Except Fault α → Card → Trace Environment → Prop}
    (hrefused : ∀ e es, e.outcome = .notSent → deliveries es = [] → post (.error (.error e)) card es)
    (hbegun : ∀ t es, deliveries es = [] →
      Ensures some o (f t) card fun r s' es' => post r s' (es ++ es')) :
    Ensures some o (channel.begin options >>= f) card post := by
  refine ensures_bind (Native.Secure.begin_cases o channel options card).full ?_ ?_
  · intro e s' es hcase
    generalize hes : shown deliveryOf es = ds at hcase
    cases hcase with
    | refused e he => exact hrefused e es he hes
  · intro t s' es hcase
    generalize hes : shown deliveryOf es = ds at hcase
    cases hcase with
    | begun => exact hbegun t es hes

/-- A step that keeps the state, except that an unknown outcome or an exception ends it. -/
theorem exchange_bind {p : Op Card α} {f : α → Op Card β} {e₀ : Error} (hp : Keeps p)
    {P : Except Fault β → Card → Trace Environment → Prop}
    (hended : ∀ e es, P (.error (.error e)) card.invalidate es)
    (hkept : ∀ e es, e.outcome ≠ .unknown → P (.error (.error e)) card es)
    (hf : ∀ a es, Ensures some o (f a) card fun r card' es' =>
      P (Op.afterThrow Card.invalidate e₀ r card').1 (Op.afterThrow Card.invalidate e₀ r card').2
        (es ++ es')) :
    Ensures some o (Op.onError (afterExchange false) p >>= f) card fun r card' es =>
      P (Op.afterThrow Card.invalidate e₀ r card').1 (Op.afterThrow Card.invalidate e₀ r card').2 es := by
  refine ensures_bind (Op.ensures_onError (hp.ensures.mono ?_)) ?_ ?_
    (m := fun r card' _ => (∃ a, r = .ok a ∧ card' = card) ∨ (r = .error .thrown ∧ card' = card) ∨
      ∃ e, r = .error (.error e) ∧ card' = afterExchange false e card)
  · rintro ((e | _) | a) _ es rfl
    · exact .inr (.inr ⟨e,rfl,rfl⟩)
    · exact .inr (.inl ⟨rfl,rfl⟩)
    · exact .inl ⟨a,rfl,rfl⟩
  · rintro _ _ es (⟨_,⟨⟩,_⟩ | ⟨⟨⟩,rfl⟩ | ⟨e,⟨⟩,rfl⟩)
    · exact hended e₀ es
    · change P (.error (.error e)) (afterExchange false e card) es
      unfold afterExchange
      by_cases he : e.outcome = .unknown
      · rw [if_pos (Or.inr he)]
        exact hended e es
      · rw [if_neg (by simpa using he)]
        exact hkept e es he
  · rintro a _ es (⟨_,⟨⟩,rfl⟩ | ⟨⟨⟩,_⟩ | ⟨_,⟨⟩,_⟩)
    exact hf a es

end Rules

section Native
variable {o : Oracle Environment} {card : Card} {options : ExchangeOptions}

theorem execute_operated {command : Native.Checked.Command} (hinv : card.Inv) :
    Ensures some o (execute command options) card (Operated card False fun _ => False) :=
  admitted_operated rfl (executeLocked_settled hinv)

theorem discoveryCommand_error {command : Byte} {e : Error} (h : discoveryCommand command = .error e) :
    e.outcome = .notSent := by
  unfold discoveryCommand at h
  split at h
  · cases h
  split at h
  · cases h
  split at h <;> cases h
  rfl

/-- A step that leaves the state as it was or ends it. -/
inductive PlainRun {α : Type} (card : Card) : Except Fault α → Card → Trace Environment → Prop
  | refused {e es} (he : e.outcome = .notSent) (hes : Untouched es) :
      PlainRun card (.error (.error e)) card es
  | ended {e es} (hopen : card.Open) : PlainRun card (.error (.error e)) card.invalidate es
  | same {r es} (hopen : card.Open) (hr : Certain r) : PlainRun card r card es

theorem PlainRun.settled {α : Type} {card' : Card} {r : Except Fault α} {es : Trace Environment}
    {Released : α → Prop} (h : PlainRun card r card' es) (hinv : card.Inv) :
    Settled card False Released r card' es := by
  cases h with
  | refused he hes => exact .refused he hes
  | ended hopen => exact .wiped hopen.admits
  | same hopen hr => exact .moved hopen hr (.rfl hinv hopen.usable)

/-- Without a native session the command goes out as it is. -/
theorem executePlainLocked_runs {command : Byte} {data : Bytes} {operation : String}
    (hnative : card.hasNativeSession = false) :
    Ensures some o (executePlainLocked command data options operation) card (PlainRun card) := by
  refine Op.ensures_catchAll (ensures_get_bind ?_)
  refine Op.ensures_refuse_bind (fun _ => .refused rfl (by simp)) fun husable => ?_
  refine Op.ensures_refuse_bind (fun _ => .refused rfl (by simp)) fun hsettled => ?_
  have hopen : card.Open := ⟨by simpa using husable,by simpa using hsettled⟩
  refine Op.ensures_refuse_bind (fun _ => .refused rfl (by simp)) fun _ => ?_
  refine ensures_ite (fun h => by simp [hnative] at h) fun _ => ?_
  refine checkGeneration_bind (fun _ => .ended hopen) ?_
  refine exchange_bind (exchange_keeps _ _ _)
    (P := fun r card' es => PlainRun card r card' (⟨.generation,card.generation⟩ :: es))
    (fun _ _ => .ended hopen) (fun _ _ he => .same hopen (.error he)) fun _ _ => ?_
  refine checkGeneration_bind (fun _ => .ended hopen) ?_
  refine Op.ensures_refuse_bind (fun _ => .same hopen (.error (by simp [rejected]))) fun _ => ?_
  exact ensures_pure (.same hopen (.ok _))

theorem executePlainLocked_settled {command : Byte} {data : Bytes} {operation : String}
    (hinv : card.Inv) :
    Ensures some o (executePlainLocked command data options operation) card
      (Settled card False fun _ => False) := by
  cases hnative : card.hasNativeSession with
  | false => exact (executePlainLocked_runs hnative).mono fun _ _ _ h => h.settled hinv
  | true =>
    refine Op.ensures_catchAll (ensures_get_bind ?_)
    refine Op.ensures_refuse_bind (fun _ => .refused rfl (by simp)) fun _ => ?_
    refine Op.ensures_refuse_bind (fun _ => .refused rfl (by simp)) fun _ => ?_
    refine Op.ensures_refuse_bind (fun _ => .refused rfl (by simp)) fun _ => ?_
    refine ensures_ite (fun _ => ?_) fun h => absurd hnative h
    refine Op.ensures_ofResult_bind (fun e he => .refused (discoveryCommand_error he) (by simp))
      fun checked _ => ?_
    exact settled_caught (executeLocked_settled hinv)

theorem getVersion_operated (hinv : card.Inv) :
    Ensures some o (getVersion options) card (Operated card False fun _ => False) :=
  admitted_operated rfl (settled_bind (executePlainLocked_settled hinv)
    fun _ _ hinv' hopen' => settled_ofResult hinv' hopen')

theorem freeMemory_operated (hinv : card.Inv) :
    Ensures some o (freeMemory options) card (Operated card False fun _ => False) :=
  admitted_operated rfl (settled_bind (executePlainLocked_settled hinv)
    fun _ _ hinv' hopen' => settled_refuseAfter_bind hopen'
      (ensures_pure (.moved hopen' (.ok _) (.rfl hinv' hopen'.usable))))

theorem fileIds_operated (hinv : card.Inv) :
    Ensures some o (fileIds options) card (Operated card False fun _ => False) :=
  admitted_operated rfl (settled_bind (executePlainLocked_settled hinv)
    fun _ _ hinv' hopen' => settled_refuseAfter_bind hopen' (settled_ofResult hinv' hopen'))

theorem dfNames_operated (hinv : card.Inv) :
    Ensures some o (dfNames options) card (Operated card False fun _ => False) := by
  refine admitted_operated rfl (Op.ensures_catchAll (ensures_get_bind ?_))
  refine Op.ensures_refuse_bind (fun _ => .refused rfl (by simp)) fun husable => ?_
  refine Op.ensures_refuse_bind (fun _ => .refused rfl (by simp)) fun hsettled => ?_
  have hopen : card.Open := ⟨by simpa using fun h => husable (.inl h),by simpa using hsettled⟩
  refine Op.ensures_refuse_bind (fun _ => .refused rfl (by simp)) fun _ => ?_
  refine checkGeneration_bind (fun _ => .wiped hopen.admits) ?_
  refine begin_bind (fun e es he _ => .unmoved hinv (by simp [he]) hopen.admits) fun t es₀ _ => ?_
  refine exchange_bind (keeps_within _)
    (P := fun r card' es => Settled card False (fun _ => False) r card'
      (⟨.generation,card.generation⟩ :: (es₀ ++ es)))
    (fun _ _ => .wiped hopen.admits) (fun _ _ he => .unmoved hinv he hopen.admits) fun records es => ?_
  refine Op.ensures_onError (Op.ensures_ofResult ?_)
  cases records.mapM Native.Checked.parseDfNameFrame with
  | error e => exact .wiped hopen.admits
  | ok names => exact .moved hopen (.ok _) (.rfl hinv hopen.usable)

/-- The state from which a selection talks to the card. -/
def selecting (card : Card) : Card := {card.clearAuthentication with authenticationResetPending := false}

theorem selecting_eq (hinv : card.Inv) (hauth : card.authenticated = false) :
    selecting card = {card with authenticationResetPending := false} := by
  rw [selecting,hinv.clearAuthentication_eq hauth]

/-- Putting the pending reset back undoes the preparation of a selection. -/
theorem selecting_restored (hinv : card.Inv) (hauth : card.authenticated = false) :
    {selecting card with authenticationResetPending := card.authenticationResetPending} = card := by
  rw [selecting_eq hinv hauth]

/-- A selection that fails ends an authenticated state and keeps any other, gate included. -/
theorem afterSelection_settled {e : Error} {card' : Card} {es : Trace Environment} (hinv : card.Inv)
    (hrun : PlainRun (selecting card) (.error (.error e) : Except Fault Bytes) card' es) :
    Settled card True (fun _ => True) (.error (.error e) : Except Fault Unit)
      (afterSelection card e card') es := by
  have hbound : card.Bound card' := by cases hrun <;> exact ⟨rfl,rfl⟩
  unfold afterSelection
  cases hauth : card.authenticated with
  | true =>
    have husable : card.usable = true := by
      cases husable : card.usable with
      | true => rfl
      | false => rw [(hinv.unusable husable).1] at hauth; cases hauth
    rw [if_pos rfl,hbound.invalidate]
    exact .wiped (.released husable trivial)
  | false =>
    rw [if_neg (by simp)]
    have hrestored := selecting_restored hinv hauth
    have hkept (he : e.outcome ≠ .unknown) (husable : card.usable = true) :
        Settled card True (fun _ => True) (.error (.error e) : Except Fault Unit)
          (if card.authenticationResetPending ∧ (selecting card).usable then
            if e.outcome = .unknown then (selecting card).invalidate
            else {selecting card with authenticationResetPending := true}
          else selecting card) es := by
      have hsame : (if card.authenticationResetPending ∧ (selecting card).usable then
            if e.outcome = .unknown then (selecting card).invalidate
            else {selecting card with authenticationResetPending := true}
          else selecting card) = card := by
        cases hpending : card.authenticationResetPending with
        | true =>
          rw [if_pos ⟨rfl,husable⟩,if_neg he]
          rwa [hpending] at hrestored
        | false =>
          rw [if_neg (by simp)]
          rwa [hpending] at hrestored
      rw [hsame]
      exact .unmoved hinv he (.released husable trivial)
    cases hrun with
    | refused he hes =>
      cases husable : card.usable with
      | true => exact hkept (by simp [he]) husable
      | false =>
        have hpending := (hinv.unusable husable).2.2.1
        rw [hpending,if_neg (by simp)]
        rw [hpending] at hrestored
        rw [show selecting card = card from hrestored]
        exact .refused he hes
    | ended hopen =>
      rw [if_neg (by simp [Card.invalidate])]
      rw [show (selecting card).invalidate = card.invalidate from rfl]
      exact .wiped (.released hopen.usable trivial)
    | same hopen hr => exact hkept (hr.2 e rfl) hopen.usable

/-- Selection may talk to the card behind the gate, and releases it when it succeeds. -/
theorem selectApplication_operated {id : Model.ApplicationId} (hinv : card.Inv) :
    Ensures some o (selectApplication id options) card (Operated card True fun _ => True) := by
  refine admitted_operated rfl ?_
  refine Op.ensures_refuse_bind (fun _ => .refused rfl (by simp)) fun _ => ?_
  refine Op.ensures_stopRequested_bind fun _ => ?_
  refine Op.ensures_refuse_bind (fun _ => .refused rfl (by simp [external])) fun _ => ?_
  refine ensures_get_bind ?_
  refine ensures_modify_bind ?_
  refine ensures_bind (Op.ensures_onError
    ((executePlainLocked_runs (show (selecting card).hasNativeSession = false from rfl)).mono ?_)) ?_ ?_
    (m := fun r card' es => (∃ a, r = .ok a ∧ card' = selecting card ∧ card.usable = true) ∨
      ∃ e, r = .error (.error e) ∧
        Settled card True (fun _ => True) (.error (.error e) : Except Fault Unit) card' es)
  · rintro ((e | _) | a) card' es hrun
    · exact .inr ⟨e,rfl,afterSelection_settled hinv hrun⟩
    · cases hrun with
      | same _ hr => exact absurd rfl hr.1
    · cases hrun with
      | same hopen => exact .inl ⟨a,rfl,rfl,hopen.usable⟩
  · rintro _ card' es (⟨_,⟨⟩,_⟩ | ⟨e,⟨⟩,h⟩)
    exact h.quietly [⟨.stopRequested .operation,_⟩] (by simp [external])
  rintro response card' es (⟨_,⟨⟩,rfl,husable⟩ | ⟨_,⟨⟩,_⟩)
  refine Op.ensures_refuseAfter_bind (fun _ => .wiped (.released husable trivial)) fun _ => ?_
  refine ensures_modify ?_
  refine .kept (.released husable trivial) (.ok ()) ?_ fun _ => .inr ⟨(),rfl,trivial⟩
  exact ⟨Card.inv_of_unauthenticated rfl rfl husable,husable,⟨rfl,rfl⟩,fun _ => rfl⟩

theorem rawReset_keeps {τ : Type} : Keeps (Native.Raw.RawNativeChannel.reset : Op τ Unit) := by
  refine keeps_settle (fun r s => by rcases r with (_ | _) | _ <;> rfl) ?_
  refine keeps_bind (keeps_ask _) fun _ => ?_
  refine keeps_bind (keeps_refuse _ _) fun _ => ?_
  refine keeps_bind (keeps_refuse _ _) fun _ => ?_
  exact keeps_bind (keeps_ask _) fun _ => keeps_ofExcept _

/-- A reset that is admitted starts from an erased state and either fails or begins a fresh one. -/
inductive ResetRun (card : Card) : Except Fault Unit → Card → Trace Environment → Prop
  | unlocked : ResetRun card (.error .thrown) card [⟨.admission .card,.failed⟩]
  | refused : ResetRun card (.error (.error busy)) card [⟨.admission .card,.busy⟩]
  | failed {e es} : ResetRun card (.error (.error e)) card.invalidate es
  | fresh {es} (generation : UInt64) : ResetRun card (.ok ()) {raw := card.raw,generation} es

theorem reset_runs (card : Card) : Ensures some o reset card (ResetRun card) := by
  refine Op.ensures_admission_bind fun admission => ?_
  cases admission with
  | failed => exact Program.ensures_refuse_bind (fun _ => .unlocked) fun h => absurd rfl h
  | busy =>
    refine Program.ensures_refuse_bind (fun h => by cases h) fun _ => ?_
    exact Op.ensures_refuse_bind (fun _ => .refused) fun h => absurd rfl h
  | entered =>
    refine Program.ensures_refuse_bind (fun h => by cases h) fun _ => ?_
    refine Op.ensures_refuse_bind (fun h => by cases h) fun _ => ?_
    refine ensures_modify_bind ?_
    refine ensures_bind (m := fun r card' _ => card' = card.invalidate ∧ r ≠ .error .thrown) ?_ ?_ ?_
    · refine fun h => ⟨rawReset_keeps _ _ _,?_⟩
      exact Op.catchAll_not_thrown _ _ _
    · rintro (e | _) _ es ⟨rfl,hr⟩
      · exact .failed
      · exact absurd rfl hr
    · rintro _ _ es ⟨rfl,_⟩
      refine Op.ensures_generation_bind fun generation => ?_
      exact ensures_modify (.fresh generation)

end Native
end DesfireSdk.Managed
