import DesfireSdk.Foundation.Calm
import DesfireSdk.Interaction.Runs
import DesfireSdk.Iso7816.Evidence
import DesfireSdk.Iso7816.Steps
import DesfireSdk.Security.StandardAes.Chain

/-!
Whole runs of an ISO AES session: what its executions return, how they move the chained
initialization vector, and when they end it.
-/
namespace DesfireSdk.Iso7816.Aes
open Interaction Program Security.StandardAes

section Answers
variable (o : Oracle Environment)

/-- The question was asked and the environment gave this answer. -/
def Asked (q : Query) (reply : Query.Reply q) (es : Trace Environment) : Prop :=
  ⟨q,reply⟩ ∈ es ∧ ∃ h, o h q = reply

/-- The retained CMAC is taken from two answers of the provider. -/
def Computed (key iv input mac : Bytes) (es : Trace Environment) : Prop :=
  ∃ base ciphertext : Bytes,
    Asked o (.cbc key (zeros 16) (zeros 16) true) (.ok base) es ∧
    Asked o (.cbc key iv (cmacBlocks base input) true) (.ok ciphertext) es ∧
    ciphertext.length = (cmacBlocks base input).length ∧
    mac = ciphertext.drop (ciphertext.length - 16)

end Answers

section Steps
variable {o : Oracle Environment}

theorem Computed.within {key iv input mac : Bytes} {es es' : Trace Environment}
    (h : Computed o key iv input mac es) (hsub : es ⊆ es') : Computed o key iv input mac es' := by
  obtain ⟨base,ciphertext,⟨hbase,hbase'⟩,⟨hciphertext,hciphertext'⟩,hlength,hmac⟩ := h
  exact ⟨base,ciphertext,⟨hsub hbase,hbase'⟩,⟨hsub hciphertext,hciphertext'⟩,hlength,hmac⟩

/-- One encryption: an answer of the provider with the exact size, or its failure. -/
theorem encrypt_runs {τ : Type} (message : String) (key iv input : Bytes) (size : Nat) (s : τ) :
    Ensures some o (Op.secretOutput message (Op.cbc key iv input true) size) s fun r s' es =>
      s' = s ∧ Cryptographic es ∧ ∀ output, r = .ok output →
        output.length = size ∧ Asked o (.cbc key iv input true) (.ok output) es := by
  refine Op.ensures_secretOutput (Op.ensures_cbc fun h => ⟨rfl,by simp,fun output houtput => ?_⟩)
  obtain ⟨hreply,hlength⟩ := Op.sized_ok houtput
  refine ⟨hlength,?_,h,hreply⟩
  rw [hreply]
  exact List.mem_singleton_self _

theorem retainedCmac_runs {τ : Type} (key iv input : Bytes) (s : τ) :
    Ensures some o (retainedCmac key iv input) s fun r s' es =>
      s' = s ∧ Cryptographic es ∧ ∀ mac, r = .ok mac → Computed o key iv input mac es := by
  refine ensures_bind (encrypt_runs _ key (zeros 16) (zeros 16) 16 s) ?_ ?_
  · rintro e _ es ⟨hkept,hcryptographic,_⟩
    exact ⟨hkept,hcryptographic,by rintro _ ⟨⟩⟩
  rintro base _ es ⟨hkept,hcryptographic,hbase⟩
  rw [hkept]
  obtain ⟨hlength,hmem,hasked⟩ := hbase base rfl
  rw [cmacInput_eq hlength]
  refine ensures_bind (encrypt_runs _ key iv (cmacBlocks base input)
    (cmacBlocks base input).length s) ?_ ?_
  · rintro e _ es' ⟨hkept',hcryptographic',_⟩
    exact ⟨hkept',by simp [hcryptographic,hcryptographic'],by rintro _ ⟨⟩⟩
  rintro ciphertext _ es' ⟨hkept',hcryptographic',hciphertext⟩
  refine ensures_pure ⟨hkept',by simp [hcryptographic,hcryptographic'],?_⟩
  rintro _ ⟨⟩
  obtain ⟨hlength,hmem',hasked'⟩ := hciphertext ciphertext rfl
  exact ⟨base,ciphertext,⟨by simp [hmem],hasked⟩,⟨by simp [hmem'],hasked'⟩,hlength,rfl⟩

end Steps

namespace Session

/-- The transport reported another generation than that of the session. -/
def Removed (s : Session) (es : Trace Environment) : Prop :=
  ∃ generation, ⟨.generation,generation⟩ ∈ es ∧ generation ≠ s.generation

/-- Every way one execution can go. -/
inductive ExecuteRun (o : Oracle Environment) (s : Session) (own : Bool) (command : Checked.Command) :
    Except Fault Checked.Response → Session → Trace Environment → Prop
  | unsent {e es} (he : e.outcome = .notSent) (hes : ∀ d ∈ deliveries es, d.Withheld) :
      ExecuteRun o s own command (.error (.error e)) s es
  | removed {e es} (he : e.outcome = .notSent) (hmismatch : own = false ∨ Removed s es)
      (hes : deliveries es = []) :
      ExecuteRun o s own command (.error (.error e)) s.invalidate es
  | failed {e es} (he : e.outcome ≠ .notSent) : ExecuteRun o s own command (.error (.error e)) s.invalidate es
  | answered {response es} (hvalid : s.valid = true) (hread : command.isRead = false)
      (hconcluded : Concluded successStatus (deliveries es)) :
      ExecuteRun o s own command (.ok response) s es
  | verified {payload mac es} (hvalid : s.valid = true) (hread : command.isRead = true)
      (hconcluded : Concluded successStatus (deliveries es))
      (hreceived : received (deliveries es) = payload ++ mac.take 8)
      (hmac : Computed o s.key s.iv (payload ++ [0x00]) mac es) :
      ExecuteRun o s own command (.ok ⟨successStatus,payload⟩) (s.chain mac) es

section Steps
variable {o : Oracle Environment} {s s' : Session} {own : Bool} {command : Checked.Command}

/-- A question without a frame may come first. -/
theorem ExecuteRun.after {r : Except Fault Checked.Response} {es : Trace Environment}
    (h : ExecuteRun o s own command r s' es) {event : Event Environment} (hevent : deliveryOf event = none) :
    ExecuteRun o s own command r s' (event :: es) := by
  have hds : deliveries (event :: es) = deliveries es := List.filterMap_cons_none hevent
  cases h with
  | unsent he hes => exact .unsent he (by rwa [hds])
  | removed he hmismatch hes =>
    refine .removed he (hmismatch.imp_right ?_) (by rwa [hds])
    rintro ⟨generation,hread,hremoved⟩
    exact ⟨generation,List.mem_cons_of_mem _ hread,hremoved⟩
  | failed he => exact .failed he
  | answered hvalid hread hconcluded => exact .answered hvalid hread (by rwa [hds])
  | verified hvalid hread hconcluded hreceived hmac =>
    exact .verified hvalid hread (by rwa [hds]) (by rwa [hds])
      (hmac.within (List.subset_cons_self _ _))

theorem exchangeProtected_runs (own : Bool) (hvalid : s.valid = true) (options : ExchangeOptions)
    (limits : Checked.Limits) :
    Ensures some o (exchangeProtected command options limits) s fun r s' es =>
      ExecuteRun o s own command r s' es ∨ (r = .error .thrown ∧ s' = s) := by
  refine ensures_get_bind ?_
  have hexchange : Ensures some o (Checked.Channel.exchange command options (protectedLimits command limits))
      s fun r s' es => s' = s ∧ Evidence Checked.Response.raw [] false r (deliveries es) := by
    intro h
    exact ⟨Checked.Channel.exchange_keeps _ _ _ o h s,
      (Checked.Channel.exchange_evidence o command options (protectedLimits command limits) s).full h⟩
  refine ensures_bind (Op.ensures_onError (hexchange.mono ?_)) ?_ ?_
    (m := fun r s' es => (∃ response, r = .ok response ∧ s' = s ∧
        Evidence Checked.Response.raw [] false (.ok response) (deliveries es)) ∨
      (r = .error .thrown ∧ s' = s) ∨ ∃ e, r = .error (.error e) ∧
        ExecuteRun o s own command (.error (.error e)) s' es)
  · rintro ((e | _) | response) _ es ⟨rfl,hevidence⟩
    · refine .inr (.inr ⟨e,rfl,?_⟩)
      rw [Op.afterError_error]
      by_cases he : e.outcome = .notSent
      · rw [if_neg (not_not_intro he)]
        exact .unsent he (hevidence.notSent e rfl he).2
      · rw [if_pos he]
        exact .failed he
    · exact .inr (.inl ⟨rfl,rfl⟩)
    · exact .inl ⟨response,rfl,rfl,hevidence⟩
  · rintro _ _ es (⟨_,⟨⟩,_⟩ | ⟨⟨⟩,hkept⟩ | ⟨e,⟨⟩,hfailed⟩)
    · exact .inr ⟨rfl,hkept⟩
    · exact .inl hfailed
  rintro response _ es (⟨_,⟨⟩,hkept,hevidence⟩ | ⟨⟨⟩,_⟩ | ⟨_,⟨⟩,_⟩)
  rw [hkept]
  obtain ⟨hconcluded,hdata⟩ := hevidence.replied response rfl
  refine Op.ensures_refuseAfter_bind (fun _ => .inl (.failed (by simp))) fun hsuccess => ?_
  have hstatus : response.status = successStatus := by
    simpa [Checked.Response.success,successStatus] using hsuccess
  refine ensures_ite (fun hread => ?_) fun hread => ?_
  · refine Op.ensures_refuseAfter_bind (fun _ => .inl (.failed (by simp [Raw.malformed]))) fun _ => ?_
    refine ensures_pure (.inl (.answered hvalid hread ?_))
    rw [List.append_nil,← hstatus]
    exact hconcluded
  refine Op.ensures_refuseAfter_bind (fun _ => .inl (.failed (by simp [Raw.malformed]))) fun hlong => ?_
  have hmac := retainedCmac_runs (o := o) s.key s.iv
    (response.data.take (response.data.length - 8) ++ [0x00]) s
  refine ensures_bind (Op.ensures_mapError (Op.ensures_onError (hmac.mono ?_))) ?_ ?_
    (m := fun r s' es' => (∃ mac, r = .ok mac ∧ s' = s ∧ Cryptographic es' ∧ Computed o s.key s.iv
        (response.data.take (response.data.length - 8) ++ [0x00]) mac es') ∨
      (r = .error .thrown ∧ s' = s) ∨ ∃ e, r = .error (.error e) ∧ e.outcome ≠ .notSent ∧ s' = s.invalidate)
  · rintro ((e | _) | mac) _ es' ⟨rfl,hcryptographic,hcomputed⟩
    · exact .inr (.inr ⟨_,rfl,e.afterDelivery_outcome,rfl⟩)
    · exact .inr (.inl ⟨rfl,rfl⟩)
    · exact .inl ⟨mac,rfl,rfl,hcryptographic,hcomputed mac rfl⟩
  · rintro _ _ es' (⟨_,⟨⟩,_⟩ | ⟨⟨⟩,hkept⟩ | ⟨e,⟨⟩,he,hended⟩)
    · exact .inr ⟨rfl,hkept⟩
    · rw [hended]
      exact .inl (.failed he)
  rintro mac _ es' (⟨_,⟨⟩,hkept,hcryptographic,hcomputed⟩ | ⟨⟨⟩,_⟩ | ⟨_,⟨⟩,_⟩)
  rw [hkept]
  refine Op.ensures_refuseAfter_bind (fun _ => .inl (.failed (by simp))) fun hequal => ?_
  refine Op.ensures_generation_bind fun generation => ?_
  refine Op.ensures_refuseAfter_bind (fun _ => .inl (.failed (by simp))) fun _ => ?_
  refine ensures_modify_bind (ensures_pure (.inl ?_))
  have hds : deliveries (es ++ (es' ++ [⟨.generation,generation⟩])) = deliveries es := by
    rw [deliveries_append,deliveries_append,hcryptographic.deliveries]
    exact List.append_nil _
  have htag : mac.take 8 = response.data.drop (response.data.length - 8) := by
    simpa [constantTimeEqual_eq] using hequal
  have hread' : command.isRead = true := by simpa using hread
  rw [hstatus]
  refine .verified hvalid hread' ?_ ?_ (hcomputed.within ?_)
  · change Concluded successStatus (deliveries (es ++ (es' ++ [⟨.generation,generation⟩])))
    rw [hds,← hstatus]
    exact hconcluded
  · change received (deliveries (es ++ (es' ++ [⟨.generation,generation⟩]))) = _
    rw [hds,htag,List.take_append_drop]
    exact hdata.symm
  · intro event hevent
    simp [hevent]

/-- An execution returns, whatever its dependencies do. -/
theorem execute_runs (own : Bool) (options : ExchangeOptions) (limits : Checked.Limits) :
    Ensures some o (execute command options limits) s (ExecuteRun o s own command) := by
  refine ensures_get_bind ?_
  refine Op.ensures_refuse_bind (fun _ => .unsent rfl (by simp [shown])) fun hvalid => ?_
  have hvalid : s.valid = true := by simpa using hvalid
  refine Op.ensures_generation_bind fun generation => ?_
  refine Op.ensures_refuseAfter_bind (fun hremoved =>
    .removed rfl (.inr ⟨generation,List.mem_singleton_self _,hremoved⟩) rfl) fun _ => ?_
  refine Op.ensures_refuse_bind (fun _ => .unsent rfl (by simp [shown,deliveryOf])) fun _ => ?_
  refine Op.ensures_refuse_bind (fun _ => .unsent rfl (by simp [shown,deliveryOf])) fun _ => ?_
  refine Op.ensures_catchAll ((exchangeProtected_runs own hvalid options limits).mono ?_)
  rintro r s' es (hrun | ⟨rfl,rfl⟩)
  · have hafter := hrun.after (rfl : deliveryOf ⟨.generation,generation⟩ = none)
    rcases r with (e | _) | response
    · exact hafter
    · cases hrun
    · exact hafter
  · exact .failed (by simp)

/-- An execution over any channel. -/
theorem executeOver_runs (own : Bool) (command : Checked.Command) (options : ExchangeOptions) (limits : Checked.Limits) :
    Ensures some o (executeOver own command options limits) s (ExecuteRun o s own command) := by
  refine ensures_ite (fun _ => execute_runs own options limits) fun hother => ensures_get_bind ?_
  refine Op.ensures_refuse_bind (fun _ => .unsent rfl (by simp [shown])) fun _ => ?_
  refine ensures_modify_bind (Op.ensures_reject ?_)
  exact .removed rfl (.inl (by simpa using hother)) rfl

end Steps

/-- One call of `execute`; the channel may be another one than that of the proof. -/
structure Call where
  own : Bool := true
  command : Checked.Command
  options : ExchangeOptions := {}
  limits : Checked.Limits := {}

def perform (call : Call) : Op Session Checked.Response :=
  executeOver call.own call.command call.options call.limits

theorem step_runs (s : Session) (step : Step Environment Call) :
    ExecuteRun step.oracle s step.operation.own step.operation.command (step.run perform s).result
      (step.run perform s).state (step.run perform s).events := by
  have hrun := executeOver_runs (o := step.oracle) (s := s)
    step.operation.own step.operation.command step.operation.options step.operation.limits step.history
  rwa [shown_some] at hrun

/-- Nothing is executed any more: every call fails without a frame and without a change. -/
structure Dead (s : Session) : Prop where
  valid : s.valid = false
  key : s.key = []
  later : ∀ steps, final perform s steps = s ∧
    Along perform (fun s step => deliveries (step.run perform s).events = [] ∧
      ∃ e, (step.run perform s).result = .error (.error e)) s steps

/-- What one execution may do to a session. -/
structure Lawful (s : Session) (step : Step Environment Call) : Prop where
  returns : (step.run perform s).result ≠ .error .thrown
  verified : ∀ response, (step.run perform s).result = .ok response →
    step.operation.command.isRead = true → ∃ mac,
      Computed step.oracle s.key s.iv (response.data ++ [0x00]) mac (step.run perform s).events ∧
      received (deliveries (step.run perform s).events) = response.data ++ mac.take 8 ∧
      Concluded successStatus (deliveries (step.run perform s).events) ∧
      (step.run perform s).state = s.chain mac
  kept : ∀ response, (step.run perform s).result = .ok response →
    step.operation.command.isRead = false → (step.run perform s).state = s
  ended : ∀ e, (step.run perform s).result = .error (.error e) →
    (e.outcome ≠ .notSent ∨ ∃ d ∈ deliveries (step.run perform s).events, ¬d.Withheld) →
      Dead (step.run perform s).state
  unsent : ∀ e, (step.run perform s).result = .error (.error e) → e.outcome = .notSent →
    (step.run perform s).state = s ∨
      (step.operation.own = false ∨ Removed s (step.run perform s).events) ∧
        Dead (step.run perform s).state

theorem refused_invalid {o : Oracle Environment} {s : Session} (hvalid : s.valid = false) (own : Bool)
    (command : Checked.Command) (options : ExchangeOptions) (limits : Checked.Limits) :
    Ensures some o (executeOver own command options limits) s fun r s' es =>
      s' = s ∧ es = [] ∧ ∃ e, r = .error (.error e) := by
  refine ensures_ite (fun _ => ?_) fun _ => ?_
  · exact ensures_get_bind (Op.ensures_refuse_bind (fun _ => ⟨rfl,rfl,_,rfl⟩)
      fun hrefused => absurd hvalid hrefused)
  · exact ensures_get_bind (Op.ensures_refuse_bind (fun _ => ⟨rfl,rfl,_,rfl⟩)
      fun hrefused => absurd hvalid hrefused)

theorem Dead.of_invalid {s : Session} (hvalid : s.valid = false) (hkey : s.key = []) : Dead s := by
  have hstep (step : Step Environment Call) : (step.run perform s).state = s ∧
      (step.run perform s).events = [] ∧ ∃ e, (step.run perform s).result = .error (.error e) := by
    have hrefused := refused_invalid (o := step.oracle) hvalid step.operation.own step.operation.command
      step.operation.options step.operation.limits step.history
    rwa [shown_some] at hrefused
  refine ⟨hvalid,hkey,fun steps => ?_⟩
  induction steps with
  | nil => exact ⟨rfl,trivial⟩
  | cons step rest ih =>
    obtain ⟨hstate,hevents,hresult⟩ := hstep step
    refine ⟨?_,⟨?_,hresult⟩,?_⟩
    · rw [final,hstate]
      exact ih.1
    · rw [hevents]
      rfl
    · rw [hstate]
      exact ih.2

theorem invalidate_dead (s : Session) : Dead s.invalidate := .of_invalid rfl rfl

theorem step_lawful (s : Session) (step : Step Environment Call) : Lawful s step := by
  have hrun := step_runs s step
  generalize hstep : step.run perform s = run at hrun
  obtain ⟨r,s',es⟩ := run
  constructor <;> rw [hstep]
  · rintro rfl
    cases hrun
  · rintro response rfl hread
    cases hrun with
    | answered _ hother => rw [hread] at hother; cases hother
    | verified _ _ hconcluded hreceived hmac => exact ⟨_,hmac,hreceived,hconcluded,rfl⟩
  · rintro response rfl hother
    cases hrun with
    | answered => rfl
    | verified _ hread => rw [hread] at hother; cases hother
  · rintro e rfl hsent
    cases hrun with
    | unsent he hes =>
      rcases hsent with hknown | ⟨d,hd,hsent⟩
      · exact absurd he hknown
      · exact absurd (hes d hd) hsent
    | removed | failed => exact s.invalidate_dead
  · rintro e rfl he
    cases hrun with
    | unsent => exact .inl rfl
    | removed _ hmismatch => exact .inr ⟨hmismatch,s.invalidate_dead⟩
    | failed hknown => exact absurd he hknown

section Peer
variable (P : Primitives) (key : Bytes)

/-- What an honest card does with its own vector while the host executes one command: it chains over
the data of a read it answers, and does nothing for another command or for one it never gets. -/
structure Served (command : Checked.Command) (ds : List Delivery) (iv iv' : Bytes) : Prop where
  answered : command.isRead = true → Concluded successStatus ds → ∃ data,
    received ds = data ++ (chainedCmac P key iv (data ++ [0x00])).take 8 ∧
      iv' = chainedCmac P key iv (data ++ [0x00])
  idle : command.isRead = false ∨ (∀ d ∈ ds, d.Withheld) → iv' = iv

/-- The vector of an honest card after the host executed some commands with a provider that
computes the primitives. -/
inductive Follows : Session → Bytes → List (Step Environment Call) → Bytes → Prop
  | nil {s iv} : Follows s iv [] iv
  | cons {s iv iv₁ iv₂ step rest} (hP : Computes step.oracle P) (hkey : key.length = 16) (hiv : iv.length = 16)
      (hserved : Served P key step.operation.command (deliveries (step.run perform s).events) iv iv₁)
      (hrest : Follows (step.run perform s).state iv₁ rest iv₂) : Follows s iv (step :: rest) iv₂

end Peer

section Simulation
variable {P : Primitives}

theorem length_tag (P : Primitives) (key iv input : Bytes) :
    ((chainedCmac P key iv input).take 8).length = 8 := by
  rw [List.length_take,length_chainedCmac]
  rfl

/-- What a provider that computes the primitives makes is the CMAC of the card. -/
theorem computed_chained {o : Oracle Environment} (hP : Computes o P) {key iv input mac : Bytes}
    {es : Trace Environment} (hkey : key.length = 16) (hiv : iv.length = 16) (h : Computed o key iv input mac es) :
    mac = chainedCmac P key iv input := by
  obtain ⟨base,ciphertext,⟨_,h₁,hbase⟩,⟨_,h₂,hciphertext⟩,_,rfl⟩ := h
  rw [hP.encrypt h₁ hkey (length_zeros 16) rfl] at hbase
  cases hbase
  have hzero : (P.encrypt key (zeros 16) (zeros 16)).length = aesBlockSize :=
    (P.length_encrypt ..).trans (length_zeros 16)
  rw [hP.encrypt h₂ hkey hiv (cmacBlocks_whole hzero).2] at hciphertext
  cases hciphertext
  rfl

theorem Dead.stays {s : Session} (h : Dead s) (steps : List (Step Environment Call)) :
    (final perform s steps).valid = false := by
  rw [(h.later steps).1]
  exact h.valid

/-- One step keeps the vectors together, or ends the session. -/
theorem step_follows {s : Session} {step : Step Environment Call} (hP : Computes step.oracle P)
    {iv : Bytes} (hkey : s.key.length = 16) (hvector : s.iv.length = 16)
    (hserved : Served P s.key step.operation.command (deliveries (step.run perform s).events) s.iv iv) :
    ((step.run perform s).state.key = s.key ∧ (step.run perform s).state.iv = iv) ∨
      Dead (step.run perform s).state := by
  have hrun := step_runs s step
  generalize hstep : step.run perform s = run at hrun hserved
  obtain ⟨r,s',es⟩ := run
  cases hrun with
  | unsent _ hes => exact .inl ⟨rfl,(hserved.idle (.inr hes)).symm⟩
  | removed | failed => exact .inr s.invalidate_dead
  | answered _ hother => exact .inl ⟨rfl,(hserved.idle (.inl hother)).symm⟩
  | @verified payload mac _ _ hread hconcluded hreceived hmac =>
    obtain ⟨data,hdata,hiv⟩ := hserved.answered hread hconcluded
    have hchained := computed_chained hP hkey hvector hmac
    rw [hreceived,hchained] at hdata
    obtain ⟨rfl,_⟩ := tagged_inj hdata (by rw [length_tag,length_tag])
    refine .inl ⟨rfl,?_⟩
    rw [hiv,← hchained]

/-- As long as the session is valid, its vector is the one of the card. -/
theorem Follows.iv {s : Session} {iv iv' : Bytes} {steps : List (Step Environment Call)}
    (h : Follows P s.key s iv steps iv') (hiv : s.iv = iv)
    (hvalid : (final perform s steps).valid = true) : (final perform s steps).iv = iv' := by
  generalize hkey : s.key = key at h
  induction h with
  | nil => exact hiv
  | @cons s iv iv₁ iv₂ step rest hP hsize hvector hserved hrest ih =>
    subst hkey hiv
    rcases step_follows hP hsize hvector hserved with ⟨hkey,hiv⟩ | hdead
    · exact ih hiv hvalid hkey
    · have hended := hdead.stays rest
      change (final perform (step.run perform s).state rest).valid = true at hvalid
      rw [hended] at hvalid
      cases hvalid

end Simulation

/-- Every execution of every run is lawful, and with an honest card the vectors of both sides
agree after every step of a session that is still valid. -/
theorem session_lawful (s : Session) (steps : List (Step Environment Call)) :
    Along perform Lawful s steps ∧
    ∀ (P : Primitives) (iv : Bytes), Follows P s.key s s.iv steps iv →
      (final perform s steps).valid = true → (final perform s steps).iv = iv := by
  refine ⟨?_,fun P iv hfollows hvalid => hfollows.iv rfl hvalid⟩
  induction steps generalizing s with
  | nil => trivial
  | cons step rest ih => exact ⟨s.step_lawful step,ih _⟩

/-- A session under a zero key, and a read of two bytes that an honest card answers. -/
def opened : Session := {reference := .piccMaster,key := zeros 16,generation := 0}

def readTwo : Step Environment Call :=
  ⟨{command := ⟨⟨0x00,0xB0,0x00,0x00,[],some 2,.automatic⟩⟩},
    scripted {replies := [.ok ([1,2] ++ (chainedCmac .echo (zeros 16) (zeros 16) [1,2,0]).take 8 ++
      [0x90,0x00])]},[]⟩

theorem session_lawful_readTwo : (readTwo.run perform opened).result = .ok ⟨0x9000,[1,2]⟩ ∧
    (final perform opened [readTwo]).iv = chainedCmac .echo (zeros 16) (zeros 16) [1,2,0] := by
  have hserved : Served .echo opened.key readTwo.operation.command
      (deliveries (readTwo.run perform opened).events) opened.iv
      (chainedCmac .echo (zeros 16) (zeros 16) [1,2,0]) := by
    refine ⟨fun _ _ => ⟨[1,2],by decide,rfl⟩,?_⟩
    rintro (hother | hwithheld)
    · cases hother
    · obtain ⟨e,he,_⟩ := hwithheld _ (List.mem_singleton_self _)
      cases he
  have hfollows := Follows.cons (scripted_computes _ rfl rfl) (length_zeros 16) (length_zeros 16) hserved .nil
  exact ⟨by decide,(session_lawful opened [readTwo]).2 .echo _ hfollows (by decide)⟩

end Session
end DesfireSdk.Iso7816.Aes
