import DesfireSdk.Native.Raw.Calm
import DesfireSdk.Native.Secure.Evidence

/-!
A request whose answer is read differently from how it was protected: the card executes it,
and the phase error of the session denies that anything was sent.
-/
namespace DesfireSdk.Native.Secure
open Interaction Program Security

section Ev2
variable {s : Ev2.Session} {request : Request}

/-- Working primitives protect every request with room for it. -/
theorem ev2_prepares (hready : s.phase = .ready) (hcounter : s.counter ≠ Ev2.counterMax)
    (hfits : Fits request) (P : Primitives) :
    ∃ wire s', ∀ o, Computes o P → Yields o (prepare request) s wire s' := by
  have hopen : s.Open := ⟨hready,hcounter⟩
  unfold Fits at hfits
  unfold prepare
  rcases hmode : request.requestMode with _ | _ | _ | value <;> rw [hmode] at hfits <;> simp only at hfits ⊢
  · exact ⟨_,_,fun o _ => Ev2.Session.yields_preparePlain hopen hfits⟩
  · exact ⟨_,_,fun o hP => Ev2.Session.yields_prepareMac hP hopen hfits⟩
  all_goals
    by_cases hdata : request.data = []
    · rw [hdata] at hfits ⊢
      exact ⟨_,_,fun o hP => Ev2.Session.yields_prepareFull_nil hP hopen hfits⟩
    · exact ⟨_,_,fun o hP => Ev2.Session.yields_prepareFull hP hopen hdata hfits⟩

/-- The session refuses to read the answer and says that nothing was sent. -/
theorem accept_mismatched (hvalid : validate request = .ok ()) (hpaired : ¬Paired request)
    (hphase : s.phase = awaited request) (response : Raw.Response) {ω : Type}
    (view : Event Environment → Option ω) (o : Oracle Environment) (seen : List ω) :
    ∃ e : Error, e.outcome = .notSent ∧
      Reaches view o seen (accept request response) s (.error (.error e)) s [] := by
  unfold accept
  rcases known_cases (validate_ok hvalid).2 with hmode | hmode | hmode <;> simp only [hmode]
  · have hprotected : request.requestMode ≠ .plain :=
      fun hplain => hpaired (.inl ⟨fun _ => hmode,fun _ => hplain⟩)
    have hinvalidates : ¬request.invalidatesSession = true := fun h => hpaired (.inr ⟨h,hmode⟩)
    rw [awaited,if_neg hprotected] at hphase
    rw [if_neg hinvalidates]
    refine ⟨_,rfl,Reaches.get_bind (Reaches.bind_error (Op.reaches_refused ?_))⟩
    simp [hphase]
  all_goals
    have hplain : request.requestMode = .plain :=
      Decidable.byContradiction fun hne => hpaired (.inl (by simp [hne,hmode]))
    rw [awaited,if_pos hplain] at hphase
  · refine ⟨_,rfl,Reaches.get_bind (Reaches.bind_error (Op.reaches_refused ?_))⟩
    simp [hphase]
  · refine ⟨_,rfl,Reaches.bind_error (Reaches.get_bind (Reaches.bind_error (Op.reaches_refused ?_)))⟩
    simp [hphase]

/-- A mismatched request that can be sent is answered and then denied. -/
theorem ev2_untruthful (hready : s.phase = .ready) (hvalid : validate request = .ok ())
    (hpaired : ¬Paired request) (hsendable : Sendable s request) : ¬Truthful s request := by
  obtain ⟨hcounter,hfits,hfirst,hsingle⟩ := hsendable
  obtain ⟨wire,s',hyields⟩ := ev2_prepares hready hcounter hfits .echo
  have hP := scripted_computes (Raw.answering (rawRequest request wire)) rfl rfl
  have hquiet : Ensures deliveryOf (scripted (Raw.answering (rawRequest request wire)))
      (prepare request) s fun _ _ ds => ds = [] :=
    prepare_ev2Cases.through fun _ _ _ h => h.cryptographic.deliveries
  have hprepare := Reaches.of_yields [] (hyields _ hP) hquiet
  obtain ⟨_,hprepared⟩ := hprepare.meets (P := fun r s' _ => True ∧ ∀ wire, r = .ok wire →
    Prepared s request wire s')
    (prepare_ev2Cases.through fun _ _ _ h => ⟨trivial,by rintro _ rfl; exact h.prepared⟩) [] rfl
  obtain ⟨_,_,hlength,hphase⟩ := hprepared wire rfl
  obtain ⟨t,hfresh,hbegin⟩ := Raw.begin_calm (rawRequest request wire) s
  obtain ⟨ds,⟨d,hd,hanswered⟩,hexchange⟩ := Raw.Transaction.exchange_calm hfresh
    (by simp [rawRequest,responseProtectionOverhead])
    (by rw [← hlength] at hfirst; exact hfirst) hsingle
  obtain ⟨e,he,haccept⟩ := accept_mismatched hvalid hpaired hphase ⟨0x00,[]⟩ deliveryOf
    (scripted (Raw.answering (rawRequest request wire))) ([] ++ ds)
  have hrun : Reaches deliveryOf (scripted (Raw.answering (rawRequest request wire))) []
      (exchangeProtected ⟨.direct⟩ request {}) s (.error (.error e)) s'.invalidate (ds ++ []) := by
    refine Reaches.quiet_bind (Op.reaches_ofResult hvalid) ?_
    refine Reaches.quiet_bind hbegin ?_
    refine Reaches.quiet_bind (Op.reaches_onError hprepare) ?_
    refine Reaches.bind (Op.reaches_onError (Reaches.within hexchange)) ?_
    refine Op.reaches_refuseAfter_bind (by simp) ?_
    exact Reaches.bind_error (Op.reaches_onError_error haccept)
  obtain ⟨hresult,_,hshown⟩ := hrun [] rfl
  intro htruthful
  have hmem : d ∈ ds ++ [] := List.mem_append_left _ hd
  rw [← hshown] at hmem
  exact htruthful _ [] ⟨.direct⟩ {} e hresult ⟨d,hmem,hanswered⟩ he

end Ev2

/-- A native session of either family. -/
inductive NativeSession
  | standardAes (s : StandardAes.Session)
  | ev2 (s : Ev2.Session)

namespace NativeSession

def Ready : NativeSession → Prop
  | standardAes s => s.phase = .ready
  | ev2 s => s.phase = .ready

/-- Errors of exchanges under this session never deny an answered frame. -/
def Truthful : NativeSession → Request → Prop
  | standardAes s,request => Secure.Truthful s request
  | ev2 s,request => Secure.Truthful s request

/-- A Standard AES session, or an EV2 request that is answered in kind or never sent. -/
def Sound : NativeSession → Request → Prop
  | standardAes _,_ => True
  | ev2 s,request => Paired request ∨ ¬Sendable s request

/-- The exchange is truthful exactly when its modes are paired or nothing can be sent. -/
theorem truthful_iff {session : NativeSession} (hready : session.Ready) {request : Request}
    (hvalid : validate request = .ok ()) : session.Truthful request ↔ session.Sound request := by
  cases session with
  | standardAes s => exact ⟨fun _ => trivial,fun _ => Guarded.truthful fun _ => standardAes_guarded hvalid⟩
  | ev2 s =>
    refine ⟨fun htruthful => ?_,fun hsound => Guarded.truthful fun _ => ev2_guarded hsound⟩
    by_cases hpaired : Paired request
    · exact .inl hpaired
    · exact .inr fun hsendable => ev2_untruthful hready hvalid hpaired hsendable htruthful

/-- A write whose answer carries a MAC, sent in plain. -/
def plainWrite : Request := {command := 0x8D,header := [0x02],data := [0x01],requestMode := .plain}

theorem truthful_iff_plainWrite :
    (NativeSession.ev2 ⟨zeros 16,zeros 16,{},0,.ready,rfl,rfl⟩).Truthful plainWrite ↔
      (NativeSession.ev2 ⟨zeros 16,zeros 16,{},0,.ready,rfl,rfl⟩).Sound plainWrite :=
  truthful_iff (show (ev2 ⟨zeros 16,zeros 16,{},0,.ready,rfl,rfl⟩).Ready from rfl) rfl

/-- The card answers the write, and the error denies it. -/
theorem plainWrite_denied :
    let run := exchangeProtected ⟨.direct⟩ plainWrite {}
      (scripted {limits := {framing := .native},replies := [.ok [0x00]]}) []
      (⟨zeros 16,zeros 16,{},0,.ready,rfl,rfl⟩ : Ev2.Session)
    validate plainWrite = .ok () ∧
      (deliveries run.events).map (fun d => (d.frame,d.handover.answer)) =
        [([0x8D,0x02,0x01],.ok [0x00])] ∧
      ∃ e : Error, run.result = .error (.error e) ∧ e.outcome = .notSent := by
  refine ⟨rfl,rfl,_,rfl,rfl⟩

end NativeSession
end DesfireSdk.Native.Secure
