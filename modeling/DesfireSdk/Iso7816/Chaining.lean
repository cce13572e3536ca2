import DesfireSdk.Foundation.Calm
import DesfireSdk.Iso7816.Evidence

/-! The frames of one ISO exchange: the command, at most one corrected resend, and continuations. -/
namespace DesfireSdk.Iso7816
open Interaction Program

namespace Raw

def Response.sw1 (response : Response) : Byte := (response.status >>> 8).toUInt8
def Response.sw2 (response : Response) : Byte := response.status.toUInt8

/-- The transport returned this complete reply. -/
def Replies (d : Delivery) (reply : Response) : Prop :=
  ∃ bytes, d.handover.answer = .ok bytes ∧ decode bytes = .ok reply

/-- The continuation command for an announced length. -/
def getResponse (le : Byte) : Bytes := [0x00,0xC0,0x00,0x00,le]

/-- After a frame only continuations, each for the length that the reply before it announces. -/
def Continued : Delivery → List Delivery → Prop
  | _,[] => True
  | d,next :: rest =>
    (∃ reply, Replies d reply ∧ reply.sw1 = 0x61 ∧ next.frame = getResponse reply.sw2) ∧ Continued next rest

/-- The length that a length rejection asks for. -/
def correctedLength (sw2 : Byte) : Nat := if sw2 = 0 then 256 else sw2.toNat

/-- The command again with the length that a rejection without data asked for. -/
structure Corrected (apdu : Apdu) (limits : Limits) (first again : Delivery) : Prop where
  enabled : limits.correctLength = true
  rejected : ∃ reply, Replies first reply ∧ reply.sw1 = 0x6C ∧ reply.data = [] ∧
    encode {apdu with le := some (correctedLength reply.sw2)} = .ok again.frame

/-- After the command: continuations, or the corrected command and its continuations. -/
def Followed (apdu : Apdu) (limits : Limits) (first : Delivery) (rest : List Delivery) : Prop :=
  Continued first rest ∨ ∃ again rest', rest = again :: rest' ∧ Corrected apdu limits first again ∧
    Continued again rest'

/-- The frames of one exchange in the order they were handed over. -/
def Framed (apdu : Apdu) (limits : Limits) : List Delivery → Prop
  | [] => True
  | first :: rest => encode apdu = .ok first.frame ∧ Followed apdu limits first rest

section Loop
variable {apdu : Apdu} {limits : Limits} {p : Progress} {n : Nat} {r : Except Fault Response}
  {d : Delivery} {ds : List Delivery} {reply : Response}

/-- The frames of a loop that stands before a request. -/
def Progress.Led (apdu : Apdu) (limits : Limits) (p : Progress) : List Delivery → Prop
  | [] => True
  | d :: rest => d.frame = p.request ∧
    if p.continuation = false ∧ p.corrected = false then Followed apdu limits d rest else Continued d rest

/-- What some further frames of an exchange do. -/
structure LoopRun (apdu : Apdu) (limits : Limits) (n : Nat) (p : Progress) (r : Except Fault Response)
    (ds : List Delivery) : Prop where
  led : p.Led apdu limits ds
  bounded : ds.length ≤ n
  collected : ∀ before d rest, ds = before ++ d :: rest →
    p.assembled.length + (received before).length ≤ limits.maxResponse
  terminal : ∀ response, r = .ok response → response.data.length ≤ limits.maxResponse ∧ response.sw1 ≠ 0x61

namespace LoopRun

theorem unsent {e : Error} : LoopRun apdu limits n p (.error (.error e)) [] where
  led := trivial
  bounded := Nat.zero_le n
  collected before d rest h := by simp at h
  terminal := by rintro _ ⟨⟩

/-- The last frame of an exchange. -/
theorem last (hframe : d.frame = p.request) (hassembled : p.assembled.length ≤ limits.maxResponse)
    (hterminal : ∀ response, r = .ok response → response.data.length ≤ limits.maxResponse ∧ response.sw1 ≠ 0x61) :
    LoopRun apdu limits (n + 1) p r [d] where
  led := by
    refine ⟨hframe,?_⟩
    split
    · exact .inl trivial
    · exact trivial
  bounded := by simp
  collected before d' rest h := by
    have hnone : before = [] := by
      cases before with
      | nil => rfl
      | cons _ before => simp at h
    rw [hnone]
    exact hassembled
  terminal := hterminal

theorem failed {e : Error} (hframe : d.frame = p.request) (hassembled : p.assembled.length ≤ limits.maxResponse) :
    LoopRun apdu limits (n + 1) p (.error (.error e)) [d] :=
  last hframe hassembled (by rintro _ ⟨⟩)

/-- The kept data of the frames after an answered one. -/
theorem collected_cons {kept : Bytes} (hassembled : kept.length ≤ limits.maxResponse)
    (h : ∀ before d' rest, ds = before ++ d' :: rest →
      kept.length + (received [d]).length + (received before).length ≤ limits.maxResponse) :
    ∀ before d' rest, d :: ds = before ++ d' :: rest →
      kept.length + (received before).length ≤ limits.maxResponse := by
  intro before d' rest hsplit
  cases before with
  | nil => exact hassembled
  | cons first before =>
    rw [List.cons_append,List.cons.injEq] at hsplit
    obtain ⟨rfl,hrest⟩ := hsplit
    have hreceived : received (d :: before) = received [d] ++ received before := received_append [d] before
    have hkept := h before d' rest hrest
    rw [hreceived,List.length_append]
    omega

/-- A continuation after a reply that announces one. -/
theorem continued (hframe : d.frame = p.request) (hassembled : p.assembled.length ≤ limits.maxResponse)
    (hreply : Replies d reply) (hannounced : reply.sw1 = 0x61)
    (h : LoopRun apdu limits n ⟨getResponse reply.sw2,true,true,p.corrected,p.assembled ++ received [d]⟩ r ds) :
    LoopRun apdu limits (n + 1) p r (d :: ds) where
  led := by
    have hcontinued : Continued d ds := by
      match ds,h.led with
      | [],_ => exact trivial
      | next :: rest,hled =>
        obtain ⟨hnext,hrest⟩ := hled
        rw [if_neg (by simp)] at hrest
        exact ⟨⟨reply,hreply,hannounced,hnext⟩,hrest⟩
    refine ⟨hframe,?_⟩
    split
    · exact .inl hcontinued
    · exact hcontinued
  bounded := by
    have hlength := h.bounded
    rw [List.length_cons]
    omega
  collected := by
    apply collected_cons hassembled
    intro before d' rest hsplit
    have hkept := h.collected before d' rest hsplit
    rwa [List.length_append] at hkept
  terminal := h.terminal

/-- The corrected command after a rejection. -/
theorem corrected {encoded : Bytes} (hframe : d.frame = p.request)
    (hassembled : p.assembled.length ≤ limits.maxResponse) (hfirst : p.continuation = false ∧ p.corrected = false)
    (henabled : limits.correctLength = true) (hreply : Replies d reply) (hrejected : reply.sw1 = 0x6C)
    (hempty : reply.data = []) (hnone : received [d] = [])
    (hencoded : encode {apdu with le := some (correctedLength reply.sw2)} = .ok encoded)
    (h : LoopRun apdu limits n {p with request := encoded,sent := true,corrected := true} r ds) :
    LoopRun apdu limits (n + 1) p r (d :: ds) where
  led := by
    have hfollowed : Followed apdu limits d ds := by
      match ds,h.led with
      | [],_ => exact .inl trivial
      | again :: rest,hled =>
        obtain ⟨hagain,hrest⟩ := hled
        rw [if_neg (by simp)] at hrest
        have hsame : encode {apdu with le := some (correctedLength reply.sw2)} = .ok again.frame := by
          rw [hencoded,hagain]
        exact .inr ⟨again,rest,rfl,⟨henabled,reply,hreply,hrejected,hempty,hsame⟩,hrest⟩
    refine ⟨hframe,?_⟩
    rw [if_pos hfirst]
    exact hfollowed
  bounded := by
    have hlength := h.bounded
    rw [List.length_cons]
    omega
  collected := by
    apply collected_cons hassembled
    intro before d' rest hsplit
    have hkept := h.collected before d' rest hsplit
    rw [hnone]
    exact hkept
  terminal := h.terminal

end LoopRun

/-- The encoding of one more command, which hands nothing over. -/
theorem encoding_next {o : Oracle Environment} {τ : Type} {s : τ} (encoding : Result Bytes) :
    Delivers o (Op.mapError Error.afterDelivery (Op.ofResult encoding)) s fun r _ ds =>
      ds = [] ∧ r ≠ .error .thrown ∧ ∀ encoded, r = .ok encoded → encoding = .ok encoded := by
  refine Op.ensures_mapError (Op.ensures_ofResult ?_)
  cases encoding with
  | ok encoded => exact ⟨rfl,by simp,by rintro _ ⟨⟩; rfl⟩
  | error e => exact ⟨rfl,by simp,by rintro _ ⟨⟩⟩

theorem exchangeLoop_runs {o : Oracle Environment} (apdu : Apdu) (limits : Limits)
    (transportLimits : TransportCapabilities) (budget : Budget) (n : Nat) (p : Progress) (attempted : Bool)
    (hassembled : p.assembled.length ≤ limits.maxResponse) :
    Delivers o (exchangeLoop apdu limits transportLimits budget n p) attempted fun r _ ds =>
      LoopRun apdu limits n p r ds := by
  induction n generalizing p attempted with
  | zero => exact Op.ensures_reject .unsent
  | succ n ih =>
    refine ensures_bind budget_next ?_ ?_
    · rintro (e | _) _ _ ⟨rfl,hthrown,_⟩
      · exact .unsent
      · exact absurd rfl hthrown
    rintro remaining _ _ ⟨rfl,_,_⟩
    refine Op.ensures_refuse_bind (fun _ => .unsent) fun _ => ?_
    refine ensures_modify_bind (ensures_bind transport_next ?_ ?_)
    · rintro (e | _) _ _ ⟨_,hthrown,d,rfl,hframe,_⟩
      · exact .failed hframe hassembled
      · exact absurd rfl hthrown
    rintro frame _ _ ⟨_,_,d,rfl,hframe,hanswer,_⟩
    refine Op.ensures_generation_bind fun _ => ?_
    refine Op.ensures_refuse_bind (fun _ => .failed hframe hassembled) fun _ => ?_
    refine Op.ensures_refuse_bind (fun _ => .failed hframe hassembled) fun _ => ?_
    refine Op.ensures_ofResult_bind (fun _ _ => .failed hframe hassembled) fun reply hdecoded => ?_
    have hreply : Replies d reply := ⟨frame,hanswer frame rfl,hdecoded⟩
    have hdata : received [d] = reply.data := received_reply (hanswer frame rfl) hdecoded
    refine Op.ensures_refuse_bind (fun _ => .failed hframe hassembled) fun hempty => ?_
    refine ensures_ite (fun hcorrected => ?_) fun _ => ?_
    · obtain ⟨hrejected,henabled,hcontinuation,honce⟩ := hcorrected
      have hnone : reply.data = [] := by
        by_contra hsome
        exact hempty ⟨hrejected,hsome⟩
      refine Op.ensures_refuse_bind (fun _ => .failed hframe hassembled) fun _ => ?_
      refine ensures_bind (encoding_next (encode {apdu with le := some (correctedLength reply.sw2)})) ?_ ?_
      · rintro (e | _) _ _ ⟨rfl,hthrown,_⟩
        · exact .failed hframe hassembled
        · exact absurd rfl hthrown
      · rintro encoded _ _ ⟨rfl,_,hencoded⟩
        let again : Progress := {p with request := encoded,sent := true,corrected := true}
        have hagain : again.assembled.length ≤ limits.maxResponse := hassembled
        refine (ih again _ hagain).mono fun r _ ds h => ?_
        have hfirst : p.continuation = false ∧ p.corrected = false :=
          ⟨Bool.eq_false_iff.mpr hcontinuation,Bool.eq_false_iff.mpr honce⟩
        exact .corrected hframe hassembled hfirst henabled hreply hrejected hnone (hdata.trans hnone)
          (hencoded encoded rfl) h
    · refine Op.ensures_refuse_bind (fun _ => .failed hframe hassembled) fun hfits => ?_
      rw [sizeSub_of_le hassembled] at hfits
      have hkept : (p.assembled ++ reply.data).length ≤ limits.maxResponse := by
        rw [List.length_append]
        omega
      refine ensures_ite (fun hterminal => ensures_pure ?_) fun hmore => ?_
      · refine .last hframe hassembled ?_
        rintro _ ⟨⟩
        exact ⟨hkept,hterminal⟩
      · have hannounced : reply.sw1 = 0x61 := Decidable.not_not.mp hmore
        refine Op.ensures_refuse_bind (fun _ => .failed hframe hassembled) fun _ => ?_
        refine (ih _ _ hkept).mono fun r _ ds h => ?_
        refine .continued hframe hassembled hreply hannounced ?_
        rw [hdata]
        exact h

theorem Progress.Led.framed {request : Bytes} (hrequest : encode apdu = .ok request)
    (h : Progress.Led apdu limits {request := request} ds) : Framed apdu limits ds := by
  match ds,h with
  | [],_ => exact trivial
  | d :: rest,⟨hframe,hfollowed⟩ =>
    rw [if_pos ⟨rfl,rfl⟩] at hfollowed
    exact ⟨hrequest.trans (congrArg Except.ok hframe.symm),hfollowed⟩

end Loop

/-- An exchange: its frames, their number, and the data kept before each of them and in the end. -/
structure Transmitted (apdu : Apdu) (limits : Limits) (r : Except Fault Response) (ds : List Delivery) : Prop where
  framed : Framed apdu limits ds
  bounded : ds.length ≤ limits.maxFrames
  collected : ∀ before d rest, ds = before ++ d :: rest → (received before).length ≤ limits.maxResponse
  terminal : ∀ response, r = .ok response → response.data.length ≤ limits.maxResponse ∧ response.sw1 ≠ 0x61
  thrown : r = .error .thrown → ds = []

theorem Transmitted.unsent {apdu : Apdu} {limits : Limits} {f : Fault} :
    Transmitted apdu limits (.error f) [] where
  framed := trivial
  bounded := Nat.zero_le _
  collected before d rest h := by simp at h
  terminal := by rintro _ ⟨⟩
  thrown _ := rfl

theorem Channel.exchangeFrames_transmitted (o : Oracle Environment) (apdu : Apdu) (options : ExchangeOptions)
    (limits : Limits) : Delivers o (Channel.exchangeFrames apdu options limits) false fun r _ ds =>
      Transmitted apdu limits r ds := by
  refine Op.ensures_refuse_bind (fun _ => .unsent) fun _ => ?_
  refine Op.ensures_capabilities_bind .unsent fun _ transportLimits _ => ?_
  refine Op.ensures_refuse_bind (fun _ => .unsent) fun _ => ?_
  refine Op.ensures_refuse_bind (fun _ => .unsent) fun _ => ?_
  refine Op.ensures_ofResult_bind (fun _ _ => .unsent) fun initial hinitial => ?_
  refine Op.ensures_refuse_bind (fun _ => .unsent) fun _ => ?_
  refine ensures_bind (m := fun r s' ds => (∃ budget, r = .ok budget) ∧ s' = false ∧ ds = []) ?_ ?_ ?_
  · refine Op.ensures_generation_bind fun _ => Op.ensures_now_bind fun _ => ?_
    exact ensures_pure ⟨⟨_,rfl⟩,rfl,rfl⟩
  · rintro _ _ _ ⟨⟨_,⟨⟩⟩,_⟩
  rintro budget _ _ ⟨_,rfl,rfl⟩
  have hnone : ({request := initial} : Progress).assembled.length ≤ limits.maxResponse := Nat.zero_le _
  have hruns : Delivers o _ _ _ := exchangeLoop_runs apdu limits transportLimits budget limits.maxFrames _ false hnone
  have hevidence : Delivers o _ _ _ :=
    exchangeLoop_evidence apdu limits transportLimits budget limits.maxFrames {request := initial} false
  refine (hruns.and hevidence).mono ?_
  rintro r _ ds ⟨hrun,_,hsteady⟩
  refine ⟨hrun.led.framed hinitial,hrun.bounded,?_,hrun.terminal,fun hthrown => absurd hthrown hsteady⟩
  intro before d rest hsplit
  have hkept := hrun.collected before d rest hsplit
  rwa [List.length_nil,Nat.zero_add] at hkept

theorem Channel.exchange_transmitted {τ : Type} (o : Oracle Environment) (apdu : Apdu) (options : ExchangeOptions)
    (limits : Limits) (s : τ) : Delivers o (Channel.exchange apdu options limits) s fun r _ ds =>
      Transmitted apdu limits r ds := by
  refine Op.ensures_admission_bind fun _ => ?_
  refine Program.ensures_refuse_bind (fun _ => .unsent) fun _ => ?_
  refine Op.ensures_refuse_bind (fun _ => .unsent) fun _ => ?_
  refine ensures_within (ensures_settle ((exchangeFrames_transmitted o apdu options limits).mono ?_))
  rintro ((e | _) | response) attempted ds h
  · exact h
  · rw [h.thrown rfl]
    exact .unsent
  · exact h

/-- An exchange with the evidence of its result. -/
structure Exchanged (apdu : Apdu) (limits : Limits) (r : Except Fault Response) (ds : List Delivery) : Prop
    extends Transmitted apdu limits r ds where
  replied : ∀ response, r = .ok response → response.data = received ds ∧ Concluded response.status ds
  failed : ∀ e, r = .error (.error e) → (∃ d ∈ ds, ¬d.Withheld) → e.outcome ≠ .notSent

theorem Continued.frames {d : Delivery} {rest : List Delivery} (h : Continued d rest) :
    ∀ next ∈ rest, ∃ le, next.frame = getResponse le := by
  induction rest generalizing d with
  | nil => simp
  | cons next rest ih =>
    obtain ⟨⟨reply,_,_,hframe⟩,hrest⟩ := h
    intro later hlater
    rcases List.mem_cons.mp hlater with rfl | hmember
    · exact ⟨_,hframe⟩
    · exact ih hrest later hmember

end Raw

namespace Checked

/-- What the builders make, and what is left of it after a move. -/
inductive Made : Command → Prop
  | selectFile {identifier selection response encoding command}
      (h : Command.selectFile identifier selection response encoding = .ok command) : Made command
  | selectDfName {name response encoding command}
      (h : Command.selectDfName name response encoding = .ok command) : Made command
  | readBinary {address expected encoding command}
      (h : Command.readBinary address expected encoding = .ok command) : Made command
  | updateBinary {address data encoding command}
      (h : Command.updateBinary address data encoding = .ok command) : Made command
  | readRecords {record identifier selection expected encoding command}
      (h : Command.readRecords record identifier selection expected encoding = .ok command) : Made command
  | appendRecord {identifier data encoding command}
      (h : Command.appendRecord identifier data encoding = .ok command) : Made command
  | updateRecord {instruction record identifier control data command}
      (h : Command.updateRecord instruction record identifier control data = .ok command) : Made command
  | getChallenge {expected encoding command}
      (h : Command.getChallenge expected encoding = .ok command) : Made command
  | externalAuthenticate {algorithm key cryptogram encoding command}
      (h : Command.externalAuthenticate algorithm key cryptogram encoding = .ok command) : Made command
  | internalAuthenticate {algorithm key challenge encoding command}
      (h : Command.internalAuthenticate algorithm key challenge encoding = .ok command) : Made command
  | moved {command} (h : Made command) : Made ⟨{command.apdu with data := []}⟩

theorem make_ok {instruction p1 p2 : Byte} {data : Bytes} {expected : Option Nat} {encoding : Raw.LengthEncoding}
    {command : Command} (h : Command.make instruction p1 p2 data expected encoding = .ok command) :
    command = ⟨⟨0x00,instruction,p1,p2,data,expected,encoding⟩⟩ := by
  unfold Command.make at h
  dsimp only at h
  cases hencode : Raw.encode ⟨0x00,instruction,p1,p2,data,expected,encoding⟩ with
  | error e =>
    rw [hencode] at h
    cases h
  | ok wire =>
    rw [hencode] at h
    cases h
    rfl

theorem make_of_guarded {c : Prop} [Decidable c] {e : Error} {instruction p1 p2 : Byte} {data : Bytes}
    {expected : Option Nat} {encoding : Raw.LengthEncoding} {command : Command}
    (h : (if c then .error e else Command.make instruction p1 p2 data expected encoding) = .ok command) :
    ¬c ∧ command = ⟨⟨0x00,instruction,p1,p2,data,expected,encoding⟩⟩ := by
  by_cases hc : c
  · rw [if_pos hc] at h
    cases h
  · rw [if_neg hc] at h
    exact ⟨hc,make_ok h⟩

/-- No builder makes a continuation command. -/
theorem Made.instruction_ne {command : Command} (h : Made command) : command.instruction ≠ 0xC0 := by
  have hmade {p1 p2 : Byte} {data : Bytes} {expected : Option Nat} {encoding : Raw.LengthEncoding} {command : Command}
      (instruction : Byte) (hne : instruction ≠ 0xC0)
      (h : command = ⟨⟨0x00,instruction,p1,p2,data,expected,encoding⟩⟩) : command.instruction ≠ 0xC0 := by
    rw [h]
    exact hne
  induction h with
  | selectFile h => exact hmade 0xA4 (by decide) (make_of_guarded h).2
  | selectDfName h => exact hmade 0xA4 (by decide) (make_of_guarded h).2
  | readBinary h => exact hmade 0xB0 (by decide) (make_ok h)
  | updateBinary h => exact hmade 0xD6 (by decide) (make_of_guarded h).2
  | readRecords h => exact hmade 0xB2 (by decide) (make_of_guarded h).2
  | appendRecord h => exact hmade 0xE2 (by decide) (make_of_guarded h).2
  | @updateRecord instruction record identifier control data command h =>
    obtain ⟨hallowed,hcommand⟩ := make_of_guarded h
    refine hmade instruction ?_ hcommand
    rintro rfl
    exact hallowed (.inl ⟨by decide,by decide⟩)
  | getChallenge h => exact hmade 0x84 (by decide) (make_of_guarded h).2
  | externalAuthenticate h => exact hmade 0x82 (by decide) (make_of_guarded h).2
  | internalAuthenticate h => exact hmade 0x88 (by decide) (make_of_guarded h).2
  | moved h ih => exact ih

/-- The command goes out in the first frame, and no later frame has its instruction. -/
structure SentOnce (command : Command) (ds : List Delivery) : Prop where
  sent : ∀ first rest, ds = first :: rest → Raw.encode command.apdu = .ok first.frame
  continued : ∀ first rest, ds = first :: rest → Raw.Continued first rest
  unrepeated : ∀ first rest, ds = first :: rest → ∀ d ∈ rest, d.frame[1]? ≠ some command.instruction

theorem SentOnce.none {command : Command} : SentOnce command [] where
  sent first rest h := by cases h
  continued first rest h := by cases h
  unrepeated first rest h := by cases h

theorem Channel.exchange_once {τ : Type} (o : Oracle Environment) {command : Command} (hmade : Made command)
    (hread : command.isRead = false) (options : ExchangeOptions) (limits : Limits) (s : τ) :
    Delivers o (Channel.exchange command options limits) s fun _ _ ds => SentOnce command ds := by
  have honce : ∀ {r : Except Fault Raw.Response} {ds : List Delivery},
      Raw.Transmitted command.apdu ⟨limits.maxResponse,limits.maxFrames,limits.correctReadLength && command.isRead⟩ r ds →
        SentOnce command ds := by
    intro r ds h
    match ds,h.framed with
    | [],_ => exact .none
    | first :: rest,⟨hfirst,hfollowed⟩ =>
      rcases hfollowed with hcontinued | ⟨again,_,_,hcorrected,_⟩
      · refine ⟨by rintro _ _ ⟨⟩; exact hfirst,by rintro _ _ ⟨⟩; exact hcontinued,?_⟩
        rintro _ _ ⟨⟩ d hd hsame
        obtain ⟨le,hframe⟩ := hcontinued.frames d hd
        rw [hframe] at hsame
        have hinstruction : command.instruction = 0xC0 := (Option.some.inj hsame).symm
        exact hmade.instruction_ne hinstruction
      · have henabled := hcorrected.enabled
        rw [hread,Bool.and_false] at henabled
        cases henabled
  refine Op.ensures_refuse_bind (fun _ => .none) fun _ => ?_
  refine ensures_bind (Raw.Channel.exchange_transmitted o _ _ _ s) ?_ ?_
  · exact fun f _ ds h => honce h
  · intro response _ ds h
    refine ensures_pure ?_
    rw [List.append_nil]
    exact honce h

end Checked

/-- Whatever the card replies, an exchange keeps to its frames and limits, and
the checked channel repeats nothing but reads. -/
theorem exchange_chained {τ : Type} (o : Oracle Environment) (options : ExchangeOptions) (s : τ) :
    (∀ apdu limits, Delivers o (Raw.Channel.exchange apdu options limits) s fun r _ ds =>
      Raw.Exchanged apdu limits r ds) ∧
    ∀ command limits, Checked.Made command → command.isRead = false →
      Delivers o (Checked.Channel.exchange command options limits) s fun _ _ ds => Checked.SentOnce command ds := by
  refine ⟨fun apdu limits => ?_,fun command limits hmade hread => ?_⟩
  · have htransmitted := Raw.Channel.exchange_transmitted o apdu options limits s
    have hevidence := Raw.Channel.exchange_evidence o apdu options limits s
    refine (htransmitted.and hevidence).mono ?_
    rintro r _ ds ⟨h,hseen⟩
    refine ⟨h,?_,?_⟩
    · intro response hresponse
      obtain ⟨hconcluded,hdata⟩ := hseen.replied response hresponse
      exact ⟨hdata,hconcluded⟩
    · rintro e he ⟨d,hd,hdelivered⟩ hnotSent
      exact hdelivered ((hseen.notSent e he hnotSent).2 d hd)
  · exact Checked.Channel.exchange_once o hmade hread options limits s

/-- A write whose reply announces two more bytes. -/
def announcing : Script := {limits := {framing := .iso7816},replies := [.ok [0x61,0x02],.ok [0xAA,0xBB,0x90,0x00]]}

def oneByteUpdate : Checked.Command := ⟨⟨0x00,0xD6,0x00,0x00,[0xAA],none,.automatic⟩⟩

theorem exchange_chained_update : Delivers (scripted announcing) (Checked.Channel.exchange oneByteUpdate ⟨1000⟩) ()
    fun _ _ ds => Checked.SentOnce oneByteUpdate ds := by
  have hmade : Checked.Command.updateBinary ⟨0x00,0x00⟩ [0xAA] .automatic = .ok oneByteUpdate := by
    decide +kernel
  have hread : oneByteUpdate.isRead = false := by decide
  obtain ⟨_,honce⟩ := exchange_chained (scripted announcing) ⟨1000⟩ ()
  exact honce oneByteUpdate {} (.updateBinary hmade) hread

end DesfireSdk.Iso7816
