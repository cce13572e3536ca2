import DesfireSdk.Interaction.Runs
import DesfireSdk.Security.Ev2.Evaluation

/-!
Whole runs of EV2 sessions: the counter of every prepared command, the inputs of the initialization
vectors, and the end of a session that failed.
-/
namespace DesfireSdk.Security.Ev2
open Interaction Program

/-- One call on a session; a NonFirst re-authentication brings new keys. -/
inductive Call
  | preparePlain (command : Byte) (header data : Bytes)
  | prepareMac (command : Byte) (header data : Bytes)
  | prepareFull (command : Byte) (clearHeader clearData : Bytes)
  | acceptPlainResponse (response : Native.Raw.Response)
  | verifyResponse (response : Native.Raw.Response)
  | verifyAndDecryptFullResponse (response : Native.Raw.Response) (expectedSize : Option Nat)
  | renew (material : AuthenticationMaterial)

def Call.prepares : Call → Bool
  | preparePlain .. | prepareMac .. | prepareFull .. => true
  | _ => false

/-- The command that a preparation authenticates. -/
def Call.authenticated : Call → Option Byte
  | prepareMac command .. | prepareFull command .. => some command
  | _ => none

/-- The most bytes that an object in memory has, `PTRDIFF_MAX`. -/
def objectMax : Nat := 2^63 - 1

/-- The arguments of a call lie in memory, and so does the padded data of a Full preparation. -/
def Call.Representable : Call → Prop
  | preparePlain _ header data | prepareMac _ header data => header.length ≤ objectMax ∧ data.length ≤ objectMax
  | prepareFull _ clearHeader clearData => clearHeader.length ≤ objectMax ∧
      (Padding.pad 0x00 0x80 aesBlockSize clearData).length ≤ objectMax
  | acceptPlainResponse response | verifyResponse response | verifyAndDecryptFullResponse response _ =>
      response.data.length ≤ objectMax
  | renew material => material.encryptionKey.length ≤ objectMax ∧ material.macKey.length ≤ objectMax

instance : DecidablePred Call.Representable
  | .preparePlain .. | .prepareMac .. | .prepareFull .. | .renew _ => inferInstanceAs (Decidable (_ ∧ _))
  | .acceptPlainResponse _ | .verifyResponse _ | .verifyAndDecryptFullResponse .. => inferInstanceAs (Decidable (_ ≤ _))

namespace Session

/-- What a NonFirst re-authentication does to the session it starts from: new keys under the same
transaction and the same counter. -/
def renew (material : AuthenticationMaterial) : Op Session Bytes := do
  let s ← Program.get
  Op.refuse (s.phase = .invalid ∨ material.information ≠ s.authentication) notReady
  let renewed ← Op.ofResult (create material s.counter)
  Program.modify fun _ => renewed
  pure []

def perform : Call → Op Session Bytes
  | .preparePlain command header data => preparePlain command header data
  | .prepareMac command header data => prepareMac command header data
  | .prepareFull command header data => prepareFull command header data
  | .acceptPlainResponse response => acceptPlainResponse response
  | .verifyResponse response => verifyResponse response
  | .verifyAndDecryptFullResponse response expectedSize => verifyAndDecryptFullResponse response expectedSize
  | .renew material => renew material

/-- The refusals of an argument for its size. -/
def sizeErrors : List Error :=
  [DesfireSdk.invalid "EV2 Plain command data is too large",
    DesfireSdk.invalid "EV2 secure-message MAC input is too large",
    DesfireSdk.invalid "EV2 Full command data is too large to pad"]

/-- A call in the wrong phase, an oversized argument, or a renewal that was refused. -/
inductive Excuse (s : Session) : Call → Error → Prop
  | unready {call} (hprepares : call.prepares = true) (h : s.phase ≠ .ready) : Excuse s call notReady
  | unawaitedPlain {response} (h : s.phase ≠ .awaitingPlainResponse) : Excuse s (.acceptPlainResponse response)
      ⟨.sessionInvalid,"EV2 secure session is not awaiting a Plain response",.notSent,0⟩
  | unawaited {response} (h : s.phase ≠ .awaitingResponse) : Excuse s (.verifyResponse response)
      ⟨.sessionInvalid,"EV2 secure session is not awaiting a response",.notSent,0⟩
  | unawaitedFull {response expectedSize} (h : s.phase ≠ .awaitingResponse) :
      Excuse s (.verifyAndDecryptFullResponse response expectedSize)
        ⟨.sessionInvalid,"EV2 secure session is not awaiting a response",.notSent,0⟩
  | oversized {call e} (hprepares : call.prepares = true) (h : e ∈ sizeErrors) : Excuse s call e
  | unrenewed {material e} : Excuse s (.renew material) e

/-- The first block that is enciphered; every message starts with the one of its vector. -/
def enciphered? : Event Environment → Option Bytes
  | ⟨.cbc _ _ input true,_⟩ => some input
  | _ => none

def formedIv (es : Trace Environment) : Option Bytes := es.findSome? enciphered?

/-- The input of the vector with this label. -/
def ivOf (s : Session) (label : Bytes) : Bytes :=
  ivInput label s.authentication.transactionIdentifier s.counter

/-- No vector was formed, or the one with this label. -/
def Forms (s : Session) (label : Bytes) (es : Trace Environment) : Prop :=
  formedIv es = none ∨ formedIv es = some (s.ivOf label)

/-- The MAC of the command was asked for under the counter of the session. -/
def Authenticates (s : Session) (call : Call) (es : Trace Environment) : Prop :=
  ∀ command ∈ call.authenticated, ∃ payload reply, ⟨.cmac s.macKey (s.macInput command payload),reply⟩ ∈ es

/-- The label of the message that the phase allows. -/
inductive Labelled (s : Session) : Bytes → Prop
  | request (h : s.phase = .ready) : Labelled s requestLabel
  | response (h : s.phase = .awaitingResponse) : Labelled s responseLabel

/-- Every way one call can go. -/
inductive StepRun (s : Session) : Call → Except Fault Bytes → Session → Trace Environment → Prop
  | excused {call e es} (h : Excuse s call e) (hiv : call.Representable → formedIv es = none) :
      StepRun s call (.error (.error e)) s es
  | failed {call e es} (hphase : s.phase ≠ .invalid)
      (hiv : formedIv es = none ∨ ∃ label, Labelled s label ∧ formedIv es = some (s.ivOf label)) :
      StepRun s call (.error (.error e)) s.invalidate es
  | prepared {call output phase es} (hopen : s.Open) (hprepares : call.prepares = true)
      (hiv : Forms s requestLabel es) (hmac : Authenticates s call es) :
      StepRun s call (.ok output) (s.reserve phase) es
  | accepted {call output es} (hprepares : call.prepares = false)
      (hphase : s.phase = .awaitingPlainResponse ∨ s.phase = .awaitingResponse)
      (hiv : formedIv es = none ∨ s.phase = .awaitingResponse ∧ formedIv es = some (s.ivOf responseLabel)) :
      StepRun s call (.ok output) s.resume es
  | renewed {material output renewed} (hphase : s.phase ≠ .invalid)
      (hsame : material.information = s.authentication) (h : create material s.counter = .ok renewed) :
      StepRun s (.renew material) (.ok output) renewed []

section Steps
variable {o : Oracle Environment} {s s' : Session} {r : Except Fault Bytes} {es : Trace Environment}

theorem formedIv_macs {response : Native.Raw.Response}
    (h : ∀ event ∈ es, ∃ reply, event = s.responseMacEvent response reply) : formedIv es = none := by
  apply List.findSome?_eq_none_iff.mpr
  intro event hevent
  obtain ⟨reply,hreply⟩ := h event hevent
  rw [hreply]
  rfl

theorem Turned.runs {call : Call} (h : Turned s r s' es) (hprepares : call.prepares = true) :
    StepRun s call r s' es := by
  cases h with
  | misused h => exact .excused (.unready hprepares h) fun _ => rfl
  | exhausted hready h =>
    have hphase : s.phase ≠ .invalid := by simp [hready]
    exact .failed hphase (.inl rfl)

/-- What lies in memory leaves room for the MAC of a Full command. -/
theorem macFits_of_representable {header data ciphertext : Bytes} (hheader : header.length ≤ objectMax)
    (hdata : (Padding.pad 0x00 0x80 aesBlockSize data).length ≤ objectMax)
    (hciphertext : ciphertext.length = (Padding.pad 0x00 0x80 aesBlockSize data).length) :
    MacFits header ciphertext := by
  have hblocks : (Padding.pad 0x00 0x80 aesBlockSize data).length % 16 = 0 :=
    Padding.length_pad_mod 0x00 0x80 (by decide) data
  rw [← hciphertext] at hdata hblocks
  simp only [MacFits,sizeMax,transmittedMacSize,objectMax] at hheader hdata ⊢
  omega

theorem Open.valid (h : s.Open) : s.phase ≠ .invalid := by simp [h.ready]

/-- A MAC over some payload, after what was asked for before. -/
theorem MacCase.runs {call : Call} {command : Byte} {header data : Bytes} (before : Trace Environment)
    (h : MacCase s command header data r s' es) (hprepares : call.prepares = true)
    (hcommand : ∀ command' ∈ call.authenticated, command' = command)
    (hbefore : before = [] ∨ s.Open ∧ formedIv (before ++ es) = some (s.ivOf requestLabel) ∧
      (call.Representable → MacFits header data)) :
    StepRun s call r s' (before ++ es) := by
  have hforms : formedIv es = none → Forms s requestLabel (before ++ es) := by
    intro hnone
    rcases hbefore with rfl | ⟨_,hformed,_⟩
    · exact .inl hnone
    · exact .inr hformed
  cases h with
  | turned h =>
    rcases hbefore with rfl | ⟨hopen,_,_⟩
    · exact h.runs hprepares
    · cases h with
      | misused h => exact absurd hopen.ready h
      | exhausted _ h => exact absurd h hopen.counter
  | oversized hopen hlarge =>
    refine .excused (.oversized hprepares (by simp [sizeErrors])) fun hrepresentable => ?_
    rcases hbefore with rfl | ⟨_,_,hfits⟩
    · rfl
    · exact absurd (hfits hrepresentable) hlarge
  | failed hopen e reply =>
    refine .failed hopen.valid ?_
    rcases hforms rfl with hnone | hformed
    · exact .inl hnone
    · exact .inr ⟨_,.request hopen.ready,hformed⟩
  | prepared hopen hfits mac hmac =>
    refine .prepared hopen hprepares (hforms rfl) ?_
    intro command' hcommand'
    rw [hcommand command' hcommand']
    exact ⟨header ++ data,.ok mac,by simp⟩

theorem VerifyCase.formed {response : Native.Raw.Response} (h : VerifyCase s response r s' es) :
    formedIv es = none := by
  cases h with
  | misused => rfl
  | refused h e he hstatus es hes => exact formedIv_macs hes
  | verified => rfl

theorem VerifyCase.resumed {response : Native.Raw.Response} {data : Bytes}
    (h : VerifyCase s response (.ok data) s' es) : s.phase = .awaitingResponse ∧ s' = s.resume := by
  generalize hr : (Except.ok data : Except Fault Bytes) = r at h
  cases h with
  | misused => cases hr
  | refused => cases hr
  | verified h => exact ⟨h,rfl⟩

theorem formedIv_append {es' : Trace Environment} (h : formedIv es = none) :
    formedIv (es ++ es') = formedIv es' := by
  unfold formedIv at h ⊢
  rw [List.findSome?_append,h,Option.none_or]

theorem renew_runs (material : AuthenticationMaterial) :
    Ensures some o (renew material) s (StepRun s (.renew material)) := by
  refine ensures_get_bind ?_
  refine Op.ensures_refuse_bind (fun _ => .excused .unrenewed fun _ => rfl) fun hadmitted => ?_
  have hphase : s.phase ≠ .invalid := fun h => hadmitted (.inl h)
  have hsame : material.information = s.authentication := by
    by_contra hother
    exact hadmitted (.inr hother)
  refine Op.ensures_ofResult_bind (fun e _ => .excused .unrenewed fun _ => rfl) fun renewed hrenewed => ?_
  exact ensures_modify_bind (ensures_pure (.renewed hphase hsame hrenewed))

theorem perform_runs (call : Call) : Ensures some o (perform call) s (StepRun s call) := by
  cases call with
  | preparePlain command header data =>
    refine (preparePlain_cases o command header data s).mono ?_
    intro r s' es h
    cases h with
    | turned h => exact h.runs rfl
    | oversized hopen => exact .excused (.oversized rfl (by simp [sizeErrors])) fun _ => rfl
    | prepared hopen hfits => exact .prepared hopen rfl (.inl rfl) (by rintro _ ⟨⟩)
  | prepareMac command header data =>
    refine (prepareMac_cases o command header data s).mono ?_
    intro r s' es h
    exact h.runs [] rfl (by rintro _ ⟨⟩; rfl) (.inl rfl)
  | prepareFull command header data =>
    refine (prepareFull_cases o command header data s).mono ?_
    intro r s' es h
    cases h with
    | turned h => exact h.runs rfl
    | bare hopen hdata h => exact h.runs [] rfl (by rintro _ ⟨⟩; rfl) (.inl rfl)
    | oversized hopen => exact .excused (.oversized rfl (by simp [sizeErrors])) fun _ => rfl
    | failed hopen hdata e reply es hes he => exact .failed hopen.valid (.inr ⟨_,.request hopen.ready,rfl⟩)
    | enciphered hopen hdata hpad iv ciphertext hiv hciphertext h =>
      exact h.runs [s.ivEvent requestLabel (.ok iv),
        ⟨.cbc s.encryptionKey iv (Padding.pad 0x00 0x80 aesBlockSize data) true,.ok ciphertext⟩] rfl
        (by rintro _ ⟨⟩; rfl) (.inr ⟨hopen,rfl,fun hrepresentable =>
          macFits_of_representable hrepresentable.1 hrepresentable.2 hciphertext⟩)
  | acceptPlainResponse response =>
    refine (acceptPlainResponse_cases o response s).mono ?_
    intro r s' es h
    cases h with
    | misused h => exact .excused (.unawaitedPlain h) fun _ => rfl
    | refused h hstatus e he =>
      have hphase : s.phase ≠ .invalid := by simp [h]
      exact .failed hphase (.inl rfl)
    | accepted h hstatus => exact .accepted rfl (.inl h) (.inl rfl)
  | verifyResponse response =>
    refine (verifyResponse_cases o response s).mono ?_
    intro r s' es h
    have hformed := h.formed
    cases h with
    | misused h => exact .excused (.unawaited h) fun _ => rfl
    | refused h e he hstatus es hes =>
      have hphase : s.phase ≠ .invalid := by simp [h]
      exact .failed hphase (.inl hformed)
    | verified h hstatus hlong mac hmac heq => exact .accepted rfl (.inr h) (.inl hformed)
  | verifyAndDecryptFullResponse response expectedSize =>
    refine (verifyAndDecryptFullResponse_cases o response expectedSize s).mono ?_
    intro r s' es h
    cases h with
    | unverified h =>
      have hformed := h.formed
      cases h with
      | misused h => exact .excused (.unawaitedFull h) fun _ => rfl
      | refused h e he hstatus es hes =>
        have hphase : s.phase ≠ .invalid := by simp [h]
        exact .failed hphase (.inl hformed)
    | empty h hsize =>
      have hformed := h.formed
      obtain ⟨hphase,rfl⟩ := h.resumed
      exact .accepted rfl (.inr hphase) (.inl hformed)
    | refused h e he es' hes hiv =>
      have hformed := h.formed
      obtain ⟨hphase,rfl⟩ := h.resumed
      have hvalid : s.phase ≠ .invalid := by simp [hphase]
      refine .failed hvalid ?_
      rw [formedIv_append hformed]
      rcases hiv with rfl | ⟨reply,rest,rfl⟩
      · exact .inl rfl
      · exact .inr ⟨_,.response hphase,rfl⟩
    | decrypted h =>
      have hformed := h.formed
      obtain ⟨hphase,rfl⟩ := h.resumed
      refine .accepted rfl (.inr hphase) (.inr ⟨hphase,?_⟩)
      rw [formedIv_append hformed]
      rfl
  | renew material => exact renew_runs material

theorem step_runs (s : Session) (step : Step Environment Call) :
    StepRun s step.operation (step.run perform s).result (step.run perform s).state
      (step.run perform s).events := by
  have hrun := perform_runs (o := step.oracle) (s := s) step.operation step.history
  rwa [shown_some] at hrun

end Steps

section Runs

/-- The inputs of all vectors formed along some steps. -/
def inputs : Session → List (Step Environment Call) → List Bytes
  | _,[] => []
  | s,step :: rest => (formedIv (step.run perform s).events).toList ++ inputs (step.run perform s).state rest

/-- The step prepares a command. -/
def prepared (s : Session) (step : Step Environment Call) : Bool :=
  step.operation.prepares && (step.run perform s).result.isOk

/-- The commands prepared along some steps. -/
def preparations : Session → List (Step Environment Call) → Nat
  | _,[] => 0
  | s,step :: rest => (if prepared s step then 1 else 0) + preparations (step.run perform s).state rest

/-- The input of a vector that is not formed again. -/
inductive Passed (s : Session) : Bytes → Prop
  | request {counter : UInt16} (h : counter.toNat < s.counter.toNat) :
      Passed s (ivInput requestLabel s.authentication.transactionIdentifier counter)
  | response {counter : UInt16} (h : counter.toNat ≤ s.counter.toNat)
      (hawaited : s.phase = .awaitingResponse → counter.toNat < s.counter.toNat) :
      Passed s (ivInput responseLabel s.authentication.transactionIdentifier counter)

/-- The counter of a session that prepared so many commands. -/
def Counts (start : UInt16) (count : Nat) (s : Session) : Prop :=
  s.phase ≠ .invalid → s.counter.toNat = start.toNat + count

/-- The inputs formed so far. -/
structure Progress (used : List Bytes) (s : Session) : Prop where
  distinct : used.Nodup
  passed : s.phase ≠ .invalid → ∀ input ∈ used, Passed s input

variable {s s' : Session} {start : UInt16} {count : Nat} {used : List Bytes}

theorem counterBytes_inj {counter counter' : UInt16} (h : counterBytes counter = counterBytes counter') :
    counter = counter' := by
  have hlow := congrArg UInt8.toNat (List.cons.inj h).1
  have hhigh := congrArg UInt8.toNat (List.cons.inj (List.cons.inj h).2).1
  apply UInt16.toNat.inj
  have hbound := counter.toNat_lt
  have hbound' := counter'.toNat_lt
  simp only [UInt16.toNat_toUInt8,UInt16.toNat_shiftRight] at hlow hhigh
  have hshift (value : Nat) : value >>> ((8 : UInt16).toNat % 16) = value / 256 := Nat.shiftRight_eq_div_pow value 8
  rw [hshift,hshift] at hhigh
  omega

theorem ivInput_inj {label label' identifier : Bytes} {counter counter' : UInt16} (hlabel : label.length = 2)
    (hlabel' : label'.length = 2) (h : ivInput label identifier counter = ivInput label' identifier counter') :
    label = label' ∧ counter = counter' := by
  unfold ivInput at h
  simp only [List.append_assoc] at h
  obtain ⟨hsame,hrest⟩ := List.append_inj h (hlabel.trans hlabel'.symm)
  have hcounters := List.append_cancel_left hrest
  exact ⟨hsame,counterBytes_inj (List.append_inj hcounters rfl).1⟩

/-- What was formed before differs from what the session may form now. -/
theorem Passed.ne {input label : Bytes} (h : Passed s input) (hlabel : Labelled s label) : input ≠ s.ivOf label := by
  intro hsame
  unfold ivOf at hsame
  cases h with
  | request hcounter =>
    cases hlabel with
    | request =>
      obtain ⟨_,rfl⟩ := ivInput_inj rfl rfl hsame
      omega
    | response =>
      have hlabels := (ivInput_inj rfl rfl hsame).1
      exact absurd hlabels (by decide)
  | response hcounter hawaited =>
    cases hlabel with
    | request =>
      have hlabels := (ivInput_inj rfl rfl hsame).1
      exact absurd hlabels (by decide)
    | response hphase =>
      obtain ⟨_,rfl⟩ := ivInput_inj rfl rfl hsame
      have hless := hawaited hphase
      omega

theorem Open.succ (h : s.Open) : (s.counter + 1).toNat = s.counter.toNat + 1 ∧ s.counter.toNat ≤ 0xFFFE := by
  have hmax : s.counter.toNat ≠ 0xFFFF := fun hmax => h.counter (UInt16.toNat.inj hmax)
  have hbound := s.counter.toNat_lt
  rw [UInt16.toNat_add]
  have hone : (1 : UInt16).toNat = 1 := rfl
  rw [hone]
  omega

theorem Passed.reserve {input : Bytes} (h : Passed s input) (hopen : s.Open) (phase : Phase) :
    Passed (s.reserve phase) input := by
  have hcounter : (s.reserve phase).counter.toNat = s.counter.toNat + 1 := hopen.succ.1
  cases h with
  | request h => exact .request (by omega)
  | response h _ => exact .response (by omega) (by omega)

theorem Passed.resume {input : Bytes} (h : Passed s input) : Passed s.resume input := by
  cases h with
  | request h => exact .request h
  | response h _ =>
    have hready : s.resume.phase ≠ .awaitingResponse := by simp [Session.resume]
    exact .response h fun hphase => absurd hphase hready

theorem Passed.renew {input : Bytes} (h : Passed s input) (hsame : s'.authentication = s.authentication)
    (hcounter : s'.counter = s.counter) (hready : s'.phase = .ready) : Passed s' input := by
  have hidle : s'.phase ≠ .awaitingResponse := by simp [hready]
  cases h with
  | request h =>
    rw [← hsame]
    exact .request (by rwa [hcounter])
  | response h _ =>
    rw [← hsame]
    exact .response (by rwa [hcounter]) fun hphase => absurd hphase hidle

/-- What one step adds: nothing, or one input that its session may form. -/
inductive Adds (s : Session) : List Bytes → Prop
  | nothing : Adds s []
  | formed {label} (h : Labelled s label) : Adds s [s.ivOf label]

theorem adds_toList {formed : Option Bytes}
    (h : formed = none ∨ ∃ label, Labelled s label ∧ formed = some (s.ivOf label)) : Adds s formed.toList := by
  rcases h with rfl | ⟨label,hlabel,rfl⟩
  · exact .nothing
  · exact .formed hlabel

theorem StepRun.counts {call : Call} {r : Except Fault Bytes} {es : Trace Environment}
    (hrun : StepRun s call r s' es) (h : Counts start count s) :
    Counts start (count + if call.prepares && r.isOk then 1 else 0) s' := by
  cases hrun with
  | @excused call e es hexcuse hiv =>
    have hprepared : (call.prepares && (.error (.error e) : Except Fault Bytes).isOk) = false := Bool.and_false _
    rw [hprepared]
    exact h
  | failed hvalid hiv => exact fun hopen => absurd rfl hopen
  | @prepared call output phase es hopen hprepares hiv hmac =>
    have hprepared : (call.prepares && (.ok output : Except Fault Bytes).isOk) = true := by
      rw [hprepares]
      rfl
    have hcounter := h hopen.valid
    have hsucc : (s.reserve phase).counter.toNat = s.counter.toNat + 1 := hopen.succ.1
    rw [hprepared]
    intro _
    rw [hsucc,hcounter]
    rfl
  | accepted hprepares hphase hiv =>
    have hvalid : s.phase ≠ .invalid := by
      rcases hphase with hphase | hphase <;> simp [hphase]
    rw [hprepares]
    exact fun _ => h hvalid
  | renewed hvalid hsame hcreated =>
    obtain ⟨_,_,hcounter⟩ := create_ok hcreated
    intro _
    rw [hcounter]
    exact h hvalid

theorem run_counts (steps : List (Step Environment Call)) (h : Counts start count s) :
    Counts start (count + preparations s steps) (final perform s steps) := by
  induction steps generalizing s count with
  | nil => exact h
  | cons step rest ih =>
    have hrest := ih ((step_runs s step).counts h)
    rw [Nat.add_assoc] at hrest
    exact hrest

/-- The inputs of one step join those before it. -/
theorem Progress.distinct_append {added : List Bytes} (h : Progress used s) (hvalid : s.phase ≠ .invalid)
    (hadded : Adds s added) : (used ++ added).Nodup := by
  cases hadded with
  | nothing =>
    rw [List.append_nil]
    exact h.distinct
  | formed hlabel =>
    rw [List.nodup_append]
    refine ⟨h.distinct,by simp,?_⟩
    intro old hold new hnew
    rw [List.mem_singleton.mp hnew]
    exact (h.passed hvalid old hold).ne hlabel

/-- A step that keeps the session going. -/
theorem Progress.next {added : List Bytes} (h : Progress used s) (hvalid : s.phase ≠ .invalid)
    (hadded : Adds s added) (hold : ∀ input, Passed s input → Passed s' input)
    (hnew : ∀ input ∈ added, Passed s' input) : Progress (used ++ added) s' := by
  refine ⟨h.distinct_append hvalid hadded,fun _ input hinput => ?_⟩
  rcases List.mem_append.mp hinput with hbefore | hnow
  · exact hold input (h.passed hvalid input hbefore)
  · exact hnew input hnow

theorem StepRun.progress {call : Call} {r : Except Fault Bytes} {es : Trace Environment}
    (hrun : StepRun s call r s' es) (hrepresentable : call.Representable) (h : Progress used s) :
    Progress (used ++ (formedIv es).toList) s' := by
  cases hrun with
  | excused hexcuse hiv =>
    rw [hiv hrepresentable,Option.toList_none,List.append_nil]
    exact h
  | failed hvalid hiv => exact ⟨h.distinct_append hvalid (adds_toList hiv),fun hopen => absurd rfl hopen⟩
  | @prepared call output phase es hopen hprepares hiv hmac =>
    have hadded : Adds s (formedIv es).toList := by
      apply adds_toList
      rcases hiv with hnone | hformed
      · exact .inl hnone
      · exact .inr ⟨_,.request hopen.ready,hformed⟩
    apply h.next hopen.valid hadded fun input hinput => hinput.reserve hopen phase
    intro input hformed
    rcases hiv with hnone | hsome
    · simp [hnone] at hformed
    · have hless : s.counter.toNat < (s.reserve phase).counter.toNat := by
        have hsucc := hopen.succ.1
        have hreserved : (s.reserve phase).counter = s.counter + 1 := rfl
        rw [hreserved]
        omega
      rw [hsome,Option.toList_some,List.mem_singleton] at hformed
      rw [hformed]
      exact .request hless
  | accepted hprepares hphase hiv =>
    have hvalid : s.phase ≠ .invalid := by
      rcases hphase with hphase | hphase <;> simp [hphase]
    have hready : s.resume.phase ≠ .awaitingResponse := by simp [Session.resume]
    have hadded : Adds s (formedIv es).toList := by
      apply adds_toList
      rcases hiv with hnone | ⟨hawaiting,hformed⟩
      · exact .inl hnone
      · exact .inr ⟨_,.response hawaiting,hformed⟩
    apply h.next hvalid hadded fun input hinput => hinput.resume
    intro input hformed
    rcases hiv with hnone | ⟨_,hsome⟩
    · simp [hnone] at hformed
    · rw [hsome,Option.toList_some,List.mem_singleton] at hformed
      rw [hformed]
      exact .response (Nat.le_refl _) fun hawaiting => absurd hawaiting hready
  | renewed hvalid hsame hcreated =>
    obtain ⟨hready,hauthentication,hcounter⟩ := create_ok hcreated
    apply h.next hvalid .nothing fun input hinput => hinput.renew (hauthentication.trans hsame) hcounter hready
    intro input hinput
    cases hinput

theorem run_progress {steps : List (Step Environment Call)}
    (hrepresentable : ∀ step ∈ steps, step.operation.Representable) (h : Progress used s) :
    Progress (used ++ inputs s steps) (final perform s steps) := by
  induction steps generalizing s used with
  | nil =>
    rw [inputs,List.append_nil]
    exact h
  | cons step rest ih =>
    have hstep := (step_runs s step).progress (hrepresentable step List.mem_cons_self) h
    have hrest := ih (fun later hlater => hrepresentable later (List.mem_cons_of_mem _ hlater)) hstep
    rw [List.append_assoc] at hrest
    exact hrest

theorem create_counts {material : AuthenticationMaterial} (h : create material start = .ok s) :
    Counts start 0 s := by
  obtain ⟨_,_,hcounter⟩ := create_ok h
  intro _
  rw [hcounter]
  rfl

theorem Progress.nothing (s : Session) : Progress [] s := ⟨List.nodup_nil,fun _ input hinput => by cases hinput⟩

/-- A preparation uses its own counter, short of the last one, and moves on to the next. -/
structure Numbered (number : Nat) (s : Session) (step : Step Environment Call) : Prop where
  counter : s.counter.toNat = number
  bound : number ≤ 0xFFFE
  next : (step.run perform s).state.counter.toNat = number + 1
  vector : Forms s requestLabel (step.run perform s).events
  mac : Authenticates s step.operation (step.run perform s).events

theorem numbered {step : Step Environment Call} (h : Counts start count s) (hprepared : prepared s step = true) :
    Numbered (start.toNat + count) s step := by
  have hrun := step_runs s step
  unfold prepared at hprepared
  obtain ⟨hprepares,hok⟩ := Bool.and_eq_true_iff.mp hprepared
  generalize hstep : step.run perform s = run at hrun hok
  obtain ⟨r,s',es⟩ := run
  generalize hcall : step.operation = call at hrun hprepares
  cases hrun with
  | excused => cases hok
  | failed => cases hok
  | prepared hopen _ hiv hmac =>
    have hcounter := h hopen.valid
    obtain ⟨hsucc,hbound⟩ := hopen.succ
    exact {
      counter := hcounter
      bound := hcounter ▸ hbound
      next := by rw [hstep]; exact hcounter ▸ hsucc
      vector := by rwa [hstep]
      mac := by rw [hstep,hcall]; exact hmac }
  | accepted hother =>
    rw [hother] at hprepares
    cases hprepares
  | renewed => cases hprepares

/-- The session is invalid and its keys are wiped. -/
structure Ended (s : Session) : Prop where
  phase : s.phase = .invalid
  encryptionKey : s.encryptionKey = zeros aesBlockSize
  macKey : s.macKey = zeros aesBlockSize

theorem Ended.invalidate (s : Session) : Ended s.invalidate := ⟨rfl,rfl,rfl⟩

/-- An ended session refuses everything and stays as it is. -/
theorem Ended.step (h : Ended s) (step : Step Environment Call) :
    (step.run perform s).state = s ∧ (step.run perform s).result.isOk = false := by
  have hrun := step_runs s step
  generalize step.run perform s = run at hrun
  obtain ⟨r,s',es⟩ := run
  generalize step.operation = call at hrun
  cases hrun with
  | excused => exact ⟨rfl,rfl⟩
  | failed hvalid => exact absurd h.phase hvalid
  | prepared hopen => exact absurd h.phase hopen.valid
  | accepted _ hphase =>
    rw [h.phase] at hphase
    rcases hphase with hphase | hphase <;> cases hphase
  | renewed hvalid => exact absurd h.phase hvalid

/-- An ended session stays ended. -/
theorem Ended.forever (h : Ended s) (steps : List (Step Environment Call)) :
    Along perform (fun s step => Ended s ∧ (step.run perform s).result.isOk = false) s steps := by
  induction steps with
  | nil => trivial
  | cons step rest ih =>
    obtain ⟨hstate,hrefused⟩ := h.step step
    refine ⟨⟨h,hrefused⟩,?_⟩
    rw [hstate]
    exact ih

/-- A failure that changed nothing and has an excuse, or the end of the session. -/
def Failed (s : Session) (step : Step Environment Call) (fault : Fault) : Prop :=
  (∃ e, fault = .error e ∧ Excuse s step.operation e ∧ (step.run perform s).state = s) ∨
    Ended (step.run perform s).state

theorem failed {step : Step Environment Call} {fault : Fault}
    (hfault : (step.run perform s).result = .error fault) : Failed s step fault := by
  have hrun := step_runs s step
  unfold Failed
  generalize step.run perform s = run at hrun hfault
  obtain ⟨r,s',es⟩ := run
  generalize step.operation = call at hrun
  cases hrun with
  | excused hexcuse =>
    cases hfault
    exact .inl ⟨_,rfl,hexcuse,rfl⟩
  | failed =>
    cases hfault
    exact .inr (.invalidate s)
  | prepared => cases hfault
  | accepted => cases hfault
  | renewed => cases hfault

end Runs
end Session
end DesfireSdk.Security.Ev2
