import DesfireSdk.Foundation.Fields
import DesfireSdk.Transports.Pcsc

/-! The discovery of PC/SC readers from the multi-string of the service. -/
namespace DesfireSdk.Transports.Pcsc
open Interaction Program

structure ReaderInfo where
  id : Bytes
  name : Bytes
  deriving DecidableEq, Repr

def maxReaderListBytes : Nat := 1024 * 1024
def maxListAttempts : Nat := 2

def malformed (message : String) : Error := ⟨.malformedResponse,message,.notSent,0⟩

/-- The readers up to the first empty name, with what is left of the list; `current` has been read of a name. -/
def readNames (current : Bytes) : Bytes → Result (List ReaderInfo × Bytes)
  | [] => if current = [] then .ok ([],[]) else .error (malformed "Unterminated PC/SC reader name")
  | c :: rest =>
    if c ≠ 0 then readNames (current ++ [c]) rest
    else if current = [] then .ok ([],c :: rest)
    else do
      let (readers,terminal) ← readNames [] rest
      .ok (⟨current,current⟩ :: readers,terminal)

def parseReaders (names : Bytes) : Result (List ReaderInfo) :=
  if names.getLast? ≠ some 0 then .error (malformed "PC/SC reader list is not NUL-terminated")
  else do
    let (readers,terminal) ← readNames [] names
    if terminal.all (· == 0) then .ok readers
    else .error (malformed "PC/SC reader list has data after its terminator")

/-- At most the given number of rounds of sizing and filling. -/
def readersWithin {σ : Type} : Nat → Program (Host Service) σ Error (List ReaderInfo)
  | 0 => fail ⟨.internal,"PC/SC reader discovery exhausted its attempts",.notSent,0⟩
  | attempts+1 => do
    let sizing ← call (.listReaders none)
    if statusWord sizing.status = scardNoReadersAvailable then pure []
    else do
      refuse (sizing.status ≠ scardSuccess) (pcscError sizing.status)
      if sizing.size = 0 then pure []
      else do
        refuse (maxReaderListBytes < sizing.size) (malformed "PC/SC reader list is oversized")
        let filled ← call (.listReaders (some sizing.size))
        if statusWord filled.status = scardNoReadersAvailable then pure []
        else if statusWord filled.status = scardInsufficientBuffer ∨ sizing.size < filled.size then
          if attempts ≠ 0 then readersWithin attempts
          else fail ⟨.transport,"PC/SC reader list changed during discovery",.notSent,0⟩
        else do
          refuse (filled.status ≠ scardSuccess) (pcscError filled.status)
          if filled.size = 0 then pure []
          else ofExcept (parseReaders ((buffer sizing.size filled.written).take filled.size))

def readers {σ : Type} : Program (Host Service) σ Error (List ReaderInfo) := readersWithin maxListAttempts

/-- Opens an explicitly selected reader. -/
def openReader {σ : Type} (id : Bytes) : Program (Host Service) σ Error Connection := do
  refuse (id = [] ∨ 0 ∈ id) (invalid "A nonempty PC/SC reader identifier is required")
  let opened ← call (.connect id shareShared (protocolT0 ||| protocolT1))
  refuse (opened.status ≠ scardSuccess) (pcscError opened.status)
  pure {protocol := opened.protocol}

section Format

/-- A name that a multi-string can hold. -/
def Nameable (name : Bytes) : Prop := name ≠ [] ∧ 0 ∉ name

/-- The multi-string of some names with padding at its end. -/
def listing (names : List Bytes) (padding : Nat) : Bytes := names.flatMap (· ++ [0]) ++ zeros padding

/-- What is left after the last name. -/
def Ends (terminal : Bytes) : Prop := terminal = [] ∨ ∃ rest, terminal = 0 :: rest

def named (name : Bytes) : ReaderInfo := ⟨name,name⟩

theorem readNames_append {current name : Bytes} (h : 0 ∉ name) (rest : Bytes) :
    readNames current (name ++ rest) = readNames (current ++ name) rest := by
  induction name generalizing current with
  | nil => simp
  | cons c name ih =>
    simp only [List.mem_cons,not_or] at h
    obtain ⟨hc,hname⟩ := h
    have hne : c ≠ 0 := fun heq => hc heq.symm
    simp [readNames,hne,ih hname]

/-- A list of names is read as these names. -/
theorem readNames_listing {names : List Bytes} (h : ∀ name ∈ names, Nameable name) {terminal : Bytes} (hends : Ends terminal) :
    readNames [] (names.flatMap (· ++ [0]) ++ terminal) = .ok (names.map named,terminal) := by
  induction names with
  | nil =>
    obtain rfl | ⟨rest,rfl⟩ := hends <;> simp [readNames]
  | cons name names ih =>
    obtain ⟨⟨hne,hzero⟩,hrest⟩ := List.forall_mem_cons.mp h
    have hsplit : (name :: names).flatMap (· ++ [0]) ++ terminal =
        name ++ 0 :: (names.flatMap (· ++ [0]) ++ terminal) := by simp
    rw [hsplit,readNames_append hzero,readNames]
    simp [hne,ih hrest,named]
    rfl

/-- What is read of a list is a list of names that makes it up. -/
theorem readNames_sound {current input : Bytes} {readers : List ReaderInfo} {terminal : Bytes} (hcurrent : 0 ∉ current)
    (h : readNames current input = .ok (readers,terminal)) : ∃ names : List Bytes, (∀ name ∈ names, Nameable name) ∧
      readers = names.map named ∧ current ++ input = names.flatMap (· ++ [0]) ++ terminal ∧ Ends terminal := by
  induction input generalizing current readers with
  | nil =>
    simp only [readNames] at h
    split at h <;> cases h
    exact ⟨[],by simp_all [Ends]⟩
  | cons c rest ih =>
    simp only [readNames] at h
    split at h
    · rename_i hc
      have hcurrent' : 0 ∉ current ++ [c] := by simp [hcurrent,Ne.symm hc]
      obtain ⟨names,hnames,hreaders,hinput,hends⟩ := ih hcurrent' h
      refine ⟨names,hnames,hreaders,?_,hends⟩
      simpa using hinput
    · rename_i hc
      obtain rfl : c = 0 := by simpa using hc
      split at h
      · rename_i hempty
        cases h
        exact ⟨[],by simp [hempty,Ends]⟩
      · rename_i hne
        obtain ⟨⟨later,rest'⟩,hlater,h⟩ := Reading.bind_eq_ok h
        cases h
        obtain ⟨names,hnames,rfl,hinput,hends⟩ := ih (by simp) hlater
        refine ⟨current :: names,?_,by simp [named],?_,hends⟩
        · exact List.forall_mem_cons.mpr ⟨⟨hne,hcurrent⟩,hnames⟩
        · rw [List.nil_append] at hinput
          simp [hinput]

theorem getLast?_listing {names : List Bytes} {padding : Nat} (h : listing names padding ≠ []) :
    (listing names padding).getLast? = some 0 := by
  cases padding with
  | zero =>
    obtain rfl | ⟨init,name,rfl⟩ := List.eq_nil_or_concat names
    · simp [listing,zeros] at h
    · simp [listing,zeros]
  | succ n => simp [listing,zeros,List.replicate_succ']

/-- Exactly the padded multi-strings are accepted, each with the names that make it up. -/
theorem parseReaders_iff {names : Bytes} {readers : List ReaderInfo} : parseReaders names = .ok readers ↔
    ∃ (list : List Bytes) (padding : Nat), (∀ name ∈ list, Nameable name) ∧ names = listing list padding ∧
      names ≠ [] ∧ readers = list.map named := by
  have hzeros : ∀ {terminal : Bytes}, terminal.all (· == 0) = true ↔ terminal = zeros terminal.length := by
    intro terminal
    simp [zeros,List.eq_replicate_iff]
  constructor
  · intro h
    unfold parseReaders at h
    split at h
    · cases h
    rename_i hlast
    obtain ⟨⟨readers',terminal⟩,hread,h⟩ := Reading.bind_eq_ok h
    dsimp only at h
    split at h <;> cases h
    rename_i hall
    obtain ⟨list,hlist,hreaders,hnames,_⟩ := readNames_sound (by simp) hread
    rw [List.nil_append,hzeros.mp hall] at hnames
    refine ⟨list,terminal.length,hlist,hnames,?_,hreaders⟩
    rintro rfl
    simp at hlast
  · rintro ⟨list,padding,hlist,rfl,hne,rfl⟩
    have hends : Ends (zeros padding) := by
      cases padding with
      | zero => exact .inl rfl
      | succ n => exact .inr ⟨zeros n,rfl⟩
    have hread := readNames_listing hlist hends
    have hlast := getLast?_listing hne
    unfold parseReaders
    rw [if_neg (by simpa using hlast)]
    unfold listing
    rw [hread]
    have hall : (zeros padding).all (· == 0) = true := by simp [zeros]
    simp [bind,Except.bind,hall]

example : parseReaders [0x41,0x00,0x42,0x43,0x00,0x00] = .ok [named [0x41],named [0x42,0x43]] := by decide

end Format

section Discovery
variable {l : Oracle (Host Service)} {σ : Type} {s : σ}

/-- Opening a reader asks the service for exactly this reader, once. -/
def Opens (id : Bytes) : Prop := ∀ (l : Oracle (Host Service)) (s : Unit), Ensures some l (openReader id) s fun _ _ es =>
  ∃ opened, es = [⟨.reader (.connect id shareShared (protocolT0 ||| protocolT1)),opened⟩]

theorem Nameable.opens {name : Bytes} (h : Nameable name) : Opens name := by
  intro l s
  refine ensures_refuse_bind (fun hbad => ?_) fun _ => ensures_ask_bind fun h => ?_
  · obtain hempty | hzero := hbad
    · exact absurd hempty h.1
    · exact absurd hzero h.2
  · exact ensures_refuse_bind (fun _ => ⟨_,rfl⟩) fun _ => ensures_pure ⟨_,rfl⟩

/-- The event of filling a buffer of a size. -/
def filling (size : Nat) (filled : Filled) : Event (Host Service) := ⟨.reader (.listReaders (some size)),filled⟩

def sizingCall (sizing : Filled) : Event (Host Service) := ⟨.reader (.listReaders none),sizing⟩

/-- Sizing and filling calls take turns: each buffer has the size that the sizing call right before it was told, and
only the last round can end without being filled. -/
inductive Alternates : Trace (Host Service) → Prop
  | done : Alternates []
  | sized (sizing : Filled) : Alternates [sizingCall sizing]
  | filled (sizing filled : Filled) {es : Trace (Host Service)} : Alternates es →
      Alternates (sizingCall sizing :: filling sizing.size filled :: es)

/-- What a discovery of some rounds asks and what it makes of the last answer. -/
structure Discovered (rounds : Nat) (r : Except Error (List ReaderInfo)) (es : Trace (Host Service)) : Prop where
  calls : es.length ≤ 2 * rounds
  alternates : Alternates es
  asked : ∀ event ∈ es, (∃ sizing, event = sizingCall sizing) ∨
    ∃ size filled, event = filling size filled ∧ 0 < size ∧ size ≤ maxReaderListBytes
  found : ∀ infos, r = .ok infos → infos = [] ∨ ∃ size filled padding, es.getLast? = some (filling size filled) ∧
    filled.status = scardSuccess ∧ filled.size ≤ size ∧
      (buffer size filled.written).take filled.size = listing (infos.map ReaderInfo.name) padding ∧
        ∀ info ∈ infos, Nameable info.name ∧ info.id = info.name ∧ Opens info.id
  complete : ∀ size filled names padding, es.getLast? = some (filling size filled) → filled.status = scardSuccess →
    0 < filled.size → filled.size ≤ size → (∀ name ∈ names, Nameable name) →
      (buffer size filled.written).take filled.size = listing names padding → r = .ok (names.map named)

theorem filling_inj {size size' : Nat} {filled filled' : Filled} (h : filling size filled = filling size' filled') :
    size = size' ∧ filled = filled' := by
  cases h
  exact ⟨rfl,rfl⟩

theorem sizingCall_ne {sizing : Filled} {size : Nat} {filled : Filled} : sizingCall sizing ≠ filling size filled := by
  intro h
  have hquery := congrArg Event.query h
  cases hquery

/-- A round that ends with its sizing call. -/
theorem Discovered.sized {rounds : Nat} {r : Except Error (List ReaderInfo)} (sizing : Filled)
    (hr : ∀ infos, r = .ok infos → infos = []) : Discovered (rounds + 1) r [sizingCall sizing] where
  calls := by simp only [List.length_cons,List.length_nil]; omega
  alternates := .sized sizing
  asked := by simp
  found infos h := .inl (hr infos h)
  complete size filled _ _ h := by
    simp only [List.getLast?_singleton,Option.some.injEq] at h
    exact absurd h sizingCall_ne

/-- A round that fills a buffer of the size it was told. -/
theorem Discovered.filled {rounds : Nat} {r : Except Error (List ReaderInfo)} {sizing filled : Filled}
    (hsize : 0 < sizing.size) (hbound : sizing.size ≤ maxReaderListBytes)
    (hr : (filled.status = scardSuccess ∧ 0 < filled.size ∧ filled.size ≤ sizing.size ∧
      r = parseReaders ((buffer sizing.size filled.written).take filled.size)) ∨
      ((∀ infos, r = .ok infos → infos = []) ∧ ¬(filled.status = scardSuccess ∧ 0 < filled.size ∧ filled.size ≤ sizing.size))) :
    Discovered (rounds + 1) r [sizingCall sizing,filling sizing.size filled] where
  calls := by simp only [List.length_cons,List.length_nil]; omega
  alternates := .filled sizing filled .done
  asked := by
    simp only [List.mem_cons,List.not_mem_nil,or_false,forall_eq_or_imp,forall_eq]
    exact ⟨.inl ⟨_,rfl⟩,.inr ⟨_,_,rfl,hsize,hbound⟩⟩
  found infos h := by
    obtain ⟨hstatus,hpositive,hle,rfl⟩ | ⟨hempty,_⟩ := hr
    · obtain ⟨names,padding,hnames,hlisting,_,rfl⟩ := parseReaders_iff.mp h
      refine .inr ⟨sizing.size,filled,padding,rfl,hstatus,hle,?_,?_⟩
      · simpa [Function.comp_def,named] using hlisting
      · intro info hinfo
        obtain ⟨name,hname,rfl⟩ := List.mem_map.mp hinfo
        exact ⟨hnames name hname,rfl,(hnames name hname).opens⟩
    · exact .inl (hempty infos h)
  complete size filled' names padding hlast hstatus hpositive hle hnames hlisting := by
    have hlast : filling sizing.size filled = filling size filled' := by simpa using hlast
    obtain ⟨rfl,rfl⟩ := filling_inj hlast
    obtain ⟨_,_,_,rfl⟩ | ⟨_,hnot⟩ := hr
    · refine parseReaders_iff.mpr ⟨names,padding,hnames,hlisting,?_,rfl⟩
      intro hnil
      have hlength := congrArg List.length hnil
      simp [length_buffer] at hlength
      omega
    · exact absurd ⟨hstatus,hpositive,hle⟩ hnot

/-- A round that has to be repeated. -/
theorem Discovered.again {rounds : Nat} {r : Except Error (List ReaderInfo)} {es : Trace (Host Service)}
    (h : Discovered rounds r es) (hes : es ≠ []) {sizing filled : Filled} (hsize : 0 < sizing.size)
    (hbound : sizing.size ≤ maxReaderListBytes) :
    Discovered (rounds + 1) r (sizingCall sizing :: filling sizing.size filled :: es) where
  calls := by
    have hcalls := h.calls
    simp only [List.length_cons]
    omega
  alternates := .filled sizing filled h.alternates
  asked := by
    simp only [List.mem_cons,forall_eq_or_imp]
    exact ⟨.inl ⟨_,rfl⟩,.inr ⟨_,_,rfl,hsize,hbound⟩,h.asked⟩
  found := by
    have hlast : (sizingCall sizing :: filling sizing.size filled :: es).getLast? = es.getLast? := by
      cases es <;> simp_all
    rw [hlast]
    exact h.found
  complete := by
    have hlast : (sizingCall sizing :: filling sizing.size filled :: es).getLast? = es.getLast? := by
      cases es <;> simp_all
    rw [hlast]
    exact h.complete

theorem readersWithin_discovered (rounds : Nat) :
    Ensures some l (readersWithin rounds) s fun r _ es => Discovered rounds r es ∧ (rounds ≠ 0 → es ≠ []) := by
  induction rounds with
  | zero => exact ensures_fail ⟨⟨by simp,.done,by simp,by simp,by simp⟩,by simp⟩
  | succ rounds ih =>
    refine ensures_ask_bind fun h₁ => ?_
    generalize l h₁ (.reader (.listReaders none)) = sizing
    have hsized : ∀ {r : Except Error (List ReaderInfo)}, (∀ infos, r = .ok infos → infos = []) →
        Discovered (rounds + 1) r [sizingCall sizing] ∧ (rounds + 1 ≠ 0 → [sizingCall sizing] ≠ []) :=
      fun hr => ⟨.sized sizing hr,by simp⟩
    refine ensures_ite (fun _ => ensures_pure (hsized (by simp))) fun _ => ?_
    refine ensures_refuse_bind (fun _ => hsized (by simp)) fun _ => ?_
    refine ensures_ite (fun _ => ensures_pure (hsized (by simp))) fun hsize => ?_
    refine ensures_refuse_bind (fun _ => hsized (by simp)) fun hbound => ensures_ask_bind fun h₂ => ?_
    generalize l h₂ (.reader (.listReaders (some sizing.size))) = filled
    have hpositive : 0 < sizing.size := Nat.pos_of_ne_zero hsize
    have hle : sizing.size ≤ maxReaderListBytes := Nat.le_of_not_lt hbound
    have hfilled : ∀ {r : Except Error (List ReaderInfo)},
        ((∀ infos, r = .ok infos → infos = []) ∧ ¬(filled.status = scardSuccess ∧ 0 < filled.size ∧ filled.size ≤ sizing.size)) →
        Discovered (rounds + 1) r [sizingCall sizing,filling sizing.size filled] ∧
          (rounds + 1 ≠ 0 → [sizingCall sizing,filling sizing.size filled] ≠ []) :=
      fun hr => ⟨.filled hpositive hle (.inr hr),by simp⟩
    have hword : filled.status = scardSuccess → statusWord filled.status = 0 := by
      intro h
      rw [h]
      rfl
    refine ensures_ite (fun hnone => ensures_pure (hfilled ⟨by simp,fun h => ?_⟩)) fun _ => ?_
    · rw [hword h.1] at hnone
      cases hnone
    refine ensures_ite (fun hlarger => ?_) fun hfits => ?_
    · refine ensures_ite (fun hrounds => ?_) fun _ => ensures_fail (hfilled ⟨by simp,fun h => ?_⟩)
      · refine ih.mono fun r s' es h => ⟨h.1.again (h.2 hrounds) hpositive hle,by simp⟩
      · obtain hword' | hlt := hlarger
        · rw [hword h.1] at hword'
          cases hword'
        · omega
    · refine ensures_refuse_bind (fun hbad => hfilled ⟨by simp,fun h => hbad h.1⟩) fun hgood => ?_
      refine ensures_ite (fun hempty => ensures_pure (hfilled ⟨by simp,fun h => ?_⟩)) fun hnonempty => ?_
      · omega
      · refine ensures_ofExcept ⟨.filled hpositive hle (.inl ⟨?_,?_,?_,rfl⟩),by simp⟩
        · exact Decidable.not_not.mp hgood
        · exact Nat.pos_of_ne_zero hnonempty
        · exact Nat.le_of_not_lt fun h => hfits (.inr h)

/-- Whatever the service answers: discovery makes at most two rounds of bounded calls, lists exactly the names of a
well-formed multi-string, and each listed reader can be opened under its name. -/
theorem readers_discovered (l : Oracle (Host Service)) (s : σ) :
    Ensures some l readers s fun r _ es => Discovered maxListAttempts r es :=
  (readersWithin_discovered maxListAttempts).mono fun _ _ _ h => h.1

end Discovery
end DesfireSdk.Transports.Pcsc
