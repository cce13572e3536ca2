import DesfireSdk.Foundation.Calm
import DesfireSdk.Foundation.Fields
import DesfireSdk.Native.Checked.Builders
import DesfireSdk.Security.Nonces

/-! Offline authorization MACs of delegated applications and of licenses. -/
namespace DesfireSdk.Offline
open Interaction Program Model
open Security (copyInto)

def aesSize : Nat := 16
def maximumMfcLicenseInput : Nat := 0xFFFF

section Calculators
variable {τ : Type}

def secretResult : Op τ Bytes → Nat → Op τ Bytes :=
  Op.secretOutput "Offline AES primitive returned an invalid length"

/-- Bytes 1, 3, ..., 15 of a full CMAC. -/
def alternateBytes (full : Bytes) : Bytes := (List.range 8).map fun index => full.getD (2 * index + 1) 0

def calculateDelegatedApplicationMacAes (damMacKey : Bytes) (configuration : DelegatedApplicationConfiguration)
    (encryptedDefaultKey : Bytes) : Op τ Bytes := do
  Op.refuse (damMacKey.length ≠ aesSize ∨ encryptedDefaultKey.length ≠ 32)
    (invalid "Delegated DAM MAC requires a 16-byte AES key and 32-byte EncK")
  Op.catchAll id ⟨.internal,"Delegated DAM MAC construction failed",.notSent,0⟩ do
    let command ← Op.ofResult
      (Native.Checked.createDelegatedApplication configuration encryptedDefaultKey (zeros 8))
    let full ← secretResult (Op.cmac damMacKey
      (command.opcode :: (command.header ++ command.data.take encryptedDefaultKey.length))) aesSize
    pure (alternateBytes full)

def calculateDelegatedApplicationDeleteMacAes (damMacKey : Bytes) (application : ApplicationId) : Op τ Bytes := do
  Op.refuse (damMacKey.length ≠ aesSize ∨ application.value = 0)
    (invalid "Delegated deletion DAM MAC requires a 16-byte AES key and nonzero AID")
  Op.catchAll id ⟨.internal,"Delegated deletion DAM MAC construction failed",.notSent,0⟩ do
    let full ← secretResult (Op.cmac damMacKey (0xDA :: putLe application.value 3)) aesSize
    pure (alternateBytes full)

/-- A name behind its length, filled up with zeros. -/
def nameRecord (dfName : Bytes) : Bytes := UInt8.ofNat dfName.length :: copyInto 16 dfName

def calculateDelegatedConfigurationMacAes (damMacKey oldDfName newDfName : Bytes) : Op τ Bytes := do
  Op.refuse (damMacKey.length ≠ aesSize ∨ 16 < oldDfName.length ∨ 16 < newDfName.length)
    (invalid ("Delegated configuration DAM MAC requires a 16-byte AES key and DF " ++
      "names of at most 16 bytes"))
  Op.catchAll id ⟨.internal,"Delegated configuration DAM MAC construction failed",.notSent,0⟩ do
    let full ← secretResult (Op.cmac damMacKey (nameRecord oldDfName ++ nameRecord newDfName)) aesSize
    pure (alternateBytes full)

/-- The first byte of a license counts its two-byte entries. -/
def validLicense (mfcLicense : Bytes) : Prop :=
  mfcLicense ≠ [] ∧ mfcLicense.length ≤ 0xFF ∧ mfcLicense.length = 1 + (mfcLicense.headD 0).toNat * 2

instance (mfcLicense : Bytes) : Decidable (validLicense mfcLicense) := inferInstanceAs (Decidable (_ ∧ _))

def calculateMfcLicenseMacAes (licenseMacKey mfcLicense mfcSectorSecrets : Bytes) : Op τ Bytes := do
  Op.refuse (licenseMacKey.length ≠ aesSize ∨ ¬validLicense mfcLicense ∨
      maximumMfcLicenseInput - mfcLicense.length - 1 < mfcSectorSecrets.length)
    (invalid ("MFC license MAC requires a 16-byte AES key, a complete license and at " ++
      "most 65,535 authenticated input bytes"))
  Op.catchAll id ⟨.internal,"MFC license MAC calculation failed",.notSent,0⟩ do
    let full ← secretResult (Op.cmac licenseMacKey (0x01 :: (mfcLicense ++ mfcSectorSecrets))) aesSize
    pure (alternateBytes full)

end Calculators

/-- What an issuer authorizes by a DAM MAC. -/
inductive Authorization
  | create (configuration : DelegatedApplicationConfiguration) (encryptedDefaultKey : Bytes)
  | delete (application : ApplicationId)
  | configure (oldDfName newDfName : Bytes)
  deriving DecidableEq

def Authorization.calculate (damMacKey : Bytes) : Authorization → Op Unit Bytes
  | create configuration encryptedDefaultKey =>
    calculateDelegatedApplicationMacAes damMacKey configuration encryptedDefaultKey
  | delete application => calculateDelegatedApplicationDeleteMacAes damMacKey application
  | configure oldDfName newDfName => calculateDelegatedConfigurationMacAes damMacKey oldDfName newDfName

/-- Some run of a calculator asks for the CMAC of these bytes. -/
def Authenticates (calculate : Bytes → Op Unit Bytes) (input : Bytes) : Prop :=
  ∃ key o h reply, (⟨.cmac key input,reply⟩ : Event Environment) ∈ (calculate key o h ()).events

section Asking
variable {o : Oracle Environment} {key input : Bytes}

/-- A calculator asks for nothing, or for one CMAC. -/
def Asks (key : Bytes) (Accepted : Bytes → Prop) (es : Trace Environment) : Prop :=
  es = [] ∨ ∃ input reply, Accepted input ∧ es = [⟨.cmac key input,reply⟩]

theorem asks_cmac {Accepted : Bytes → Prop} (h : Accepted input) :
    Ensures some o (do
      let full ← secretResult (Op.cmac key input) aesSize
      pure (alternateBytes full)) () fun _ _ es => Asks key Accepted es := by
  refine ensures_bind (m := fun _ _ es => ∃ reply, es = [⟨.cmac key input,reply⟩]) ?_ ?_ ?_
  · exact Op.ensures_secretOutput (Op.ensures_cmac fun history => ⟨_,rfl⟩)
  · rintro fault _ es ⟨reply,rfl⟩
    exact .inr ⟨input,reply,h,rfl⟩
  · rintro full _ es ⟨reply,rfl⟩
    refine ensures_pure ?_
    exact .inr ⟨input,reply,h,rfl⟩

/-- The one input that a calculator asks for is accepted. -/
theorem Asks.accepted {calculate : Bytes → Op Unit Bytes} {Accepted : Bytes → Prop}
    (hasks : ∀ key o, Ensures some o (calculate key) () fun _ _ es => Asks key Accepted es)
    (h : Authenticates calculate input) : Accepted input := by
  obtain ⟨key,o,history,reply,hmem⟩ := h
  have hrun := hasks key o history
  rw [shown_some] at hrun
  rcases hrun with hnothing | ⟨input',reply',haccepted,hevents⟩
  · rw [hnothing] at hmem
    cases hmem
  · rw [hevents] at hmem
    cases List.mem_singleton.mp hmem
    exact haccepted

/-- The input of an accepted creation: opcode, fields and encrypted key. -/
structure Creation (configuration : DelegatedApplicationConfiguration) (encryptedDefaultKey input : Bytes) : Prop where
  size : encryptedDefaultKey.length = 32
  encoded : ∃ tail, Native.Checked.applicationTail configuration.application = .ok tail ∧
    input = 0xC9 :: (putLe configuration.application.id.value 3 ++ putLe configuration.slot.toNat 2 ++
      [configuration.slotVersion] ++ putLe configuration.quotaLimit.toNat 2 ++ tail ++ encryptedDefaultKey)

/-- The input of an accepted license. -/
structure Licensing (mfcLicense mfcSectorSecrets input : Bytes) : Prop where
  valid : validLicense mfcLicense
  encoded : input = 0x01 :: (mfcLicense ++ mfcSectorSecrets)

/-- The inputs that the calculators accept. -/
def Authorization.Accepts : Authorization → Bytes → Prop
  | create configuration encryptedDefaultKey,input => Creation configuration encryptedDefaultKey input
  | delete application,input => input = 0xDA :: putLe application.value 3
  | configure oldDfName newDfName,input => oldDfName.length ≤ 16 ∧ newDfName.length ≤ 16 ∧
    input = nameRecord oldDfName ++ nameRecord newDfName

theorem create_asks (configuration : DelegatedApplicationConfiguration) (encryptedDefaultKey : Bytes) (key : Bytes)
    (o : Oracle Environment) : Ensures some o
      (calculateDelegatedApplicationMacAes key configuration encryptedDefaultKey) ()
      fun _ _ es => Asks key (Creation configuration encryptedDefaultKey) es := by
  refine Op.ensures_refuse_bind (fun _ => .inl rfl) fun hadmitted => ?_
  have hsize : encryptedDefaultKey.length = 32 := by
    by_contra hother
    exact hadmitted (.inr hother)
  refine Op.ensures_catchAll ?_
  refine Op.ensures_ofResult_bind (fun e _ => .inl rfl) fun command hcommand => asks_cmac ?_
  unfold Native.Checked.createDelegatedApplication at hcommand
  rw [if_neg (by simp [hsize])] at hcommand
  obtain ⟨tail,htail,hcommand⟩ := Reading.bind_eq_ok hcommand
  cases hcommand
  refine ⟨hsize,tail,htail,?_⟩
  simp [Native.Checked.management]

theorem authorization_asks (authorization : Authorization) (key : Bytes) (o : Oracle Environment) :
    Ensures some o (authorization.calculate key) () fun _ _ es => Asks key authorization.Accepts es := by
  cases authorization with
  | create configuration encryptedDefaultKey => exact create_asks configuration encryptedDefaultKey key o
  | delete application =>
    refine Op.ensures_refuse_bind (fun _ => .inl rfl) fun _ => Op.ensures_catchAll ?_
    exact asks_cmac rfl
  | configure oldDfName newDfName =>
    refine Op.ensures_refuse_bind (fun _ => .inl rfl) fun hadmitted => Op.ensures_catchAll ?_
    obtain ⟨_,hnames⟩ := not_or.mp hadmitted
    obtain ⟨hold,hnew⟩ := not_or.mp hnames
    exact asks_cmac ⟨Nat.not_lt.mp hold,Nat.not_lt.mp hnew,rfl⟩

theorem license_asks (mfcLicense mfcSectorSecrets : Bytes) (key : Bytes) (o : Oracle Environment) :
    Ensures some o (calculateMfcLicenseMacAes key mfcLicense mfcSectorSecrets) ()
      fun _ _ es => Asks key (Licensing mfcLicense mfcSectorSecrets) es := by
  refine Op.ensures_refuse_bind (fun _ => .inl rfl) fun hadmitted => Op.ensures_catchAll ?_
  obtain ⟨_,hlicense⟩ := not_or.mp hadmitted
  exact asks_cmac ⟨Decidable.not_not.mp (not_or.mp hlicense).1,rfl⟩

end Asking

section Decoding

/-- The third key settings that a card stores: key sets are announced in their lowest bit. -/
def normalApplication (settings : ApplicationConfiguration) : ApplicationConfiguration where
  id := settings.id
  keySettings := settings.keySettings
  numberOfKeys := settings.numberOfKeys
  isoFileIdentifiers := settings.isoFileIdentifiers
  keySettings3 := if settings.keySets.isSome then some (settings.keySettings3.getD 0 ||| 1) else settings.keySettings3
  keySets := settings.keySets
  isoId := settings.isoId
  dfName := settings.dfName

def normalConfiguration (configuration : DelegatedApplicationConfiguration) : DelegatedApplicationConfiguration where
  application := normalApplication configuration.application
  slot := configuration.slot
  slotVersion := configuration.slotVersion
  quotaLimit := configuration.quotaLimit

def Authorization.normal : Authorization → Authorization
  | create configuration encryptedDefaultKey => .create (normalConfiguration configuration) encryptedDefaultKey
  | authorization => authorization

/-- The third key settings, announced by a flag of the second. -/
def readThird (second : Byte) (rest : Bytes) : Option Byte × Bytes :=
  if second &&& 0x10 ≠ 0 then (rest.head?,rest.drop 1) else (none,rest)

/-- The key sets, announced by a flag of the third settings. -/
def readSets (third : Option Byte) (rest : Bytes) : Option KeySetConfiguration × Bytes :=
  if third.getD 0 &&& 1 ≠ 0 then (some ⟨byteAt rest 0,byteAt rest 1,byteAt rest 2,byteAt rest 3⟩,rest.drop 4)
  else (none,rest)

/-- The identifier and the name of the directory: whatever is left. -/
def readDirectory (rest : Bytes) : Option UInt16 × Bytes :=
  if rest = [] then (none,[]) else (some (UInt16.ofNat (getLe (rest.take 2))),rest.drop 2)

/-- The fields behind an application identifier. -/
def readTail (id : ApplicationId) (tail : Bytes) : ApplicationConfiguration :=
  let third := readThird (byteAt tail 1) (tail.drop 2)
  let sets := readSets third.1 third.2
  let directory := readDirectory sets.2
  { id
    keySettings := byteAt tail 0
    numberOfKeys := byteAt tail 1 &&& 0x0F
    isoFileIdentifiers := byteAt tail 1 &&& 0x20 != 0
    keySettings3 := third.1
    keySets := sets.1
    isoId := directory.1
    dfName := directory.2 }

/-- The arguments of a creation from its input alone. -/
def readCreation (input : Bytes) : DelegatedApplicationConfiguration × Bytes :=
  let header := (input.drop 1).take (input.length - 33)
  ({ application := readTail (Native.Checked.applicationId header) (header.drop 8)
     slot := UInt16.ofNat (getLe ((header.drop 3).take 2))
     slotVersion := byteAt header 5
     quotaLimit := UInt16.ofNat (getLe ((header.drop 6).take 2)) },input.drop (input.length - 32))

/-- The second key settings tell the number of keys and two flags. -/
theorem second_settings {keys : Byte} (h : keys ≤ 14) (iso third : Bool) :
    (0x80 ||| keys ||| (if iso then 0x20 else 0) ||| (if third then 0x10 else 0)) &&& 0x0F = keys ∧
    ((0x80 ||| keys ||| (if iso then 0x20 else 0) ||| (if third then 0x10 else 0)) &&& 0x20 != 0) = iso ∧
    ((0x80 ||| keys ||| (if iso then 0x20 else 0) ||| (if third then 0x10 else 0)) &&& 0x10 != 0) = third := by
  have hall : ∀ bits : BitVec 8, UInt8.ofBitVec bits ≤ 14 → ∀ iso third : Bool,
      (0x80 ||| UInt8.ofBitVec bits ||| (if iso then 0x20 else 0) ||| (if third then 0x10 else 0)) &&& 0x0F =
        UInt8.ofBitVec bits ∧
      ((0x80 ||| UInt8.ofBitVec bits ||| (if iso then 0x20 else 0) ||| (if third then 0x10 else 0)) &&& 0x20 != 0) = iso ∧
      ((0x80 ||| UInt8.ofBitVec bits ||| (if iso then 0x20 else 0) ||| (if third then 0x10 else 0)) &&& 0x10 != 0) =
        third := by decide +kernel
  exact hall keys.toBitVec h iso third

/-- The lowest bit of the third key settings. -/
theorem third_settings (third : Byte) (sets : Bool) (h : third &&& 1 ≠ 0 → sets = true) :
    ((third ||| if sets then 1 else 0) &&& 1 != 0) = sets := by
  have hall : ∀ bits : BitVec 8, ∀ sets : Bool, (UInt8.ofBitVec bits &&& 1 ≠ 0 → sets = true) →
      ((UInt8.ofBitVec bits ||| if sets then 1 else 0) &&& 1 != 0) = sets := by decide +kernel
  exact hall third.toBitVec sets h

theorem readThird_eq {second : Byte} {announced : Bool} (h : (second &&& 0x10 != 0) = announced) (third : Byte)
    (rest : Bytes) : readThird second ((if announced then [third] else []) ++ rest) =
      (if announced then some third else none,rest) := by
  unfold readThird
  cases announced with
  | true =>
    rw [if_pos (by simpa using h)]
    rfl
  | false =>
    rw [if_neg (by simpa using h)]
    rfl

def setsBytes : Option KeySetConfiguration → Bytes
  | some sets => [sets.activeVersion,sets.numberOfSets,sets.maximumKeySize,sets.settings]
  | none => []

def isoBytes : Option UInt16 → Bytes
  | some identifier => putLe identifier.toNat 2
  | none => []

theorem readSets_eq {third : Option Byte} {sets : Option KeySetConfiguration}
    (h : (third.getD 0 &&& 1 != 0) = sets.isSome) (rest : Bytes) :
    readSets third (setsBytes sets ++ rest) = (sets,rest) := by
  unfold readSets
  cases sets with
  | some sets =>
    rw [if_pos (by simpa using h)]
    rfl
  | none =>
    rw [if_neg (by simpa using h)]
    rfl

theorem ofNat_getLe_putLe (value : UInt16) : UInt16.ofNat (getLe (putLe value.toNat 2)) = value := by
  rw [getLe_putLe (by decide) value.toNat_lt,UInt16.ofNat_toNat]

theorem readDirectory_eq {isoId : Option UInt16} {dfName : Bytes} (h : dfName ≠ [] → isoId ≠ none) :
    readDirectory (isoBytes isoId ++ dfName) = (isoId,dfName) := by
  unfold readDirectory
  cases isoId with
  | some identifier =>
    have hlength : (isoBytes (some identifier)).length = 2 := length_putLe _ _
    have hnonempty : isoBytes (some identifier) ++ dfName ≠ [] := by
      intro hempty
      have hzero := congrArg List.length hempty
      rw [List.length_append,hlength,List.length_nil] at hzero
      omega
    rw [if_neg hnonempty,← hlength,List.take_left,List.drop_left]
    exact congrArg (fun identifier => (some identifier,dfName)) (ofNat_getLe_putLe identifier)
  | none =>
    have hempty : dfName = [] := by
      by_contra hname
      exact h hname rfl
    rw [hempty]
    rfl

/-- What the checks of an application establish, and the fields that they let through. -/
structure Tail (settings : ApplicationConfiguration) (tail : Bytes) : Prop where
  keys : settings.numberOfKeys ≤ 14
  named : settings.dfName ≠ [] → settings.isoId ≠ none
  announced : settings.keySettings3.getD 0 &&& 1 ≠ 0 → settings.keySets.isSome = true
  fields : tail = settings.keySettings ::
    (0x80 ||| settings.numberOfKeys ||| (if settings.isoFileIdentifiers then 0x20 else 0) |||
      (if settings.keySettings3.isSome || settings.keySets.isSome then 0x10 else 0)) ::
    ((if settings.keySettings3.isSome || settings.keySets.isSome then
      [settings.keySettings3.getD 0 ||| (if settings.keySets.isSome then 1 else 0)] else []) ++
    (setsBytes settings.keySets ++ (isoBytes settings.isoId ++ settings.dfName)))

theorem tail_of_ok {settings : ApplicationConfiguration} {tail : Bytes}
    (h : Native.Checked.applicationTail settings = .ok tail) : Tail settings tail := by
  unfold Native.Checked.applicationTail at h
  split at h
  · cases h
  next hmetadata =>
    dsimp only at h
    split at h
    · cases h
    next hthird =>
      split at h
      · cases h
      next hsets =>
        simp only [not_or,not_and] at hmetadata hthird
        refine ⟨?_,hmetadata.2.2.2.2,?_,?_⟩
        · exact UInt8.not_lt.mp hmetadata.2.2.1
        · intro hbit
          exact Option.isSome_iff_ne_none.mpr (hthird.2 hbit)
        · cases h
          simp only [List.append_assoc,List.cons_append,List.nil_append]
          cases settings.keySets <;> cases settings.isoId <;> rfl

/-- The third key settings of an application, as they are announced. -/
def storedThird (settings : ApplicationConfiguration) : Option Byte :=
  if settings.keySettings3.isSome || settings.keySets.isSome then
    some (settings.keySettings3.getD 0 ||| (if settings.keySets.isSome then 1 else 0))
  else none

theorem storedThird_eq (settings : ApplicationConfiguration) :
    storedThird settings = (normalApplication settings).keySettings3 := by
  unfold storedThird normalApplication
  cases settings.keySets with
  | some sets => simp
  | none =>
    cases settings.keySettings3 with
    | some third => simp
    | none => rfl

theorem storedThird_announces {settings : ApplicationConfiguration}
    (h : settings.keySettings3.getD 0 &&& 1 ≠ 0 → settings.keySets.isSome = true) :
    ((storedThird settings).getD 0 &&& 1 != 0) = settings.keySets.isSome := by
  have hbit := third_settings (settings.keySettings3.getD 0) settings.keySets.isSome h
  unfold storedThird
  cases hstored : settings.keySettings3.isSome || settings.keySets.isSome with
  | true => exact hbit
  | false =>
    have hnone := (Bool.or_eq_false_iff.mp hstored).2
    rw [hnone]
    simp only [Bool.false_eq_true,if_false,Option.getD_none]
    decide

/-- The fields behind the identifier are read back as the card stores them. -/
theorem readTail_eq {settings : ApplicationConfiguration} {tail : Bytes} (h : Tail settings tail) :
    readTail settings.id tail = normalApplication settings := by
  obtain ⟨hkeys,hnamed,hannounced,hfields⟩ := h
  obtain ⟨hnumber,hiso,hflag⟩ := second_settings hkeys settings.isoFileIdentifiers
    (settings.keySettings3.isSome || settings.keySets.isSome)
  have hthird := readThird_eq hflag (settings.keySettings3.getD 0 ||| (if settings.keySets.isSome then 1 else 0))
    (setsBytes settings.keySets ++ (isoBytes settings.isoId ++ settings.dfName))
  have hsets := readSets_eq (storedThird_announces hannounced) (isoBytes settings.isoId ++ settings.dfName)
  have hdirectory := readDirectory_eq hnamed
  change readThird _ _ = (storedThird settings,_) at hthird
  rw [storedThird_eq] at hthird hsets
  rw [hfields]
  generalize 0x80 ||| settings.numberOfKeys ||| (if settings.isoFileIdentifiers then 0x20 else 0) |||
    (if settings.keySettings3.isSome || settings.keySets.isSome then 0x10 else 0) = second at hnumber hiso hthird
  have hsecond (rest : Bytes) : byteAt (settings.keySettings :: second :: rest) 1 = second := rfl
  have hfirst (rest : Bytes) : byteAt (settings.keySettings :: second :: rest) 0 = settings.keySettings := rfl
  have hrest (rest : Bytes) : (settings.keySettings :: second :: rest).drop 2 = rest := rfl
  simp only [readTail,hfirst,hsecond,hrest,hthird,hsets,hdirectory,hnumber,hiso]
  rfl

/-- The input of a creation is read back as the card stores it. -/
theorem readCreation_eq {configuration : DelegatedApplicationConfiguration} {encryptedDefaultKey input : Bytes}
    (h : Creation configuration encryptedDefaultKey input) :
    readCreation input = (normalConfiguration configuration,encryptedDefaultKey) := by
  obtain ⟨hsize,tail,htail,hinput⟩ := h
  have hfields := readTail_eq (tail_of_ok htail)
  let application := putLe configuration.application.id.value 3
  let slot := putLe configuration.slot.toNat 2
  let quota := putLe configuration.quotaLimit.toNat 2
  let header := application ++ (slot ++ configuration.slotVersion :: (quota ++ tail))
  have hwhole : input = 0xC9 :: (header ++ encryptedDefaultKey) := by
    rw [hinput]
    simp [header,application,slot,quota]
  have hlength : input.length = header.length + 33 := by
    rw [hwhole,List.length_cons,List.length_append,hsize]
  have hkey : input.drop (input.length - 32) = encryptedDefaultKey := by
    have hposition : input.length - 32 = header.length + 1 := by omega
    rw [hposition,hwhole,List.drop_succ_cons,List.drop_left]
  have hheader : (input.drop 1).take (input.length - 33) = header := by
    have hcount : input.length - 33 = header.length := by omega
    rw [hcount,hwhole,List.drop_succ_cons,List.drop_zero,List.take_left]
  have hbound : configuration.application.id.value < 256^3 := by
    have hbounded := configuration.application.id.bounded
    omega
  have hid : Native.Checked.applicationId header = configuration.application.id := by
    apply Number.ext
    change getLe (header.take 3) = configuration.application.id.value
    exact getLe_putLe (by decide) hbound
  unfold readCreation
  rw [hheader,hkey]
  dsimp only
  rw [hid]
  change (({ application := readTail _ tail
             slot := UInt16.ofNat (getLe (putLe configuration.slot.toNat 2))
             slotVersion := configuration.slotVersion
             quotaLimit := UInt16.ofNat (getLe (putLe configuration.quotaLimit.toNat 2)) } :
               DelegatedApplicationConfiguration),encryptedDefaultKey) = _
  rw [hfields,ofNat_getLe_putLe,ofNat_getLe_putLe]
  rfl

/-- A name is read back from its record. -/
theorem nameRecord_inj {dfName dfName' : Bytes} (h : dfName.length ≤ 16) (h' : dfName'.length ≤ 16)
    (hsame : nameRecord dfName = nameRecord dfName') : dfName = dfName' := by
  obtain ⟨hlengths,hnames⟩ := List.cons.inj hsame
  have htake (name : Bytes) (hname : name.length ≤ 16) : (copyInto 16 name).take name.length = name := by
    unfold copyInto
    rw [List.take_take,Nat.min_eq_left hname,List.take_left]
  have hlength : dfName.length = dfName'.length := by
    have hvalues := congrArg UInt8.toNat hlengths
    simp only [UInt8.toNat_ofNat'] at hvalues
    omega
  rw [← htake dfName h,← htake dfName' h',hnames,hlength]

theorem license_inj {license secrets license' secrets' input : Bytes} (h : Licensing license secrets input)
    (h' : Licensing license' secrets' input) : license = license' ∧ secrets = secrets' := by
  have hsame := (List.cons.inj (h.encoded.symm.trans h'.encoded)).2
  have hhead : license.headD 0 = license'.headD 0 := by
    obtain ⟨first,rest,hlicense⟩ := List.exists_cons_of_ne_nil h.valid.1
    obtain ⟨first',rest',hlicense'⟩ := List.exists_cons_of_ne_nil h'.valid.1
    rw [hlicense,hlicense'] at hsame
    rw [hlicense,hlicense']
    exact (List.cons.inj hsame).1
  have hlength : license.length = license'.length := by rw [h.valid.2.2,h'.valid.2.2,hhead]
  exact List.append_inj hsame hlength

/-- The first byte of an input. -/
def Authorization.mark : Authorization → Byte
  | create .. => 0xC9
  | delete .. => 0xDA
  | configure oldDfName _ => UInt8.ofNat oldDfName.length

theorem Authorization.Accepts.head {authorization : Authorization} {input : Bytes} (h : authorization.Accepts input) :
    input.head? = some authorization.mark := by
  cases authorization with
  | create configuration key =>
    obtain ⟨_,_,_,rfl⟩ := h
    rfl
  | delete application =>
    cases h
    rfl
  | configure oldDfName newDfName =>
    obtain ⟨_,_,rfl⟩ := h
    rfl

/-- The length of a name is no opcode. -/
theorem length_ne {dfName : Bytes} {opcode : Byte} (h : dfName.length ≤ 16) (hopcode : 16 < opcode.toNat) :
    some (UInt8.ofNat dfName.length) ≠ some opcode := by
  intro hsame
  have hvalue := congrArg UInt8.toNat (Option.some.inj hsame)
  rw [UInt8.toNat_ofNat'] at hvalue
  omega

/-- Inputs of different kinds differ, and inputs of one kind tell their arguments. -/
theorem accepts_inj {authorization authorization' : Authorization} {input : Bytes} (h : authorization.Accepts input)
    (h' : authorization'.Accepts input) : authorization.normal = authorization'.normal := by
  have hhead := h.head.symm.trans h'.head
  have hcreate : 16 < (0xC9 : Byte).toNat := by decide
  have hdelete : 16 < (0xDA : Byte).toNat := by decide
  have hdiffer : some (0xC9 : Byte) ≠ some 0xDA := by decide
  cases authorization with
  | create configuration key =>
    cases authorization' with
    | create configuration' key' =>
      obtain ⟨hconfiguration,hkey⟩ := Prod.mk.inj ((readCreation_eq h).symm.trans (readCreation_eq h'))
      rw [Authorization.normal,Authorization.normal,hconfiguration,hkey]
    | delete application => exact absurd hhead hdiffer
    | configure oldDfName newDfName => exact absurd hhead.symm (length_ne h'.1 hcreate)
  | delete application =>
    cases authorization' with
    | create configuration' key' => exact absurd hhead.symm hdiffer
    | delete application' =>
      have hidentifiers := (List.cons.inj (h.symm.trans h')).2
      have hvalue := congrArg getLe hidentifiers
      have hbound := application.bounded
      have hbound' := application'.bounded
      rw [getLe_putLe (by decide) (by omega),getLe_putLe (by decide) (by omega)] at hvalue
      exact congrArg Authorization.delete (Number.ext hvalue)
    | configure oldDfName newDfName => exact absurd hhead.symm (length_ne h'.1 hdelete)
  | configure oldDfName newDfName =>
    cases authorization' with
    | create configuration' key' => exact absurd hhead (length_ne h.1 hcreate)
    | delete application => exact absurd hhead (length_ne h.1 hdelete)
    | configure oldDfName' newDfName' =>
      obtain ⟨hold,hnew,hinput⟩ := h
      obtain ⟨hold',hnew',hinput'⟩ := h'
      obtain ⟨hfirst,hsecond⟩ := List.append_inj (hinput.symm.trans hinput') (by simp [nameRecord])
      rw [nameRecord_inj hold hold' hfirst,nameRecord_inj hnew hnew' hsecond]

end Decoding

/-- Equal inputs of any two runs of the calculators stand for one authorization, a creation is read back from
its input, and equal inputs of licenses stand for one license with its secrets. -/
theorem authorizations_unambiguous :
    (∀ authorization authorization' : Authorization, ∀ input,
      Authenticates authorization.calculate input → Authenticates authorization'.calculate input →
      authorization.normal = authorization'.normal) ∧
    (∀ configuration encryptedDefaultKey input,
      Authenticates (Authorization.create configuration encryptedDefaultKey).calculate input →
      readCreation input = (normalConfiguration configuration,encryptedDefaultKey)) ∧
    ∀ license secrets license' secrets' input,
      Authenticates (fun key => calculateMfcLicenseMacAes key license secrets) input →
      Authenticates (fun key => calculateMfcLicenseMacAes key license' secrets') input →
      license = license' ∧ secrets = secrets' := by
  have haccepted (authorization : Authorization) (input : Bytes) (h : Authenticates authorization.calculate input) :
      authorization.Accepts input := Asks.accepted (authorization_asks authorization) h
  refine ⟨?_,?_,?_⟩
  · intro authorization authorization' input h h'
    exact accepts_inj (haccepted _ _ h) (haccepted _ _ h')
  · intro configuration encryptedDefaultKey input h
    exact readCreation_eq (haccepted _ _ h)
  · intro license secrets license' secrets' input h h'
    exact license_inj (Asks.accepted (license_asks license secrets) h) (Asks.accepted (license_asks license' secrets') h')

/-- An application with key sets, an ISO identifier and a name. -/
def namedApplication : DelegatedApplicationConfiguration where
  application := {id := ⟨0x010203,by decide⟩,numberOfKeys := 3,keySets := some {},isoId := some 0x1122,dfName := [0xD2,0x76]}
  slot := 5
  slotVersion := 1
  quotaLimit := 64

theorem authorizations_unambiguous_named :
    readCreation ([0xC9,0x03,0x02,0x01,0x05,0x00,0x01,0x40,0x00,0x0F,0x93,0x01,0x00,0x02,0x10,0x00,0x22,0x11,0xD2,0x76] ++
      zeros 32) = (normalConfiguration namedApplication,zeros 32) :=
  authorizations_unambiguous.2.1 namedApplication (zeros 32) _
    ⟨zeros 16,scripted {},[],.ok (zeros 16),List.mem_singleton.mpr rfl⟩

end DesfireSdk.Offline
