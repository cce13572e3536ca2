import DesfireSdk.Offline.TransactionMac

/-! Delegated applications from the issuer's keys to the card that creates them. -/
namespace DesfireSdk.Offline
open Interaction Program Model

def encryptDelegatedDefaultKeyAes {τ : Type} (damEncryptionKey applicationDefaultKey : Bytes)
    (applicationDefaultKeyVersion : Byte) : Op τ Bytes := do
  Op.refuse (damEncryptionKey.length ≠ aesSize ∨ applicationDefaultKey.length ≠ aesSize)
    (invalid "Delegated EncK requires two 16-byte AES keys")
  Op.catchAll id ⟨.internal,"Delegated EncK construction failed",.notSent,0⟩ do
    let random ← Op.secretOutput "Delegated EncK random source returned an invalid length" (Op.random 7) 7
    secretResult (Op.cbc damEncryptionKey (zeros 16)
      (random ++ (applicationDefaultKey ++ applicationDefaultKeyVersion :: zeros 8)) true) 32

/-- What an issuer delegates. -/
structure Delegated where
  configuration : DelegatedApplicationConfiguration
  defaultKey : Bytes
  defaultKeyVersion : Byte
  deriving DecidableEq

/-- The issuer's keys, which the card holds as well. -/
structure DamKeys where
  encryptionKey : Bytes
  macKey : Bytes

/-- The issuer protects the default key, authorizes the creation and builds its command. -/
def delegate (keys : DamKeys) (delegated : Delegated) : Op Unit Native.Checked.Command := do
  let encryptedDefaultKey ← encryptDelegatedDefaultKeyAes keys.encryptionKey delegated.defaultKey
    delegated.defaultKeyVersion
  let damMac ← calculateDelegatedApplicationMacAes keys.macKey delegated.configuration encryptedDefaultKey
  Op.ofResult (Native.Checked.createDelegatedApplication delegated.configuration encryptedDefaultKey damMac)

/-- What a card takes from a creation, if the issuer authorized it. -/
def DamKeys.admit (P : Primitives) (keys : DamKeys) (command : Native.Checked.Command) : Option Delegated :=
  let encryptedDefaultKey := command.data.take 32
  let input := command.opcode :: (command.header ++ encryptedDefaultKey)
  let clear := P.decrypt keys.encryptionKey (zeros 16) encryptedDefaultKey
  if command.data.drop 32 = TransactionCard.transmitted (P.mac keys.macKey input) then
    some ⟨(readCreation input).1,(clear.drop 7).take 16,byteAt clear 23⟩
  else none

/-- The arguments that the issuer's functions accept. -/
structure Delegable (keys : DamKeys) (delegated : Delegated) : Prop where
  encryptionKey : keys.encryptionKey.length = 16
  macKey : keys.macKey.length = 16
  defaultKey : delegated.defaultKey.length = 16
  configuration : ∃ tail, Native.Checked.applicationTail delegated.configuration.application = .ok tail

/-- Random bytes were asked for and given. -/
def Randomized (es : Trace Environment) : Prop :=
  ∃ nonce : Bytes, nonce.length = 7 ∧ (⟨.random 7,.ok nonce⟩ : Event Environment) ∈ es

theorem Creation.unique {configuration : DelegatedApplicationConfiguration} {encryptedDefaultKey input input' : Bytes}
    (h : Creation configuration encryptedDefaultKey input) (h' : Creation configuration encryptedDefaultKey input') :
    input = input' := by
  obtain ⟨tail,htail,hinput⟩ := h.encoded
  obtain ⟨tail',htail',hinput'⟩ := h'.encoded
  rw [htail] at htail'
  cases htail'
  rw [hinput,hinput']

/-- A built creation carries the encrypted key and the MAC behind the input that is authorized. -/
theorem creation_built {configuration : DelegatedApplicationConfiguration} {encryptedDefaultKey damMac : Bytes}
    {command : Native.Checked.Command}
    (h : Native.Checked.createDelegatedApplication configuration encryptedDefaultKey damMac = .ok command) :
    command.data = encryptedDefaultKey ++ damMac ∧
      Creation configuration encryptedDefaultKey (command.opcode :: (command.header ++ encryptedDefaultKey)) := by
  unfold Native.Checked.createDelegatedApplication at h
  split at h
  · cases h
  next hsizes =>
    have hsize : encryptedDefaultKey.length = 32 := by
      by_contra hother
      exact hsizes (.inl hother)
    obtain ⟨tail,htail,hcommand⟩ := Reading.bind_eq_ok h
    cases hcommand
    refine ⟨rfl,hsize,tail,htail,?_⟩
    simp [Native.Checked.management]

theorem creation_buildable {configuration : DelegatedApplicationConfiguration}
    {encryptedDefaultKey damMac tail : Bytes} (hsize : encryptedDefaultKey.length = 32) (hmac : damMac.length = 8)
    (htail : Native.Checked.applicationTail configuration.application = .ok tail) :
    ∃ command, Native.Checked.createDelegatedApplication configuration encryptedDefaultKey damMac = .ok command := by
  unfold Native.Checked.createDelegatedApplication
  rw [if_neg (by simp [hsize,hmac]),htail]
  exact ⟨_,rfl⟩

section Delegating
variable {o : Oracle Environment} {P : Primitives} {τ : Type} {s : τ}

theorem random_secret (message : String) (size : Nat) :
    Ensures some o (Op.secretOutput message (Op.random size) size) s
      (Op.PrimitiveCase id id message size (fun reply => ⟨.random size,reply⟩) s) :=
  Op.ensures_secretOutput (Op.ensures_random fun reply => Op.primitive_cases reply)

theorem encryption_cases (hP : Computes o P) (damEncryptionKey applicationDefaultKey : Bytes) (version : Byte) :
    Ensures some o (encryptDelegatedDefaultKeyAes damEncryptionKey applicationDefaultKey version) s fun r _ es =>
      (∀ output, r = .ok output → applicationDefaultKey.length = 16 ∧ ∃ nonce : Bytes, nonce.length = 7 ∧
        output = P.encrypt damEncryptionKey (zeros 16) (nonce ++ (applicationDefaultKey ++ version :: zeros 8))) ∧
      (damEncryptionKey.length = 16 → applicationDefaultKey.length = 16 → Randomized es →
        ∃ output, r = .ok output) := by
  refine Op.ensures_refuse_bind (fun hrefused => ⟨fun _ h => (by cases h),?_⟩) fun hadmitted => Op.ensures_catchAll ?_
  · intro hencryption hdefault
    rcases hrefused with hrefused | hrefused
    · exact absurd hencryption hrefused
    · exact absurd hdefault hrefused
  simp only [not_or,not_not] at hadmitted
  refine ensures_bind (random_secret _ 7) ?_ ?_
  · intro fault s' es h
    obtain ⟨e,he⟩ := afterThrow_failed Bytes s' ⟨.internal,"Delegated EncK construction failed",.notSent,0⟩ fault
    rw [he]
    refine ⟨fun _ h => (by cases h),fun _ _ hrandom => ?_⟩
    obtain ⟨nonce,hnonce,hmem⟩ := hrandom
    cases h with
    | failed reply e hreply =>
      cases List.mem_singleton.mp hmem
      rw [Op.sized_of_length hnonce] at hreply
      cases hreply
    | threw => cases List.mem_singleton.mp hmem
  · intro nonce s' es h
    cases h with
    | computed _ hnonce =>
      have hclear : (nonce ++ (applicationDefaultKey ++ version :: zeros 8)).length = 32 := by
        have hdefault : applicationDefaultKey.length = 16 := hadmitted.2
        simp [hnonce,hdefault]
      refine (Op.ensures_secretOutput (Op.ensures_cbc fun h => ?_))
      have hwhole : (nonce ++ (applicationDefaultKey ++ version :: zeros 8)).length % 16 = 0 := by
        rw [hclear]
      rw [hP.encrypt h hadmitted.1 (length_zeros 16) hwhole,Op.sized_of_length ((P.length_encrypt ..).trans hclear),Op.afterThrow_ok]
      refine ⟨fun output houtput => ?_,fun _ _ _ => ⟨_,rfl⟩⟩
      cases houtput
      exact ⟨hadmitted.2,nonce,hnonce,rfl⟩

theorem authorization_cases (hP : Computes o P) (damMacKey : Bytes)
    (configuration : DelegatedApplicationConfiguration) (encryptedDefaultKey : Bytes) :
    Ensures some o (calculateDelegatedApplicationMacAes damMacKey configuration encryptedDefaultKey) s fun r _ _ =>
      (∀ mac, r = .ok mac → ∃ input, Creation configuration encryptedDefaultKey input ∧
        mac = alternateBytes (P.mac damMacKey input)) ∧
      (damMacKey.length = 16 → encryptedDefaultKey.length = 32 →
        (∃ tail, Native.Checked.applicationTail configuration.application = .ok tail) → ∃ mac, r = .ok mac) := by
  refine Op.ensures_refuse_bind (fun hrefused => ⟨fun _ h => (by cases h),?_⟩) fun hadmitted => Op.ensures_catchAll ?_
  · intro hkey hsize
    rcases hrefused with hrefused | hrefused
    · exact absurd hkey hrefused
    · exact absurd hsize hrefused
  simp only [not_or,not_not] at hadmitted
  obtain ⟨hkey,hsize⟩ := hadmitted
  refine Op.ensures_ofResult_bind (fun e he => ⟨fun _ h => (by cases h),?_⟩) fun command hcommand => ?_
  · rintro _ _ ⟨tail,htail⟩
    obtain ⟨command,hcommand⟩ := creation_buildable hsize (length_zeros 8) htail
    rw [hcommand] at he
    cases he
  obtain ⟨hdata,hcreation⟩ := creation_built hcommand
  have hinput : command.data.take encryptedDefaultKey.length = encryptedDefaultKey := by
    rw [hdata,List.take_left]
  rw [hinput]
  refine ensures_bind (secretResult_computes hP hkey _) (fun _ _ _ h => by cases h.1) fun full s' es h => ?_
  obtain ⟨hfull,rfl⟩ := h
  cases hfull
  refine ensures_pure ?_
  rw [Op.afterThrow_ok]
  refine ⟨fun mac hmac => ?_,fun _ _ _ => ⟨_,rfl⟩⟩
  cases hmac
  exact ⟨_,hcreation,rfl⟩

/-- The card opens what the issuer protected. -/
theorem admitted_of_built {keys : DamKeys} {delegated : Delegated} {encryptedDefaultKey damMac nonce input : Bytes}
    {command : Native.Checked.Command} (hdefault : delegated.defaultKey.length = 16) (hnonce : nonce.length = 7)
    (hencrypted : encryptedDefaultKey = P.encrypt keys.encryptionKey (zeros 16)
      (nonce ++ (delegated.defaultKey ++ delegated.defaultKeyVersion :: zeros 8)))
    (hcreation : Creation delegated.configuration encryptedDefaultKey input)
    (hmac : damMac = alternateBytes (P.mac keys.macKey input))
    (hcommand : Native.Checked.createDelegatedApplication delegated.configuration encryptedDefaultKey damMac =
      .ok command) :
    keys.admit P command =
      some ⟨normalConfiguration delegated.configuration,delegated.defaultKey,delegated.defaultKeyVersion⟩ := by
  obtain ⟨hdata,hcreation'⟩ := creation_built hcommand
  have hinput := hcreation.unique hcreation'
  have htake : command.data.take 32 = encryptedDefaultKey := by
    rw [hdata,← hcreation.size,List.take_left]
  have hdrop : command.data.drop 32 = damMac := by
    rw [hdata,← hcreation.size,List.drop_left]
  have hclear : P.decrypt keys.encryptionKey (zeros 16) encryptedDefaultKey =
      nonce ++ (delegated.defaultKey ++ delegated.defaultKeyVersion :: zeros 8) := by
    rw [hencrypted]
    exact P.decrypt_encrypt _ _ _ (by simp [hnonce,hdefault])
  have hkey : ((nonce ++ (delegated.defaultKey ++ delegated.defaultKeyVersion :: zeros 8)).drop 7).take 16 =
      delegated.defaultKey := by
    rw [← hnonce,List.drop_left,← hdefault,List.take_left]
  have hversion : byteAt (nonce ++ (delegated.defaultKey ++ delegated.defaultKeyVersion :: zeros 8)) 23 =
      delegated.defaultKeyVersion := by
    simp [byteAt,hnonce,hdefault]
  unfold DamKeys.admit
  simp only [htake,hdrop,← hinput,hmac,TransactionCard.transmitted_eq (P.length_mac keys.macKey input),if_true,hclear,hkey,hversion,readCreation_eq hcreation]

/-- A delegation that is issued is admitted by every card with the issuer's keys, which takes from it what was
delegated; and it is issued whenever the arguments are accepted and random bytes are given. -/
theorem delegation_admitted (hP : Computes o P) (keys : DamKeys) (delegated : Delegated) :
    Ensures some o (delegate keys delegated) () fun r _ es =>
      (∀ command, r = .ok command → keys.admit P command =
        some ⟨normalConfiguration delegated.configuration,delegated.defaultKey,delegated.defaultKeyVersion⟩) ∧
      (Delegable keys delegated → Randomized es → ∃ command, r = .ok command) := by
  refine ensures_bind (encryption_cases hP keys.encryptionKey delegated.defaultKey delegated.defaultKeyVersion) ?_ ?_
  · rintro fault _ es ⟨_,hissued⟩
    refine ⟨fun _ h => (by cases h),fun hdelegable hrandom => ?_⟩
    obtain ⟨_,hok⟩ := hissued hdelegable.encryptionKey hdelegable.defaultKey hrandom
    cases hok
  rintro encryptedDefaultKey _ es ⟨hencrypted,_⟩
  obtain ⟨hdefault,nonce,hnonce,hencrypted⟩ := hencrypted _ rfl
  have hsize : encryptedDefaultKey.length = 32 := by
    rw [hencrypted,P.length_encrypt]
    simp [hnonce,hdefault]
  refine ensures_bind (authorization_cases hP keys.macKey delegated.configuration encryptedDefaultKey) ?_ ?_
  · rintro fault _ es' ⟨_,hissued⟩
    refine ⟨fun _ h => (by cases h),fun hdelegable _ => ?_⟩
    obtain ⟨_,hok⟩ := hissued hdelegable.macKey hsize hdelegable.configuration
    cases hok
  rintro damMac _ es' ⟨hauthorized,_⟩
  obtain ⟨input,hcreation,hmac⟩ := hauthorized _ rfl
  have hlength : damMac.length = 8 := by
    rw [hmac,length_alternateBytes]
  refine Op.ensures_ofResult ?_
  cases hcommand : Native.Checked.createDelegatedApplication delegated.configuration encryptedDefaultKey damMac with
  | error e =>
    refine ⟨fun _ h => (by cases h),fun hdelegable _ => ?_⟩
    obtain ⟨tail,htail⟩ := hdelegable.configuration
    obtain ⟨command,hbuilt⟩ := creation_buildable hsize hlength htail
    rw [hcommand] at hbuilt
    cases hbuilt
  | ok command =>
    refine ⟨fun command' h => ?_,fun _ _ => ⟨command,rfl⟩⟩
    cases h
    exact admitted_of_built hdefault hnonce hencrypted hcreation hmac hcommand

end Delegating

def namedKeys : DamKeys := ⟨zeros 16,zeros 16⟩

def namedDelegation : Delegated := ⟨namedApplication,zeros 16,1⟩

theorem namedDelegation_delegable : Delegable namedKeys namedDelegation where
  encryptionKey := length_zeros 16
  macKey := length_zeros 16
  defaultKey := length_zeros 16
  configuration := ⟨_,rfl⟩

theorem delegation_admitted_named : ∃ command,
    (delegate namedKeys namedDelegation (scripted {}) [] ()).result = .ok command ∧
      namedKeys.admit .echo command = some ⟨normalConfiguration namedApplication,zeros 16,1⟩ := by
  have hadmitted := delegation_admitted (scripted_computes {} rfl rfl) namedKeys namedDelegation []
  have hrandom : Randomized (delegate namedKeys namedDelegation (scripted {}) [] ()).events :=
    ⟨zeros 7,length_zeros 7,List.mem_cons_self⟩
  obtain ⟨command,hcommand⟩ := hadmitted.2 namedDelegation_delegable (by rw [shown_some]; exact hrandom)
  exact ⟨command,hcommand,hadmitted.1 command hcommand⟩

end DesfireSdk.Offline
