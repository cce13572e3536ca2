import DesfireSdk.Offline.Authorization

/-! Transaction keys, the verification of transaction MACs and the recovery of reader identifiers. -/
namespace DesfireSdk.Offline
open Interaction Program

def maximumInputSize : Nat := 16 * 1024 * 1024

/-- Transaction keys, independent of the keys of a session. -/
structure TransactionMacKeys where
  macKey : Bytes
  encryptionKey : Bytes
  deriving DecidableEq

/-- The block that one transaction key is derived from. -/
def derivationVector (label : Byte) (committedCounter : UInt32) (uid : Bytes) : Bytes :=
  label :: 0x00 :: 0x01 :: 0x00 :: 0x80 :: (putLe committedCounter.toNat 4 ++ uid)

section Verifiers
variable {τ : Type}

def deriveTransactionMacKeysAes (transactionKey uid : Bytes) (committedCounter : UInt32) :
    Op τ TransactionMacKeys := do
  Op.refuse (transactionKey.length ≠ aesSize ∨ uid.length ≠ 7 ∨ committedCounter = 0)
    (invalid "AES transaction derivation requires a 16-byte key, 7-byte UID and nonzero TMC")
  Op.catchAll id ⟨.internal,"Offline transaction-key derivation failed",.notSent,0⟩ do
    let mac ← secretResult (Op.cmac transactionKey (derivationVector 0x5A committedCounter uid)) aesSize
    let encryption ← secretResult (Op.cmac transactionKey (derivationVector 0xA5 committedCounter uid)) aesSize
    pure ⟨mac,encryption⟩

def calculateTransactionMacAes (sessionMacKey transactionInput : Bytes) : Op τ Bytes := do
  Op.refuse (sessionMacKey.length ≠ aesSize ∨ transactionInput = [] ∨ maximumInputSize < transactionInput.length)
    (invalid "AES transaction MAC requires a 16-byte key and nonempty TMI of at most 16 MiB")
  Op.catchAll id ⟨.internal,"Offline transaction MAC calculation failed",.notSent,0⟩ do
    let full ← secretResult (Op.cmac sessionMacKey transactionInput) aesSize
    pure (alternateBytes full)

def verifyTransactionMacAes (transactionKey uid : Bytes) (committedCounter : UInt32)
    (transactionInput transactionMac : Bytes) : Op τ Bool := do
  Op.refuse (transactionMac.length ≠ 8) (invalid "Transaction MAC verification requires exactly eight TMV bytes")
  let keys ← deriveTransactionMacKeysAes transactionKey uid committedCounter
  let computed ← calculateTransactionMacAes keys.macKey transactionInput
  pure (constantTimeEqual computed transactionMac)

def decryptTransactionReaderIdAes (sessionEncryptionKey encryptedReaderId : Bytes) : Op τ Bytes := do
  Op.refuse (sessionEncryptionKey.length ≠ aesSize ∨ encryptedReaderId.length ≠ aesSize)
    (invalid "ReaderID decryption requires a 16-byte transaction key and ciphertext")
  Op.catchAll id ⟨.internal,"Offline ReaderID decryption failed",.notSent,0⟩ do
    secretResult (Op.cbc sessionEncryptionKey (zeros 16) encryptedReaderId false) aesSize

end Verifiers

theorem derivationVector_inj {label label' : Byte} {committedCounter committedCounter' : UInt32} {uid uid' : Bytes}
    (h : derivationVector label committedCounter uid = derivationVector label' committedCounter' uid') :
    label = label' ∧ committedCounter = committedCounter' ∧ uid = uid' := by
  simp only [derivationVector,List.cons.injEq,true_and] at h
  obtain ⟨hlabel,hrest⟩ := h
  obtain ⟨hcounter,huid⟩ := List.append_inj hrest (by simp only [length_putLe])
  have hvalue : committedCounter.toNat = committedCounter'.toNat := by
    rw [← getLe_putLe (by decide : 4 ≤ 4) committedCounter.toNat_lt,hcounter,
      getLe_putLe (by decide) committedCounter'.toNat_lt]
  exact ⟨hlabel,UInt32.toNat_inj.mp hvalue,huid⟩

/-- The arguments that a derivation accepts. -/
def Derivable (transactionKey uid : Bytes) (committedCounter : UInt32) : Prop :=
  transactionKey.length = 16 ∧ uid.length = 7 ∧ committedCounter ≠ 0

/-- The transaction inputs that a calculation accepts. -/
def Authenticable (transactionInput : Bytes) : Prop :=
  transactionInput ≠ [] ∧ transactionInput.length ≤ maximumInputSize

section Judging
variable {τ : Type} {o : Oracle Environment} {s : τ} {key uid input presented : Bytes} {counter : UInt32}

/-- One CMAC of sixteen bytes or a failure. -/
inductive Answer (key input : Bytes) : Except Fault Bytes → Trace Environment → Prop
  | failed (fault reply) : Answer key input (.error fault) [⟨.cmac key input,reply⟩]
  | computed (full) (hfull : full.length = 16) : Answer key input (.ok full) [⟨.cmac key input,.ok full⟩]

theorem secretResult_answer (key input : Bytes) :
    Ensures some o (secretResult (Op.cmac key input) aesSize) s fun r s' es => s' = s ∧ Answer key input r es := by
  refine (Op.cmac_secret _ key input aesSize).mono fun r s' es h => ?_
  cases h with
  | failed reply e hreply => exact ⟨rfl,.failed _ reply⟩
  | threw => exact ⟨rfl,.failed _ _⟩
  | computed full hfull => exact ⟨rfl,.computed full hfull⟩

/-- How a derivation ends: both keys are CMACs under the transaction key, or something failed on the way. -/
inductive Derivation (key uid : Bytes) (counter : UInt32) :
    Except Fault TransactionMacKeys → Trace Environment → Prop
  | refused (e) (hrefused : ¬Derivable key uid counter) : Derivation key uid counter (.error (.error e)) []
  | unanswered (e reply) (hderivable : Derivable key uid counter) : Derivation key uid counter (.error (.error e))
      [⟨.cmac key (derivationVector 0x5A counter uid),reply⟩]
  | halfway (e macKey reply) (hderivable : Derivable key uid counter) (hmac : macKey.length = 16) :
      Derivation key uid counter (.error (.error e))
      [⟨.cmac key (derivationVector 0x5A counter uid),.ok macKey⟩,
        ⟨.cmac key (derivationVector 0xA5 counter uid),reply⟩]
  | derived (keys) (hderivable : Derivable key uid counter) (hmac : keys.macKey.length = 16)
      (hencryption : keys.encryptionKey.length = 16) : Derivation key uid counter (.ok keys)
      [⟨.cmac key (derivationVector 0x5A counter uid),.ok keys.macKey⟩,
        ⟨.cmac key (derivationVector 0xA5 counter uid),.ok keys.encryptionKey⟩]

theorem derivable_of_admitted (h : ¬(key.length ≠ aesSize ∨ uid.length ≠ 7 ∨ counter = 0)) :
    Derivable key uid counter := by
  simp only [not_or,not_not] at h
  exact h

/-- What was thrown leaves a guarded part as an error of its own. -/
theorem afterThrow_failed (α : Type) (s : τ) (e : Error) (fault : Fault) :
    ∃ e', (Op.afterThrow id e (.error fault : Except Fault α) s) = (.error (.error e'),s) := by
  cases fault with
  | error e' => exact ⟨e',rfl⟩
  | thrown => exact ⟨e,rfl⟩

theorem derivation_cases (key uid : Bytes) (counter : UInt32) :
    Ensures some o (deriveTransactionMacKeysAes key uid counter) s fun r s' es =>
      s' = s ∧ Derivation key uid counter r es := by
  refine Op.ensures_refuse_bind (fun hrefused => ⟨rfl,.refused _ ?_⟩) fun hadmitted => Op.ensures_catchAll ?_
  · rintro ⟨hkey,huid,hcounter⟩
    rcases hrefused with hrefused | hrefused | hrefused
    · exact hrefused hkey
    · exact hrefused huid
    · exact hcounter hrefused
  have hderivable := derivable_of_admitted hadmitted
  refine ensures_bind (secretResult_answer key (derivationVector 0x5A counter uid)) ?_ ?_
  · rintro fault s _ ⟨rfl,hanswer⟩
    obtain ⟨e,he⟩ := afterThrow_failed TransactionMacKeys s
      ⟨.internal,"Offline transaction-key derivation failed",.notSent,0⟩ fault
    rw [he]
    cases hanswer with
    | failed _ reply => exact ⟨rfl,.unanswered e reply hderivable⟩
  · rintro macKey _ _ ⟨rfl,hanswer⟩
    cases hanswer with
    | computed _ hmac =>
    refine ensures_bind (secretResult_answer key (derivationVector 0xA5 counter uid)) ?_ ?_
    · rintro fault s _ ⟨rfl,hanswer⟩
      obtain ⟨e,he⟩ := afterThrow_failed TransactionMacKeys s
        ⟨.internal,"Offline transaction-key derivation failed",.notSent,0⟩ fault
      rw [he]
      cases hanswer with
      | failed _ reply => exact ⟨rfl,.halfway e macKey reply hderivable hmac⟩
    · rintro encryptionKey _ _ ⟨rfl,hanswer⟩
      cases hanswer with
      | computed _ hencryption =>
        exact ensures_pure ⟨rfl,.derived ⟨macKey,encryptionKey⟩ hderivable hmac hencryption⟩

/-- How a calculation ends: the bytes are those of one CMAC of the input. -/
inductive Calculation (key input : Bytes) : Except Fault Bytes → Trace Environment → Prop
  | refused (e) (hrefused : key.length = 16 → ¬Authenticable input) : Calculation key input (.error (.error e)) []
  | unanswered (e reply) (hinput : Authenticable input) :
      Calculation key input (.error (.error e)) [⟨.cmac key input,reply⟩]
  | calculated (full) (hinput : Authenticable input) (hfull : full.length = 16) :
      Calculation key input (.ok (alternateBytes full)) [⟨.cmac key input,.ok full⟩]

theorem calculation_cases (key input : Bytes) :
    Ensures some o (calculateTransactionMacAes key input) s fun r s' es => s' = s ∧ Calculation key input r es := by
  refine Op.ensures_refuse_bind (fun hrefused => ⟨rfl,.refused _ ?_⟩) fun hadmitted => Op.ensures_catchAll ?_
  · rintro hkey ⟨hnonempty,hsize⟩
    rcases hrefused with hrefused | hrefused | hrefused
    · exact hrefused hkey
    · exact hnonempty hrefused
    · exact absurd hsize (Nat.not_le.mpr hrefused)
  simp only [not_or,not_not,Nat.not_lt] at hadmitted
  refine ensures_bind (secretResult_answer key input) ?_ ?_
  · rintro fault s _ ⟨rfl,hanswer⟩
    obtain ⟨e,he⟩ := afterThrow_failed Bytes s
      ⟨.internal,"Offline transaction MAC calculation failed",.notSent,0⟩ fault
    rw [he]
    cases hanswer with
    | failed _ reply => exact ⟨rfl,.unanswered e reply hadmitted.2⟩
  · rintro full _ _ ⟨rfl,hanswer⟩
    cases hanswer with
    | computed _ hfull => exact ensures_pure ⟨rfl,.calculated full hadmitted.2 hfull⟩

/-- How a verification ends: a verdict compares the presented bytes with a CMAC of the input under the key that was
derived for the counter and the UID. -/
inductive Verification (key uid : Bytes) (counter : UInt32) (input presented : Bytes) :
    Except Fault Bool → Trace Environment → Prop
  | missized (e) (hpresented : presented.length ≠ 8) :
      Verification key uid counter input presented (.error (.error e)) []
  | underived (e es) (hpresented : presented.length = 8)
      (hderivation : Derivation key uid counter (.error (.error e)) es) :
      Verification key uid counter input presented (.error (.error e)) es
  | uncalculated (e keys es es') (hpresented : presented.length = 8)
      (hderivation : Derivation key uid counter (.ok keys) es)
      (hcalculation : Calculation keys.macKey input (.error (.error e)) es') :
      Verification key uid counter input presented (.error (.error e)) (es ++ es')
  | judged (keys full es) (hpresented : presented.length = 8) (hinput : Authenticable input)
      (hderivation : Derivation key uid counter (.ok keys) es) (hfull : full.length = 16) :
      Verification key uid counter input presented (.ok (alternateBytes full == presented))
        (es ++ [⟨.cmac keys.macKey input,.ok full⟩])

theorem verification_cases (key uid : Bytes) (counter : UInt32) (input presented : Bytes) :
    Ensures some o (verifyTransactionMacAes key uid counter input presented) s fun r s' es =>
      s' = s ∧ Verification key uid counter input presented r es := by
  refine Op.ensures_refuse_bind (fun hrefused => ⟨rfl,.missized _ hrefused⟩) fun hadmitted => ?_
  have hpresented : presented.length = 8 := Decidable.not_not.mp hadmitted
  refine ensures_bind (derivation_cases key uid counter) ?_ ?_
  · rintro fault _ es ⟨rfl,hderivation⟩
    cases hderivation with
    | refused e hrefused => exact ⟨rfl,.underived e _ hpresented (.refused e hrefused)⟩
    | unanswered e reply hderivable => exact ⟨rfl,.underived e _ hpresented (.unanswered e reply hderivable)⟩
    | halfway e macKey reply hderivable hmac =>
      exact ⟨rfl,.underived e _ hpresented (.halfway e macKey reply hderivable hmac)⟩
  · rintro keys _ es ⟨rfl,hderivation⟩
    refine ensures_bind (calculation_cases keys.macKey input) ?_ ?_
    · rintro fault _ es' ⟨rfl,hcalculation⟩
      cases hcalculation with
      | refused e hrefused => exact ⟨rfl,.uncalculated e keys es _ hpresented hderivation (.refused e hrefused)⟩
      | unanswered e reply hinput =>
        exact ⟨rfl,.uncalculated e keys es _ hpresented hderivation (.unanswered e reply hinput)⟩
    · rintro computed _ es' ⟨rfl,hcalculation⟩
      cases hcalculation with
      | calculated full hinput hfull =>
        refine ensures_pure ?_
        rw [constantTimeEqual_eq,List.append_nil]
        exact ⟨rfl,.judged keys full es hpresented hinput hderivation hfull⟩

/-- The questions of a verdict tell the key, the UID, the counter and the input it was about. -/
theorem Verification.determined {key' uid' input' presented' : Bytes} {counter' : UInt32} {verdict verdict' : Bool}
    {es es' : Trace Environment} (h : Verification key uid counter input presented (.ok verdict) es)
    (h' : Verification key' uid' counter' input' presented' (.ok verdict') es')
    (hquestions : es.map Event.query = es'.map Event.query) :
    key = key' ∧ uid = uid' ∧ counter = counter' ∧ input = input' := by
  cases h with
  | judged keys full es hpresented hinput hderivation hfull =>
  cases h' with
  | judged keys' full' es' hpresented' hinput' hderivation' hfull' =>
  cases hderivation with
  | derived _ hderivable hmac hencryption =>
  cases hderivation' with
  | derived _ hderivable' hmac' hencryption' =>
    simp only [List.map_cons,List.map_nil,List.cons_append,List.nil_append,List.cons.injEq,
      Query.cmac.injEq] at hquestions
    obtain ⟨⟨hkey,hvector⟩,_,⟨_,hinput⟩,_⟩ := hquestions
    obtain ⟨_,hcounter,huid⟩ := derivationVector_inj hvector
    exact ⟨hkey,huid,hcounter,hinput⟩

/-- Whatever the provider answers, a verdict compares against keys derived for its counter and UID, and no two
verdicts about different transactions ask the same. -/
theorem transaction_mac_judged (key uid : Bytes) (counter : UInt32) (input presented : Bytes) :
    (∀ (o : Oracle Environment) (s : Unit), Ensures some o (verifyTransactionMacAes key uid counter input presented) s
      fun r _ es => Verification key uid counter input presented r es) ∧
    ∀ key' uid' counter' input' presented' verdict verdict' es es',
      Verification key uid counter input presented (.ok verdict) es →
        Verification key' uid' counter' input' presented' (.ok verdict') es' →
          es.map Event.query = es'.map Event.query →
            key = key' ∧ uid = uid' ∧ counter = counter' ∧ input = input' := by
  refine ⟨fun o s => (verification_cases key uid counter input presented).mono fun _ _ _ h => h.2,?_⟩
  intro key' uid' counter' input' presented' verdict verdict' es es' h h' hquestions
  exact h.determined h' hquestions

end Judging

/-- A transaction with the reader that commits it. -/
structure Transaction where
  readerId : Bytes
  input : Bytes
  length_readerId : readerId.length = 16
  authenticable : Authenticable input

/-- What a transaction leaves for the backend: its input, the response of the commit, and the reader before. -/
structure Committed where
  transactionInput : Bytes
  response : Bytes
  encryptedReaderId : Bytes

/-- A card that authenticates its transactions, numbered from its counter. -/
structure TransactionCard where
  key : Bytes
  uid : Bytes
  counter : UInt32
  readerId : Bytes
  length_key : key.length = 16
  length_uid : uid.length = 7
  length_readerId : readerId.length = 16

namespace TransactionCard

/-- The number of a transaction goes out with its low byte first. -/
def numberBytes (number : UInt32) : Bytes :=
  [number.toUInt8,(number >>> 8).toUInt8,(number >>> 16).toUInt8,(number >>> 24).toUInt8]

/-- The second of every two bytes. -/
def transmitted : Bytes → Bytes
  | _ :: second :: rest => second :: transmitted rest
  | _ => []

/-- A session key of the card for one transaction. -/
def sessionKey (P : Primitives) (card : TransactionCard) (label : Byte) (number : UInt32) : Bytes :=
  P.mac card.key ([label,0x00,0x01,0x00,0x80] ++ numberBytes number ++ card.uid)

def macKey (P : Primitives) (card : TransactionCard) (number : UInt32) : Bytes := card.sessionKey P 0x5A number
def encryptionKey (P : Primitives) (card : TransactionCard) (number : UInt32) : Bytes := card.sessionKey P 0xA5 number

/-- The card after a transaction. -/
def next (card : TransactionCard) (transaction : Transaction) : TransactionCard where
  key := card.key
  uid := card.uid
  counter := card.counter + 1
  readerId := transaction.readerId
  length_key := card.length_key
  length_uid := card.length_uid
  length_readerId := transaction.length_readerId

def commit (P : Primitives) (card : TransactionCard) (transaction : Transaction) : Committed where
  transactionInput := transaction.input
  response := numberBytes (card.counter + 1) ++
    transmitted (P.mac (card.macKey P (card.counter + 1)) transaction.input)
  encryptedReaderId := P.encrypt (card.encryptionKey P (card.counter + 1)) (zeros 16) card.readerId

def commits (P : Primitives) : TransactionCard → List Transaction → List Committed
  | _,[] => []
  | card,transaction :: rest => card.commit P transaction :: commits P (card.next transaction) rest

theorem numberBytes_eq (number : UInt32) : numberBytes number = putLe number.toNat 4 := by
  simp only [numberBytes,putLe,List.cons.injEq,and_true]
  refine ⟨?_,?_,?_,?_⟩ <;> apply UInt8.toNat_inj.mp <;> simp <;> omega

theorem transmitted_eq {full : Bytes} (hfull : full.length = 16) : transmitted full = alternateBytes full := by
  match full,hfull with
  | [_,_,_,_,_,_,_,_,_,_,_,_,_,_,_,_],_ => rfl

/-- Card and backend derive a key from the same block. -/
theorem sessionKey_eq (P : Primitives) (card : TransactionCard) (label : Byte) (number : UInt32) :
    card.sessionKey P label number = P.mac card.key (derivationVector label number card.uid) := by
  rw [sessionKey,numberBytes_eq]
  rfl

end TransactionCard

section Auditing
variable {o : Oracle Environment} {P : Primitives} {key uid input : Bytes} {counter : UInt32}

/-- The backend reads the number of a transaction from its response, accepts its MAC, and recovers the reader of the
transaction before. -/
structure Assured (o : Oracle Environment) (key uid : Bytes) (counter : UInt32) (readerId : Bytes)
    (committed : Committed) : Prop where
  verified : ∃ mac, Native.Checked.parseTransactionMac committed.response = .ok ⟨counter.toNat,mac⟩ ∧
    Yields o (verifyTransactionMacAes key uid counter committed.transactionInput mac) () true ()
  recovered : ∃ keys, Yields o (deriveTransactionMacKeysAes key uid counter) () keys () ∧
    Yields o (decryptTransactionReaderIdAes keys.encryptionKey committed.encryptedReaderId) () readerId ()

/-- Each transaction is assured under the number behind the one before, with the reader of the one before. -/
inductive Audited (o : Oracle Environment) (key uid : Bytes) :
    UInt32 → Bytes → List Transaction → List Committed → Prop
  | done (counter readerId) : Audited o key uid counter readerId [] []
  | assured (counter readerId transaction rest committed others)
      (hnumber : (counter + 1).toNat = counter.toNat + 1) (hinput : committed.transactionInput = transaction.input)
      (hassured : Assured o key uid (counter + 1) readerId committed)
      (hrest : Audited o key uid (counter + 1) transaction.readerId rest others) :
      Audited o key uid counter readerId (transaction :: rest) (committed :: others)

theorem length_alternateBytes (full : Bytes) : (alternateBytes full).length = 8 := by
  simp [alternateBytes]

theorem secretResult_computes {τ ω : Type} {view : Event Environment → Option ω} {s : τ} (hP : Computes o P)
    (hkey : key.length = 16) (input : Bytes) :
    Ensures view o (secretResult (Op.cmac key input) aesSize) s fun r s' _ => r = .ok (P.mac key input) ∧ s' = s := by
  refine Op.ensures_secretOutput (Op.ensures_cmac fun h => ?_)
  have hlength : (P.mac key input).length = aesSize := P.length_mac key input
  rw [hP.mac h input hkey,Op.sized_of_length hlength]
  exact ⟨rfl,rfl⟩

theorem secretResult_yields (hP : Computes o P) (hkey : key.length = 16) (input : Bytes) :
    Yields o (secretResult (Op.cmac key input) aesSize) () (P.mac key input) () :=
  Yields.of_ensures (secretResult_computes hP hkey input)

theorem derive_yields (hP : Computes o P) (hderivable : Derivable key uid counter) :
    Yields o (deriveTransactionMacKeysAes key uid counter) ()
      ⟨P.mac key (derivationVector 0x5A counter uid),P.mac key (derivationVector 0xA5 counter uid)⟩ () := by
  have hadmitted : ¬(key.length ≠ aesSize ∨ uid.length ≠ 7 ∨ counter = 0) := by
    simp only [not_or,not_not]
    exact hderivable
  refine Op.reaches_refuse_bind hadmitted (Op.reaches_catchAll ?_)
  refine Reaches.quiet_bind (secretResult_yields hP hderivable.1 _) ?_
  exact Reaches.quiet_bind (secretResult_yields hP hderivable.1 _) Reaches.pure

theorem calculate_yields (hP : Computes o P) (hkey : key.length = 16) (hinput : Authenticable input) :
    Yields o (calculateTransactionMacAes key input) () (alternateBytes (P.mac key input)) () := by
  have hadmitted : ¬(key.length ≠ aesSize ∨ input = [] ∨ maximumInputSize < input.length) := by
    simp only [not_or,not_not,Nat.not_lt]
    exact ⟨hkey,hinput⟩
  refine Op.reaches_refuse_bind hadmitted (Op.reaches_catchAll ?_)
  exact Reaches.quiet_bind (secretResult_yields hP hkey input) Reaches.pure

theorem verify_yields (hP : Computes o P) (hderivable : Derivable key uid counter) (hinput : Authenticable input) :
    Yields o (verifyTransactionMacAes key uid counter input
      (alternateBytes (P.mac (P.mac key (derivationVector 0x5A counter uid)) input))) () true () := by
  refine Op.reaches_refuse_bind (fun h => h (length_alternateBytes _)) ?_
  refine Reaches.quiet_bind (derive_yields hP hderivable) ?_
  refine Reaches.quiet_bind (calculate_yields hP (P.length_mac ..) hinput) ?_
  rw [constantTimeEqual_eq,beq_self_eq_true]
  exact Reaches.pure

theorem decrypt_yields (hP : Computes o P) {readerId : Bytes} (hkey : key.length = 16)
    (hreader : readerId.length = 16) :
    Yields o (decryptTransactionReaderIdAes key (P.encrypt key (zeros 16) readerId)) () readerId () := by
  have hsize : readerId.length = aesSize := hreader
  have hlength : (P.encrypt key (zeros 16) readerId).length = aesSize := (P.length_encrypt ..).trans hreader
  have hadmitted : ¬(key.length ≠ aesSize ∨ (P.encrypt key (zeros 16) readerId).length ≠ aesSize) := by
    simp only [not_or,not_not]
    exact ⟨hkey,hlength⟩
  refine Op.reaches_refuse_bind hadmitted (Op.reaches_catchAll ?_)
  refine Yields.of_ensures (Op.ensures_secretOutput (Op.ensures_cbc fun h => ?_))
  have hwhole : (P.encrypt key (zeros 16) readerId).length % 16 = 0 := by
    rw [hlength]
    rfl
  rw [hP.decrypt h hkey (length_zeros 16) hwhole,P.decrypt_encrypt _ _ _ (by rw [hreader]),Op.sized_of_length hsize]
  exact ⟨rfl,rfl⟩

theorem parseTransactionMac_response {mac : Bytes} (hmac : mac.length = 8) (counter : UInt32) :
    Native.Checked.parseTransactionMac (putLe counter.toNat 4 ++ mac) = .ok ⟨counter.toNat,mac⟩ := by
  have hcounter : (putLe counter.toNat 4).length = 4 := length_putLe _ _
  unfold Native.Checked.parseTransactionMac
  rw [if_neg (by simp [hmac]),List.take_left' hcounter,List.drop_left' hcounter,
    getLe_putLe (by decide) counter.toNat_lt]

theorem commit_assured (hP : Computes o P) (card : TransactionCard) (transaction : Transaction)
    (hcounter : card.counter + 1 ≠ 0) :
    Assured o card.key card.uid (card.counter + 1) card.readerId (card.commit P transaction) := by
  have hderivable : Derivable card.key card.uid (card.counter + 1) := ⟨card.length_key,card.length_uid,hcounter⟩
  have hmac : TransactionCard.transmitted (P.mac (card.macKey P (card.counter + 1)) transaction.input) =
      alternateBytes (P.mac (P.mac card.key (derivationVector 0x5A (card.counter + 1) card.uid))
        transaction.input) := by
    rw [TransactionCard.transmitted_eq (P.length_mac ..),TransactionCard.macKey,TransactionCard.sessionKey_eq]
  refine ⟨⟨_,?_,verify_yields hP hderivable transaction.authenticable⟩,⟨_,derive_yields hP hderivable,?_⟩⟩
  · rw [TransactionCard.commit,TransactionCard.numberBytes_eq,hmac]
    exact parseTransactionMac_response (length_alternateBytes _) _
  · rw [TransactionCard.commit,TransactionCard.encryptionKey,TransactionCard.sessionKey_eq]
    exact decrypt_yields hP (P.length_mac ..) card.length_readerId

/-- Over a provider that computes, the backend is assured of every transaction of a card whose counter has room. -/
theorem transactions_audited (hP : Computes o P) (card : TransactionCard) (transactions : List Transaction)
    (hroom : card.counter.toNat + transactions.length < 2^32) :
    Audited o card.key card.uid card.counter card.readerId transactions (card.commits P transactions) := by
  induction transactions generalizing card with
  | nil => exact .done _ _
  | cons transaction rest ih =>
    rw [List.length_cons] at hroom
    have hnumber : (card.counter + 1).toNat = card.counter.toNat + 1 := by
      rw [UInt32.toNat_add,UInt32.toNat_one]
      exact Nat.mod_eq_of_lt (by omega)
    have hcounter : card.counter + 1 ≠ 0 := by
      intro hzero
      rw [hzero] at hnumber
      simp at hnumber
    refine .assured _ _ _ _ _ _ hnumber rfl (commit_assured hP card transaction hcounter) ?_
    refine ih (card.next transaction) ?_
    change (card.counter + 1).toNat + rest.length < 2^32
    omega

end Auditing

def auditedCard : TransactionCard where
  key := zeros 16
  uid := zeros 7
  counter := 0
  readerId := zeros 16
  length_key := length_zeros 16
  length_uid := length_zeros 7
  length_readerId := length_zeros 16

theorem zeros_authenticable : Authenticable (zeros 16) := by
  constructor <;> decide

def auditedTransaction : Transaction where
  readerId := zeros 16
  input := zeros 16
  length_readerId := length_zeros 16
  authenticable := zeros_authenticable

theorem transactions_audited_twice :
    Audited (scripted {}) (zeros 16) (zeros 7) 0 (zeros 16) [auditedTransaction,auditedTransaction]
      (auditedCard.commits .echo [auditedTransaction,auditedTransaction]) :=
  transactions_audited (scripted_computes {} rfl rfl) auditedCard [auditedTransaction,auditedTransaction] (by decide)

end DesfireSdk.Offline
