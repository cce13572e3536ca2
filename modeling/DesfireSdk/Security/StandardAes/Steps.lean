import DesfireSdk.Security.StandardAes.Session

/-! Everything one call on a Standard AES session can do, with the primitives it asks for. -/
namespace DesfireSdk.Security.StandardAes
open Interaction Program
theorem length_shiftLeft (block : Bytes) : (shiftLeft block).1.length = block.length := by
  induction block with
  | nil => rfl
  | cons current rest ih => simp only [shiftLeft,List.length_cons,ih]

theorem length_doubleCmacSubkey {block : Bytes} (h : block ≠ []) :
    (doubleCmacSubkey block).length = block.length := by
  have hpos := List.length_pos_iff.mpr h
  unfold doubleCmacSubkey
  split
  · simp only [List.length_append,List.length_take,length_shiftLeft,List.length_singleton]
    omega
  · exact length_shiftLeft block

/-- A CMAC reads whole blocks, and at least one. -/
theorem cmacBlocks_whole {encryptedZero input : Bytes} (hzero : encryptedZero.length = aesBlockSize) :
    aesBlockSize ≤ (cmacBlocks encryptedZero input).length ∧
      (cmacBlocks encryptedZero input).length % 16 = 0 := by
  have hne : encryptedZero ≠ [] := by
    rintro rfl
    cases hzero
  have hfirst := length_doubleCmacSubkey hne
  have hsecond : (doubleCmacSubkey (doubleCmacSubkey encryptedZero)).length = aesBlockSize := by
    rw [length_doubleCmacSubkey,hfirst,hzero]
    intro h
    rw [h,hzero] at hfirst
    cases hfirst
  unfold cmacBlocks
  by_cases hempty : input = []
  · subst hempty
    simp [xorBytes,hsecond,zeros,aesBlockSize]
  have hpos := List.length_pos_iff.mpr hempty
  simp only [hempty,ne_eq,not_false_eq_true,true_and,if_false]
  split
  · rename_i hcomplete
    simp only [xorBytes,List.length_append,List.length_take,List.length_zipWith,List.length_drop,
      hfirst,hzero]
    simp only [aesBlockSize] at *
    omega
  · rename_i hcomplete
    simp only [xorBytes,List.length_append,List.length_take,List.length_zipWith,List.length_drop,
      List.length_cons,length_zeros,hsecond]
    simp only [aesBlockSize] at *
    omega

theorem length_cmacBlocks {encryptedZero input : Bytes} (hzero : encryptedZero.length = aesBlockSize) :
    aesBlockSize ≤ (cmacBlocks encryptedZero input).length := (cmacBlocks_whole hzero).1

namespace Session

/-- A claimed rejection is the answer of a primitive. -/
def ProviderRejects (e : Error) (es : Trace Environment) : Prop :=
  e.outcome = .rejected → ∃ key iv input encrypt, ⟨.cbc key iv input encrypt,.error (.error e)⟩ ∈ es

/-- The two primitives behind one CMAC. -/
def cmacEvents (s : Session) (input encryptedZero encrypted : Bytes) : Trace Environment :=
  [⟨.cbc s.sessionKey (zeros aesBlockSize) (zeros aesBlockSize) true,.ok encryptedZero⟩,
    ⟨.cbc s.sessionKey s.iv (cmacBlocks encryptedZero input) true,.ok encrypted⟩]

def lastBlock (bytes : Bytes) : Bytes := bytes.drop (bytes.length - aesBlockSize)

theorem length_lastBlock {bytes : Bytes} (h : aesBlockSize ≤ bytes.length) :
    (lastBlock bytes).length = aesBlockSize := by
  simp only [lastBlock,List.length_drop]
  omega

inductive CmacCase (s : Session) (input : Bytes) :
    Except Fault Bytes → Session → Trace Environment → Prop
  | failed (e : Error) (es : Trace Environment) (hes : Cryptographic es) (he : ProviderRejects e es) :
      CmacCase s input (.error (.error e)) s es
  | computed (encryptedZero encrypted : Bytes) (hzero : encryptedZero.length = aesBlockSize)
      (hencrypted : encrypted.length = (cmacBlocks encryptedZero input).length) :
      CmacCase s input (.ok (lastBlock encrypted)) s (s.cmacEvents input encryptedZero encrypted)

theorem calculateCmac_cases (o : Oracle Environment) (input : Bytes) (s : Session) :
    Ensures some o (calculateCmac input) s (CmacCase s input) := by
  refine ensures_get_bind (Op.ensures_catchAll ?_)
  refine ensures_bind (Op.cbc_secret _ _ _ _ _ _) ?_ ?_
  · rintro _ _ _ (⟨reply,e,hreply⟩ | _)
    · refine .failed e _ (by simp) fun he => ?_
      exact ⟨_,_,_,_,by rw [Op.sized_rejected hreply he]; exact List.mem_cons_self⟩
    · exact .failed _ _ (by simp) (by simp [ProviderRejects])
  rintro encryptedZero _ _ (_ | _ | ⟨_,hzero⟩)
  refine Op.ensures_refuse_bind (fun _ => ?_) fun _ => ?_
  · exact .failed _ _ (by simp) (by simp [ProviderRejects])
  refine ensures_bind (Op.cbc_secret _ _ _ _ _ _) ?_ ?_
  · rintro _ _ _ (⟨reply,e,hreply⟩ | _)
    · refine .failed e _ (by simp) fun he => ?_
      exact ⟨_,_,_,_,by rw [Op.sized_rejected hreply he]; exact List.mem_cons_of_mem _ List.mem_cons_self⟩
    · exact .failed _ _ (by simp) (by simp [ProviderRejects])
  rintro encrypted _ _ (_ | _ | ⟨_,hencrypted⟩)
  exact ensures_pure (.computed encryptedZero encrypted hzero hencrypted)

/-- The length of a message with its MAC, if one is transmitted. -/
def cmacLength (header data : Bytes) (transmitMac : Bool) : Nat :=
  header.length + data.length + if transmitMac then transmittedMacSize else 0

/-- The length of a message with enciphered data. -/
def fullLength (command : Byte) (header data : Bytes) : Nat :=
  if data = [] then cmacLength header data false
  else header.length + (fullPlaintext command header data).length

/-- Every preparation of a message with this length, whatever its mode. -/
inductive PrepareCase (s : Session) (size : Nat) :
    Except Fault Bytes → Session → Trace Environment → Prop
  | misused (h : s.phase ≠ .ready) : PrepareCase s size (.error (.error notReady)) s []
  | oversized (h : s.phase = .ready) (message : String) :
      PrepareCase s size (.error (.error (DesfireSdk.invalid message))) s []
  | failed (h : s.phase = .ready) (e : Error) (es : Trace Environment) (hes : Cryptographic es)
      (he : ProviderRejects e es) : PrepareCase s size (.error (.error e)) s.invalidate es
  | prepared (h : s.phase = .ready) (wire block : Bytes) (es : Trace Environment) (hes : Cryptographic es)
      (hwire : wire.length = size) : PrepareCase s size (.ok wire) (s.chain block .awaitingResponse) es

theorem prepareCmacCommand_cases (o : Oracle Environment) (command : Byte) (header data : Bytes)
    (transmitMac : Bool) (s : Session) :
    Ensures some o (prepareCmacCommand command header data transmitMac) s
      (PrepareCase s (cmacLength header data transmitMac)) := by
  refine ensures_get_bind ?_
  refine Op.ensures_refuse_bind (fun h => .misused h) fun hready => ?_
  have hready := Decidable.not_not.mp hready
  refine Op.ensures_refuse_bind (fun _ => .oversized hready _) fun _ => ?_
  refine Op.ensures_catchAll ?_
  refine ensures_bind (Op.ensures_onError ((calculateCmac_cases o _ s).mono ?_)) ?_ ?_
    (m := fun r s' es => (∃ mac, r = .ok mac ∧ s' = s ∧ Cryptographic es ∧ mac.length = aesBlockSize) ∨
      ∃ e, r = .error (.error e) ∧ s' = s.invalidate ∧ Cryptographic es ∧ ProviderRejects e es)
  · rintro _ _ _ (⟨e,es,hes,he⟩ | ⟨encryptedZero,encrypted,hzero,hencrypted⟩)
    · exact .inr ⟨e,rfl,rfl,hes,he⟩
    · have hblock := length_lastBlock (hencrypted ▸ length_cmacBlocks hzero)
      exact .inl ⟨_,rfl,rfl,by simp [cmacEvents],hblock⟩
  · rintro _ _ _ (⟨_,⟨⟩,_⟩ | ⟨e,⟨⟩,rfl,hes,he⟩)
    exact .failed hready e _ hes he
  · rintro mac _ _ (⟨_,⟨⟩,rfl,hes,hmac⟩ | ⟨_,⟨⟩,_⟩)
    refine ensures_modify_bind ?_
    refine ensures_pure ?_
    rw [List.append_nil]
    refine .prepared hready _ mac _ hes ?_
    cases transmitMac
    · simp [cmacLength]
    · simp [cmacLength,hmac,transmittedMacSize,aesBlockSize,Nat.add_assoc]

theorem prepareFull_cases (o : Oracle Environment) (command : Byte) (header data : Bytes)
    (s : Session) : Ensures some o (prepareFull command header data) s
      (PrepareCase s (fullLength command header data)) := by
  unfold fullLength
  refine ensures_ite (fun hdata => ?_) fun hdata => ?_
  · rw [if_pos hdata]
    exact prepareCmacCommand_cases o command header data false s
  rw [if_neg hdata]
  refine ensures_get_bind ?_
  refine Op.ensures_refuse_bind (fun h => .misused h) fun hready => ?_
  have hready := Decidable.not_not.mp hready
  refine Op.ensures_refuse_bind (fun _ => .oversized hready _) fun _ => ?_
  refine Op.ensures_refuse_bind (fun _ => .oversized hready _) fun _ => ?_
  refine Op.ensures_catchAll ?_
  refine ensures_bind (Op.cbc_cases _ _ _ _ _ _ _) ?_ ?_
  · rintro _ _ _ (⟨reply,e,hreply⟩ | _)
    · refine .failed hready e _ (by simp) fun he => ?_
      exact ⟨_,_,_,_,by rw [Op.sized_rejected hreply he]; exact List.mem_cons_self⟩
    · exact .failed hready _ _ (by simp) (by simp [ProviderRejects])
  rintro ciphertext _ _ (_ | _ | ⟨_,hciphertext⟩)
  refine ensures_modify_bind ?_
  refine ensures_pure (.prepared hready (header ++ ciphertext) _ _ (by simp) ?_)
  rw [List.length_append,hciphertext]

def dataOf (response : Native.Raw.Response) : Bytes :=
  response.data.take (response.data.length - transmittedMacSize)

def macOf (response : Native.Raw.Response) : Bytes :=
  response.data.drop (response.data.length - transmittedMacSize)

inductive VerifyCase (s : Session) (response : Native.Raw.Response) :
    Except Fault Bytes → Session → Trace Environment → Prop
  | misused (h : s.phase ≠ .awaitingResponse) : VerifyCase s response (.error (.error notAwaiting)) s []
  | refused (h : s.phase = .awaitingResponse) (e : Error) (he : e.outcome ≠ .notSent)
      (hstatus : response.status = 0x00 → e.outcome = .unknown) (es : Trace Environment)
      (hes : Cryptographic es) : VerifyCase s response (.error (.error e)) s.invalidate es
  | verified (h : s.phase = .awaitingResponse) (hstatus : response.status = 0x00)
      (encryptedZero encrypted : Bytes)
      (hmac : macOf response = (lastBlock encrypted).take transmittedMacSize) :
      VerifyCase s response (.ok (dataOf response)) (s.chain (lastBlock encrypted) .ready)
        (s.cmacEvents (dataOf response ++ [response.status]) encryptedZero encrypted)

theorem verifyResponse_cases (o : Oracle Environment) (response : Native.Raw.Response)
    (s : Session) : Ensures some o (verifyResponse response) s (VerifyCase s response) := by
  refine ensures_get_bind ?_
  refine Op.ensures_refuse_bind (fun h => .misused h) fun hphase => ?_
  have hphase := Decidable.not_not.mp hphase
  refine Op.ensures_refuseAfter_bind
    (fun _ => .refused hphase _ (by simp) (fun _ => rfl) [] (by simp)) fun _ => ?_
  refine Op.ensures_refuseAfter_bind
    (fun h => .refused hphase _ (by simp) (fun h' => absurd h' h) [] (by simp)) fun hstatus => ?_
  refine Op.ensures_refuseAfter_bind
    (fun _ => .refused hphase _ (by simp) (fun _ => rfl) [] (by simp)) fun _ => ?_
  refine Op.ensures_catchAll ?_
  refine ensures_bind (Op.ensures_mapError (Op.ensures_onError
    ((calculateCmac_cases o (dataOf response ++ [response.status]) s).mono ?_))) ?_ ?_
    (m := fun r s' es =>
      (∃ encryptedZero encrypted, r = .ok (lastBlock encrypted) ∧ s' = s ∧
        es = s.cmacEvents (dataOf response ++ [response.status]) encryptedZero encrypted) ∨
      ∃ e, r = .error (.error e) ∧ e.outcome = .unknown ∧ s' = s.invalidate ∧ Cryptographic es)
  · rintro _ _ _ (⟨e,es,hes,_⟩ | ⟨encryptedZero,encrypted,_⟩)
    · exact .inr ⟨_,rfl,rfl,rfl,hes⟩
    · exact .inl ⟨encryptedZero,encrypted,rfl,rfl,rfl⟩
  · rintro _ _ _ (⟨_,_,⟨⟩,_⟩ | ⟨e,⟨⟩,he,rfl,hes⟩)
    exact .refused hphase e (by simp [he]) (fun _ => he) _ hes
  · rintro mac _ _ (⟨encryptedZero,encrypted,⟨⟩,rfl,rfl⟩ | ⟨_,⟨⟩,_⟩)
    refine Op.ensures_refuseAfter_bind (fun _ => ?_) fun hequal => ?_
    · exact .refused hphase _ (by simp) (fun _ => rfl) _ (by simp [cmacEvents])
    refine ensures_modify_bind ?_
    refine ensures_pure ?_
    refine .verified hphase (Decidable.not_not.mp hstatus) encryptedZero encrypted ?_
    simpa [constantTimeEqual_eq,macOf] using hequal

inductive DecryptCase (s : Session) (response : Native.Raw.Response) (expectedSize : Option Nat) :
    Except Fault Bytes → Session → Trace Environment → Prop
  | misused (h : s.phase ≠ .awaitingResponse) :
      DecryptCase s response expectedSize (.error (.error notAwaiting)) s []
  | refused (h : s.phase = .awaitingResponse) (e : Error) (he : e.outcome ≠ .notSent)
      (hstatus : response.status = 0x00 → e.outcome = .unknown) (es : Trace Environment)
      (hes : Cryptographic es) : DecryptCase s response expectedSize (.error (.error e)) s.invalidate es
  | decrypted (h : s.phase = .awaitingResponse) (hstatus : response.status = 0x00) (clear : Bytes)
      (size : Nat) (hclear : clear.length = response.data.length)
      (hsize : verifies clear response.status size = true)
      (hexpected : ∀ expected ∈ expectedSize, size = expected) :
      DecryptCase s response expectedSize (.ok (clear.take size))
        (s.chain (lastBlock response.data) .ready)
        [⟨.cbc s.sessionKey s.iv response.data false,.ok clear⟩]

theorem verifyAndDecryptFullResponse_cases (o : Oracle Environment)
    (response : Native.Raw.Response) (expectedSize : Option Nat) (s : Session) :
    Ensures some o (verifyAndDecryptFullResponse response expectedSize) s
      (DecryptCase s response expectedSize) := by
  refine ensures_get_bind ?_
  refine Op.ensures_refuse_bind (fun h => .misused h) fun hphase => ?_
  have hphase := Decidable.not_not.mp hphase
  refine Op.ensures_refuseAfter_bind
    (fun _ => .refused hphase _ (by simp) (fun _ => rfl) [] (by simp)) fun _ => ?_
  refine Op.ensures_refuseAfter_bind
    (fun h => .refused hphase _ (by simp) (fun h' => absurd h' h) [] (by simp)) fun hstatus => ?_
  have hstatus := Decidable.not_not.mp hstatus
  refine Op.ensures_refuseAfter_bind
    (fun _ => .refused hphase _ (by simp) (fun _ => rfl) [] (by simp)) fun _ => ?_
  refine Op.ensures_catchAll ?_
  refine ensures_bind (Op.PrimitiveCase.change Error.asUnknown (Op.cbc_cases _ _ _ _ _ _ _)) ?_ ?_
  · rintro _ _ _ (⟨reply,e,_⟩ | _)
    · exact .refused hphase _ (by simp [Error.asUnknown]) (fun _ => rfl) _ (by simp)
    · exact .refused hphase _ (by simp) (fun _ => rfl) _ (by simp)
  rintro clear _ _ (_ | _ | ⟨_,hclear⟩)
  refine Op.ensures_refuseAfter_bind (fun _ => ?_) fun _ => ?_
  · exact .refused hphase _ (by simp) (fun _ => rfl) _ (by simp)
  split
  · refine ensures_modify_bind ?_
    refine Op.ensures_reject ?_
    exact .refused hphase _ (by simp) (fun _ => rfl) _ (by simp)
  · rename_i size rest hboundaries
    refine ensures_modify_bind ?_
    refine ensures_pure (.decrypted hphase hstatus clear size hclear ?_ ?_)
    · cases expectedSize with
      | none =>
        have hmem : size ∈ (candidates clear).filter (verifies clear response.status) := by
          simp only at hboundaries
          rw [hboundaries]
          exact List.mem_cons_self
        exact (List.mem_filter.mp hmem).2
      | some expected =>
        have hmem : size ∈ [expected].filter (verifies clear response.status) := by
          simp only at hboundaries
          rw [hboundaries]
          exact List.mem_cons_self
        exact (List.mem_filter.mp hmem).2
    · rintro expected hexpected
      cases hexpected
      have hmem : size ∈ [expected].filter (verifies clear response.status) := by
        simp only at hboundaries
        rw [hboundaries]
        exact List.mem_cons_self
      exact List.mem_singleton.mp (List.mem_filter.mp hmem).1

theorem PrepareCase.cryptographic {s s' : Session} {size : Nat} {r : Except Fault Bytes} {es : Trace Environment}
    (h : PrepareCase s size r s' es) : Cryptographic es := by
  cases h <;> first | assumption | simp

theorem VerifyCase.cryptographic {s s' : Session} {response : Native.Raw.Response}
    {r : Except Fault Bytes} {es : Trace Environment} (h : VerifyCase s response r s' es) :
    Cryptographic es := by
  cases h <;> first | assumption | simp [cmacEvents]

theorem DecryptCase.cryptographic {s s' : Session} {response : Native.Raw.Response}
    {expectedSize : Option Nat} {r : Except Fault Bytes} {es : Trace Environment}
    (h : DecryptCase s response expectedSize r s' es) : Cryptographic es := by
  cases h <;> first | assumption | simp

end Session
end DesfireSdk.Security.StandardAes
