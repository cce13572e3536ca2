import DesfireSdk.Security.Ev2.Session

/-! Everything one call on an EV2 session can do, with the primitives it asks for. -/
namespace DesfireSdk.Security.Ev2
open Interaction Program

theorem length_oddBytes : (fullMac : Bytes) → (oddBytes fullMac).length = fullMac.length / 2
  | [] => rfl
  | [_] => by simp [oddBytes]
  | _ :: b :: rest => by
    have ih := length_oddBytes rest
    simp only [oddBytes,List.length_cons,ih]
    omega

theorem truncateMac_eq {fullMac : Bytes} (h : fullMac.length = aesBlockSize) :
    truncateMac fullMac = .ok (oddBytes fullMac) := by
  simp [truncateMac,h]

namespace Session

/-- The two ways a preparation is turned down before it looks at its arguments. -/
inductive Turned (s : Session) : Except Fault α → Session → Trace Environment → Prop
  | misused (h : s.phase ≠ .ready) : Turned s (.error (.error notReady)) s []
  | exhausted (hready : s.phase = .ready) (h : s.counter = counterMax) :
      Turned s (.error (.error exhausted)) s.invalidate []

theorem create_ok {s : Session} {material : AuthenticationMaterial} {counter : UInt16}
    (h : create material counter = .ok s) :
    s.phase = .ready ∧ s.authentication = material.information ∧ s.counter = counter := by
  unfold create at h
  split at h <;> cases h
  exact ⟨rfl,rfl,rfl⟩

/-- The session may prepare one more message. -/
structure Open (s : Session) : Prop where
  ready : s.phase = .ready
  counter : s.counter ≠ counterMax

theorem checkReady_bind {o : Oracle Environment} {s : Session} {α : Type} {f : Unit → Op Session α}
    {post : Except Fault α → Session → Trace Environment → Prop}
    (hturned : ∀ r s' es, Turned s r s' es → post r s' es)
    (hopen : s.Open → Ensures some o (f ()) s post) : Ensures some o (checkReady >>= f) s post := by
  refine ensures_bind (m := fun r s' es => Turned s r s' es ∨ s.Open ∧ r = .ok () ∧ s' = s ∧ es = [])
    ?_ ?_ ?_
  · refine ensures_get_bind ?_
    refine Op.ensures_refuse_bind (fun h => .inl (.misused h)) fun hready => ?_
    intro h
    unfold Op.refuseAfter
    by_cases hc : s.counter = counterMax
    · rw [if_pos hc]
      exact .inl (.exhausted (Decidable.not_not.mp hready) hc)
    · rw [if_neg hc]
      exact .inr ⟨⟨Decidable.not_not.mp hready,hc⟩,rfl,rfl,rfl⟩
  · rintro e s' es (hcase | ⟨_,⟨⟩,_⟩)
    cases hcase with
    | misused h => exact hturned _ _ _ (.misused h)
    | exhausted hready h => exact hturned _ _ _ (.exhausted hready h)
  · rintro ⟨⟩ s' es (hcase | ⟨h,_,rfl,rfl⟩)
    · cases hcase
    · exact hopen h

/-- The size checks of a Plain preparation pass. -/
def PlainFits (header data : Bytes) : Prop := ¬sizeMax - data.length < header.length

/-- The size checks of a MAC preparation pass. -/
def MacFits (header data : Bytes) : Prop :=
  ¬(sizeMax - transmittedMacSize < data.length ∨
    sizeMax - transmittedMacSize - data.length < header.length)

/-- The size checks of a Full preparation pass. -/
def FullFits (header data : Bytes) : Prop :=
  if data = [] then MacFits header []
  else ¬sizeMax - aesBlockSize < data.length ∧
    MacFits header (Padding.pad 0x00 0x80 aesBlockSize data)

instance (header data : Bytes) : Decidable (PlainFits header data) := inferInstanceAs (Decidable (¬_))
instance (header data : Bytes) : Decidable (MacFits header data) := inferInstanceAs (Decidable (¬_))
instance (header data : Bytes) : Decidable (FullFits header data) := by
  unfold FullFits
  infer_instance

theorem macFits_of_length {header data data' : Bytes} (h : MacFits header data)
    (hlength : data'.length = data.length) : MacFits header data' := by
  unfold MacFits at h ⊢
  rwa [hlength]

inductive PlainCase (s : Session) (header data : Bytes) :
    Except Fault Bytes → Session → Trace Environment → Prop
  | turned {r s' es} (h : Turned s r s' es) : PlainCase s header data r s' es
  | oversized (hopen : s.Open) : PlainCase s header data
      (.error (.error (DesfireSdk.invalid "EV2 Plain command data is too large"))) s []
  | prepared (hopen : s.Open) (hfits : PlainFits header data) :
      PlainCase s header data (.ok (header ++ data))
      (s.reserve .awaitingPlainResponse) []

theorem preparePlain_cases (o : Oracle Environment) (command : Byte) (header data : Bytes)
    (s : Session) : Ensures some o (preparePlain command header data) s (PlainCase s header data) := by
  refine checkReady_bind (fun _ _ _ h => .turned h) fun hopen => ?_
  refine Op.ensures_refuse_bind (fun _ => .oversized hopen) fun hfits => ?_
  refine ensures_modify_bind ?_
  exact ensures_pure (.prepared hopen hfits)

inductive AcceptCase (s : Session) (response : Native.Raw.Response) :
    Except Fault Bytes → Session → Trace Environment → Prop
  | misused (h : s.phase ≠ .awaitingPlainResponse) : AcceptCase s response (.error (.error
      ⟨.sessionInvalid,"EV2 secure session is not awaiting a Plain response",.notSent,0⟩)) s []
  | refused (h : s.phase = .awaitingPlainResponse) (hstatus : response.status ≠ 0x00) (e : Error)
      (he : e.outcome ≠ .notSent) : AcceptCase s response (.error (.error e)) s.invalidate []
  | accepted (h : s.phase = .awaitingPlainResponse) (hstatus : response.status = 0x00) :
      AcceptCase s response (.ok response.data) s.resume []

theorem acceptPlainResponse_cases (o : Oracle Environment) (response : Native.Raw.Response)
    (s : Session) : Ensures some o (acceptPlainResponse response) s (AcceptCase s response) := by
  refine ensures_get_bind ?_
  refine Op.ensures_refuse_bind (fun h => .misused h) fun hphase => ?_
  have hphase := Decidable.not_not.mp hphase
  refine Op.ensures_refuseAfter_bind (fun h => .refused hphase (by simp [h]) _ (by simp)) fun _ => ?_
  refine Op.ensures_refuseAfter_bind (fun h => .refused hphase h _ (by simp)) fun hstatus => ?_
  refine ensures_modify_bind ?_
  exact ensures_pure (.accepted hphase (Decidable.not_not.mp hstatus))

/-- The authenticated payload of one preparation and its primitive. -/
inductive MacCase (s : Session) (command : Byte) (header data : Bytes) :
    Except Fault Bytes → Session → Trace Environment → Prop
  | turned {r s' es} (h : Turned s r s' es) : MacCase s command header data r s' es
  | oversized (hopen : s.Open) (hlarge : ¬MacFits header data) : MacCase s command header data
      (.error (.error (DesfireSdk.invalid "EV2 secure-message MAC input is too large"))) s []
  | failed (hopen : s.Open) (e : Error) (reply : Except Fault Bytes)
      (he : e.outcome = .rejected → reply = .error (.error e)) :
      MacCase s command header data (.error (.error e)) s.invalidate
        [⟨.cmac s.macKey (s.macInput command (header ++ data)),reply⟩]
  | prepared (hopen : s.Open) (hfits : MacFits header data) (mac : Bytes)
      (hmac : mac.length = aesBlockSize) :
      MacCase s command header data (.ok (header ++ data ++ oddBytes mac))
        (s.reserve .awaitingResponse)
        [⟨.cmac s.macKey (s.macInput command (header ++ data)),.ok mac⟩]

theorem prepareMac_cases (o : Oracle Environment) (command : Byte) (header data : Bytes)
    (s : Session) :
    Ensures some o (prepareMac command header data) s (MacCase s command header data) := by
  refine checkReady_bind (fun _ _ _ h => .turned h) fun hopen => ?_
  refine ensures_get_bind ?_
  refine Op.ensures_refuse_bind (fun hlarge => .oversized hopen (not_not_intro hlarge)) fun hfits => ?_
  refine Op.ensures_catchAll ?_
  refine ensures_bind (Op.cmac_cases _ _ _ _ _) ?_ ?_
  · rintro _ _ _ (⟨reply,e,hreply⟩ | _)
    · exact .failed hopen e reply (Op.sized_rejected hreply)
    · exact .failed hopen _ _ (by simp)
  rintro mac _ _ (_ | _ | ⟨_,hmac⟩)
  refine ensures_bind_known (a := oddBytes mac) (t := s) ?_ ?_
  · refine Op.ensures_onError (Op.ensures_ofResult ?_)
    rw [truncateMac_eq hmac]
    exact ⟨rfl,rfl,rfl⟩
  refine ensures_modify_bind ?_
  exact ensures_pure (.prepared hopen hfits mac hmac)

def ivEvent (s : Session) (label : Bytes) (reply : Except Fault Bytes) : Event Environment :=
  ⟨.cbc s.encryptionKey (zeros aesBlockSize)
    (ivInput label s.authentication.transactionIdentifier s.counter) true,reply⟩

inductive FullCase (s : Session) (command : Byte) (header data : Bytes) :
    Except Fault Bytes → Session → Trace Environment → Prop
  | turned {r s' es} (h : Turned s r s' es) : FullCase s command header data r s' es
  | bare {r s' es} (hopen : s.Open) (hdata : data = []) (h : MacCase s command header [] r s' es) :
      FullCase s command header data r s' es
  | oversized (hopen : s.Open) : FullCase s command header data
      (.error (.error (DesfireSdk.invalid "EV2 Full command data is too large to pad"))) s []
  | failed (hopen : s.Open) (hdata : data ≠ []) (e : Error) (reply : Except Fault Bytes)
      (es : Trace Environment) (hes : Cryptographic es)
      (he : e.outcome = .rejected → ∃ event ∈ s.ivEvent requestLabel reply :: es,
        ∃ key iv input encrypt, event = ⟨.cbc key iv input encrypt,.error (.error e)⟩) :
      FullCase s command header data (.error (.error e)) s.invalidate
        (s.ivEvent requestLabel reply :: es)
  | enciphered {r s' es} (hopen : s.Open) (hdata : data ≠ [])
      (hpad : ¬sizeMax - aesBlockSize < data.length) (iv ciphertext : Bytes)
      (hiv : iv.length = aesBlockSize)
      (hciphertext : ciphertext.length = (Padding.pad 0x00 0x80 aesBlockSize data).length)
      (h : MacCase s command header ciphertext r s' es) :
      FullCase s command header data r s' (s.ivEvent requestLabel (.ok iv) ::
        ⟨.cbc s.encryptionKey iv (Padding.pad 0x00 0x80 aesBlockSize data) true,.ok ciphertext⟩ :: es)

theorem MacCase.not_thrown {s s' : Session} {command : Byte} {header data : Bytes}
    {es : Trace Environment} (h : MacCase s command header data (.error .thrown) s' es) : False := by
  cases h with
  | turned h => cases h

theorem prepareFull_cases (o : Oracle Environment) (command : Byte) (header data : Bytes)
    (s : Session) :
    Ensures some o (prepareFull command header data) s (FullCase s command header data) := by
  refine checkReady_bind (fun _ _ _ h => .turned h) fun hopen => ?_
  refine ensures_get_bind ?_
  refine ensures_ite (fun hdata => ?_) fun hdata => ?_
  · exact (prepareMac_cases o command header [] s).mono fun _ _ _ h => .bare hopen hdata h
  refine Op.ensures_catchAll (Op.ensures_ofResult_bind (fun e he => ?_) fun padded hpadded => ?_)
  · unfold padMethod2 at he
    split at he <;> cases he
    exact .oversized hopen
  obtain ⟨hpad,rfl⟩ : ¬sizeMax - aesBlockSize < data.length ∧
      Padding.pad 0x00 0x80 aesBlockSize data = padded := by
    unfold padMethod2 at hpadded
    split at hpadded <;> cases hpadded
    exact ⟨‹_›,rfl⟩
  refine ensures_bind (Op.cbc_cases _ _ _ _ _ _ _) ?_ ?_
  · rintro _ _ _ (⟨reply,e,hreply⟩ | _)
    · refine .failed hopen hdata e reply [] (by simp) fun he => ?_
      obtain rfl := Op.sized_rejected hreply he
      exact ⟨_,List.mem_cons_self,_,_,_,_,rfl⟩
    · exact .failed hopen hdata _ _ [] (by simp) (by simp)
  rintro iv _ _ (_ | _ | ⟨_,hiv⟩)
  refine ensures_bind (Op.cbc_cases _ _ _ _ _ _ _) ?_ ?_
  · rintro _ _ _ (⟨reply,e,hreply⟩ | _)
    · refine .failed hopen hdata e (.ok iv) _ (by simp) fun he => ?_
      obtain rfl := Op.sized_rejected hreply he
      exact ⟨_,List.mem_cons_of_mem _ List.mem_cons_self,_,_,_,_,rfl⟩
    · exact .failed hopen hdata _ (.ok iv) _ (by simp) (by simp)
  rintro ciphertext _ _ (_ | _ | ⟨_,hciphertext⟩)
  refine (prepareMac_cases o command header ciphertext s).mono ?_
  rintro ((e | _) | _) s' es h
  · exact .enciphered hopen hdata hpad iv ciphertext hiv hciphertext h
  · exact h.not_thrown.elim
  · exact .enciphered hopen hdata hpad iv ciphertext hiv hciphertext h

/-- The data of a protected response and the MAC behind it. -/
def dataOf (response : Native.Raw.Response) : Bytes :=
  response.data.take (response.data.length - transmittedMacSize)

def macOf (response : Native.Raw.Response) : Bytes :=
  response.data.drop (response.data.length - transmittedMacSize)

def responseMacEvent (s : Session) (response : Native.Raw.Response) (reply : Except Fault Bytes) :
    Event Environment :=
  ⟨.cmac s.macKey (s.macInput response.status (dataOf response)),reply⟩

inductive VerifyCase (s : Session) (response : Native.Raw.Response) :
    Except Fault Bytes → Session → Trace Environment → Prop
  | misused (h : s.phase ≠ .awaitingResponse) : VerifyCase s response (.error (.error
      ⟨.sessionInvalid,"EV2 secure session is not awaiting a response",.notSent,0⟩)) s []
  | refused (h : s.phase = .awaitingResponse) (e : Error) (he : e.outcome ≠ .notSent)
      (hstatus : response.status = 0x00 → e.outcome = .unknown) (es : Trace Environment)
      (hes : ∀ event ∈ es, ∃ reply, event = s.responseMacEvent response reply) :
      VerifyCase s response (.error (.error e)) s.invalidate es
  | verified (h : s.phase = .awaitingResponse) (hstatus : response.status = 0x00)
      (hlong : transmittedMacSize ≤ response.data.length) (mac : Bytes)
      (hmac : mac.length = aesBlockSize) (heq : macOf response = oddBytes mac) :
      VerifyCase s response (.ok (dataOf response)) s.resume [s.responseMacEvent response (.ok mac)]

theorem verifyResponse_cases (o : Oracle Environment) (response : Native.Raw.Response)
    (s : Session) : Ensures some o (verifyResponse response) s (VerifyCase s response) := by
  refine ensures_get_bind ?_
  refine Op.ensures_refuse_bind (fun h => .misused h) fun hphase => ?_
  have hphase := Decidable.not_not.mp hphase
  refine Op.ensures_refuseAfter_bind
    (fun h => .refused hphase _ (by simp) (fun _ => rfl) [] (by simp)) fun _ => ?_
  refine Op.ensures_refuseAfter_bind
    (fun h => .refused hphase _ (by simp) (fun h' => absurd h' h) [] (by simp)) fun hstatus => ?_
  have hstatus := Decidable.not_not.mp hstatus
  refine Op.ensures_refuseAfter_bind
    (fun h => .refused hphase _ (by simp) (fun _ => rfl) [] (by simp)) fun hlong => ?_
  refine Op.ensures_catchAll ?_
  refine ensures_bind (Op.PrimitiveCase.change Error.asUnknown (Op.cmac_cases _ _ _ _ _)) ?_ ?_
  · rintro _ _ _ (⟨reply,e,_⟩ | _)
    · exact .refused hphase _ (by simp [Error.asUnknown]) (fun _ => rfl) _ (by simp [responseMacEvent,dataOf])
    · exact .refused hphase _ (by simp) (fun _ => rfl) _ (by simp [responseMacEvent,dataOf])
  rintro mac _ _ (_ | _ | ⟨_,hmac⟩)
  refine ensures_bind_known (a := oddBytes mac) (t := s) ?_ ?_
  · refine Op.ensures_onError (Op.ensures_ofResult ?_)
    rw [truncateMac_eq hmac]
    exact ⟨rfl,rfl,rfl⟩
  refine Op.ensures_refuseAfter_bind (fun _ => ?_) fun hequal => ?_
  · exact .refused hphase _ (by simp) (fun _ => rfl) _ (by simp [responseMacEvent,dataOf])
  refine ensures_modify_bind ?_
  refine ensures_pure (.verified hphase hstatus (Nat.le_of_not_lt hlong) mac hmac ?_)
  simpa [constantTimeEqual_eq,macOf] using hequal

inductive DecryptCase (s : Session) (response : Native.Raw.Response) (expectedSize : Option Nat) :
    Except Fault Bytes → Session → Trace Environment → Prop
  | unverified {f s' es} (h : VerifyCase s response (.error f) s' es) :
      DecryptCase s response expectedSize (.error f) s' es
  | empty {s' es} (h : VerifyCase s response (.ok []) s' es)
      (hsize : expectedSize = none ∨ expectedSize = some 0) :
      DecryptCase s response expectedSize (.ok []) s' es
  | refused {ciphertext s' es} (h : VerifyCase s response (.ok ciphertext) s' es) (e : Error)
      (he : e.outcome = .unknown) (es' : Trace Environment) (hes : Cryptographic es')
      (hiv : es' = [] ∨ ∃ reply rest, es' = s'.ivEvent responseLabel reply :: rest) :
      DecryptCase s response expectedSize (.error (.error e)) s'.invalidate (es ++ es')
  | decrypted {ciphertext s' es} (h : VerifyCase s response (.ok ciphertext) s' es)
      (hblocks : ciphertext ≠ [] ∧ ciphertext.length % aesBlockSize = 0) (iv padded clear : Bytes)
      (hiv : iv.length = aesBlockSize) (hpadded : padded.length = ciphertext.length)
      (hclear : Padding.unpad 0x00 0x80 aesBlockSize padded = some clear)
      (hsize : ∀ size ∈ expectedSize, clear.length = size) :
      DecryptCase s response expectedSize (.ok clear) s' (es ++ [s'.ivEvent responseLabel (.ok iv),
        ⟨.cbc s'.encryptionKey iv ciphertext false,.ok padded⟩])

theorem verifyAndDecryptFullResponse_cases (o : Oracle Environment)
    (response : Native.Raw.Response) (expectedSize : Option Nat) (s : Session) :
    Ensures some o (verifyAndDecryptFullResponse response expectedSize) s
      (DecryptCase s response expectedSize) := by
  refine ensures_bind (verifyResponse_cases o response s) (fun _ _ _ h => .unverified h) ?_
  intro ciphertext s' es h
  refine ensures_get_bind ?_
  refine ensures_ite (fun hempty => ?_) fun hempty => ?_
  · obtain ⟨rfl,hsize⟩ := hempty
    refine ensures_pure ?_
    rw [List.append_nil]
    exact .empty h hsize
  refine Op.ensures_refuseAfter_bind (fun _ => .refused h _ rfl [] (by simp) (.inl rfl)) fun hblocks => ?_
  refine Op.ensures_catchAll ?_
  refine ensures_bind (Op.PrimitiveCase.change Error.asUnknown (Op.cbc_cases _ _ _ _ _ _ _)) ?_ ?_
  · rintro _ _ _ (⟨reply,e,_⟩ | _) <;> exact .refused h _ rfl _ (by simp) (.inr ⟨_,_,rfl⟩)
  rintro iv _ _ (_ | _ | ⟨_,hiv⟩)
  refine ensures_bind (Op.PrimitiveCase.change Error.asUnknown (Op.cbc_cases _ _ _ _ _ _ _)) ?_ ?_
  · rintro _ _ _ (⟨reply,e,_⟩ | _) <;> exact .refused h _ rfl _ (by simp) (.inr ⟨_,_,rfl⟩)
  rintro padded _ _ (_ | _ | ⟨_,hpadded⟩)
  cases hclear : Padding.unpad 0x00 0x80 aesBlockSize padded with
  | none =>
    refine ensures_modify_bind ?_
    exact Op.ensures_reject (.refused h _ rfl _ (by simp) (.inr ⟨_,_,rfl⟩))
  | some clear =>
    refine Op.ensures_refuseAfter_bind (fun _ => .refused h _ rfl _ (by simp) (.inr ⟨_,_,rfl⟩)) fun hsize => ?_
    refine ensures_pure (.decrypted h ?_ iv padded clear hiv hpadded hclear ?_)
    · simpa using hblocks
    · intro size hmem
      exact Decidable.byContradiction fun hne => hsize ⟨size,hmem,hne⟩

theorem Turned.cryptographic {α : Type} {s s' : Session} {r : Except Fault α} {es : Trace Environment}
    (h : Turned s r s' es) : Cryptographic es := by
  cases h <;> simp

theorem PlainCase.cryptographic {s s' : Session} {header data : Bytes} {r : Except Fault Bytes}
    {es : Trace Environment} (h : PlainCase s header data r s' es) : Cryptographic es := by
  cases h with
  | turned h => exact h.cryptographic
  | oversized | prepared => simp

theorem AcceptCase.cryptographic {s s' : Session} {response : Native.Raw.Response}
    {r : Except Fault Bytes} {es : Trace Environment} (h : AcceptCase s response r s' es) :
    Cryptographic es := by
  cases h <;> simp

theorem MacCase.cryptographic {s s' : Session} {command : Byte} {header data : Bytes}
    {r : Except Fault Bytes} {es : Trace Environment} (h : MacCase s command header data r s' es) :
    Cryptographic es := by
  cases h with
  | turned h => exact h.cryptographic
  | oversized | failed | prepared => simp

theorem FullCase.cryptographic {s s' : Session} {command : Byte} {header data : Bytes}
    {r : Except Fault Bytes} {es : Trace Environment} (h : FullCase s command header data r s' es) :
    Cryptographic es := by
  cases h with
  | turned h => exact h.cryptographic
  | bare _ _ h => exact h.cryptographic
  | oversized => simp
  | failed _ _ _ _ _ hes => simpa [ivEvent] using hes
  | enciphered _ _ _ _ _ _ _ h => simpa [ivEvent] using h.cryptographic

theorem VerifyCase.cryptographic {s s' : Session} {response : Native.Raw.Response}
    {r : Except Fault Bytes} {es : Trace Environment} (h : VerifyCase s response r s' es) :
    Cryptographic es := by
  cases h with
  | misused => simp
  | refused _ _ _ _ es hes =>
    intro event hevent
    obtain ⟨reply,rfl⟩ := hes event hevent
    exact trivial
  | verified => simp [responseMacEvent]

theorem DecryptCase.cryptographic {s s' : Session} {response : Native.Raw.Response}
    {expectedSize : Option Nat} {r : Except Fault Bytes} {es : Trace Environment}
    (h : DecryptCase s response expectedSize r s' es) : Cryptographic es := by
  cases h with
  | unverified h | empty h => exact h.cryptographic
  | refused h _ _ _ hes => exact cryptographic_append.mpr ⟨h.cryptographic,hes⟩
  | decrypted h => simpa [ivEvent] using h.cryptographic

end Session
end DesfireSdk.Security.Ev2
