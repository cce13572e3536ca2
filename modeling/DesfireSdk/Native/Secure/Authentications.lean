import DesfireSdk.Native.Secure.Logins
import DesfireSdk.Native.Secure.Services
import DesfireSdk.Security.Ev2.Authentication
import DesfireSdk.Security.StandardAes.Authentication

/-! Host and card end every login with the same session. -/
namespace DesfireSdk.Native.Secure
open Interaction Program Security

/-- A session key as a card derives it from both nonces. -/
def ev2SessionKey (P : Primitives) (label key host nonce : Bytes) : Bytes :=
  P.mac key (label ++ cardSessionVector host nonce)

def encryptionLabel : Bytes := [0xA5,0x5A,0x00,0x01,0x00,0x80]
def macLabel : Bytes := [0x5A,0xA5,0x00,0x01,0x00,0x80]

/-- The capabilities of the host in the first frame of First, behind their number. -/
def statedCapabilities (payload : Bytes) : Bytes := (payload.drop 2).take (payload.getD 1 0).toNat

/-- First gives out a transaction identifier and starts the counter. -/
def Login.ev2First (P : Primitives) (identifiers : Nat → Bytes) (capabilities : Bytes) : Login Peer where
  proofIv _ := zeros 16
  answerIv _ := zeros 16
  terminal _ number payload host := padded 4 (identifiers number) ++ host.rotate 1 ++
    padded 6 capabilities ++ padded 6 (statedCapabilities payload)
  session _ number key host nonce :=
    some (.ev2 ⟨ev2SessionKey P encryptionLabel key host nonce,ev2SessionKey P macLabel key host nonce,
      padded 4 (identifiers number),0⟩)

/-- NonFirst keeps identifier and counter of the session it renews. -/
def Login.ev2Nonfirst (P : Primitives) : Login Peer where
  proofIv _ := zeros 16
  answerIv _ := zeros 16
  terminal _ _ _ host := host.rotate 1
  session
    | some (.ev2 peer),_,key,host,nonce => some (.ev2 {peer with
      encryptionKey := ev2SessionKey P encryptionLabel key host nonce
      macKey := ev2SessionKey P macLabel key host nonce})
    | _,_,_,_,_ => none

/-- The proofs of Standard AES continue the chain of the frames before them. -/
def Login.standardAes : Login Peer where
  proofIv challenge := challenge
  answerIv proof := proof.drop 16
  terminal _ _ _ host := host.rotate 1
  session _ _ _ host nonce := some (.standardAes ⟨cardSessionKey host nonce,zeros 16⟩)

/-- The logins of a card by their first commands. -/
def nativeLogins (P : Primitives) (identifiers : Nat → Bytes) (capabilities : Bytes) (command : Byte) :
    Option (Login Peer) :=
  if command = 0xAA then some .standardAes
  else if command = 0x71 then some (.ev2First P identifiers capabilities)
  else if command = 0x77 then some (.ev2Nonfirst P)
  else none

theorem Login.ev2First_fits (P : Primitives) (identifiers : Nat → Bytes) (capabilities : Bytes) :
    (Login.ev2First P identifiers capabilities).Fits Ev2.firstProfile where
  block := show 16 ≤ 32 by decide
  blocks := show 32 % 16 = 0 from rfl
  sized _ _ _ host hhost := by
    simp only [ev2First,Ev2.firstProfile,List.length_append,length_padded,List.length_rotate,hhost]
  proofVector _ _ := ⟨rfl,length_zeros 16⟩
  terminalVector _ _ := ⟨rfl,length_zeros 16⟩

theorem Login.ev2Nonfirst_fits (P : Primitives) : (Login.ev2Nonfirst P).Fits Ev2.nonfirstProfile where
  block := Nat.le_refl 16
  blocks := show 16 % 16 = 0 from rfl
  sized _ _ _ host hhost := (List.length_rotate host 1).trans hhost
  proofVector _ _ := ⟨rfl,length_zeros 16⟩
  terminalVector _ _ := ⟨rfl,length_zeros 16⟩

theorem Login.standardAes_fits : Login.standardAes.Fits StandardAes.authenticationProfile where
  block := Nat.le_refl 16
  blocks := rfl
  sized _ _ _ host hhost := (List.length_rotate host 1).trans hhost
  proofVector _ hchallenge := ⟨rfl,hchallenge⟩
  terminalVector proof hproof := by
    refine ⟨?_,?_⟩
    · change proof.drop (proof.length - 16) = proof.drop 16
      rw [hproof]
    · change (proof.drop 16).length = 16
      rw [List.length_drop,hproof]

/-- Both keys and the transaction identifier of the host are those of the card. -/
structure Ev2Matched (material : Ev2.AuthenticationMaterial) (peer : Ev2.Peer) : Prop where
  encryptionKey : material.encryptionKey = peer.encryptionKey
  macKey : material.macKey = peer.macKey
  identifier : material.information.transactionIdentifier = peer.transactionIdentifier

/-- Material of the host that fits a session of the card with this counter. -/
structure Ev2Agreed (material : Ev2.AuthenticationMaterial) (counter : UInt16) (peer : Ev2.Peer) : Prop
    extends Ev2Matched material peer where
  counter : counter = peer.counter
  encryptionKeySize : peer.encryptionKey.length = Ev2.aesBlockSize
  macKeySize : peer.macKey.length = Ev2.aesBlockSize

/-- The session from such material is in step with the card. -/
theorem Ev2Agreed.inStep {material : Ev2.AuthenticationMaterial} {counter : UInt16} {peer : Ev2.Peer}
    (h : Ev2Agreed material counter peer) {n : Nat} (hroom : counter.toNat + n ≤ Ev2.counterMax.toNat) :
    ∃ session, Ev2.Session.create material counter = .ok session ∧ Ev2InStep n session peer ∧
      session.authentication = material.information := by
  obtain ⟨⟨hencryption,hmac,hidentifier⟩,hcounter,hencryptionSize,hmacSize⟩ := h
  rw [← hencryption] at hencryptionSize
  rw [← hmac] at hmacSize
  refine ⟨_,dif_pos ⟨hencryptionSize,hmacSize⟩,⟨rfl,⟨hencryption,hmac,hidentifier,hcounter⟩,hroom⟩,rfl⟩

section Authentication
variable {o : Oracle Environment} {P : Primitives} {ω τ κ : Type} {limits : TransportCapabilities}
  {framing : Framing}

theorem deriveMaterial_connected (hP : Computes o P) {card : Raw.Responder κ} {start k : κ}
    {key : Bytes} (hkey : key.length = 16) {host nonce : Bytes} (hhost : host.length = 16) (hnonce : nonce.length = 16)
    (information : Model.AuthenticationInfo) (s : τ) :
    Facing (card.observe framing) start o k
      (Op.mapError Error.asUnknown (Ev2.deriveMaterial key host nonce information)) s fun r s' k' =>
        r = .ok ⟨ev2SessionKey P encryptionLabel key host nonce,ev2SessionKey P macLabel key host nonce,
          information⟩ ∧ s' = s ∧ k' = k := by
  have hidle := Raw.Responder.observe_idle card framing
  have hderive (label : Bytes) : Facing (card.observe framing) start o k (Ev2.deriveKey key label host nonce) s
      fun r s' k' => r = .ok (ev2SessionKey P label key host nonce) ∧ s' = s ∧ k' = k := by
    unfold Ev2.deriveKey
    rw [← cardSessionVector_eq hhost hnonce]
    refine Facing.settle (Facing.quiet_bind hidle id fun h => ?_)
    rw [hP.mac h _ hkey]
    exact Facing.pure ⟨Op.sized_of_length (P.length_mac ..),rfl,rfl⟩
  refine Facing.settle (Facing.known_bind (hderive encryptionLabel) ?_)
  exact Facing.known_bind (hderive macLabel) (Facing.pure ⟨rfl,rfl,rfl⟩)

/-- What a card grants with First. -/
def granted (identifier capabilities echo : Bytes) : Model.AuthenticationInfo where
  transactionIdentifier := padded 4 identifier
  piccCapabilities := padded 6 capabilities
  pcdCapabilities := padded 6 echo
  transactionSize := length_padded 4 identifier
  piccSize := length_padded 6 capabilities
  pcdSize := length_padded 6 echo

theorem copyInto_left {size : Nat} {content rest : Bytes} (h : content.length = size) :
    copyInto size (content ++ rest) = content := by
  rw [copyInto,List.append_assoc,List.take_left' h]

/-- The host finds every field of the last answer of First. -/
theorem terminal_read (identifier capabilities echo : Bytes) {host : Bytes} (hhost : host.length = 16) :
    let terminal := padded 4 identifier ++ host.rotate 1 ++ padded 6 capabilities ++ padded 6 echo
    (terminal.drop 4).take 16 = host.rotate 1 ∧ (terminal.drop 26).take 6 = padded 6 echo ∧
      Ev2.terminalInformation terminal = granted identifier capabilities echo := by
  intro terminal
  have hrotated : (host.rotate 1).length = 16 := (List.length_rotate host 1).trans hhost
  have hterminal : terminal = padded 4 identifier ++ (host.rotate 1 ++ (padded 6 capabilities ++ padded 6 echo)) := by
    simp only [terminal,List.append_assoc]
  have hproof : terminal.drop 4 = host.rotate 1 ++ (padded 6 capabilities ++ padded 6 echo) := by
    rw [hterminal,List.drop_left' (length_padded 4 identifier)]
  have hpicc : terminal.drop 20 = padded 6 capabilities ++ padded 6 echo := by
    have hsplit : terminal.drop 20 = (terminal.drop 4).drop 16 := by rw [List.drop_drop]
    rw [hsplit,hproof,List.drop_left' hrotated]
  have hpcd : terminal.drop 26 = padded 6 echo := by
    have hsplit : terminal.drop 26 = (terminal.drop 20).drop 6 := by rw [List.drop_drop]
    rw [hsplit,hpicc,List.drop_left' (length_padded 6 capabilities)]
  refine ⟨?_,?_,?_⟩
  · rw [hproof,List.take_left' hrotated]
  · rw [hpcd,List.take_of_length_le (Nat.le_of_eq (length_padded 6 echo))]
  · have hidentifier : copyInto 4 terminal = padded 4 identifier := by
      rw [hterminal,copyInto_left (length_padded 4 identifier)]
    have hcapabilities : copyInto 6 (terminal.drop 20) = padded 6 capabilities := by
      rw [hpicc,copyInto_left (length_padded 6 capabilities)]
    have hecho : copyInto 6 (terminal.drop 26) = padded 6 echo := by
      have hwhole : copyInto 6 (padded 6 echo ++ []) = padded 6 echo := copyInto_left (length_padded 6 echo)
      rw [hpcd]
      rwa [List.append_nil] at hwhole
    simp only [Ev2.terminalInformation,granted,hidentifier,hcapabilities,hecho]

/-- A card reads the capabilities of the host from the first frame. -/
theorem statedCapabilities_eq (keyNumber : Byte) {pcdCapabilities : Bytes} (h : pcdCapabilities.length ≤ 6) :
    statedCapabilities (keyNumber :: UInt8.ofNat pcdCapabilities.length :: pcdCapabilities) = pcdCapabilities := by
  have hnumber : (UInt8.ofNat pcdCapabilities.length).toNat = pcdCapabilities.length :=
    UInt8.toNat_ofNat_of_lt' (by change pcdCapabilities.length < 256; omega)
  change pcdCapabilities.take (UInt8.ofNat pcdCapabilities.length).toNat = pcdCapabilities
  rw [hnumber,List.take_length]

theorem not_false_of_equal {left right : Bytes} (h : left = right) : ¬constantTimeEqual left right = false := by
  simp [constantTimeEqual_eq,h]

variable {personalization : Personalization Peer} {app : Raw.Application (Chip Peer ω)}
  {start : CardState Peer ω} {keyNumber : Byte} {key : Bytes}

/-- EV2 First at an honest card with the same key ends with one session at both ends, unless it is interrupted. -/
theorem authenticateFirst_connected (hP : Computes o P) (hdraws : Draws o)
    (hcard : Raw.Connected o limits framing (personalization.card P app) start)
    (hroom : LoginRoom limits framing 32) {identifiers : Nat → Bytes} {capabilities : Bytes}
    (hlogin : personalization.logins 0x71 = some (.ev2First P identifiers capabilities))
    (hkey : personalization.keys keyNumber = key) (hsize : key.length = 16) (hselector : keyNumber ≤ 0x3F)
    {pcdCapabilities : Bytes} (hpcd : pcdCapabilities.length ≤ 6) (k : CardState Peer ω)
    {t : Raw.Transaction} (hcurrent : Raw.Transaction.Current o framing t) :
    Facing ((personalization.card P app).observe framing) start o k
      (Ev2.authenticateFirst keyNumber key pcdCapabilities Raw.Transaction.exchangeFrame) t
      (Unless Interrupts (Kept k) fun r _ k' => ∃ material, r = .ok material ∧ ∃ peer, Ev2Agreed material 0 peer ∧
        material.information = granted (identifiers k.drawn) capabilities pcdCapabilities ∧
        k' = ⟨k.drawn + 1,.serving (.idle ⟨some (.ev2 peer),k.stage.chip.contents⟩)⟩) := by
  unfold Ev2.authenticateFirst
  refine Facing.refuse_bind ?_ (unless_catchAll ?_ fun _ _ _ h => ⟨_,h.choose_spec.1⟩)
  · intro hbad
    rcases hbad with hbad | hbad | hbad
    · exact hbad hsize
    · exact absurd hbad (UInt8.not_lt.mpr hselector)
    · exact absurd hbad (Nat.not_lt.mpr hpcd)
  have hnonces := exchangeNonces_connected hP hdraws hcard (Login.ev2First_fits P identifiers capabilities) hroom
    hlogin (keyNumber :: UInt8.ofNat pcdCapabilities.length :: pcdCapabilities) key
    (by simp only [List.length_cons]; omega) hkey hsize k hcurrent
  refine Facing.unless_bind hnonces (fun _ h => h) ?_
  rintro _ t' k' ⟨host,hhost,rfl,rfl⟩
  have hstated := statedCapabilities_eq keyNumber hpcd
  obtain ⟨hproof,hecho,hinformation⟩ := terminal_read (identifiers k.drawn) capabilities pcdCapabilities hhost
  have hlast : (Login.ev2First P identifiers capabilities).terminal k.stage.chip.peer k.drawn
      (keyNumber :: UInt8.ofNat pcdCapabilities.length :: pcdCapabilities) host =
      padded 4 (identifiers k.drawn) ++ host.rotate 1 ++ padded 6 capabilities ++ padded 6 pcdCapabilities := by
    simp only [Login.ev2First,hstated]
  rw [hlast]
  refine Facing.refuse_bind (not_false_of_equal (hproof.trans (rotateLeft_eq hhost).symm)) ?_
  refine Facing.refuse_bind (not_false_of_equal (hecho.trans (copyInto_eq 6 pcdCapabilities).symm)) ?_
  rw [hinformation]
  refine (deriveMaterial_connected hP hsize hhost (personalization.length_nonce _) _ t').mono fun r t k' h => .inl ?_
  obtain ⟨rfl,rfl,rfl⟩ := h
  exact ⟨_,rfl,⟨_,_,padded 4 (identifiers k.drawn),0⟩,
    ⟨⟨rfl,rfl,rfl⟩,rfl,P.length_mac ..,P.length_mac ..⟩,rfl,rfl⟩

/-- EV2 NonFirst renews the keys of a session at both ends and keeps its identifier and counter, unless it is
interrupted. -/
theorem authenticateNonfirst_connected (hP : Computes o P) (hdraws : Draws o)
    (hcard : Raw.Connected o limits framing (personalization.card P app) start)
    (hroom : LoginRoom limits framing 16) (hlogin : personalization.logins 0x77 = some (.ev2Nonfirst P))
    (hkey : personalization.keys keyNumber = key) (hsize : key.length = 16) (hselector : keyNumber ≤ 0x3F)
    (k : CardState Peer ω) {peer : Ev2.Peer} (hpeer : k.stage.chip.peer = some (.ev2 peer))
    {previous : Model.AuthenticationInfo} (hprevious : previous.transactionIdentifier = peer.transactionIdentifier)
    {t : Raw.Transaction} (hcurrent : Raw.Transaction.Current o framing t) :
    Facing ((personalization.card P app).observe framing) start o k
      (Ev2.authenticateNonfirst keyNumber key previous Raw.Transaction.exchangeFrame) t
      (Unless Interrupts (Kept k) fun r _ k' => ∃ material, r = .ok material ∧ ∃ peer',
        Ev2Agreed material peer.counter peer' ∧ material.information = previous ∧
        k' = ⟨k.drawn + 1,.serving (.idle ⟨some (.ev2 peer'),k.stage.chip.contents⟩)⟩) := by
  unfold Ev2.authenticateNonfirst
  refine Facing.refuse_bind ?_ (unless_catchAll ?_ fun _ _ _ h => ⟨_,h.choose_spec.1⟩)
  · intro hbad
    rcases hbad with hbad | hbad
    · exact hbad hsize
    · exact absurd hbad (UInt8.not_lt.mpr hselector)
  have hnonces := exchangeNonces_connected hP hdraws hcard (Login.ev2Nonfirst_fits P) hroom hlogin
    [keyNumber] key (by simp) hkey hsize k hcurrent
  refine Facing.unless_bind hnonces (fun _ h => h) ?_
  rintro _ t' k' ⟨host,hhost,rfl,rfl⟩
  refine Facing.refuse_bind (not_false_of_equal (rotateLeft_eq hhost).symm) ?_
  refine (deriveMaterial_connected hP hsize hhost (personalization.length_nonce _) _ t').mono fun r t k' h => .inl ?_
  obtain ⟨rfl,rfl,rfl⟩ := h
  rw [hpeer]
  exact ⟨_,rfl,{peer with encryptionKey := _,macKey := _},
    ⟨⟨rfl,rfl,hprevious⟩,rfl,P.length_mac ..,P.length_mac ..⟩,rfl,rfl⟩

/-- Standard AES at an honest card with the same key ends with one session at both ends, unless it is
interrupted. -/
theorem authenticate_connected (hP : Computes o P) (hdraws : Draws o)
    (hcard : Raw.Connected o limits framing (personalization.card P app) start)
    (hroom : LoginRoom limits framing 16) (hlogin : personalization.logins 0xAA = some .standardAes)
    (hkey : personalization.keys keyNumber = key) (hsize : key.length = 16) (hselector : keyNumber ≤ 0x3F)
    (k : CardState Peer ω) {t : Raw.Transaction} (hcurrent : Raw.Transaction.Current o framing t) :
    Facing ((personalization.card P app).observe framing) start o k
      (StandardAes.authenticate keyNumber key Raw.Transaction.exchangeFrame) t
      (Unless Interrupts (Kept k) fun r _ k' => ∃ material, r = .ok material ∧ ∃ session peer,
        StandardAes.Session.create material = .ok session ∧ StandardAesInStep session peer ∧
        material.sessionKey = peer.sessionKey ∧
        k' = ⟨k.drawn + 1,.serving (.idle ⟨some (.standardAes peer),k.stage.chip.contents⟩)⟩) := by
  unfold StandardAes.authenticate
  refine Facing.refuse_bind ?_ (unless_catchAll ?_ fun _ _ _ h => ⟨_,h.choose_spec.1⟩)
  · intro hbad
    rcases hbad with hbad | hbad
    · exact hbad hsize
    · exact absurd hbad (UInt8.not_lt.mpr hselector)
  have hnonces := exchangeNonces_connected hP hdraws hcard Login.standardAes_fits hroom hlogin
    [keyNumber] key (by simp) hkey hsize k hcurrent
  refine Facing.unless_bind hnonces (fun _ h => h) ?_
  rintro _ t' k' ⟨host,hhost,rfl,rfl⟩
  have hnonce := personalization.length_nonce k.drawn
  refine Facing.refuse_bind (not_false_of_equal (rotateLeft_eq hhost).symm) (Facing.pure (.inl ?_))
  rw [← cardSessionKey_eq hhost hnonce]
  have hsession : (cardSessionKey host (personalization.nonces k.drawn)).length = StandardAes.aesBlockSize := by
    simp [cardSessionKey,StandardAes.aesBlockSize]
  exact ⟨_,rfl,_,_,dif_pos hsession,⟨rfl,⟨rfl,rfl⟩⟩,rfl,rfl⟩

end Authentication
end DesfireSdk.Native.Secure
