import DesfireSdk.Iso7816.Cards

/-! Host and card end an ISO login with the same session key, unless it is interrupted. -/
namespace DesfireSdk.Iso7816
open Interaction Program

section Channel
variable {κ τ : Type} {o : Oracle Environment} {limits : TransportCapabilities} {card : Responder κ} {start k : κ}

namespace Raw

/-- The status word of an accepted command is read back. -/
theorem decode_accepted (data : Bytes) : decode (accepted data).bytes = .ok ⟨data,0x9000⟩ := by
  have hlength : (accepted data).bytes.length = data.length + 2 := by simp [Answer.bytes,accepted]
  have hdata : (accepted data).bytes.take data.length = data := by simp [Answer.bytes,accepted]
  have hfirst : (accepted data).bytes.getD data.length 0 = 0x90 := by simp [Answer.bytes,accepted]
  have hlast : (accepted data).bytes.getLastD 0 = 0x00 := by
    simp [Answer.bytes,accepted,List.getLastD_eq_getLast?]
  unfold decode
  rw [if_neg (by omega),hlength,Nat.add_sub_cancel,hdata,hfirst,hlast]
  rfl

/-- A command goes out unless the operation is interrupted. -/
theorem budget_next_connected {messages : BudgetMessages} {budget : Budget} {sent : Bool}
    (hgeneration : ∀ h, o h .generation = budget.generation) (s : τ) :
    Facing card.observe start o k (budget.next messages sent) s
      (Unless Interrupts (· = k) fun r s' k' => ∃ remaining : ExchangeOptions, r = .ok remaining ∧
        0 < remaining.timeout ∧ s' = s ∧ k' = k) := by
  have hidle := card.observe_idle
  refine Facing.quiet_bind hidle id fun h => Facing.refuse_bind (fun hchanged => hchanged (hgeneration h)) ?_
  refine Facing.quiet_bind hidle id fun h' => Facing.refuse_cases (fun _ => .halted (.inr rfl) rfl) fun _ => ?_
  refine Facing.quiet_bind hidle id fun h'' => Facing.refuse_cases (fun _ => .halted (.inl rfl) rfl) fun htime => ?_
  refine Facing.pure (.inl ⟨_,rfl,?_,rfl,rfl⟩)
  rw [not_or] at htime
  exact Int.sub_pos.mpr (Int.not_le.mp htime.2)

theorem start_connected (hcard : Connected o limits card start) (options : ExchangeOptions) (s : τ) :
    Facing card.observe start o k (Budget.start options) s fun r s' k' =>
      (∃ budget : Budget, r = .ok budget ∧ (∀ h, o h .generation = budget.generation)) ∧ s' = s ∧ k' = k := by
  have hidle := card.observe_idle
  refine Facing.quiet_bind hidle id fun h => Facing.quiet_bind hidle id fun h' => ?_
  exact Facing.pure ⟨⟨_,rfl,fun h' => hcard.generation h' h⟩,rfl,rfl⟩

theorem capabilities_connected (hcard : Connected o limits card start) (s : τ) :
    Facing card.observe start o k Op.capabilities s fun r s' k' => r = .ok limits ∧ s' = s ∧ k' = k := by
  refine Facing.quiet_bind card.observe_idle id fun h => ?_
  rw [hcard.capabilities h]
  exact Facing.pure ⟨rfl,rfl,rfl⟩

/-- A command that the card accepts in one answer. -/
theorem Channel.exchangeFrames_connected (hcard : Connected o limits card start) (hframing : limits.framing = .iso7816)
    {apdu : Apdu} {frame data : Bytes} (hframe : encode apdu = .ok frame) (hfits : frame.length ≤ limits.maxTransmit)
    (hanswer : (card k frame).1 = accepted data) (hreceive : data.length + 2 ≤ limits.maxReceive)
    {options : ExchangeOptions} (hpositive : 0 < options.timeout) {bounds : Limits} (hframes : bounds.maxFrames = 4)
    (hsome : 0 < bounds.maxResponse) (hdata : data.length ≤ bounds.maxResponse) :
    Facing card.observe start o k (exchangeFrames apdu options bounds) false
      (Unless Interrupts (fun _ => True) fun r _ k' => r = .ok ⟨data,0x9000⟩ ∧ k' = (card k frame).2) := by
  have hidle := card.observe_idle
  refine Facing.refuse_bind (by omega) (Facing.known_bind (capabilities_connected hcard _) ?_)
  refine Facing.refuse_bind (fun h => h hframing) (Facing.refuse_bind (by omega) ?_)
  rw [hframe]
  refine Facing.known_bind (a := frame) (t := false) (l := k) (fun _ _ => ⟨rfl,rfl,rfl⟩) ?_
  refine Facing.refuse_bind (by omega) (Facing.bind (start_connected hcard options _) ?_ ?_)
  · rintro _ _ _ ⟨⟨_,⟨⟩,_⟩,_⟩
  rintro budget _ _ ⟨⟨_,⟨⟩,hgeneration⟩,rfl,rfl⟩
  rw [hframes]
  refine Facing.unless_bind (budget_next_connected hgeneration _) (fun _ _ => trivial) ?_
  rintro remaining _ k' ⟨_,rfl,rfl⟩
  refine Facing.refuse_bind (by simpa using hfits) (Facing.modify_bind ?_)
  refine Facing.known_bind (a := (accepted data).bytes) (t := true) (l := (card k' frame).2) ?_ ?_
  · refine Facing.settle (Facing.settle (Facing.ask_bind fun h hh => ?_))
    have hobserved : ∀ handover, card.observe k' ⟨.exchange frame remaining,handover⟩ = (card k' frame).2 :=
      fun _ => rfl
    rw [hcard.answers h frame remaining,hh,hobserved,hanswer]
    exact Facing.pure ⟨rfl,rfl,rfl⟩
  refine Facing.quiet_bind hidle id fun h => Facing.refuse_bind (fun hchanged => hchanged (hgeneration h)) ?_
  have hlength : (accepted data).bytes.length = data.length + 2 := by simp [Answer.bytes,accepted]
  refine Facing.refuse_bind (by omega) ?_
  rw [decode_accepted]
  refine Facing.known_bind (a := ⟨data,0x9000⟩) (t := true) (l := (card k' frame).2) (fun _ _ => ⟨rfl,rfl,rfl⟩) ?_
  -- The status is neither a length rejection nor the announcement of more data.
  have hlengthRejection : ((0x9000 : UInt16) >>> 8).toUInt8 ≠ 0x6C := by decide
  have hannouncement : ((0x9000 : UInt16) >>> 8).toUInt8 ≠ 0x61 := by decide
  refine Facing.refuse_bind (fun h => hlengthRejection h.1) ?_
  rw [if_neg fun h => hlengthRejection h.1]
  refine Facing.refuse_bind ?_ ?_
  · change ¬sizeSub bounds.maxResponse 0 < data.length
    rw [sizeSub_of_le (Nat.zero_le _)]
    exact Nat.not_lt.mpr hdata
  dsimp only
  rw [if_pos hannouncement]
  exact Facing.pure (.inl ⟨rfl,rfl⟩)

theorem Channel.exchange_connected (hcard : Connected o limits card start) (hframing : limits.framing = .iso7816)
    {apdu : Apdu} {frame data : Bytes} (hframe : encode apdu = .ok frame) (hfits : frame.length ≤ limits.maxTransmit)
    (hanswer : (card k frame).1 = accepted data) (hreceive : data.length + 2 ≤ limits.maxReceive)
    {options : ExchangeOptions} (hpositive : 0 < options.timeout) {bounds : Limits} (hframes : bounds.maxFrames = 4)
    (hsome : 0 < bounds.maxResponse) (hdata : data.length ≤ bounds.maxResponse) (s : τ) :
    Facing card.observe start o k (Channel.exchange apdu options bounds) s
      (Unless Interrupts (fun _ => True) fun r s' k' =>
        r = .ok ⟨data,0x9000⟩ ∧ s' = s ∧ k' = (card k frame).2) := by
  refine Facing.quiet_bind card.observe_idle id fun h => ?_
  rw [hcard.free h]
  refine Facing.refuse_bind (by decide) (Facing.refuse_bind (by decide) (Facing.within ?_))
  refine (unless_recover (exchangeFrames_connected hcard hframing hframe hfits hanswer hreceive hpositive hframes hsome
    hdata) fun _ _ _ h => ⟨_,h.1⟩).mono fun r _ k' h => h.mono (fun _ h => h) ?_
  rintro ⟨hresult,hstate⟩
  exact ⟨hresult,rfl,hstate⟩

end Raw

/-- A checked command that the card accepts in one answer. -/
theorem Checked.Channel.exchange_connected (hcard : Connected o limits card start) (hframing : limits.framing = .iso7816)
    {command : Checked.Command} {frame data : Bytes} (hframe : Raw.encode command.apdu = .ok frame)
    (howns : ¬((command.isSelection ∨ command.isWrite ∨ command.instruction = 0x82 ∨ command.instruction = 0x88) ∧
      command.apdu.data = [])) (hfits : frame.length ≤ limits.maxTransmit) (hanswer : (card k frame).1 = accepted data)
    (hreceive : data.length + 2 ≤ limits.maxReceive) {options : ExchangeOptions} (hpositive : 0 < options.timeout)
    {n : Nat} (hsome : 0 < n) (hdata : data.length ≤ n) (s : τ) :
    Facing card.observe start o k (Checked.Channel.exchange command options ⟨n,4,false⟩) s
      (Unless Interrupts (fun _ => True) fun r s' k' =>
        r = .ok ⟨0x9000,data⟩ ∧ s' = s ∧ k' = (card k frame).2) := by
  refine Facing.refuse_bind howns ?_
  refine Facing.known_unless_bind (Raw.Channel.exchange_connected hcard hframing hframe hfits hanswer hreceive hpositive
    rfl hsome hdata s) (fun _ h => h) ?_
  exact Facing.pure (.inl ⟨rfl,rfl,rfl⟩)

end Channel

namespace Aes
open Raw (LengthEncoding)
open Security (cardSessionKey cardSessionKey_eq)

/-- The longest command of a login. -/
def commandSize (encoding : LengthEncoding) : Nat := if encoding = .extended then 39 else 37

/-- Login commands and their answers fit an APDU transport. -/
structure LoginRoom (limits : TransportCapabilities) (encoding : LengthEncoding) : Prop where
  framing : limits.framing = .iso7816
  transmit : commandSize encoding ≤ limits.maxTransmit
  receive : 34 ≤ limits.maxReceive

/-- The bytes of a login command, which a card reads back. -/
theorem encode_login (ins p1 p2 : Byte) (data : Bytes) (le : Option Nat) {encoding : LengthEncoding}
    (hknown : encoding.known = true) (hdata : data.length ≤ 32) (hshort : le ≠ none → data.length ≤ 16)
    (hle : ∀ l ∈ le, 0 < l ∧ l ≤ 256) : ∃ frame, Raw.encode ⟨0x00,ins,p1,p2,data,le,encoding⟩ = .ok frame ∧
      frame.length ≤ commandSize encoding ∧ Raw.parseCommand frame = some ⟨0x00,ins,p1,p2,data,le⟩ := by
  have hfits : Raw.Apdu.Fits ⟨0x00,ins,p1,p2,data,le,encoding⟩ 255 256 := ⟨Nat.le_trans hdata (by decide),hle⟩
  have hencode := Raw.encode_small hknown hfits
  refine ⟨_,hencode,?_,Raw.parseCommand_encode hencode⟩
  rw [List.length_append,Raw.Apdu.length_body]
  simp only [Raw.Apdu.header,List.length_cons,List.length_nil,commandSize]
  by_cases hnone : le = none
  · simp only [hnone,if_true]
    split <;> split <;> omega
  · have hsixteen := hshort hnone
    simp only [hnone,if_false]
    split <;> split <;> omega

theorem make_of_encode {ins p1 p2 : Byte} {data frame : Bytes} {le : Option Nat} {encoding : LengthEncoding}
    (h : Raw.encode ⟨0x00,ins,p1,p2,data,le,encoding⟩ = .ok frame) :
    Checked.Command.make ins p1 p2 data le encoding = .ok ⟨⟨0x00,ins,p1,p2,data,le,encoding⟩⟩ := by
  unfold Checked.Command.make
  simp only [h]
  rfl

section Login
variable {o : Oracle Environment} {P : Primitives} {limits : TransportCapabilities} {personalization : Personalization}
  {start k : CardState} {reference : Checked.KeyReference} {key : Bytes} {encoding : LengthEncoding}

theorem requireTransmittable_connected {κ : Type} {card : Responder κ} {start k : κ} (hcard : Connected o limits card start)
    {command : Checked.Command} {frame : Bytes} (hframe : Raw.encode command.apdu = .ok frame)
    (hfits : frame.length ≤ limits.maxTransmit) (s : Bool) :
    Facing card.observe start o k (requireTransmittable command) s fun r s' k' => r = .ok () ∧ s' = s ∧ k' = k := by
  unfold requireTransmittable
  rw [hframe]
  refine Facing.known_bind (a := frame) (t := s) (l := k) (fun _ _ => ⟨rfl,rfl,rfl⟩) ?_
  refine Facing.known_bind (Raw.capabilities_connected hcard s) ?_
  exact fun _ _ => by
    simp only [Op.refuse,refuse,if_neg (Nat.not_lt.mpr hfits)]
    exact ⟨rfl,rfl,rfl⟩

theorem random_connected {κ : Type} {card : Responder κ} {start k : κ}
    (hdraws : ∀ h, ∃ random : Bytes, o h (.random 32) = .ok random ∧ random.length = 32) (message : String) (s : Bool) :
    Facing card.observe start o k (Op.secretOutput message (Op.random 32) 32) s fun r s' k' =>
      (∃ random : Bytes, r = .ok random ∧ random.length = 32) ∧ s' = s ∧ k' = k := by
  refine Facing.settle (Facing.quiet_bind card.observe_idle id fun h => ?_)
  obtain ⟨random,hreply,hlength⟩ := hdraws h
  rw [hreply]
  exact Facing.pure ⟨⟨random,Op.sized_of_length hlength,hlength⟩,rfl,rfl⟩

/-- A later command and the check of its answer. -/
theorem phase_connected {κ : Type} {card : Responder κ} {start k : κ} (hcard : Connected o limits card start)
    (hroom : LoginRoom limits encoding) {command : Checked.Command} {frame data : Bytes}
    (hframe : Raw.encode command.apdu = .ok frame) (howns : command.apdu.data ≠ [])
    (hfits : frame.length ≤ commandSize encoding) (hanswer : (card k frame).1 = accepted data) {n : Nat}
    (hn : data.length = n) (hdata : n ≤ 32) {options : ExchangeOptions} (hpositive : 0 < options.timeout)
    (operation : String) (s : Bool) :
    Facing card.observe start o k (Op.mapError Error.afterDelivery do
      let response ← Checked.Channel.exchange command options ⟨32,4,false⟩
      Op.ofResult (requireSuccess response n operation)) s
      (Unless Interrupts (fun _ => True) fun r s' k' =>
        r = .ok ⟨0x9000,data⟩ ∧ s' = s ∧ k' = (card k frame).2) := by
  refine unless_mapError Error.afterDelivery_code ?_ fun _ _ _ h => ⟨_,h.1⟩
  refine Facing.known_unless_bind (Checked.Channel.exchange_connected hcard hroom.framing hframe (fun h => howns h.2)
    (Nat.le_trans hfits hroom.transmit) hanswer ?_ hpositive (by decide) (by omega) s) (fun _ h => h) ?_
  · have hreceive := hroom.receive
    omega
  have hsuccess : requireSuccess ⟨0x9000,data⟩ n operation = .ok ⟨0x9000,data⟩ := by
    simp [requireSuccess,Checked.Response.success,hn]
  rw [hsuccess]
  exact Facing.pure (.inl ⟨rfl,rfl,rfl⟩)

/-- A session of the host that fits the state of the card. -/
def Agreed (reference : Checked.KeyReference) (drawn : Nat) (session : Session) (k : CardState) : Prop :=
  session.reference = reference ∧ session.valid = true ∧ session.iv = zeros 16 ∧
    k = ⟨drawn,.authenticated reference.value session.key⟩

/-- The proof of the card, and the key of both. -/
theorem lastPhase_connected (hP : Computes o P) (hcard : Connected o limits (personalization.card P) start)
    (hroom : LoginRoom limits encoding) (hkey : personalization.keys reference.value = key) (hsize : key.length = 16)
    {hostRandom ciphertext frame : Bytes} (hrandom : hostRandom.length = 32) (hciphertext : ciphertext.length = 32)
    {internal : Checked.Command} (hframe : Raw.encode internal.apdu = .ok frame) (howns : internal.apdu.data ≠ [])
    (hfits : frame.length ≤ commandSize encoding)
    (hread : Raw.parseCommand frame = some ⟨0x00,0x88,0x09,reference.value,hostRandom.drop 16,some 32⟩)
    {budget : Raw.Budget} (hgeneration : ∀ h, o h .generation = budget.generation) {drawn : Nat} :
    Facing (personalization.card P).observe start o
      ⟨drawn,.convinced reference.value (hostRandom.take 16) (ciphertext.drop 16)⟩ (do
      let remaining ← budget.next authenticationMessages true
      let third ← Op.mapError Error.afterDelivery do
        let response ← Checked.Channel.exchange internal remaining ⟨32,4,false⟩
        Op.ofResult (requireSuccess response 32 "ISO INTERNAL AUTHENTICATE")
      let cardProof ← Op.mapError Error.afterDelivery
        (Op.secretOutput "ISO AES provider returned the wrong card proof length"
          (Op.cbc key (ciphertext.drop 16) third.data false) 32)
      Op.refuse (constantTimeEqual (hostRandom.drop 16) (cardProof.drop 16) = false)
        ⟨.authentication,"ISO card proof does not match the host challenge",.unknown,0⟩
      let _ ← budget.next authenticationMessages true
      pure ({
        reference
        key := (hostRandom.take 16).take 4 ++ cardProof.take 4 ++ ((hostRandom.take 16).drop 12).take 4 ++
          (cardProof.drop 12).take 4
        generation := budget.generation } : Session)) true
      (Unless Interrupts (fun _ => True) fun r _ k' => ∃ session, r = .ok session ∧
        Agreed reference (drawn + 1) session k') := by
  have hidle := (personalization.card P).observe_idle
  have hfirst : (hostRandom.take 16).length = 16 := by rw [List.length_take,hrandom]; rfl
  have hsecond : (hostRandom.drop 16).length = 16 := by rw [List.length_drop,hrandom]
  have hvector : (ciphertext.drop 16).length = 16 := by rw [List.length_drop,hciphertext]
  have hnonce := personalization.length_nonce drawn
  have hboth : (personalization.nonces drawn ++ hostRandom.drop 16).length = 32 := by
    rw [List.length_append,hnonce,hsecond]
  have hanswer : personalization.card P ⟨drawn,.convinced reference.value (hostRandom.take 16) (ciphertext.drop 16)⟩ frame =
      (accepted (P.encrypt key (ciphertext.drop 16) (personalization.nonces drawn ++ hostRandom.drop 16)),
        ⟨drawn + 1,.authenticated reference.value
          (cardSessionKey (hostRandom.take 16) (personalization.nonces drawn))⟩) := by
    simp only [Personalization.card,hread]
    exact Personalization.execute_internalAuthenticate P personalization drawn _ hkey hsecond
  have hlength : (P.encrypt key (ciphertext.drop 16) (personalization.nonces drawn ++ hostRandom.drop 16)).length = 32 :=
    (P.length_encrypt ..).trans hboth
  refine Facing.unless_bind (Raw.budget_next_connected hgeneration _) (fun _ _ => trivial) ?_
  rintro remaining _ _ ⟨hpositive,rfl,rfl⟩
  refine Facing.known_unless_bind (phase_connected hcard hroom hframe howns hfits (congrArg Prod.fst hanswer) hlength
    (Nat.le_refl 32) hpositive _ true) (fun _ h => h) ?_
  rw [hanswer]
  refine Facing.known_bind (hP.facing_decrypt hidle id hsize hvector (by rw [hlength]) hlength
    (P.decrypt_encrypt _ _ _ (by rw [hboth])) true) ?_
  have hlast : (personalization.nonces drawn ++ hostRandom.drop 16).drop 16 = hostRandom.drop 16 :=
    List.drop_left' hnonce
  refine Facing.refuse_bind (by simp [hlast,constantTimeEqual_eq]) ?_
  refine Facing.unless_bind (Raw.budget_next_connected hgeneration _) (fun _ _ => trivial) ?_
  rintro remaining' _ _ ⟨_,rfl,rfl⟩
  refine Facing.pure (.inl ⟨_,rfl,rfl,rfl,rfl,?_⟩)
  have hhead : (personalization.nonces drawn ++ hostRandom.drop 16).take 4 = (personalization.nonces drawn).take 4 :=
    List.take_append_of_le_length (by omega)
  have htail : ((personalization.nonces drawn ++ hostRandom.drop 16).drop 12).take 4 =
      ((personalization.nonces drawn).drop 12).take 4 := by
    rw [List.drop_append_of_le_length (by omega),List.take_append_of_le_length (by simp [hnonce])]
  simp only [cardSessionKey_eq hfirst hnonce,hhead,htail]

/-- The proof of the host, and what follows it. -/
theorem laterPhases_connected (hP : Computes o P) (hcard : Connected o limits (personalization.card P) start)
    (hroom : LoginRoom limits encoding) (hkey : personalization.keys reference.value = key) (hsize : key.length = 16)
    (hknown : encoding.known = true) {hostRandom nonce frame : Bytes} (hrandom : hostRandom.length = 32)
    (hnonce : nonce.length = 16) {internal : Checked.Command} (hframe : Raw.encode internal.apdu = .ok frame)
    (howns : internal.apdu.data ≠ []) (hfits : frame.length ≤ commandSize encoding)
    (hread : Raw.parseCommand frame = some ⟨0x00,0x88,0x09,reference.value,hostRandom.drop 16,some 32⟩)
    {budget : Raw.Budget} (hgeneration : ∀ h, o h .generation = budget.generation) {drawn : Nat} :
    Facing (personalization.card P).observe start o ⟨drawn,.challenged nonce⟩ (do
      let ciphertext ← Op.mapError Error.afterDelivery
        (Op.secretOutput "ISO AES provider returned the wrong proof length"
          (Op.cbc key (zeros 16) (hostRandom.take 16 ++ nonce) true) 32)
      let external ← Op.value
        (Checked.Command.externalAuthenticate .aes128 reference ciphertext encoding)
      let remaining ← budget.next authenticationMessages true
      let _ ← Op.mapError Error.afterDelivery do
        let response ← Checked.Channel.exchange external remaining ⟨32,4,false⟩
        Op.ofResult (requireSuccess response 0 "ISO EXTERNAL AUTHENTICATE")
      let remaining ← budget.next authenticationMessages true
      let third ← Op.mapError Error.afterDelivery do
        let response ← Checked.Channel.exchange internal remaining ⟨32,4,false⟩
        Op.ofResult (requireSuccess response 32 "ISO INTERNAL AUTHENTICATE")
      let cardProof ← Op.mapError Error.afterDelivery
        (Op.secretOutput "ISO AES provider returned the wrong card proof length"
          (Op.cbc key (ciphertext.drop 16) third.data false) 32)
      Op.refuse (constantTimeEqual (hostRandom.drop 16) (cardProof.drop 16) = false)
        ⟨.authentication,"ISO card proof does not match the host challenge",.unknown,0⟩
      let _ ← budget.next authenticationMessages true
      pure ({
        reference
        key := (hostRandom.take 16).take 4 ++ cardProof.take 4 ++ ((hostRandom.take 16).drop 12).take 4 ++
          (cardProof.drop 12).take 4
        generation := budget.generation } : Session)) true
      (Unless Interrupts (fun _ => True) fun r _ k' => ∃ session, r = .ok session ∧
        Agreed reference (drawn + 1) session k') := by
  have hidle := (personalization.card P).observe_idle
  have hfirst : (hostRandom.take 16).length = 16 := by rw [List.length_take,hrandom]; rfl
  have hboth : (hostRandom.take 16 ++ nonce).length = 32 := by rw [List.length_append,hfirst,hnonce]
  refine Facing.known_bind (hP.facing_encrypt hidle id hsize (length_zeros 16) (by rw [hboth]) hboth true) ?_
  generalize hproof : P.encrypt key (zeros 16) (hostRandom.take 16 ++ nonce) = ciphertext
  have hlength : ciphertext.length = 32 := by rw [← hproof,P.length_encrypt,hboth]
  obtain ⟨external,hencode,hlong,hparse⟩ := encode_login 0x82 0x09 reference.value ciphertext none hknown
    (Nat.le_of_eq hlength) (fun h => absurd rfl h) (by simp)
  have hmade : Checked.Command.externalAuthenticate .aes128 reference ciphertext encoding =
      .ok ⟨⟨0x00,0x82,0x09,reference.value,ciphertext,none,encoding⟩⟩ := by
    unfold Checked.Command.externalAuthenticate
    rw [if_neg (by simp [hlength,Checked.validAlgorithmLength])]
    exact make_of_encode hencode
  rw [hmade]
  refine Facing.known_bind (a := ⟨⟨0x00,0x82,0x09,reference.value,ciphertext,none,encoding⟩⟩) (t := true)
    (fun _ _ => ⟨rfl,rfl,rfl⟩) ?_
  have hanswer : personalization.card P ⟨drawn,.challenged nonce⟩ external =
      (accepted [],⟨drawn,.convinced reference.value (hostRandom.take 16) (ciphertext.drop 16)⟩) := by
    simp only [Personalization.card,hparse]
    exact Personalization.execute_externalAuthenticate P personalization drawn _ hkey hfirst hnonce hproof
  refine Facing.unless_bind (Raw.budget_next_connected hgeneration _) (fun _ _ => trivial) ?_
  rintro remaining _ _ ⟨hpositive,rfl,rfl⟩
  have hsome : ciphertext ≠ [] := List.length_pos_iff.mp (by omega)
  refine Facing.known_unless_bind (phase_connected hcard hroom hencode hsome hlong (congrArg Prod.fst hanswer) rfl
    (Nat.zero_le 32) hpositive _ true) (fun _ h => h) ?_
  rw [hanswer]
  exact lastPhase_connected hP hcard hroom hkey hsize hrandom hlength hframe howns hfits hread hgeneration

/-- Host and card end a login with the same session key, unless it is interrupted. -/
theorem prove_connected (hP : Computes o P)
    (hdraws : ∀ h, ∃ random : Bytes, o h (.random 32) = .ok random ∧ random.length = 32)
    (hcard : Connected o limits (personalization.card P) start) (hroom : LoginRoom limits encoding)
    (hkey : personalization.keys reference.value = key) (hsize : key.length = 16) (hknown : encoding.known = true)
    {options : ExchangeOptions} (hpositive : 0 < options.timeout) (k : CardState) :
    Facing (personalization.card P).observe start o k (prove reference key options encoding) false
      (Unless Interrupts (fun _ => True) fun r _ k' => ∃ session, r = .ok session ∧
        Agreed reference (k.drawn + 2) session k') := by
  have hidle := (personalization.card P).observe_idle
  have hbad : ¬(key.length ≠ 16 ∨ options.timeout ≤ 0 ∨ encoding.known = false) := by
    rintro (hbad | hbad | hbad)
    · exact hbad hsize
    · exact absurd hpositive (Int.not_lt.mpr hbad)
    · rw [hknown] at hbad
      cases hbad
  refine Facing.refuse_bind hbad (Facing.known_bind (Raw.capabilities_connected hcard _) ?_)
  refine Facing.refuse_bind (fun h => h hroom.framing) (Facing.bind (Raw.start_connected hcard options _) ?_ ?_)
  · rintro _ _ _ ⟨⟨_,⟨⟩,_⟩,_⟩
  rintro budget _ _ ⟨⟨_,⟨⟩,hgeneration⟩,rfl,rfl⟩
  refine Facing.unless_bind (Raw.budget_next_connected hgeneration _) (fun _ _ => trivial) ?_
  rintro _ _ k ⟨_,rfl,rfl⟩
  refine Facing.bind (random_connected hdraws _ _) ?_ ?_
  · rintro _ _ _ ⟨⟨_,⟨⟩,_⟩,_⟩
  rintro hostRandom _ _ ⟨⟨_,⟨⟩,hrandom⟩,rfl,rfl⟩
  have hsecond : (hostRandom.drop 16).length = 16 := by rw [List.length_drop,hrandom]
  obtain ⟨frame,hencode,hlong,hread⟩ := encode_login 0x84 0x00 0x00 [] (some 16) hknown (by decide) (by decide) (by simp)
  obtain ⟨frame',hencode',hlong',hread'⟩ := encode_login 0x88 0x09 reference.value (hostRandom.drop 16) (some 32) hknown
    (by omega) (fun _ => Nat.le_of_eq hsecond) (by simp)
  obtain ⟨frame'',hencode'',hlong'',_⟩ := encode_login 0x82 0x09 reference.value (zeros 32) none hknown
    (Nat.le_of_eq (length_zeros 32)) (fun h => absurd rfl h) (by simp)
  have hmade : Checked.Command.getChallenge 16 encoding = .ok ⟨⟨0x00,0x84,0x00,0x00,[],some 16,encoding⟩⟩ :=
    make_of_encode hencode
  have hmade' : Checked.Command.internalAuthenticate .aes128 reference (hostRandom.drop 16) encoding =
      .ok ⟨⟨0x00,0x88,0x09,reference.value,hostRandom.drop 16,some 32,encoding⟩⟩ := by
    unfold Checked.Command.internalAuthenticate
    rw [if_neg (by simp [hsecond,Checked.validAlgorithmLength]),hsecond]
    exact make_of_encode hencode'
  have hmade'' : Checked.Command.externalAuthenticate .aes128 reference (zeros 32) encoding =
      .ok ⟨⟨0x00,0x82,0x09,reference.value,zeros 32,none,encoding⟩⟩ := by
    unfold Checked.Command.externalAuthenticate
    rw [if_neg (by simp [Checked.validAlgorithmLength])]
    exact make_of_encode hencode''
  dsimp only
  rw [hmade,hmade',hmade'']
  refine Facing.known_bind (a := ⟨⟨0x00,0x84,0x00,0x00,[],some 16,encoding⟩⟩) (fun _ _ => ⟨rfl,rfl,rfl⟩) ?_
  refine Facing.known_bind (a := ⟨⟨0x00,0x88,0x09,reference.value,hostRandom.drop 16,some 32,encoding⟩⟩)
    (fun _ _ => ⟨rfl,rfl,rfl⟩) ?_
  refine Facing.known_bind (a := ⟨⟨0x00,0x82,0x09,reference.value,zeros 32,none,encoding⟩⟩)
    (fun _ _ => ⟨rfl,rfl,rfl⟩) ?_
  have htransmit := hroom.transmit
  refine Facing.known_bind (requireTransmittable_connected hcard hencode (by omega) _) ?_
  refine Facing.known_bind (requireTransmittable_connected hcard hencode' (by omega) _) ?_
  refine Facing.known_bind (requireTransmittable_connected hcard hencode'' (by omega) _) ?_
  refine Facing.unless_bind (Raw.budget_next_connected hgeneration _) (fun _ _ => trivial) ?_
  rintro remaining _ k ⟨hremaining,rfl,rfl⟩
  refine Facing.modify_bind ?_
  -- the challenge of the card
  have hnonce := personalization.length_nonce k.drawn
  have hanswer : personalization.card P k frame = (accepted (personalization.nonces k.drawn),
      ⟨k.drawn + 1,.challenged (personalization.nonces k.drawn)⟩) := by
    simp only [Personalization.card,hread]
    exact Personalization.execute_getChallenge P personalization k.drawn k.stage
  have hreceive := hroom.receive
  refine Facing.known_unless_bind (Checked.Channel.exchange_connected hcard hroom.framing hencode
    (by simp [Checked.Command.isSelection,Checked.Command.isWrite,Checked.Command.instruction])
    (by omega) (congrArg Prod.fst hanswer) (by omega) hremaining (by decide)
    (Nat.le_of_eq hnonce) true) (fun _ h => h) ?_
  rw [hanswer]
  have hsuccess : requireSuccess ⟨0x9000,personalization.nonces k.drawn⟩ 16 "ISO GET CHALLENGE" =
      .ok ⟨0x9000,personalization.nonces k.drawn⟩ := by
    simp [requireSuccess,Checked.Response.success,hnonce]
  rw [hsuccess]
  refine Facing.known_bind (a := ⟨0x9000,personalization.nonces k.drawn⟩) (t := true) (fun _ _ => ⟨rfl,rfl,rfl⟩) ?_
  have hsome : hostRandom.drop 16 ≠ [] := List.length_pos_iff.mp (by omega)
  exact laterPhases_connected hP hcard hroom hkey hsize hknown hrandom hnonce hencode' hsome hlong' hread' hgeneration

theorem authenticate_connected {τ : Type} (hP : Computes o P)
    (hdraws : ∀ h, ∃ random : Bytes, o h (.random 32) = .ok random ∧ random.length = 32)
    (hcard : Connected o limits (personalization.card P) start) (hroom : LoginRoom limits encoding)
    (hkey : personalization.keys reference.value = key) (hsize : key.length = 16) (hknown : encoding.known = true)
    {options : ExchangeOptions} (hpositive : 0 < options.timeout) (k : CardState) (s : τ) :
    Facing (personalization.card P).observe start o k (authenticate reference key options encoding) s
      (Unless Interrupts (fun _ => True) fun r _ k' => ∃ session, r = .ok session ∧
        Agreed reference (k.drawn + 2) session k') := by
  have hproved := prove_connected hP hdraws hcard hroom hkey hsize hknown hpositive k
  refine Facing.within ((unless_recover hproved fun _ _ _ h => ⟨_,h.choose_spec.1⟩).mono fun r _ k' h => ?_)
  exact h.mono (fun _ h => h) fun h => h

end Login
end Aes
end DesfireSdk.Iso7816
