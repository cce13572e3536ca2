import DesfireSdk.Security.StandardAes.Chain

/-! What a Standard AES session computes when its primitives work. -/
namespace DesfireSdk.Security.StandardAes
open Interaction Program

/-- The longest message whose whole blocks have a size at all. -/
def cmacMax : Nat := sizeMax / aesBlockSize * aesBlockSize

namespace Session

/-- The clear field of one Full command fills whole blocks. -/
theorem length_fullPlaintext_mod (command : Byte) (header data : Bytes) :
    (fullPlaintext command header data).length % 16 = 0 := by
  simp only [fullPlaintext,List.length_append,List.length_take,List.length_drop,length_putLe,
    length_zeros,aesBlockSize,crcSize]
  split <;> omega

theorem length_fullPlaintext_pos (command : Byte) (header data : Bytes) :
    aesBlockSize ≤ (fullPlaintext command header data).length := by
  have hblocks := length_fullPlaintext_mod command header data
  have hcrc : crcSize ≤ (fullPlaintext command header data).length := by
    simp only [fullPlaintext,List.length_append,length_putLe]
    omega
  unfold aesBlockSize
  unfold crcSize at hcrc
  omega

/-- The size checks of a command whose data goes in clear. -/
def ClearFits (header data : Bytes) (transmitMac : Bool) : Prop :=
  ¬(sizeMax - 1 < header.length ∨ sizeMax - 1 - header.length < data.length ∨
    sizeMax - header.length < data.length ∨
    sizeMax - (if transmitMac then transmittedMacSize else 0) < data.length + header.length)

/-- The size checks of a Full command. -/
def FullFits (command : Byte) (header data : Bytes) : Prop :=
  if data = [] then ClearFits header data false
  else ¬(sizeMax - 1 < header.length ∨ sizeMax - 1 - header.length < data.length ∨
      sizeMax - crcSize < data.length ∨ sizeMax - (aesBlockSize - 1) < data.length + crcSize) ∧
    ¬sizeMax - (fullPlaintext command header data).length < header.length

@[simp] theorem chain_iv {block : Bytes} (hblock : block.length = aesBlockSize) (phase : Phase)
    (s : Session) : (s.chain block phase).iv = block := by
  change (block ++ zeros aesBlockSize).take aesBlockSize = block
  rw [← hblock,List.take_left]

section Yields
variable {o : Oracle Environment} {P : Primitives} {s : Session}

theorem yields_calculateCmac (hP : Computes o P) {input : Bytes} (hsize : input.length ≤ cmacMax) :
    Yields o (calculateCmac input) s (chainedCmac P s.sessionKey s.iv input) s := by
  have hblocks : ¬sizeMax / aesBlockSize < (input.length + aesBlockSize - 1) / aesBlockSize := by
    unfold cmacMax aesBlockSize sizeMax at *
    omega
  apply Reaches.get_bind
  apply Op.reaches_catchAll
  have hzero : (P.encrypt s.sessionKey (zeros aesBlockSize) (zeros aesBlockSize)).length = aesBlockSize :=
    (P.length_encrypt ..).trans (length_zeros _)
  apply Reaches.quiet_bind (hP.secret_encrypt s.sessionKeySize (length_zeros _) rfl (length_zeros _))
  apply Op.reaches_refuse_bind hblocks
  apply Reaches.quiet_bind (hP.secret_encrypt s.sessionKeySize s.ivSize (cmacBlocks_whole hzero).2 rfl)
  exact Reaches.pure

/-- A message that no CMAC covers ends the session. -/
theorem fails_calculateCmac (hP : Computes o P) {input : Bytes} (hsize : ¬input.length ≤ cmacMax) :
    Reaches blind o [] (calculateCmac input) s
      (.error (.error (DesfireSdk.invalid "Standard AES CMAC input is too large"))) s [] := by
  have hblocks : sizeMax / aesBlockSize < (input.length + aesBlockSize - 1) / aesBlockSize := by
    unfold cmacMax aesBlockSize sizeMax at *
    omega
  apply Reaches.get_bind
  apply Op.reaches_catchAll_error
  apply Reaches.quiet_bind (hP.secret_encrypt s.sessionKeySize (length_zeros _) rfl (length_zeros _))
  exact Reaches.bind_error (Op.reaches_refused hblocks)

theorem yields_prepareCmacCommand (hP : Computes o P) (hphase : s.phase = .ready) {command : Byte}
    {header data : Bytes} {transmitMac : Bool} (hfits : ClearFits header data transmitMac)
    (hsize : (command :: (header ++ data)).length ≤ cmacMax) :
    let mac := chainedCmac P s.sessionKey s.iv (command :: (header ++ data))
    Yields o (prepareCmacCommand command header data transmitMac) s
      (header ++ data ++ if transmitMac then mac.take transmittedMacSize else [])
      (s.chain mac .awaitingResponse) := by
  intro mac
  apply Reaches.get_bind
  apply Op.reaches_refuse_bind fun h => h hphase
  apply Op.reaches_refuse_bind hfits
  apply Op.reaches_catchAll
  apply Reaches.quiet_bind (Op.reaches_onError (yields_calculateCmac hP hsize))
  exact Reaches.modify_bind Reaches.pure

theorem turned_prepareCmacCommand (hphase : s.phase = .ready) {command : Byte} {header data : Bytes}
    {transmitMac : Bool} (hfits : ¬ClearFits header data transmitMac) :
    Reaches blind o [] (prepareCmacCommand command header data transmitMac) s
      (.error (.error (DesfireSdk.invalid "Standard AES command is too large"))) s [] := by
  apply Reaches.get_bind
  apply Op.reaches_refuse_bind fun h => h hphase
  exact Reaches.bind_error (Op.reaches_refused (Decidable.not_not.mp hfits))

theorem fails_prepareCmacCommand (hP : Computes o P) (hphase : s.phase = .ready) {command : Byte}
    {header data : Bytes} {transmitMac : Bool} (hfits : ClearFits header data transmitMac)
    (hsize : ¬(command :: (header ++ data)).length ≤ cmacMax) :
    Reaches blind o [] (prepareCmacCommand command header data transmitMac) s
      (.error (.error (DesfireSdk.invalid "Standard AES CMAC input is too large"))) s.invalidate [] := by
  apply Reaches.get_bind
  apply Op.reaches_refuse_bind fun h => h hphase
  apply Op.reaches_refuse_bind hfits
  apply Op.reaches_catchAll_error
  exact Reaches.bind_error (Op.reaches_onError_error (fails_calculateCmac hP hsize))

theorem closed_prepareCmacCommand (hphase : s.phase ≠ .ready) (command : Byte) (header data : Bytes)
    (transmitMac : Bool) : Reaches blind o [] (prepareCmacCommand command header data transmitMac) s
      (.error (.error notReady)) s [] := by
  apply Reaches.get_bind
  exact Reaches.bind_error (Op.reaches_refused hphase)

theorem prepareFull_nil (command : Byte) (header : Bytes) :
    prepareFull command header [] = prepareCmacCommand command header [] false := if_pos rfl

theorem yields_prepareFull (hP : Computes o P) (hphase : s.phase = .ready) {command : Byte}
    {header data : Bytes} (hdata : data ≠ []) (hfits : FullFits command header data) :
    let field := P.encrypt s.sessionKey s.iv (fullPlaintext command header data)
    Yields o (prepareFull command header data) s (header ++ field)
      (s.chain (lastBlock field) .awaitingResponse) := by
  intro field
  unfold FullFits at hfits
  unfold prepareFull
  rw [if_neg hdata] at hfits ⊢
  apply Reaches.get_bind
  apply Op.reaches_refuse_bind fun h => h hphase
  apply Op.reaches_refuse_bind hfits.1
  apply Op.reaches_refuse_bind hfits.2
  apply Op.reaches_catchAll
  apply Reaches.quiet_bind (hP.yields_encrypt s.sessionKeySize s.ivSize (length_fullPlaintext_mod ..) rfl)
  exact Reaches.modify_bind Reaches.pure

theorem turned_prepareFull (hphase : s.phase = .ready) {command : Byte} {header data : Bytes}
    (hdata : data ≠ []) (hfits : ¬FullFits command header data) :
    Reaches blind o [] (prepareFull command header data) s
      (.error (.error (DesfireSdk.invalid "Standard AES Full command is too large"))) s [] := by
  unfold FullFits at hfits
  unfold prepareFull
  rw [if_neg hdata] at hfits ⊢
  apply Reaches.get_bind
  apply Op.reaches_refuse_bind fun h => h hphase
  by_cases hclear : sizeMax - 1 < header.length ∨ sizeMax - 1 - header.length < data.length ∨
      sizeMax - crcSize < data.length ∨ sizeMax - (aesBlockSize - 1) < data.length + crcSize
  · exact Reaches.bind_error (Op.reaches_refused hclear)
  · apply Op.reaches_refuse_bind hclear
    have hpadded := Decidable.not_not.mp fun h => hfits ⟨hclear,h⟩
    exact Reaches.bind_error (Op.reaches_refused hpadded)

theorem closed_prepareFull (hphase : s.phase ≠ .ready) (command : Byte) (header data : Bytes) :
    Reaches blind o [] (prepareFull command header data) s (.error (.error notReady)) s [] := by
  unfold prepareFull
  split
  · exact closed_prepareCmacCommand hphase command header data false
  · apply Reaches.get_bind
    exact Reaches.bind_error (Op.reaches_refused hphase)

/-- A message under a correct CMAC is accepted, and the CMAC becomes the vector. -/
theorem yields_verifyResponse (hP : Computes o P) (hphase : s.phase = .awaitingResponse) {data : Bytes}
    (hsize : (data ++ [0x00]).length ≤ cmacMax) :
    let mac := chainedCmac P s.sessionKey s.iv (data ++ [0x00])
    Yields o (verifyResponse ⟨0x00,data ++ mac.take transmittedMacSize⟩) s data (s.chain mac .ready) := by
  intro mac
  have hmac : (mac.take transmittedMacSize).length = transmittedMacSize := by
    have hblock : mac.length = aesBlockSize := length_chainedCmac ..
    rw [List.length_take,hblock]
    rfl
  have hlength : (data ++ mac.take transmittedMacSize).length - transmittedMacSize = data.length := by
    rw [List.length_append,hmac]
    omega
  apply Reaches.get_bind
  apply Op.reaches_refuse_bind fun h => h hphase
  apply Op.reaches_refuseAfter_bind (by simp)
  apply Op.reaches_refuseAfter_bind (by simp)
  apply Op.reaches_refuseAfter_bind (by rw [List.length_append,hmac]; omega)
  simp only [hlength,List.take_left]
  apply Op.reaches_catchAll
  apply Reaches.quiet_bind (Op.reaches_mapError (Op.reaches_onError (yields_calculateCmac hP hsize)))
  apply Op.reaches_refuseAfter_bind
  · rw [constantTimeEqual_eq,hlength,List.drop_left,beq_self_eq_true]
    exact Bool.noConfusion
  exact Reaches.modify_bind Reaches.pure

theorem fails_verifyResponse (hP : Computes o P) (hphase : s.phase = .awaitingResponse)
    {data mac : Bytes} (hmac : mac.length = transmittedMacSize)
    (hsize : ¬(data ++ [0x00]).length ≤ cmacMax) :
    Reaches blind o [] (verifyResponse ⟨0x00,data ++ mac⟩) s
      (.error (.error ⟨.invalidArgument,"Standard AES CMAC input is too large",.unknown,0⟩))
      s.invalidate [] := by
  have hlength : (data ++ mac).length - transmittedMacSize = data.length := by
    rw [List.length_append,hmac]
    omega
  apply Reaches.get_bind
  apply Op.reaches_refuse_bind fun h => h hphase
  apply Op.reaches_refuseAfter_bind (by simp)
  apply Op.reaches_refuseAfter_bind (by simp)
  apply Op.reaches_refuseAfter_bind (by rw [List.length_append,hmac]; omega)
  simp only [hlength,List.take_left]
  apply Op.reaches_catchAll_error
  have hfailed := fails_calculateCmac (o := o) (s := s) hP hsize
  exact Reaches.bind_error (Reaches.settle (Op.reaches_onError_error hfailed))

/-- Clear data, its checksum and zeros up to a whole block. -/
theorem verifies_padded {answer : Bytes} {n : Nat} (hn : n < aesBlockSize) :
    verifies (answer ++ putLe (crc32 (answer ++ [0x00])) crcSize ++ zeros n) 0x00 answer.length = true := by
  have hdata : (answer ++ putLe (crc32 (answer ++ [0x00])) crcSize ++ zeros n).take answer.length =
      answer := by
    rw [List.append_assoc,List.take_left]
  have hrest : (answer ++ putLe (crc32 (answer ++ [0x00])) crcSize ++ zeros n).drop answer.length =
      putLe (crc32 (answer ++ [0x00])) crcSize ++ zeros n := by
    rw [List.append_assoc,List.drop_left]
  have hcrc : (putLe (crc32 (answer ++ [0x00])) crcSize ++ zeros n).take crcSize =
      putLe (crc32 (answer ++ [0x00])) crcSize := List.take_left' (length_putLe _ _)
  have hpadding : (answer ++ putLe (crc32 (answer ++ [0x00])) crcSize ++ zeros n).drop
      (answer.length + crcSize) = zeros n :=
    List.drop_left' (by rw [List.length_append,length_putLe])
  have hlength : (answer ++ putLe (crc32 (answer ++ [0x00])) crcSize ++ zeros n).length =
      answer.length + crcSize + n := by
    simp only [List.length_append,length_putLe,length_zeros]
  unfold verifies
  rw [hlength,hdata,hrest,hcrc,hpadding]
  rw [if_neg (by omega),if_neg (by omega)]
  simp [zeros,crcMatches,constantTimeEqual_eq]

/-- A field with the checksum of its clear data is accepted at its known size, and its last
block becomes the vector. -/
theorem yields_verifyAndDecryptFullResponse (hP : Computes o P) (hphase : s.phase = .awaitingResponse)
    {answer : Bytes} {n : Nat} (hn : n < aesBlockSize) :
    let padded := answer ++ putLe (crc32 (answer ++ [0x00])) crcSize ++ zeros n
    let field := P.encrypt s.sessionKey s.iv padded
    padded.length % 16 = 0 →
    Yields o (verifyAndDecryptFullResponse ⟨0x00,field⟩ (some answer.length)) s answer
      (s.chain (lastBlock field) .ready) := by
  intro padded field hblocks
  have hlength : field.length = padded.length := P.length_encrypt ..
  have hpadded : padded.length = answer.length + crcSize + n := by
    simp only [padded,List.length_append,length_putLe,length_zeros]
  have hclear : P.decrypt s.sessionKey s.iv field = padded := P.decrypt_encrypt _ _ _ hblocks
  have htaken : padded.take answer.length = answer := by
    change (answer ++ putLe (crc32 (answer ++ [0x00])) crcSize ++ zeros n).take answer.length = answer
    rw [List.append_assoc,List.take_left]
  have hvalid : ¬(field = [] ∨ field.length % aesBlockSize ≠ 0) := by
    rintro (h | h)
    · rw [h] at hlength
      simp only [List.length_nil,crcSize] at hlength hpadded
      omega
    · exact h (hlength ▸ hblocks)
  apply Reaches.get_bind
  apply Op.reaches_refuse_bind fun h => h hphase
  apply Op.reaches_refuseAfter_bind (by simp)
  apply Op.reaches_refuseAfter_bind (by simp)
  apply Op.reaches_refuseAfter_bind hvalid
  apply Op.reaches_catchAll
  apply Reaches.quiet_bind (Op.reaches_mapError (hP.yields_decrypt s.sessionKeySize s.ivSize
    (hlength ▸ hblocks) rfl))
  have hboundaries : [answer.length].filter (verifies (P.decrypt s.sessionKey s.iv field) 0x00) =
      [answer.length] := by
    rw [hclear,List.filter_cons_of_pos (verifies_padded hn)]
    rfl
  have hsingle : ¬1 < ([answer.length].filter (verifies (P.decrypt s.sessionKey s.iv field) 0x00)).length := by
    rw [hboundaries]
    exact Nat.lt_irrefl 1
  apply Op.reaches_refuseAfter_bind hsingle
  simp only [hboundaries]
  rw [hclear,htaken]
  exact Reaches.modify_bind Reaches.pure

end Yields
end Session
end DesfireSdk.Security.StandardAes
