import DesfireSdk.Foundation.BlockCipher
import DesfireSdk.Foundation.Calm
import DesfireSdk.Iso7816.Session
import DesfireSdk.Security.KeyDerivation
import DesfireSdk.Security.StandardAes.Evaluation

/-! The CMAC implementations agree with each other and with AES-CMAC. -/
namespace DesfireSdk.Security
open Interaction Program StandardAes

section Doubling

theorem shiftForward_eq (reduction : Byte) {bytes : Bytes} (hne : bytes ≠ []) :
    KeyDerivation.shiftForward reduction bytes =
      (shiftLeft bytes).1.modify (bytes.length - 1) (· ^^^ reduction) := by
  induction bytes with
  | nil => exact absurd rfl hne
  | cons current rest ih =>
    cases rest with
    | nil => simp [KeyDerivation.shiftForward,shiftLeft]
    | cons next rest =>
      rw [KeyDerivation.shiftForward,ih (List.cons_ne_nil _ _)]
      rfl

theorem reduction_eq (byte : Byte) :
    (0x87 : Byte) &&& ((0 : Byte) - (byte >>> 7)) = if byte &&& 0x80 ≠ 0 then 0x87 else 0 := by
  have hall : ∀ bits : BitVec 8, (0x87 : Byte) &&& ((0 : Byte) - (UInt8.ofBitVec bits >>> 7)) =
      if UInt8.ofBitVec bits &&& 0x80 ≠ 0 then 0x87 else 0 := by decide
  exact hall byte.toBitVec

/-- The doubling that shifts from the first byte agrees with those that shift from the last. -/
theorem doubleSubkey_eq {block : Bytes} (hne : block ≠ []) :
    KeyDerivation.doubleSubkey block = doubleCmacSubkey block := by
  have hshifted : (shiftLeft block).1 ≠ [] := by
    have hlength := length_shiftLeft block
    intro h
    rw [h] at hlength
    exact hne (List.length_eq_zero_iff.mp hlength.symm)
  unfold KeyDerivation.doubleSubkey doubleCmacSubkey
  rw [shiftForward_eq _ hne,reduction_eq,← length_shiftLeft block]
  dsimp only
  split
  · exact Cmac.modify_last _ 0 hshifted _
  · have hkept : (fun byte : Byte => byte ^^^ 0) = id := by
      funext byte
      exact UInt8.xor_zero
    rw [hkept,List.modify_id]

theorem shifted_byte (byte carry : Byte) (hcarry : carry.toNat ≤ 1) :
    (byte <<< 1 ||| carry).toNat = 2 * byte.toNat % 256 + carry.toNat := by
  have hall : ∀ bits : BitVec 8, (UInt8.ofBitVec bits <<< 1 ||| 0).toNat = 2 * (UInt8.ofBitVec bits).toNat % 256 ∧
      (UInt8.ofBitVec bits <<< 1 ||| 1).toNat = 2 * (UInt8.ofBitVec bits).toNat % 256 + 1 := by decide
  have hbits := hall byte.toBitVec
  have hcases : carry = 0 ∨ carry = 1 := by
    rcases Nat.le_one_iff_eq_zero_or_eq_one.mp hcarry with h | h
    · exact .inl (UInt8.toNat.inj h)
    · exact .inr (UInt8.toNat.inj h)
  rcases hcases with rfl | rfl
  · exact hbits.1
  · exact hbits.2

theorem leaving_toNat (byte : Byte) : (byte >>> 7).toNat = byte.toNat / 128 := by
  rw [UInt8.toNat_shiftRight]
  exact Nat.shiftRight_eq_div_pow byte.toNat 7

/-- A shifted block and the bit that leaves it are twice the block. -/
theorem shiftLeft_value (block : Bytes) : (shiftLeft block).2.toNat ≤ 1 ∧
    Cmac.bigEndian (shiftLeft block).1 + (shiftLeft block).2.toNat * 256^block.length = 2 * Cmac.bigEndian block := by
  induction block with
  | nil => decide
  | cons byte rest ih =>
    obtain ⟨hcarry,hvalue⟩ := ih
    have hbyte := byte.toNat_lt
    have hsplit : 2 * byte.toNat % 256 + 256 * (byte.toNat / 128) = 2 * byte.toNat := by omega
    simp only [shiftLeft,Cmac.bigEndian,List.length_cons,length_shiftLeft,leaving_toNat]
    rw [shifted_byte byte _ hcarry]
    refine ⟨by omega,?_⟩
    have hleft : byte.toNat / 128 * 256^(rest.length + 1) = 256 * (byte.toNat / 128) * 256^rest.length := by
      rw [Nat.pow_succ,Nat.mul_comm (256^rest.length),← Nat.mul_assoc,Nat.mul_comm (byte.toNat / 128)]
    calc (2 * byte.toNat % 256 + (shiftLeft rest).2.toNat) * 256^rest.length + Cmac.bigEndian (shiftLeft rest).1 +
          byte.toNat / 128 * 256^(rest.length + 1)
        = (2 * byte.toNat % 256 + 256 * (byte.toNat / 128)) * 256^rest.length +
          (Cmac.bigEndian (shiftLeft rest).1 + (shiftLeft rest).2.toNat * 256^rest.length) := by
            rw [hleft,Nat.add_mul,Nat.add_mul]
            omega
      _ = 2 * byte.toNat * 256^rest.length + 2 * Cmac.bigEndian rest := by rw [hsplit,hvalue]
      _ = 2 * (byte.toNat * 256^rest.length + Cmac.bigEndian rest) := by
          rw [Nat.mul_add,Nat.mul_assoc]

/-- Doubling a subkey is doubling in the field. -/
theorem doubleCmacSubkey_eq {block : Bytes} (hne : block ≠ []) : doubleCmacSubkey block = Cmac.double block := by
  obtain ⟨hcarry,hvalue⟩ := shiftLeft_value block
  have hshifted : Cmac.bigEndian (shiftLeft block).1 < 256^block.length := by
    have hlt := Cmac.bigEndian_lt (shiftLeft block).1
    rwa [length_shiftLeft] at hlt
  have hlength := length_doubleCmacSubkey hne
  have hresult : Cmac.bigEndian (doubleCmacSubkey block) = (2 * Cmac.bigEndian block) % 256^block.length ^^^
      (if 256^block.length ≤ 2 * Cmac.bigEndian block then 0x87 else 0) := by
    match block,hne with
    | byte :: rest,_ =>
      have hleaves := Iso7816.Aes.leaving_iff byte
      have hbit : (shiftLeft (byte :: rest)).2 = byte >>> 7 := rfl
      rw [hbit] at hcarry hvalue
      by_cases hreduce : byte &&& 0x80 ≠ 0
      · have hone : (byte >>> 7).toNat = 1 := by
          have hpositive : (byte >>> 7).toNat ≠ 0 := fun h => hleaves.mpr hreduce (UInt8.toNat.inj h)
          omega
        rw [hone,Nat.one_mul] at hvalue
        have hne' : (shiftLeft (byte :: rest)).1 ≠ [] := List.cons_ne_nil _ _
        have hlast := Cmac.modify_last (shiftLeft (byte :: rest)).1 0 hne' id
        rw [List.modify_id] at hlast
        have hwrapped : (2 * Cmac.bigEndian (byte :: rest)) % 256^(byte :: rest).length =
            Cmac.bigEndian (shiftLeft (byte :: rest)).1 := by
          rw [← hvalue,Nat.add_mod_right,Nat.mod_eq_of_lt hshifted]
        rw [doubleCmacSubkey,List.headD_cons,if_pos hreduce,Cmac.bigEndian_concat_xor,if_pos (by omega),hwrapped]
        congr 1
        exact congrArg Cmac.bigEndian hlast.symm
      · have hzero : (byte >>> 7).toNat = 0 := by
          have hnone : byte >>> 7 = 0 := by
            by_contra hset
            exact hreduce (hleaves.mp hset)
          rw [hnone]
          rfl
        rw [hzero,Nat.zero_mul,Nat.add_zero] at hvalue
        rw [doubleCmacSubkey,List.headD_cons,if_neg hreduce,if_neg (by omega),← hvalue,Nat.mod_eq_of_lt hshifted,Nat.xor_zero]
  have hdecoded := Cmac.ofBigEndian_bigEndian (doubleCmacSubkey block)
  rw [hlength,hresult] at hdecoded
  exact hdecoded.symm

end Doubling

section Messages
variable {E : BlockCipher} {key iv input base : Bytes}

theorem length_double {block : Bytes} (hne : block ≠ []) : (Cmac.double block).length = block.length := by
  rw [← doubleCmacSubkey_eq hne,length_doubleCmacSubkey hne]

/-- The encrypted blocks: those before the last, and the last under its subkey. -/
theorem cmacBlocks_eq (hbase : base.length = 16) (input : Bytes) :
    let count := if input = [] then 1 else (input.length + 16 - 1) / 16
    ∃ masked, masked.length = 16 ∧ (count - 1) * 16 ≤ input.length ∧ 1 ≤ count ∧
      cmacBlocks base input = input.take ((count - 1) * 16) ++ masked ∧
      masked = if input ≠ [] ∧ input.length % 16 = 0
        then Cmac.xor (input.drop ((count - 1) * 16)) (Cmac.double base)
        else Cmac.xor (input.drop ((count - 1) * 16) ++
          0x80 :: zeros (16 - 1 - (input.drop ((count - 1) * 16)).length)) (Cmac.double (Cmac.double base)) := by
  intro count
  have hne : base ≠ [] := List.ne_nil_of_length_pos (by omega)
  have hfirst : (Cmac.double base).length = 16 := by rw [length_double hne,hbase]
  have hne' : Cmac.double base ≠ [] := List.ne_nil_of_length_pos (by omega)
  have hsecond : (Cmac.double (Cmac.double base)).length = 16 := by rw [length_double hne',hfirst]
  have hcount : 1 ≤ count ∧ (count - 1) * 16 ≤ input.length ∧
      (input ≠ [] ∧ input.length % 16 = 0 → input.length - (count - 1) * 16 = 16) ∧
      (¬(input ≠ [] ∧ input.length % 16 = 0) → input.length - (count - 1) * 16 = input.length % 16) := by
    by_cases hempty : input = []
    · have hone : count = 1 := if_pos hempty
      rw [hone,hempty]
      simp
    · have hpos := List.length_pos_iff.mpr hempty
      have hdivided : count = (input.length + 16 - 1) / 16 := if_neg hempty
      refine ⟨by omega,by omega,fun hcomplete => by omega,fun hincomplete => ?_⟩
      have haligned : input.length % 16 ≠ 0 := fun h => hincomplete ⟨hempty,h⟩
      omega
  obtain ⟨hone,hused,hcomplete,hincomplete⟩ := hcount
  refine ⟨_,?_,hused,hone,?_,rfl⟩
  · split
    next hwhole =>
      rw [Cmac.xor,List.length_zipWith,List.length_drop,hcomplete hwhole,hfirst]
      rfl
    next hpartial =>
      rw [Cmac.xor,List.length_zipWith,List.length_append,List.length_cons,length_zeros,List.length_drop,
        hincomplete hpartial,hsecond]
      omega
  · unfold cmacBlocks
    rw [doubleCmacSubkey_eq hne]
    dsimp only
    rw [doubleCmacSubkey_eq hne']
    by_cases hwhole : input ≠ [] ∧ input.length % 16 = 0
    · rw [if_pos hwhole]
      exact if_pos hwhole
    · rw [if_neg hwhole,List.length_drop,hincomplete hwhole]
      exact if_neg hwhole

/-- The last block of the encrypted blocks is the CMAC of the message. -/
theorem lastBlock_cbc (E : BlockCipher) (key iv input : Bytes) :
    let blocks := cmacBlocks (E.encrypt key Cmac.zeroBlock) input
    blocks.length % 16 = 0 ∧
      (E.cbc key iv blocks).drop ((E.cbc key iv blocks).length - 16) = Cmac.cmac (E.encrypt key) iv input := by
  intro blocks
  obtain ⟨masked,hmasked,hused,hone,hblocks,hmask⟩ := cmacBlocks_eq (E.length_encrypt key Cmac.zeroBlock) input
  generalize hcount : (if input = [] then 1 else (input.length + 16 - 1) / 16) = count at hmasked hused hone hblocks hmask
  have hlength : blocks.length = count * 16 := by
    rw [show blocks = _ from hblocks,List.length_append,List.length_take,hmasked,Nat.min_eq_left hused,Nat.sub_mul]
    omega
  have hsplit : blocks.drop ((count - 1) * 16) = masked := by
    rw [show blocks = _ from hblocks]
    refine List.drop_left' ?_
    rw [List.length_take,Nat.min_eq_left hused]
  have haligned : blocks.length % 16 = 0 := by omega
  refine ⟨haligned,?_⟩
  have hlast := Cmac.cbc_last (E.length_encrypt key) (count - 1) iv blocks
  have hchain : Cmac.chain (E.encrypt key) (count - 1) iv blocks = Cmac.chain (E.encrypt key) (count - 1) iv input := by
    rw [show blocks = _ from hblocks]
    exact Cmac.chain_take hused
  have hcbc : E.cbc key iv blocks = Cmac.cbc (E.encrypt key) (count - 1 + 1) iv blocks := by
    rw [BlockCipher.cbc,hlength,Nat.mul_div_cancel _ (by decide),Nat.sub_add_cancel hone]
  have hstart : (E.cbc key iv blocks).length - 16 = (count - 1) * 16 := by
    rw [E.length_cbc key iv haligned,hlength,Nat.sub_mul]
  rw [hstart,hcbc]
  refine hlast.trans ?_
  rw [hchain,Cmac.cmac]
  dsimp only [Cmac.blockSize]
  rw [hcount,hsplit,List.take_of_length_le (Nat.le_of_eq hmasked),hmask]
  rfl

end Messages

section Implementations
variable {o : Oracle Environment} {E : BlockCipher}

theorem encrypted_zero (E : BlockCipher) (key : Bytes) :
    E.cbc key (zeros 16) (zeros 16) = E.encrypt key Cmac.zeroBlock := by
  have hone : E.cbc key (zeros 16) (zeros 16) = E.encrypt key Cmac.zeroBlock ++ [] := rfl
  rw [hone,List.append_nil]

theorem yields_standardCmac (hE : Enciphers o E) (s : StandardAes.Session) {message : Bytes}
    (hsize : message.length ≤ cmacMax) :
    Yields o (StandardAes.Session.calculateCmac message) s (Cmac.cmac (E.encrypt s.sessionKey) s.iv message) s := by
  obtain ⟨haligned,hlast⟩ := lastBlock_cbc E s.sessionKey s.iv message
  have hblocks : ¬sizeMax / aesBlockSize < (message.length + aesBlockSize - 1) / aesBlockSize := by
    unfold cmacMax aesBlockSize sizeMax at *
    omega
  have hzeros : (zeros 16).length = 16 := length_zeros 16
  apply Reaches.get_bind
  apply Op.reaches_catchAll
  apply Reaches.quiet_bind (hE.yields_secret hzeros s.sessionKeySize hzeros rfl)
  apply Op.reaches_refuse_bind hblocks
  rw [encrypted_zero]
  apply Reaches.quiet_bind (hE.yields_secret rfl s.sessionKeySize s.ivSize haligned)
  rw [← hlast]
  exact Reaches.pure

theorem oversized_standardCmac (hE : Enciphers o E) (s : StandardAes.Session) {message : Bytes}
    (hsize : ¬message.length ≤ cmacMax) :
    Reaches blind o [] (StandardAes.Session.calculateCmac message) s
      (.error (.error (invalid "Standard AES CMAC input is too large"))) s [] := by
  have hblocks : sizeMax / aesBlockSize < (message.length + aesBlockSize - 1) / aesBlockSize := by
    unfold cmacMax aesBlockSize sizeMax at *
    omega
  have hzeros : (zeros 16).length = 16 := length_zeros 16
  apply Reaches.get_bind
  apply Op.reaches_catchAll_error
  apply Reaches.quiet_bind (hE.yields_secret hzeros s.sessionKeySize hzeros rfl)
  exact Reaches.bind_error (Op.reaches_refused hblocks)

theorem yields_retainedCmac {τ : Type} (hE : Enciphers o E) {key iv : Bytes} (hkey : key.length = 16)
    (hiv : iv.length = 16) (message : Bytes) (t : τ) :
    Yields o (Iso7816.Aes.retainedCmac key iv message) t (Cmac.cmac (E.encrypt key) iv message) t := by
  obtain ⟨haligned,hlast⟩ := lastBlock_cbc E key iv message
  have hzeros : (zeros 16).length = 16 := length_zeros 16
  have hblocks := Iso7816.Aes.cmacInput_eq (E.length_encrypt key Cmac.zeroBlock) message
  apply Reaches.quiet_bind (hE.yields_secret hzeros hkey hzeros rfl)
  rw [encrypted_zero,hblocks]
  apply Reaches.quiet_bind (hE.yields_secret rfl hkey hiv haligned)
  rw [← hlast]
  exact Reaches.pure

/-- The two blocks of a diversification, the second under its subkey. -/
theorem derivationInput_eq {subkey input : Bytes} (hsubkey : subkey.length = 16) (hinput : input.length ≤ 31) :
    let padded := if input.length < 31 then 0x01 :: (input ++ 0x80 :: zeros (30 - input.length)) else 0x01 :: input
    KeyDerivation.derivationInput subkey input = padded.take 16 ++ Cmac.xor (padded.drop 16)
      (if input.length < 31 then Cmac.double subkey else subkey) := by
  have hne : subkey ≠ [] := List.ne_nil_of_length_pos (by omega)
  have hdouble : (Cmac.double subkey).length = 16 := by rw [length_double hne,hsubkey]
  have hmixed : ∀ padded mask : Bytes, padded.length = 32 → mask.length = 16 →
      Cmac.mixAt 16 mask padded = padded.take 16 ++ Cmac.xor (padded.drop 16) mask := by
    intro padded mask hpadded hmask
    have happend := Cmac.mixAt_append (padded.take 16) mask (padded.drop 16) (by rw [List.length_drop]; omega)
    rw [List.take_append_drop,List.length_take,hpadded] at happend
    exact happend
  intro padded
  unfold KeyDerivation.derivationInput
  by_cases hshort : input.length < 31
  · have hpadded : padded = 0x01 :: (input ++ 0x80 :: zeros (30 - input.length)) := if_pos hshort
    have hfill : 31 - input.length = 30 - input.length + 1 := by omega
    have hset : (0x01 :: (input ++ zeros (31 - input.length))).set (input.length + 1) 0x80 = padded := by
      rw [hpadded,hfill,zeros,List.replicate_succ,List.set_cons_succ,List.set_append_right _ _ (Nat.le_refl _),
        Nat.sub_self]
      rfl
    have hlength : padded.length = 32 := by
      rw [hpadded,List.length_cons,List.length_append,List.length_cons,length_zeros]
      omega
    rw [if_pos hshort]
    rw [if_pos hshort,hset,doubleSubkey_eq hne,doubleCmacSubkey_eq hne]
    exact hmixed padded _ hlength hdouble
  · have hpadded : padded = 0x01 :: input := if_neg hshort
    have hempty : 31 - input.length = 0 := by omega
    have hlength : padded.length = 32 := by
      rw [hpadded,List.length_cons]
      omega
    rw [if_neg hshort]
    rw [if_neg hshort,hempty,zeros,List.replicate_zero,List.append_nil,← hpadded]
    exact hmixed padded subkey hlength hsubkey

theorem length_derivationInput {subkey input : Bytes} (hsubkey : subkey.length = 16) (hinput : input.length ≤ 31) :
    (KeyDerivation.derivationInput subkey input).length = 32 := by
  have hne : subkey ≠ [] := List.ne_nil_of_length_pos (by omega)
  have hdouble : (Cmac.double subkey).length = 16 := by rw [length_double hne,hsubkey]
  have hmask : (if input.length < 31 then Cmac.double subkey else subkey).length = 16 := by
    split
    · exact hdouble
    · exact hsubkey
  have hpadded : (if input.length < 31 then (0x01 : Byte) :: (input ++ 0x80 :: zeros (30 - input.length))
      else 0x01 :: input).length = 32 := by
    split
    · rw [List.length_cons,List.length_append,List.length_cons,length_zeros]
      omega
    · rw [List.length_cons]
      omega
  rw [derivationInput_eq hsubkey hinput,List.length_append,Cmac.xor,List.length_zipWith,List.length_take,
    List.length_drop,hpadded,hmask]
  rfl

/-- From sixteen bytes on, the two blocks are those of a CMAC. -/
theorem derivationInput_long {base input : Bytes} (hbase : base.length = 16) (hlow : 16 ≤ input.length)
    (hhigh : input.length ≤ 31) :
    KeyDerivation.derivationInput (Cmac.double base) input = cmacBlocks base (0x01 :: input) := by
  have hne : base ≠ [] := List.ne_nil_of_length_pos (by omega)
  have hfirst : (Cmac.double base).length = 16 := by rw [length_double hne,hbase]
  obtain ⟨masked,_,_,_,hblocks,hmask⟩ := cmacBlocks_eq hbase (0x01 :: input)
  have hnil : (0x01 : Byte) :: input ≠ [] := List.cons_ne_nil _ _
  have hcount : ((0x01 : Byte) :: input).length + 16 - 1 = input.length + 16 := rfl
  have htwo : (input.length + 16) / 16 = 2 := by omega
  rw [if_neg hnil,hcount,htwo] at hblocks hmask
  rw [derivationInput_eq hfirst hhigh,hblocks,hmask,List.length_drop,List.length_cons]
  by_cases hshort : input.length < 31
  · have hpartial : ¬((0x01 : Byte) :: input ≠ [] ∧ (input.length + 1) % 16 = 0) := by omega
    have hfill : 16 - 1 - (input.length + 1 - (2 - 1) * 16) = 30 - input.length := by omega
    have htake : ((0x01 : Byte) :: (input ++ 0x80 :: zeros (30 - input.length))).take 16 = (0x01 :: input).take 16 := by
      rw [← List.cons_append,List.take_append_of_le_length]
      rw [List.length_cons]
      omega
    have hdrop : ((0x01 : Byte) :: (input ++ 0x80 :: zeros (30 - input.length))).drop 16 =
        (0x01 :: input).drop 16 ++ 0x80 :: zeros (30 - input.length) := by
      rw [← List.cons_append,List.drop_append_of_le_length]
      rw [List.length_cons]
      omega
    rw [if_pos hshort,if_pos hshort,if_neg hpartial,hfill,htake,hdrop]
  · have hwhole : (0x01 : Byte) :: input ≠ [] ∧ (input.length + 1) % 16 = 0 := ⟨hnil,by omega⟩
    rw [if_neg hshort,if_neg hshort,if_pos hwhole]

/-- The key that two encrypted blocks leave: the last of them. -/
theorem yields_derive {τ : Type} (hE : Enciphers o E) {masterKey : Model.Aes128Key} (hvalid : masterKey.valid = true)
    (context : Model.Aes128DerivationContext) (hnonempty : context.diversificationInput ≠ [])
    (hbounded : context.diversificationInput.length ≤ 31) (t : τ) :
    let blocks := KeyDerivation.derivationInput (Cmac.double (E.encrypt masterKey.view Cmac.zeroBlock))
      context.diversificationInput
    ∃ derived : Model.Aes128Key,
      derived.view = (E.cbc masterKey.view (zeros 16) blocks).drop 16 ∧
      Yields o (KeyDerivation.derive masterKey context) t derived t := by
  intro blocks
  have hkey : masterKey.view.length = 16 := by
    unfold Model.Aes128Key.valid at hvalid
    exact eq_of_beq hvalid
  have hzeros : (zeros 16).length = 16 := length_zeros 16
  have hbase := E.length_encrypt masterKey.view Cmac.zeroBlock
  have hne : E.encrypt masterKey.view Cmac.zeroBlock ≠ [] := List.ne_nil_of_length_pos (by omega)
  have hdouble : (Cmac.double (E.encrypt masterKey.view Cmac.zeroBlock)).length = 16 := by
    rw [length_double hne,hbase]
  have hlength : blocks.length = 32 := length_derivationInput hdouble hbounded
  have haligned : blocks.length % 16 = 0 := by omega
  have houtput : (E.cbc masterKey.view (zeros 16) blocks).length = 32 := by
    rw [E.length_cbc masterKey.view (zeros 16) haligned,hlength]
  have hsize : ((E.cbc masterKey.view (zeros 16) blocks).drop 16).length = 16 := by
    rw [List.length_drop,houtput]
  have hallowed : ¬(masterKey.valid = false ∨ context.diversificationInput = [] ∨
      31 < context.diversificationInput.length) := by
    rintro (h | h | h)
    · rw [hvalid] at h
      contradiction
    · exact hnonempty h
    · omega
  refine ⟨⟨_,.inl hsize⟩,rfl,?_⟩
  apply Op.reaches_refuse_bind hallowed
  apply Op.reaches_catchAll
  apply Reaches.quiet_bind (hE.yields_secret hzeros hkey hzeros rfl)
  rw [encrypted_zero,doubleSubkey_eq hne,doubleCmacSubkey_eq hne]
  apply Reaches.quiet_bind (hE.yields_secret rfl hkey hzeros haligned)
  apply Op.reaches_ofResult
  have hlast : (E.cbc masterKey.view (zeros 16) blocks).length - 16 = 16 := by omega
  unfold KeyDerivation.importKey
  rw [hlast,dif_pos hsize]

end Implementations

section Agreement

/-- Three implementations of one CMAC under an abstract block function. -/
structure CmacsAgree (o : Oracle Environment) (E : BlockCipher) : Prop where
  standard : ∀ (s : StandardAes.Session) (message : Bytes),
    if message.length ≤ cmacMax
    then Yields o (StandardAes.Session.calculateCmac message) s (Cmac.cmac (E.encrypt s.sessionKey) s.iv message) s
    else Reaches blind o [] (StandardAes.Session.calculateCmac message) s
      (.error (.error (invalid "Standard AES CMAC input is too large"))) s []
  retained : ∀ (key iv message : Bytes) (s : Iso7816.Aes.Session), key.length = 16 → iv.length = 16 →
    Yields o (Iso7816.Aes.retainedCmac key iv message) s (Cmac.cmac (E.encrypt key) iv message) s
  zeroVector : ∀ key message : Bytes, Cmac.cmac (E.encrypt key) (zeros 16) message = Cmac.aesCmac (E.encrypt key) message
  longDerivation : ∀ (masterKey : Model.Aes128Key) (context : Model.Aes128DerivationContext),
    masterKey.valid = true → 16 ≤ context.diversificationInput.length → context.diversificationInput.length ≤ 31 →
    ∃ derived : Model.Aes128Key,
      derived.view = Cmac.aesCmac (E.encrypt masterKey.view) (0x01 :: context.diversificationInput) ∧
      Yields o (KeyDerivation.derive masterKey context) () derived ()
  shortDerivation : ∀ (masterKey : Model.Aes128Key) (context : Model.Aes128DerivationContext),
    masterKey.valid = true → 1 ≤ context.diversificationInput.length → context.diversificationInput.length ≤ 15 →
    let padded := 0x01 :: (context.diversificationInput ++ 0x80 :: zeros (30 - context.diversificationInput.length))
    let secondSubkey := Cmac.double (Cmac.double (E.encrypt masterKey.view Cmac.zeroBlock))
    ∃ derived : Model.Aes128Key,
      derived.view = (E.cbc masterKey.view (zeros 16)
        (padded.take 16 ++ Cmac.xor (padded.drop 16) secondSubkey)).drop 16 ∧
      Yields o (KeyDerivation.derive masterKey context) () derived ()
  doublings : ∀ block : Bytes, block.length = 16 →
    doubleCmacSubkey block = Cmac.double block ∧ Iso7816.Aes.doubleSubkey block = Cmac.double block ∧
      KeyDerivation.doubleSubkey block = Cmac.double block

/-- Whatever the block function, the sessions and the derivation compute its CMAC. -/
theorem cmacs_agree {o : Oracle Environment} {E : BlockCipher} (hE : Enciphers o E) : CmacsAgree o E where
  standard s message := by
    split
    next hsize => exact yields_standardCmac hE s hsize
    next hsize => exact oversized_standardCmac hE s hsize
  retained key iv message s hkey hiv := yields_retainedCmac hE hkey hiv message s
  zeroVector key message := rfl
  longDerivation masterKey context hvalid hlow hhigh := by
    have hnonempty : context.diversificationInput ≠ [] := List.ne_nil_of_length_pos (by omega)
    have hbase := E.length_encrypt masterKey.view Cmac.zeroBlock
    obtain ⟨derived,hview,hrun⟩ := yields_derive hE hvalid context hnonempty hhigh ()
    obtain ⟨haligned,hlast⟩ :=
      lastBlock_cbc E masterKey.view (zeros 16) (0x01 :: context.diversificationInput)
    have hne : E.encrypt masterKey.view Cmac.zeroBlock ≠ [] := List.ne_nil_of_length_pos (by omega)
    have hdouble : (Cmac.double (E.encrypt masterKey.view Cmac.zeroBlock)).length = 16 := by
      rw [length_double hne,hbase]
    rw [← derivationInput_long hbase hlow hhigh,E.length_cbc _ _ (by rw [length_derivationInput hdouble hhigh]),
      length_derivationInput hdouble hhigh] at hlast
    exact ⟨derived,hview.trans hlast,hrun⟩
  shortDerivation masterKey context hvalid hlow hhigh := by
    intro padded secondSubkey
    have hnonempty : context.diversificationInput ≠ [] := List.ne_nil_of_length_pos (by omega)
    have hbounded : context.diversificationInput.length ≤ 31 := by omega
    have hshort : context.diversificationInput.length < 31 := by omega
    have hbase := E.length_encrypt masterKey.view Cmac.zeroBlock
    have hne : E.encrypt masterKey.view Cmac.zeroBlock ≠ [] := List.ne_nil_of_length_pos (by omega)
    have hdouble : (Cmac.double (E.encrypt masterKey.view Cmac.zeroBlock)).length = 16 := by
      rw [length_double hne,hbase]
    obtain ⟨derived,hview,hrun⟩ := yields_derive hE hvalid context hnonempty hbounded ()
    have hblocks := derivationInput_eq hdouble hbounded
    simp only [if_pos hshort] at hblocks
    rw [hblocks] at hview
    exact ⟨derived,hview,hrun⟩
  doublings block hblock := by
    have hne : block ≠ [] := List.ne_nil_of_length_pos (by omega)
    refine ⟨doubleCmacSubkey_eq hne,?_,?_⟩
    · rw [Iso7816.Aes.doubleSubkey_eq hne,doubleCmacSubkey_eq hne]
    · rw [doubleSubkey_eq hne,doubleCmacSubkey_eq hne]

/-- A block function that keeps the first bytes of its block. -/
def keptBlock : BlockCipher where
  encrypt _ block := (block ++ zeros 16).take 16
  length_encrypt key block := by
    rw [List.length_take,List.length_append,length_zeros]
    omega

theorem cmacs_agree_kept :
    CmacsAgree (scripted { cbc := fun key iv input _ => .ok (keptBlock.cbc key iv input) }) keptBlock :=
  cmacs_agree fun _ _ _ _ _ _ _ => rfl

end Agreement
end DesfireSdk.Security
