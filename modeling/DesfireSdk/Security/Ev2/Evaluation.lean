import DesfireSdk.Foundation.Primitives
import DesfireSdk.Security.Ev2.Steps

/-! What an EV2 session computes when its primitives work. -/
namespace DesfireSdk.Security.Ev2
open Interaction Program

/-- The part of a CMAC that is transmitted. -/
def shortMac (P : Primitives) (key input : Bytes) : Bytes := oddBytes (P.mac key input)

@[simp] theorem length_shortMac (P : Primitives) (key input : Bytes) :
    (shortMac P key input).length = transmittedMacSize := by
  rw [shortMac,length_oddBytes,P.length_mac]
  rfl

theorem length_counterBytes (counter : UInt16) : (counterBytes counter).length = 2 := rfl

theorem length_ivInput {label identifier : Bytes} {counter : UInt16} (hlabel : label.length = 2)
    (hidentifier : identifier.length = 4) : (ivInput label identifier counter).length = aesBlockSize := by
  simp [ivInput,length_counterBytes,hlabel,hidentifier,aesBlockSize]

namespace Session

/-- The encrypted field of one Full command. -/
def enciphered (P : Primitives) (s : Session) (data : Bytes) : Bytes :=
  P.encrypt s.encryptionKey
    (P.encrypt s.encryptionKey (zeros aesBlockSize)
      (ivInput requestLabel s.authentication.transactionIdentifier s.counter))
    (Padding.pad 0x00 0x80 aesBlockSize data)

theorem length_enciphered (P : Primitives) (s : Session) (data : Bytes) :
    (s.enciphered P data).length = (Padding.pad (0x00 : Byte) 0x80 aesBlockSize data).length :=
  P.length_encrypt ..

section Yields
variable {o : Oracle Environment} {P : Primitives} {s : Session}

/-- The vector of one encrypted field. -/
theorem length_vector (P : Primitives) (s : Session) {label : Bytes} (hlabel : label.length = 2) :
    (P.encrypt s.encryptionKey (zeros aesBlockSize)
      (ivInput label s.authentication.transactionIdentifier s.counter)).length = 16 :=
  (P.length_encrypt ..).trans (length_ivInput hlabel s.authentication.transactionSize)

theorem yields_vector {τ : Type} {t : τ} {message : String} {cleanup : Error → τ → τ} (hP : Computes o P) (s : Session)
    {label : Bytes} (hlabel : label.length = 2) :
    Yields o (Op.onError cleanup (Op.secretOutput message (Op.cbc s.encryptionKey (zeros aesBlockSize)
      (ivInput label s.authentication.transactionIdentifier s.counter) true) aesBlockSize)) t
      (P.encrypt s.encryptionKey (zeros aesBlockSize)
        (ivInput label s.authentication.transactionIdentifier s.counter)) t := by
  have hlength : (ivInput label s.authentication.transactionIdentifier s.counter).length = aesBlockSize :=
    length_ivInput hlabel s.authentication.transactionSize
  have hwhole : (ivInput label s.authentication.transactionIdentifier s.counter).length % 16 = 0 := by
    rw [hlength]
    rfl
  exact hP.yields_encrypt s.encryptionKeySize (length_zeros 16) hwhole hlength

theorem turned_closed (hphase : s.phase ≠ .ready) :
    Reaches blind o [] checkReady s (.error (.error notReady)) s [] := by
  refine Reaches.get_bind (Reaches.bind_error ?_)
  unfold Op.refuse refuse
  rw [if_pos hphase]
  exact Reaches.fail

theorem turned_exhausted (hphase : s.phase = .ready) (hcounter : s.counter = counterMax) :
    Reaches blind o [] checkReady s (.error (.error exhausted)) s.invalidate [] := by
  refine Reaches.get_bind (Op.reaches_refuse_bind (fun h => h hphase) ?_)
  unfold Op.refuseAfter
  rw [if_pos hcounter]
  exact Reaches.modify_bind Reaches.fail

theorem open_bind {α : Type} {f : Unit → Op Session α} {r : Except Fault α} {s' : Session}
    (hopen : s.Open) (hf : Reaches blind o [] (f ()) s r s' []) :
    Reaches blind o [] (checkReady >>= f) s r s' [] := by
  refine Reaches.quiet_bind (a := ()) ?_ hf
  refine Reaches.get_bind ?_
  refine Op.reaches_refuse_bind (fun h => h hopen.ready) ?_
  unfold Op.refuseAfter
  rw [if_neg hopen.counter]
  exact Reaches.pure

theorem yields_preparePlain (hopen : s.Open) {command : Byte} {header data : Bytes}
    (hfits : PlainFits header data) :
    Yields o (preparePlain command header data) s (header ++ data) (s.reserve .awaitingPlainResponse) := by
  refine open_bind hopen ?_
  refine Op.reaches_refuse_bind hfits ?_
  exact Reaches.modify_bind Reaches.pure

theorem yields_prepareMac (hP : Computes o P) (hopen : s.Open) {command : Byte} {header data : Bytes}
    (hfits : MacFits header data) :
    Yields o (prepareMac command header data) s
      (header ++ data ++ shortMac P s.macKey (s.macInput command (header ++ data)))
      (s.reserve .awaitingResponse) := by
  refine open_bind hopen ?_
  refine Reaches.get_bind ?_
  refine Op.reaches_refuse_bind hfits ?_
  refine Op.reaches_catchAll ?_
  refine Reaches.quiet_bind (hP.yields_mac s.macKeySize) ?_
  refine Reaches.quiet_bind (Op.reaches_onError (Op.reaches_ofResult (truncateMac_eq (P.length_mac ..)))) ?_
  exact Reaches.modify_bind Reaches.pure

theorem turned_preparePlain (hopen : s.Open) {command : Byte} {header data : Bytes}
    (hfits : ¬PlainFits header data) :
    Reaches blind o [] (preparePlain command header data) s
      (.error (.error (DesfireSdk.invalid "EV2 Plain command data is too large"))) s [] := by
  refine open_bind hopen (Reaches.bind_error ?_)
  exact Op.reaches_refused (Decidable.not_not.mp hfits)

theorem turned_prepareMac (hopen : s.Open) {command : Byte} {header data : Bytes}
    (hfits : ¬MacFits header data) :
    Reaches blind o [] (prepareMac command header data) s
      (.error (.error (DesfireSdk.invalid "EV2 secure-message MAC input is too large"))) s [] := by
  refine open_bind hopen (Reaches.get_bind (Reaches.bind_error ?_))
  exact Op.reaches_refused (Decidable.not_not.mp hfits)

theorem padMethod2_eq {data : Bytes} (h : ¬sizeMax - aesBlockSize < data.length) :
    padMethod2 data = .ok (Padding.pad 0x00 0x80 aesBlockSize data) := if_neg h

theorem yields_prepareFull (hP : Computes o P) (hopen : s.Open) {command : Byte} {header data : Bytes}
    (hdata : data ≠ []) (hfits : FullFits header data) :
    Yields o (prepareFull command header data) s
      (header ++ s.enciphered P data ++
        shortMac P s.macKey (s.macInput command (header ++ s.enciphered P data)))
      (s.reserve .awaitingResponse) := by
  unfold FullFits at hfits
  rw [if_neg hdata] at hfits
  refine open_bind hopen ?_
  refine Reaches.get_bind ?_
  rw [if_neg hdata]
  refine Op.reaches_catchAll ?_
  refine Reaches.quiet_bind (Op.reaches_ofResult (padMethod2_eq hfits.1)) ?_
  refine Reaches.quiet_bind (yields_vector hP s rfl) ?_
  refine Reaches.quiet_bind (hP.yields_encrypt s.encryptionKeySize (length_vector P s rfl)
    (Padding.length_pad_mod 0x00 0x80 (by decide) data) rfl) ?_
  exact yields_prepareMac hP hopen (macFits_of_length hfits.2 (length_enciphered P s data))

theorem yields_prepareFull_nil (hP : Computes o P) (hopen : s.Open) {command : Byte} {header : Bytes}
    (hfits : FullFits header []) :
    Yields o (prepareFull command header []) s
      (header ++ shortMac P s.macKey (s.macInput command header)) (s.reserve .awaitingResponse) := by
  refine open_bind hopen ?_
  refine Reaches.get_bind ?_
  rw [if_pos rfl]
  have hmac : Yields o (prepareMac command header []) s _ _ := yields_prepareMac hP hopen hfits
  simpa only [List.append_nil] using hmac

/-- The padded data fits and the MAC over it does not: the data is enciphered before the refusal. -/
theorem turned_enciphered (hP : Computes o P) (hopen : s.Open) {command : Byte} {header data : Bytes}
    (hdata : data ≠ []) (hpad : ¬sizeMax - aesBlockSize < data.length)
    (hfits : ¬MacFits header (Padding.pad 0x00 0x80 aesBlockSize data)) :
    Reaches blind o [] (prepareFull command header data) s
      (.error (.error (DesfireSdk.invalid "EV2 secure-message MAC input is too large"))) s [] := by
  refine open_bind hopen (Reaches.get_bind ?_)
  rw [if_neg hdata]
  refine Op.reaches_catchAll_error ?_
  refine Reaches.quiet_bind (Op.reaches_ofResult (padMethod2_eq hpad)) ?_
  refine Reaches.quiet_bind (yields_vector hP s rfl) ?_
  refine Reaches.quiet_bind (hP.yields_encrypt s.encryptionKeySize (length_vector P s rfl)
    (Padding.length_pad_mod 0x00 0x80 (by decide) data) rfl) ?_
  refine turned_prepareMac hopen fun hmac => hfits (macFits_of_length hmac ?_)
  exact (length_enciphered P s data).symm

theorem turned_prepareFull (hP : Computes o P) (hopen : s.Open) {command : Byte} {header data : Bytes}
    (hfits : ¬FullFits header data) :
    ∃ message, Reaches blind o [] (prepareFull command header data) s
      (.error (.error (DesfireSdk.invalid message))) s [] := by
  unfold FullFits at hfits
  by_cases hdata : data = []
  · rw [if_pos hdata] at hfits
    refine ⟨"EV2 secure-message MAC input is too large",open_bind hopen (Reaches.get_bind ?_)⟩
    rw [if_pos hdata]
    exact turned_prepareMac hopen hfits
  rw [if_neg hdata] at hfits
  by_cases hpad : sizeMax - aesBlockSize < data.length
  · refine ⟨"EV2 Full command data is too large to pad",open_bind hopen (Reaches.get_bind ?_)⟩
    rw [if_neg hdata]
    refine Op.reaches_catchAll_error (Reaches.bind_error ?_)
    rw [padMethod2,if_pos hpad]
    exact Reaches.fail
  · have hmac : ¬MacFits header (Padding.pad 0x00 0x80 aesBlockSize data) := fun hmac => hfits ⟨hpad,hmac⟩
    exact ⟨"EV2 secure-message MAC input is too large",turned_enciphered hP hopen hdata hpad hmac⟩

theorem yields_acceptPlainResponse (hphase : s.phase = .awaitingPlainResponse) {data : Bytes} :
    Yields o (acceptPlainResponse ⟨0x00,data⟩) s data s.resume := by
  refine Reaches.get_bind ?_
  refine Op.reaches_refuse_bind (fun h => h hphase) ?_
  refine Op.reaches_refuseAfter_bind (by simp) ?_
  refine Op.reaches_refuseAfter_bind (by simp) ?_
  exact Reaches.modify_bind Reaches.pure

theorem yields_verifyResponse (hP : Computes o P) (hphase : s.phase = .awaitingResponse) {data : Bytes} :
    Yields o (verifyResponse ⟨0x00,data ++ shortMac P s.macKey (s.macInput 0x00 data)⟩) s data
      s.resume := by
  have hlength : (data ++ shortMac P s.macKey (s.macInput 0x00 data)).length - transmittedMacSize =
      data.length := by simp
  refine Reaches.get_bind ?_
  refine Op.reaches_refuse_bind (fun h => h hphase) ?_
  refine Op.reaches_refuseAfter_bind (by simp) ?_
  refine Op.reaches_refuseAfter_bind (by simp) ?_
  refine Op.reaches_refuseAfter_bind (by simp) ?_
  simp only [hlength,List.take_left]
  refine Op.reaches_catchAll ?_
  refine Reaches.quiet_bind (Op.reaches_mapError (hP.yields_mac s.macKeySize)) ?_
  refine Reaches.quiet_bind (Op.reaches_onError (Op.reaches_ofResult (truncateMac_eq (P.length_mac ..)))) ?_
  refine Op.reaches_refuseAfter_bind ?_ ?_
  · rw [constantTimeEqual_eq,hlength,List.drop_left]
    simp [shortMac]
  exact Reaches.modify_bind Reaches.pure

/-- The IV of the response to the last command. -/
def responseIv (P : Primitives) (s : Session) : Bytes :=
  P.encrypt s.encryptionKey (zeros aesBlockSize)
    (ivInput responseLabel s.authentication.transactionIdentifier s.counter)

/-- The encrypted field of one Full response under the session's counter. -/
def responseCiphertext (P : Primitives) (s : Session) (data : Bytes) : Bytes :=
  P.encrypt s.encryptionKey
    (P.encrypt s.encryptionKey (zeros aesBlockSize)
      (ivInput responseLabel s.authentication.transactionIdentifier s.counter))
    (Padding.pad 0x00 0x80 aesBlockSize data)

/-- The data that one encrypted field stands for when a size is expected. -/
inductive Plaintext (P : Primitives) (s : Session) (expectedSize : Option Nat) : Bytes → Bytes → Prop
  | empty (hsize : expectedSize = none ∨ expectedSize = some 0) : Plaintext P s expectedSize [] []
  | blocks {ciphertext data : Bytes} {n : Nat} (hne : ciphertext ≠ [])
      (hblocks : ciphertext.length % aesBlockSize = 0) (hn : n < aesBlockSize)
      (hclear : P.decrypt s.encryptionKey (s.responseIv P) ciphertext = data ++ 0x80 :: List.replicate n 0x00)
      (hsize : ∀ size ∈ expectedSize, data.length = size) : Plaintext P s expectedSize ciphertext data

theorem yields_decryptedResponse (hP : Computes o P) (hphase : s.phase = .awaitingResponse)
    {expectedSize : Option Nat} {ciphertext data : Bytes} (hplain : Plaintext P s expectedSize ciphertext data) :
    Yields o (verifyAndDecryptFullResponse ⟨0x00,ciphertext ++
        shortMac P s.macKey (s.macInput 0x00 ciphertext)⟩ expectedSize) s data s.resume := by
  refine Reaches.quiet_bind (yields_verifyResponse hP hphase) ?_
  refine Reaches.get_bind ?_
  cases hplain with
  | empty hsize =>
    rw [if_pos ⟨rfl,hsize⟩]
    exact Reaches.pure
  | @blocks _ _ n hne hblocks hn hclear hsize =>
    rw [if_neg (fun h => hne h.1)]
    refine Op.reaches_refuseAfter_bind (by simp [hne,hblocks]) ?_
    refine Op.reaches_catchAll ?_
    refine Reaches.quiet_bind (Op.reaches_mapError (yields_vector hP s rfl)) ?_
    refine Reaches.quiet_bind (Op.reaches_mapError (hP.yields_decrypt s.encryptionKeySize (length_vector P s rfl)
      hblocks rfl)) ?_
    have hplain : P.decrypt s.resume.encryptionKey (s.responseIv P) ciphertext =
        data ++ 0x80 :: List.replicate n 0x00 := hclear
    unfold responseIv at hplain
    rw [hplain,Padding.unpad_append (by decide) hn]
    refine Op.reaches_refuseAfter_bind ?_ Reaches.pure
    rintro ⟨size,hmem,hdiffers⟩
    exact hdiffers (hsize size hmem)

theorem yields_verifyAndDecryptFullResponse (hP : Computes o P) (hphase : s.phase = .awaitingResponse)
    {data : Bytes} {expectedSize : Option Nat} (hsize : ∀ size ∈ expectedSize, data.length = size) :
    Yields o (verifyAndDecryptFullResponse ⟨0x00,s.responseCiphertext P data ++
        shortMac P s.macKey (s.macInput 0x00 (s.responseCiphertext P data))⟩ expectedSize)
      s data s.resume := by
  have hlength : (s.responseCiphertext P data).length =
      (Padding.pad (0x00 : Byte) 0x80 aesBlockSize data).length := P.length_encrypt ..
  have hblocks := Padding.length_pad_mod (0x00 : Byte) 0x80 (show 0 < aesBlockSize by decide) data
  have hpositive := Padding.length_pad_pos (0x00 : Byte) 0x80 aesBlockSize data
  have hne : s.responseCiphertext P data ≠ [] := by
    intro hnil
    rw [hnil,List.length_nil] at hlength
    omega
  have hclear : P.decrypt s.encryptionKey (s.responseIv P) (s.responseCiphertext P data) =
      Padding.pad 0x00 0x80 aesBlockSize data := P.decrypt_encrypt _ _ _ hblocks
  have hfill := Padding.fill_lt (show 0 < aesBlockSize by decide) data.length
  exact yields_decryptedResponse hP hphase (.blocks hne (hlength ▸ hblocks) hfill hclear hsize)

/-- An honest empty answer may come without any block. -/
theorem yields_verifyAndDecryptFullResponse_nil (hP : Computes o P)
    (hphase : s.phase = .awaitingResponse) {expectedSize : Option Nat}
    (hsize : expectedSize = none ∨ expectedSize = some 0) :
    Yields o (verifyAndDecryptFullResponse ⟨0x00,shortMac P s.macKey (s.macInput 0x00 [])⟩ expectedSize)
      s [] s.resume := by
  have hplain : Plaintext P s expectedSize [] [] := .empty hsize
  have hyields := yields_decryptedResponse hP hphase hplain
  rw [List.nil_append] at hyields
  exact hyields

end Yields
end Session
end DesfireSdk.Security.Ev2
