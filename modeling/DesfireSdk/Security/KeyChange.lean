import DesfireSdk.Native.Checked.Builders
import DesfireSdk.Security.Ev2.Interoperation
import DesfireSdk.Security.StandardAes.Interoperation

/-! ChangeKey from the builder through both session families to a card that opens its cryptogram. -/
namespace DesfireSdk.Security.KeyChange
open Interaction Program Model Native.Checked

/-- The place of a key: its set where one is named, its number, and the flag of the PICC master key. -/
structure Target where
  keySet : Option Byte
  number : Byte
  piccMasterKey : Bool
  deriving DecidableEq

/-- The target is another key than the authenticated one, or a key of a nonzero key set. -/
def Target.Crosses (authenticated : Byte) (target : Target) : Prop :=
  target.number ≠ authenticated ∨ target.keySet.getD 0 ≠ 0

instance (authenticated : Byte) (target : Target) : Decidable (target.Crosses authenticated) :=
  inferInstanceAs (Decidable (_ ∨ _))

/-- A card that holds an old key in the target's place. -/
structure Card where
  authenticated : Byte
  held : Bytes

namespace Card

def headerSize (opcode : Byte) : Nat := if opcode = 0xC6 then 2 else 1

/-- The target that a received header names. -/
def target (opcode : Byte) (header : Bytes) : Option Target :=
  match header with
  | [selector] =>
    if opcode = 0xC4 then some ⟨none,selector &&& 0x3F,selector &&& 0x80 != 0⟩ else none
  | [set,selector] =>
    if opcode = 0xC6 then some ⟨some set,selector &&& 0x3F,selector &&& 0x80 != 0⟩ else none
  | _ => none

/-- The new key and its version: the old key comes off and the CRC of the new key is checked exactly where
the target is another key. -/
def uncover (card : Card) (target : Target) (data : Bytes) : Option (Bytes × Byte) :=
  match data.drop 16 with
  | [] => none
  | version :: trailer =>
    if target.Crosses card.authenticated then
      let newKey := StandardAes.xorBytes (data.take 16) card.held
      if newKey.length = 16 ∧ trailer = putLe (crc32 newKey) 4 then some (newKey,version) else none
    else if trailer = [] then some (data.take 16,version)
    else none

/-- The size of the key data a card expects. -/
def dataSize (card : Card) (target : Target) : Nat :=
  if target.Crosses card.authenticated then 21 else 17

/-- A card at the end of a Standard AES session, which checks the command's CRC. -/
def receiveStandardAes (P : Primitives) (card : Card) (peer : StandardAes.Peer) (opcode : Byte)
    (wire : Bytes) : Option (Target × Bytes × Byte) := do
  let target ← target opcode (wire.take (headerSize opcode))
  let ((_,data),_) ← peer.receive P .full opcode (headerSize opcode) (card.dataSize target) wire
  let recovered ← card.uncover target data
  some (target,recovered)

/-- A card at the end of an EV2 session. -/
def receiveEv2 (P : Primitives) (card : Card) (peer : Ev2.Peer) (opcode : Byte) (wire : Bytes) :
    Option (Target × Bytes × Byte) := do
  let target ← target opcode (wire.take (headerSize opcode))
  let (_,data) ← peer.receive P .full opcode (headerSize opcode) wire
  let recovered ← card.uncover target data
  some (target,recovered)

end Card

/-- The arguments of one key change. -/
structure Change where
  key : KeyNumber
  newKey : Bytes
  version : Byte
  authenticatedKey : KeyNumber
  oldKey : Bytes
  keySet : Option Byte
  piccMasterKey : Bool

namespace Change

def build (change : Change) : Result Command :=
  changeAesKey change.key change.newKey change.version change.authenticatedKey change.oldKey change.keySet
    change.piccMasterKey

def target (change : Change) : Target :=
  ⟨change.keySet,UInt8.ofNat change.key.value,change.piccMasterKey⟩

/-- Another key is changed, or a key of a nonzero key set. -/
def Crosses (change : Change) : Prop := change.key ≠ change.authenticatedKey ∨ change.keySet.getD 0 ≠ 0

/-- What the builder asks of its arguments besides the old key. -/
structure WellFormed (change : Change) : Prop where
  newKey : change.newKey.length = 16
  keySet : ∀ set ∈ change.keySet, set ≤ 15
  piccMasterKey : change.piccMasterKey = true → change.key.value = 0

/-- The old key is there exactly where it is mixed in. -/
structure OldKeyFits (change : Change) : Prop where
  crossing : change.Crosses → change.oldKey.length = 16
  current : ¬change.Crosses → change.oldKey = []

def selector (change : Change) : Byte :=
  UInt8.ofNat change.key.value ||| (if change.piccMasterKey then 0x80 else 0)

def opcode (change : Change) : Byte := if change.keySet.isSome then 0xC6 else 0xC4

def header (change : Change) : Bytes := change.keySet.toList ++ [change.selector]

/-- The seventeen bytes that the command's CRC covers. -/
def body (change : Change) : Bytes :=
  (if change.oldKey = [] then change.newKey else StandardAes.xorBytes change.newKey change.oldKey) ++
    [change.version]

/-- The CRC of the new key behind a mixed key. -/
def trailer (change : Change) : Bytes :=
  if change.oldKey = [] then [] else putLe (crc32 change.newKey) 4

end Change

section Builder
variable {change : Change} {c : Command}

theorem Change.crosses_iff (change : Change) :
    change.Crosses ↔ ¬(change.key = change.authenticatedKey ∧ change.keySet.getD 0 = 0) := by
  unfold Change.Crosses
  tauto

/-- Key numbers are told apart by their bytes. -/
theorem Change.crosses_target (change : Change) :
    change.target.Crosses (UInt8.ofNat change.authenticatedKey.value) ↔ change.Crosses := by
  have hbytes : UInt8.ofNat change.key.value = UInt8.ofNat change.authenticatedKey.value ↔
      change.key = change.authenticatedKey := by
    constructor
    · intro h
      have hvalues := congrArg UInt8.toNat h
      have hkey := change.key.bounded
      have hauthenticated := change.authenticatedKey.bounded
      simp only [UInt8.toNat_ofNat'] at hvalues
      apply Number.ext
      omega
    · intro h
      rw [h]
  unfold Target.Crosses Change.Crosses Change.target
  rw [ne_eq,ne_eq,hbytes]

theorem Change.OldKeyFits.empty_iff (h : change.OldKeyFits) : change.oldKey = [] ↔ ¬change.Crosses := by
  constructor
  · intro hempty hcrosses
    have hlength := h.crossing hcrosses
    rw [hempty] at hlength
    exact absurd hlength (by decide)
  · exact h.current

theorem Change.oldKeyFits_iff (change : Change) : change.OldKeyFits ↔
    ¬((¬change.Crosses ∧ change.oldKey ≠ []) ∨ (change.Crosses ∧ change.oldKey.length ≠ 16)) := by
  constructor
  · rintro h (⟨hcurrent,hold⟩ | ⟨hcrosses,hold⟩)
    · exact hold (h.current hcurrent)
    · exact hold (h.crossing hcrosses)
  · intro h
    constructor
    · intro hcrosses
      by_contra hold
      exact h (.inr ⟨hcrosses,hold⟩)
    · intro hcurrent
      by_contra hold
      exact h (.inl ⟨hcurrent,hold⟩)

theorem Change.wellFormed_iff (change : Change) : change.WellFormed ↔
    ¬(change.newKey.length ≠ 16 ∨ (∃ set ∈ change.keySet, 15 < set) ∨
      (change.piccMasterKey ∧ change.key.value ≠ 0)) := by
  constructor
  · rintro ⟨hkey,hset,hmaster⟩ (h | ⟨set,hmem,h⟩ | ⟨h,hvalue⟩)
    · exact h hkey
    · exact absurd (hset set hmem) (UInt8.not_le.mpr h)
    · exact hvalue (hmaster h)
  · intro h
    refine ⟨?_,fun set hmem => ?_,fun hmaster => ?_⟩
    · by_contra hkey
      exact h (.inl hkey)
    · by_contra hset
      exact h (.inr (.inl ⟨set,hmem,UInt8.not_le.mp hset⟩))
    · by_contra hvalue
      exact h (.inr (.inr ⟨hmaster,hvalue⟩))

/-- The builder takes an old key exactly where it is mixed in. -/
theorem Change.build_isOk (change : Change) :
    (∃ c, change.build = .ok c) ↔ change.WellFormed ∧ change.OldKeyFits := by
  rw [change.wellFormed_iff,change.oldKeyFits_iff,change.crosses_iff]
  unfold Change.build changeAesKey
  constructor
  · rintro ⟨c,h⟩
    split at h
    · cases h
    · rename_i hformed
      simp only at h
      split at h
      · cases h
      · rename_i hold
        exact ⟨hformed,fun hfits => hold (by rwa [not_not] at hfits)⟩
  · rintro ⟨hformed,hold⟩
    rw [if_neg hformed]
    simp only
    rw [if_neg (by rwa [not_not] at hold)]
    exact ⟨_,rfl⟩

/-- The parts of a built command. -/
structure Change.Parts (change : Change) (c : Command) : Prop where
  formed : change.WellFormed
  fits : change.OldKeyFits
  opcode : c.opcode = change.opcode
  header : c.header = change.header
  data : c.data = change.body ++ change.trailer

theorem Change.parts (h : change.build = .ok c) : change.Parts c := by
  obtain ⟨hformed,hfits⟩ := change.build_isOk.mp ⟨c,h⟩
  have hempty := hfits.empty_iff
  rw [change.crosses_iff,not_not] at hempty
  unfold Change.build changeAesKey at h
  rw [if_neg (change.wellFormed_iff.mp hformed)] at h
  simp only at h
  split at h
  · cases h
  · cases h
    refine ⟨hformed,hfits,rfl,rfl,?_⟩
    unfold Change.body Change.trailer
    dsimp only
    by_cases hold : change.oldKey = []
    · rw [if_pos (hempty.mp hold),if_pos hold,if_pos hold,List.append_nil]
    · rw [if_neg fun h => hold (hempty.mpr h),if_neg hold,if_neg hold]
      rfl

theorem Change.length_body (hformed : change.WellFormed) (hfits : change.OldKeyFits) :
    change.body.length = 17 := by
  unfold Change.body
  split
  · rw [List.length_append,hformed.newKey]
    rfl
  · rename_i hold
    have hcrosses := not_not.mp (mt hfits.empty_iff.mpr hold)
    rw [StandardAes.xorBytes,List.length_append,List.length_zipWith,hformed.newKey,hfits.crossing hcrosses]
    rfl

theorem Change.length_trailer (change : Change) :
    change.trailer.length = if change.oldKey = [] then 0 else 4 := by
  unfold Change.trailer
  split
  · rfl
  · rw [length_putLe]

end Builder

section Recovery
variable {change : Change} {c : Command} {card : Card}

/-- The number and the flag come back out of the selector byte. -/
theorem Change.selector_parts (change : Change) :
    change.selector &&& 0x3F = UInt8.ofNat change.key.value ∧
      (change.selector &&& 0x80 != 0) = change.piccMasterKey := by
  have hall : ∀ bits : BitVec 8, UInt8.ofBitVec bits ≤ 63 → ∀ master : Bool,
      (UInt8.ofBitVec bits ||| (if master then 0x80 else 0)) &&& 0x3F = UInt8.ofBitVec bits ∧
      ((UInt8.ofBitVec bits ||| (if master then 0x80 else 0)) &&& 0x80 != 0) = master := by decide +kernel
  have hbound : UInt8.ofNat change.key.value ≤ 63 := by
    have hkey := change.key.bounded
    rw [UInt8.le_iff_toNat_le,UInt8.toNat_ofNat']
    change _ ≤ 63
    omega
  exact hall (UInt8.ofNat change.key.value).toBitVec hbound change.piccMasterKey

theorem Change.length_header (change : Change) : change.header.length = Card.headerSize change.opcode := by
  unfold Change.header Change.opcode Card.headerSize
  cases change.keySet <;> rfl

/-- A card reads the target out of the header. -/
theorem Change.target_header (change : Change) :
    Card.target change.opcode change.header = some change.target := by
  obtain ⟨hnumber,hflag⟩ := change.selector_parts
  unfold Change.header Change.opcode Change.target
  cases hset : change.keySet with
  | none =>
    change (if (0xC4 : Byte) = 0xC4 then some (Target.mk none _ _) else none) = _
    rw [if_pos rfl,hnumber,hflag]
  | some set =>
    change (if (0xC6 : Byte) = 0xC6 then some (Target.mk (some set) _ _) else none) = _
    rw [if_pos rfl,hnumber,hflag]

theorem xorBytes_cancel (left right : Bytes) (h : left.length ≤ right.length) :
    StandardAes.xorBytes (StandardAes.xorBytes left right) right = left := by
  unfold StandardAes.xorBytes
  induction left generalizing right with
  | nil => rfl
  | cons a left ih =>
    cases right with
    | nil => simp at h
    | cons b right =>
      have hrest := ih right (Nat.le_of_succ_le_succ h)
      have hfirst : a ^^^ b ^^^ b = a := by rw [UInt8.xor_assoc,UInt8.xor_self,UInt8.xor_zero]
      rw [List.zipWith_cons_cons,List.zipWith_cons_cons,hrest,hfirst]

/-- A card that holds the old key where it is mixed in. -/
structure Card.Serves (card : Card) (change : Change) : Prop where
  authenticated : card.authenticated = UInt8.ofNat change.authenticatedKey.value
  held : change.Crosses → card.held = change.oldKey

/-- The new key and its version come back out of the key data. -/
theorem Card.Serves.uncover (hserves : card.Serves change) (hformed : change.WellFormed)
    (hfits : change.OldKeyFits) :
    card.uncover change.target (change.body ++ change.trailer) = some (change.newKey,change.version) := by
  have hempty := hfits.empty_iff
  have htarget := change.crosses_target
  rw [← hserves.authenticated] at htarget
  unfold Change.body Change.trailer Card.uncover
  by_cases hold : change.oldKey = []
  · have hcurrent : ¬change.target.Crosses card.authenticated := mt htarget.mp (hempty.mp hold)
    rw [if_pos hold,if_pos hold,List.append_nil,← hformed.newKey,List.drop_left,List.take_left]
    dsimp only
    rw [if_neg hcurrent,if_pos rfl]
  · have hcrosses := not_not.mp (mt hempty.mpr hold)
    have hlength := hfits.crossing hcrosses
    have hmixed : (StandardAes.xorBytes change.newKey change.oldKey).length = 16 := by
      rw [StandardAes.xorBytes,List.length_zipWith,hformed.newKey,hlength]
      rfl
    have hback := xorBytes_cancel change.newKey change.oldKey (Nat.le_of_eq (hformed.newKey.trans hlength.symm))
    rw [if_neg hold,if_neg hold,List.append_assoc]
    generalize hmix : StandardAes.xorBytes change.newKey change.oldKey = mixed at hmixed hback ⊢
    rw [← hmixed,List.drop_left,List.take_left,List.singleton_append]
    dsimp only
    rw [if_pos (htarget.mpr hcrosses),hserves.held hcrosses,hback,if_pos ⟨hformed.newKey.trans hmixed.symm,rfl⟩]

/-- The size of the key data is the one a card expects. -/
theorem Card.Serves.dataSize (hserves : card.Serves change) (hparts : change.Parts c) :
    card.dataSize change.target = c.data.length := by
  have hempty := hparts.fits.empty_iff
  have htarget := change.crosses_target
  rw [← hserves.authenticated] at htarget
  rw [hparts.data,List.length_append,change.length_body hparts.formed hparts.fits,change.length_trailer]
  unfold Card.dataSize
  by_cases hold : change.oldKey = []
  · rw [if_pos hold,if_neg (mt htarget.mp (hempty.mp hold))]
  · rw [if_neg hold,if_pos (htarget.mpr (not_not.mp (mt hempty.mpr hold)))]

/-- Key data is short and never empty. -/
theorem Change.Parts.sizes (h : change.Parts c) :
    c.data ≠ [] ∧ c.header.length ≤ 2 ∧ 17 ≤ c.data.length ∧ c.data.length ≤ 21 := by
  have hbody := change.length_body h.formed h.fits
  have htrailer := change.length_trailer
  have hlength : c.data.length = 17 + change.trailer.length := by
    rw [h.data,List.length_append,hbody]
  have hheader : c.header.length ≤ 2 := by
    rw [h.header,change.length_header]
    unfold Card.headerSize
    split <;> decide
  have hbound : change.trailer.length ≤ 4 := by
    rw [htrailer]
    split <;> decide
  refine ⟨?_,hheader,by omega,by omega⟩
  intro hnil
  rw [hnil,List.length_nil] at hlength
  omega

end Recovery

section Sessions
variable {change : Change} {c : Command} {card : Card} {o : Oracle Environment} {P : Primitives}

/-- A short command fits the checks of a Standard AES session. -/
theorem standardAes_fits (command : Byte) {header data : Bytes} (hdata : data ≠ []) (hheader : header.length ≤ 2)
    (hsize : data.length ≤ 21) : StandardAes.Session.FullFits command header data := by
  have hpadded : (StandardAes.Session.fullPlaintext command header data).length ≤ data.length + 19 := by
    simp only [StandardAes.Session.fullPlaintext,List.length_append,List.length_take,List.length_drop,
      length_putLe,length_zeros,StandardAes.aesBlockSize,StandardAes.crcSize]
    split <;> omega
  unfold StandardAes.Session.FullFits
  rw [if_neg hdata]
  unfold sizeMax StandardAes.crcSize StandardAes.aesBlockSize
  omega

/-- A short command fits the checks of an EV2 session. -/
theorem ev2_fits {header data : Bytes} (hdata : data ≠ []) (hheader : header.length ≤ 2)
    (hsize : data.length ≤ 21) : Ev2.Session.FullFits header data := by
  have hfill := Padding.fill_lt (show 0 < Ev2.aesBlockSize by decide) data.length
  have hpadded : (Padding.pad (0x00 : Byte) 0x80 Ev2.aesBlockSize data).length ≤ data.length + 16 := by
    simp only [Padding.pad,List.length_append,List.length_cons,List.length_replicate]
    unfold Ev2.aesBlockSize at hfill ⊢
    omega
  unfold Ev2.Session.FullFits Ev2.Session.MacFits
  rw [if_neg hdata]
  unfold sizeMax Ev2.aesBlockSize Ev2.transmittedMacSize at *
  omega

theorem Change.Parts.headerSize (h : change.Parts c) : Card.headerSize c.opcode = c.header.length := by
  rw [h.opcode,h.header,change.length_header]

/-- A wire that starts with the header names the target. -/
theorem Change.Parts.target (h : change.Parts c) (field : Bytes) :
    Card.target c.opcode ((c.header ++ field).take (Card.headerSize c.opcode)) = some change.target := by
  rw [h.headerSize,List.take_left,h.opcode,h.header,change.target_header]

/-- A card recovers the key from the cryptogram of a Standard AES session. -/
theorem standardAes_recovered (hparts : change.Parts c) (hserves : card.Serves change) (hP : Computes o P)
    {host : StandardAes.Session} {peer : StandardAes.Peer} (hshared : StandardAes.Shared host peer)
    (hready : host.phase = .ready) :
    ∃ wire host', Yields o (StandardAes.Session.prepareFull c.opcode c.header c.data) host wire host' ∧
      card.receiveStandardAes P peer c.opcode wire = some (change.target,change.newKey,change.version) := by
  obtain ⟨hdata,hheader,_,hsize⟩ := hparts.sizes
  have hfits := standardAes_fits c.opcode hdata hheader hsize
  refine ⟨_,_,StandardAes.Session.yields_prepareFull hP hready hdata hfits,?_⟩
  have hreceived := StandardAes.Peer.receive_full P peer c.opcode c.header hdata
  rw [← hshared.sessionKey,← hshared.iv] at hreceived
  have hrecovered := hserves.uncover hparts.formed hparts.fits
  rw [← hparts.data] at hrecovered
  unfold Card.receiveStandardAes
  rw [hparts.target]
  simp only [Option.bind_eq_bind,Option.bind_some,hserves.dataSize hparts]
  rw [hparts.headerSize,hreceived]
  simp only [Option.bind_some,hrecovered]

/-- A card recovers the key from the cryptogram of an EV2 session. -/
theorem ev2_recovered (hparts : change.Parts c) (hserves : card.Serves change) (hP : Computes o P)
    {host : Ev2.Session} {peer : Ev2.Peer} (hshared : Ev2.Shared host peer) (hopen : host.Open) :
    ∃ wire host', Yields o (Ev2.Session.prepareFull c.opcode c.header c.data) host wire host' ∧
      card.receiveEv2 P peer c.opcode wire = some (change.target,change.newKey,change.version) := by
  obtain ⟨hdata,hheader,_,hsize⟩ := hparts.sizes
  have hfits := ev2_fits hdata hheader hsize
  refine ⟨_,_,Ev2.Session.yields_prepareFull hP hopen hdata hfits,?_⟩
  have hreceived := Ev2.Peer.receive_full P peer c.opcode c.header c.data
  have hrecovered := hserves.uncover hparts.formed hparts.fits
  rw [← hparts.data] at hrecovered
  rw [hshared.macInput,hshared.macKey,hshared.enciphered,List.append_assoc]
  unfold Card.receiveEv2
  rw [hparts.target]
  rw [← List.append_assoc]
  simp only [Option.bind_eq_bind,Option.bind_some]
  rw [hparts.headerSize,hreceived]
  simp only [Option.bind_some,hrecovered]

end Sessions

section Layout
variable {change : Change} {c : Command} {opcode : Byte} {header data : Bytes} {mode : CommunicationMode}
  {reading : Bool} {minimum maximum : Nat}

/-- The enciphered field of a Standard AES session: the body, the command's CRC over it, what trails the
CRC, and zeros. -/
def Laid (c : Command) (body trailer : Bytes) : Prop :=
  c.data = body ++ trailer ∧ StandardAes.Session.fullPlaintext c.opcode c.header c.data =
    body ++ putLe (crc32 (c.opcode :: (c.header ++ body))) 4 ++ trailer ++
      zeros (StandardAes.Peer.paddingSize (c.data.length + 4))

/-- The session recognises a key change by its opcode and its length. -/
theorem laid_recognised {body trailer : Bytes} (hdata : c.data = body ++ trailer)
    (htrailer : trailer.length = StandardAes.Peer.trailerSize c.opcode c.data.length) : Laid c body trailer := by
  have hlength : c.data.length = body.length + trailer.length := by
    rw [hdata,List.length_append]
  have hbody : c.data.length - StandardAes.Peer.trailerSize c.opcode c.data.length = body.length := by omega
  have htaken : c.data.take body.length = body := by rw [hdata,List.take_left]
  have hdropped : c.data.drop body.length = trailer := by rw [hdata,List.drop_left]
  have hplain := StandardAes.Peer.fullPlaintext_eq c.opcode c.header c.data
  simp only [hbody,htaken,hdropped] at hplain
  refine ⟨hdata,hplain.trans ?_⟩
  congr 2
  unfold StandardAes.Peer.paddingSize StandardAes.crcSize StandardAes.aesBlockSize
  omega

theorem management_other (hopcode : opcode ≠ 0xC4 ∧ opcode ≠ 0xC6)
    (h : (.ok (management opcode header minimum maximum) : Result Command) = .ok c) :
    c.opcode ≠ 0xC4 ∧ c.opcode ≠ 0xC6 := by
  cases h
  exact hopcode

theorem fileCommand_other (hopcode : opcode ≠ 0xC4 ∧ opcode ≠ 0xC6)
    (h : fileCommand opcode header data mode reading minimum maximum = .ok c) :
    c.opcode ≠ 0xC4 ∧ c.opcode ≠ 0xC6 := by
  unfold fileCommand at h
  split at h
  · cases h
  · cases h
    exact hopcode

/-- Only the ChangeKey builder uses the two opcodes. -/
theorem built_other (h : Built c) :
    (∃ change : Change, change.build = .ok c) ∨ (c.opcode ≠ 0xC4 ∧ c.opcode ≠ 0xC6) := by
  cases h with
  | changeAesKey key newKey version authenticated oldKey keySet master h =>
    exact .inl ⟨⟨key,newKey,version,authenticated,oldKey,keySet,master⟩,h⟩
  | getApplicationIds h | getDfNames h | getIsoFileIds h | getVersion h | freeMemory h | getFileIds h
  | getKeySettings h | getKeySetVersions h | abortTransaction h | deleteFile _ h | getFileSettings _ h
  | clearRecordFile _ h => exact .inr (management_other (by decide) h)
  | getDelegatedApplicationInfo _ h | readOriginalitySignature h | formatPicc h | setPiccConfiguration _ h
  | setCapabilityConfiguration _ h | setAtqa _ h =>
    cases h
    exact .inr ⟨by simp [management,configuration],by simp [management,configuration]⟩
  | changeKeySettings _ h | getValue _ _ h => exact .inr (fileCommand_other (by decide) h)
  | createApplication settings h =>
    cases htail : applicationTail settings <;> simp only [createApplication,htail] at h
    · cases h
    · exact .inr (management_other (by decide) h)
  | createDelegatedApplication settings encK mac h =>
    unfold createDelegatedApplication at h
    split at h
    · cases h
    cases htail : applicationTail settings.application <;> simp only [htail] at h <;> cases h
    exact .inr ⟨by simp [management],by simp [management]⟩
  | createDataFile settings h | createRecordFile settings h =>
    simp only [createDataFile,createRecordFile] at h
    split at h
    · cases h
    refine .inr (management_other ?_ h)
    split <;> decide
  | deleteApplication _ h | createValueFile _ h =>
    simp only [deleteApplication,createValueFile] at h
    split at h
    · cases h
    exact .inr (management_other (by decide) h)
  | commitTransaction receipt h =>
    cases receipt
    · exact .inr (management_other (by decide) h)
    · exact .inr (management_other (by decide) h)
  | deleteDelegatedApplication _ _ h | setDefaultAesKey _ _ h | setAts _ h
  | createTransactionMacFile _ _ _ _ h | initializeKeySet _ h | finalizeKeySet _ _ h | rollKeySet _ h
  | commitReaderId _ h =>
    simp only [deleteDelegatedApplication,setDefaultAesKey,setAts,createTransactionMacFile,
      initializeKeySet,finalizeKeySet,rollKeySet,commitReaderId] at h
    split at h
    · cases h
    cases h
    exact .inr ⟨by simp [management,configuration],by simp [management,configuration]⟩
  | getCardUid request h =>
    cases request
    · exact .inr (fileCommand_other (by decide) h)
    · exact .inr (fileCommand_other (by decide) h)
    · exact .inr (fileCommand_other (by decide) h)
    · cases h
  | getFileCounters _ _ h | readData _ _ _ _ h | writeData _ _ _ _ h | readRecords _ _ _ _ _ h
  | writeRecord _ _ _ _ h | updateRecord _ _ _ _ _ h | credit _ _ _ h | debit _ _ _ h
  | limitedCredit _ _ _ h | restoreTransfer _ _ _ h =>
    simp only [getFileCounters,readData,writeData,readRecords,writeRecord,updateRecord,credit,debit,
      limitedCredit,valueChange,restoreTransfer] at h
    split at h
    · cases h
    exact .inr (fileCommand_other (by decide) h)
  | changeFileSettings _ h =>
    unfold changeFileSettings at h
    split at h
    · cases h
    split at h
    · cases h
    exact .inr (fileCommand_other (by decide) h)
  | getKeyVersion key keySet h =>
    cases keySet with
    | none => exact .inr (management_other (by decide) h)
    | some set =>
      simp only [getKeyVersion] at h
      split at h
      · cases h
      exact .inr (management_other (by decide) h)

/-- The command changes another key. -/
def ChangesAnotherKey (c : Command) : Prop := ∃ change : Change, change.build = .ok c ∧ change.Crosses

theorem Change.Parts.opcode_cases (h : change.Parts c) : c.opcode = 0xC4 ∨ c.opcode = 0xC6 := by
  rw [h.opcode]
  unfold Change.opcode
  split
  · exact .inr rfl
  · exact .inl rfl

theorem Change.Parts.length_data (h : change.Parts c) :
    c.data.length = 21 ↔ change.Crosses := by
  have hempty := h.fits.empty_iff
  rw [h.data,List.length_append,change.length_body h.formed h.fits,change.length_trailer]
  by_cases hold : change.oldKey = []
  · rw [if_pos hold]
    exact iff_of_false (by decide) (hempty.mp hold)
  · rw [if_neg hold]
    exact iff_of_true rfl (not_not.mp (mt hempty.mpr hold))

/-- Among the built commands, the opcode and the length tell the changes of another key. -/
theorem changesAnotherKey_iff (h : Built c) :
    ChangesAnotherKey c ↔ (c.opcode = 0xC4 ∨ c.opcode = 0xC6) ∧ c.data.length = 21 := by
  constructor
  · rintro ⟨change,hbuild,hcrosses⟩
    have hparts := change.parts hbuild
    exact ⟨hparts.opcode_cases,hparts.length_data.mpr hcrosses⟩
  · rintro ⟨hopcode,hlength⟩
    rcases built_other h with ⟨change,hbuild⟩ | ⟨hfirst,hsecond⟩
    · exact ⟨change,hbuild,(change.parts hbuild).length_data.mp hlength⟩
    · rcases hopcode with hopcode | hopcode
      · exact absurd hopcode hfirst
      · exact absurd hopcode hsecond

/-- The command's CRC stands before the CRC of the new key. -/
theorem laid_crossing (hbuild : change.build = .ok c) (hcrosses : change.Crosses) :
    Laid c change.body (putLe (crc32 change.newKey) 4) := by
  have hparts := change.parts hbuild
  have hold : change.oldKey ≠ [] := fun h => hparts.fits.empty_iff.mp h hcrosses
  have htrailer : change.trailer = putLe (crc32 change.newKey) 4 := if_neg hold
  rw [← htrailer]
  apply laid_recognised hparts.data
  rw [change.length_trailer,if_neg hold]
  exact (if_pos ⟨hparts.opcode_cases,hparts.length_data.mpr hcrosses⟩).symm

/-- In every other built command the command's CRC stands behind the data. -/
theorem laid_plain (h : Built c) (hother : ¬ChangesAnotherKey c) : Laid c c.data [] := by
  rw [changesAnotherKey_iff h] at hother
  exact laid_recognised (List.append_nil _).symm (if_neg hother).symm

end Layout

/-- Every change of a key: the builder takes an old key exactly where a card mixes it in, a card recovers
the key and its version from the cryptogram of either session family, and a Standard AES session moves the
CRC of a built command before a trailer exactly for the changes of another key. -/
theorem key_changes_recovered :
    (∀ change : Change, (∃ c, change.build = .ok c) ↔ change.WellFormed ∧ change.OldKeyFits) ∧
    (∀ (change : Change) (c : Command) (card : Card) (o : Oracle Environment) (P : Primitives),
      change.build = .ok c → card.Serves change → Computes o P →
      (∀ host peer, StandardAes.Shared host peer → host.phase = .ready → ∃ wire host',
        Yields o (StandardAes.Session.prepareFull c.opcode c.header c.data) host wire host' ∧
        card.receiveStandardAes P peer c.opcode wire = some (change.target,change.newKey,change.version)) ∧
      (∀ host peer, Ev2.Shared host peer → host.Open → ∃ wire host',
        Yields o (Ev2.Session.prepareFull c.opcode c.header c.data) host wire host' ∧
        card.receiveEv2 P peer c.opcode wire = some (change.target,change.newKey,change.version))) ∧
    (∀ c, Built c →
      (ChangesAnotherKey c ↔ (c.opcode = 0xC4 ∨ c.opcode = 0xC6) ∧ c.data.length = 21) ∧
      (∀ change : Change, change.build = .ok c → change.Crosses →
        Laid c change.body (putLe (crc32 change.newKey) 4)) ∧
      (¬ChangesAnotherKey c → Laid c c.data [])) := by
  refine ⟨Change.build_isOk,?_,?_⟩
  · intro change c card o P hbuild hserves hP
    have hparts := change.parts hbuild
    constructor
    · intro host peer hshared hready
      exact standardAes_recovered hparts hserves hP hshared hready
    · intro host peer hshared hopen
      exact ev2_recovered hparts hserves hP hshared hopen
  · intro c h
    exact ⟨changesAnotherKey_iff h,fun change hbuild hcrosses => laid_crossing hbuild hcrosses,laid_plain h⟩

/-- Key 2 is changed under key 0, in both session families. -/
theorem key_changes_recovered_crossing :
    let change : Change := ⟨⟨2,by decide⟩,zeros 16,0x10,⟨0,by decide⟩,List.replicate 16 0x11,none,false⟩
    let card : Card := ⟨0,List.replicate 16 0x11⟩
    ∃ c, change.build = .ok c ∧ Laid c change.body (putLe (crc32 (zeros 16)) 4) ∧
      (∃ wire host', Yields (scripted {}) (StandardAes.Session.prepareFull c.opcode c.header c.data)
          ⟨zeros 16,zeros 16,.ready,rfl,rfl⟩ wire host' ∧
        card.receiveStandardAes .echo ⟨zeros 16,zeros 16⟩ c.opcode wire = some (⟨none,2,false⟩,zeros 16,0x10)) ∧
      ∃ wire host', Yields (scripted {}) (Ev2.Session.prepareFull c.opcode c.header c.data)
          ⟨zeros 16,zeros 16,{},0,.ready,rfl,rfl⟩ wire host' ∧
        card.receiveEv2 .echo ⟨zeros 16,zeros 16,zeros 4,0⟩ c.opcode wire = some (⟨none,2,false⟩,zeros 16,0x10) := by
  intro change card
  obtain ⟨haccepted,hrecovered,hlaid⟩ := key_changes_recovered
  have hcrosses : change.Crosses := .inl (by decide)
  obtain ⟨c,hbuild⟩ := (haccepted change).mpr
    ⟨⟨rfl,by rintro _ ⟨⟩,by decide⟩,⟨fun _ => rfl,fun h => absurd hcrosses h⟩⟩
  obtain ⟨hstandard,hev2⟩ := hrecovered change c card (scripted {}) .echo hbuild ⟨rfl,fun _ => rfl⟩
    (scripted_computes _ rfl rfl)
  obtain ⟨_,hbefore,_⟩ := hlaid c (.changeAesKey _ _ _ _ _ _ _ hbuild)
  refine ⟨c,hbuild,hbefore change hbuild hcrosses,?_,?_⟩
  · exact hstandard _ _ ⟨rfl,rfl⟩ rfl
  · exact hev2 _ _ ⟨rfl,rfl,rfl,rfl⟩ ⟨rfl,by decide⟩

end DesfireSdk.Security.KeyChange
