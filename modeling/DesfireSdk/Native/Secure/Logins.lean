import DesfireSdk.Native.Secure.Dialogues
import DesfireSdk.Security.SessionKeys

/-!
# Logins at a card

A card answers the first frame of a login with a nonce under its key and the proof of the host
with its own; the last answer opens a session for the frames that follow.
-/
namespace DesfireSdk.Native.Secure
open Interaction Program Security

/-- The vectors under which a card reads the proof of the host and gives its own, what it puts into the last
answer of a login, and the session it opens. -/
structure Login (π : Type) where
  proofIv : Bytes → Bytes
  answerIv : Bytes → Bytes
  terminal : Option π → Nat → Bytes → Bytes → Bytes
  session : Option π → Nat → Bytes → Bytes → Bytes → Option π

/-- A card between two frames: it serves its session, or it waits for the proof of a login. -/
inductive Stage (π ω : Type)
  | serving (link : Raw.Link (Chip π ω))
  | challenged (login : Login π) (number : Nat) (payload : Bytes) (chip : Chip π ω)

def Stage.chip {π ω : Type} : Stage π ω → Chip π ω
  | serving link => link.application
  | challenged _ _ _ chip => chip

/-- A card with the number of its logins so far. -/
structure CardState (π ω : Type) where
  drawn : Nat
  stage : Stage π ω

/-- The keys of a card, its nonces and the logins it knows by their first command. -/
structure Personalization (π : Type) where
  keys : Byte → Bytes
  nonces : Nat → Bytes
  length_nonce : ∀ number, (nonces number).length = 16
  logins : Byte → Option (Login π)
  continuation : logins Raw.additionalFrameStatus = none

namespace Personalization
variable {π ω : Type}

/-- The key a login selects with the first byte of its first frame. -/
def key (personalization : Personalization π) (payload : Bytes) : Bytes :=
  personalization.keys (payload.headD 0)

/-- The first answer of a login. -/
def challenge (P : Primitives) (personalization : Personalization π) (number : Nat) (payload : Bytes) : Bytes :=
  P.encrypt (personalization.key payload) (zeros 16) (personalization.nonces number)

/-- The host's proof holds its nonce and the card's, rotated. -/
def verify (P : Primitives) (personalization : Personalization π) (login : Login π) (number : Nat)
    (payload : Bytes) (chip : Chip π ω) (proof : Bytes) : Raw.Response × Chip π ω :=
  let key := personalization.key payload
  let nonce := personalization.nonces number
  let clear := P.decrypt key (login.proofIv (personalization.challenge P number payload)) proof
  let host := clear.take 16
  if proof.length = 32 ∧ clear.drop 16 = nonce.rotate 1 then
    (⟨0x00,P.encrypt key (login.answerIv proof) (login.terminal chip.peer number payload host)⟩,
      {chip with peer := login.session chip.peer number key host nonce})
  else (authenticationError,{chip with peer := none})

/-- A card that knows logins and chains the frames of everything else. -/
def card (P : Primitives) (personalization : Personalization π) (app : Raw.Application (Chip π ω)) :
    Raw.Responder (CardState π ω) := fun k command data =>
  match personalization.logins command with
  | some login =>
    (⟨Raw.additionalFrameStatus,personalization.challenge P k.drawn data⟩,
      ⟨k.drawn + 1,.challenged login k.drawn data k.stage.chip⟩)
  | none =>
    match k.stage with
    | .serving link =>
      ((Raw.Link.chained app link command data).1,⟨k.drawn,.serving (Raw.Link.chained app link command data).2⟩)
    | .challenged login number payload chip =>
      if command = Raw.additionalFrameStatus then
        ((personalization.verify P login number payload chip data).1,
          ⟨k.drawn,.serving (.idle (personalization.verify P login number payload chip data).2)⟩)
      else (Raw.illegalCommand,⟨k.drawn,.serving (.idle {chip with peer := none})⟩)

/-- Between logins the card chains frames. -/
theorem chains (P : Primitives) (personalization : Personalization π) (app : Raw.Application (Chip π ω))
    (drawn : Nat) : Raw.Chains (personalization.card P app) app (fun link => ⟨drawn,.serving link⟩)
      fun command => personalization.logins command = none := by
  intro link command data hnone
  simp only [card,hnone]

theorem card_hello (P : Primitives) (personalization : Personalization π) (app : Raw.Application (Chip π ω))
    {command : Byte} {login : Login π} (hlogin : personalization.logins command = some login)
    (k : CardState π ω) (payload : Bytes) :
    personalization.card P app k command payload =
      (⟨Raw.additionalFrameStatus,personalization.challenge P k.drawn payload⟩,
        ⟨k.drawn + 1,.challenged login k.drawn payload k.stage.chip⟩) := by
  simp only [card,hlogin]

/-- A proof with the right key and any nonce of the host is accepted. -/
theorem card_proof (P : Primitives) (personalization : Personalization π) (app : Raw.Application (Chip π ω))
    (login : Login π) (drawn number : Nat) (payload : Bytes) (chip : Chip π ω) {host key nonce proof : Bytes}
    (hhost : host.length = 16) (hkey : personalization.key payload = key)
    (hnonce : personalization.nonces number = nonce)
    (hproof : P.encrypt key (login.proofIv (personalization.challenge P number payload))
      (host ++ nonce.rotate 1) = proof) :
    personalization.card P app ⟨drawn,.challenged login number payload chip⟩ Raw.additionalFrameStatus proof =
      (⟨0x00,P.encrypt key (login.answerIv proof) (login.terminal chip.peer number payload host)⟩,
        ⟨drawn,.serving (.idle {chip with peer := login.session chip.peer number key host nonce})⟩) := by
  have hfull : nonce.length = 16 := by rw [← hnonce,personalization.length_nonce]
  have hboth : (host ++ nonce.rotate 1).length = 32 := by
    rw [List.length_append,List.length_rotate,hhost,hfull]
  have hlength : proof.length = 32 := by rw [← hproof,P.length_encrypt,hboth]
  have hclear : P.decrypt key (login.proofIv (personalization.challenge P number payload)) proof =
      host ++ nonce.rotate 1 := by rw [← hproof,P.decrypt_encrypt _ _ _ (by rw [hboth])]
  have htake : (host ++ nonce.rotate 1).take 16 = host := by rw [← hhost,List.take_left]
  have hdrop : (host ++ nonce.rotate 1).drop 16 = nonce.rotate 1 := by rw [← hhost,List.drop_left]
  have hverify : personalization.verify P login number payload chip proof =
      (⟨0x00,P.encrypt key (login.answerIv proof) (login.terminal chip.peer number payload host)⟩,
        {chip with peer := login.session chip.peer number key host nonce}) := by
    simp only [verify,hkey,hnonce]
    rw [hclear,htake,hdrop,if_pos ⟨hlength,rfl⟩]
  simp only [card,personalization.continuation,if_true,hverify]

end Personalization

/-- The random source gives host nonces. -/
def Draws (o : Oracle Environment) : Prop :=
  ∀ h, ∃ nonce : Bytes, o h (.random 16) = .ok nonce ∧ nonce.length = 16

/-- The proof of the host and answers up to a size fit the transport. -/
structure LoginRoom (limits : TransportCapabilities) (framing : Framing) (answer : Nat) : Prop where
  native : 33 ≤ limits.maxNativeFrame
  transmit : 32 + Raw.framingOverhead framing ≤ limits.maxTransmit
  receive : answer + Raw.statusSize framing ≤ limits.maxReceive

theorem LoginRoom.shorter {limits : TransportCapabilities} {framing : Framing} {answer shorter : Nat}
    (h : LoginRoom limits framing answer) (hshorter : shorter ≤ answer) : LoginRoom limits framing shorter :=
  ⟨h.native,h.transmit,Nat.le_trans (Nat.add_le_add_right hshorter _) h.receive⟩

theorem LoginRoom.room {limits : TransportCapabilities} {framing : Framing} {answer : Nat}
    (h : LoginRoom limits framing answer) {data : Bytes} {response : Raw.Response} (hdata : data.length ≤ 32)
    (hresponse : response.data.length ≤ answer) : Raw.Transaction.Room limits framing data response := by
  obtain ⟨hnative,htransmit,hreceive⟩ := h
  exact ⟨by omega,by omega,fun _ => by omega,by omega⟩

/-- Card and host use the same vectors, and the last answer has the size the host expects. -/
structure Login.Fits {π : Type} (login : Login π) (profile : NonceProfile) : Prop where
  block : 16 ≤ profile.terminalSize
  blocks : profile.terminalSize % 16 = 0
  sized : ∀ previous number payload host, host.length = 16 →
    (login.terminal previous number payload host).length = profile.terminalSize
  proofVector : ∀ challenge : Bytes, challenge.length = 16 →
    profile.proofIv challenge = login.proofIv challenge ∧ (login.proofIv challenge).length = 16
  terminalVector : ∀ proof : Bytes, proof.length = 32 →
    profile.terminalIv proof = login.answerIv proof ∧ (login.answerIv proof).length = 16

section Login
variable {o : Oracle Environment} {P : Primitives} {π ω τ : Type} {limits : TransportCapabilities}
  {framing : Framing} {personalization : Personalization π} {app : Raw.Application (Chip π ω)}
  {start : CardState π ω} {login : Login π}

theorem random_connected {κ : Type} {card : Raw.Responder κ} {start k : κ} (hdraws : Draws o) (message : String)
    (s : τ) :
    Facing (card.observe framing) start o k (Op.secretOutput message (Op.random 16) 16) s fun r s' k' =>
      (∃ nonce : Bytes, r = .ok nonce ∧ nonce.length = 16) ∧ s' = s ∧ k' = k := by
  have hidle := Raw.Responder.observe_idle card framing
  refine Facing.settle (Facing.quiet_bind hidle id fun h => ?_)
  obtain ⟨nonce,hreply,hlength⟩ := hdraws h
  rw [hreply]
  exact Facing.pure ⟨⟨nonce,Op.sized_of_length hlength,hlength⟩,rfl,rfl⟩

theorem requirePhase_ok {operation : String} {response : Raw.Response} {status : Byte} {size : Nat}
    (hstatus : response.status = status) (hsize : response.data.length = size) :
    requirePhase operation response status size = .ok () := by
  simp only [requirePhase,hstatus,hsize,ne_eq,not_true_eq_false,if_false]

/-- A login that is interrupted leaves the contents of the card as they were. -/
def Kept (k k' : CardState π ω) : Prop := k'.stage.chip.contents = k.stage.chip.contents

/-- Host and card exchange nonces if they hold the same key, and the card opens its session, unless the login is
interrupted. -/
theorem exchangeNonces_connected (hP : Computes o P) (hdraws : Draws o)
    (hcard : Raw.Connected o limits framing (personalization.card P app) start)
    {profile : NonceProfile} (hfits : login.Fits profile) (hroom : LoginRoom limits framing profile.terminalSize)
    (hlogin : personalization.logins profile.initialCommand = some login) (payload key : Bytes)
    (hpayload : payload.length ≤ 32) (hkey : personalization.key payload = key) (hexact : key.length = 16)
    (k : CardState π ω) {t : Raw.Transaction} (hcurrent : Raw.Transaction.Current o framing t) :
    let nonce := personalization.nonces k.drawn
    let previous := k.stage.chip.peer
    Facing ((personalization.card P app).observe framing) start o k
      (exchangeNonces profile payload key Raw.Transaction.exchangeFrame) t
      (Unless Interrupts (Kept k) fun r _ k' => ∃ nonces, r = .ok nonces ∧ ∃ host : Bytes, host.length = 16 ∧
        nonces = ⟨host,nonce,login.terminal previous k.drawn payload host⟩ ∧
        k' = ⟨k.drawn + 1,.serving (.idle ⟨login.session previous k.drawn key host nonce,k.stage.chip.contents⟩)⟩) := by
  intro nonce previous
  have hnonce : nonce.length = 16 := personalization.length_nonce k.drawn
  have hchallenge : personalization.challenge P k.drawn payload = P.encrypt key (zeros 16) nonce := by
    rw [Personalization.challenge,hkey]
  refine Facing.bind (random_connected hdraws _ t) ?_ ?_
  · intro e t' k' h
    obtain ⟨⟨_,hresult,_⟩,_⟩ := h
    cases hresult
  intro host t' k' h
  obtain ⟨⟨_,hresult,hhost⟩,rfl,rfl⟩ := h
  cases hresult
  -- the challenge
  have hlength : (P.encrypt key (zeros 16) nonce).length = 16 := (P.length_encrypt ..).trans hnonce
  have hhello := Raw.Transaction.exchangeFrame_connected hcard hcurrent k' profile.initialCommand payload
    (hroom.room hpayload (by rw [personalization.card_hello P app hlogin,hchallenge,hlength]; exact hfits.block))
  rw [personalization.card_hello P app hlogin,hchallenge] at hhello
  have hphase : requirePhase profile.operation ⟨Raw.additionalFrameStatus,P.encrypt key (zeros 16) nonce⟩
      0xAF 16 = .ok () := requirePhase_ok rfl hlength
  refine Facing.known_unless_bind hhello (fun _ h => h ▸ rfl) ?_
  rw [hphase]
  refine Facing.known_bind (a := ()) (fun _ _ => ⟨rfl,rfl,rfl⟩) ?_
  have hidle := Raw.Responder.observe_idle (personalization.card P app) framing
  refine Facing.known_bind (hP.facing_decrypt hidle id hexact (length_zeros 16) (by rw [hlength]) hlength
    (P.decrypt_encrypt _ _ _ (by rw [hnonce])) _) ?_
  -- the proof of the host
  have hboth : (host ++ nonce.rotate 1).length = 32 := by
    rw [List.length_append,List.length_rotate,hhost,hnonce]
  obtain ⟨hproofIv,hproofIvSize⟩ := hfits.proofVector _ hlength
  rw [rotateLeft_eq hnonce,hproofIv]
  refine Facing.known_bind (hP.facing_encrypt hidle id hexact hproofIvSize (by rw [hboth]) hboth _) ?_
  generalize hsent : P.encrypt key (login.proofIv (P.encrypt key (zeros 16) nonce)) (host ++ nonce.rotate 1) = proof
  have hsent' : P.encrypt key (login.proofIv (personalization.challenge P k'.drawn payload))
      (host ++ nonce.rotate 1) = proof := by rw [hchallenge,hsent]
  have hproof := personalization.card_proof P app login (k'.drawn + 1) k'.drawn payload k'.stage.chip hhost hkey
    rfl hsent'
  have hsize : proof.length = 32 := by rw [← hsent,P.length_encrypt,hboth]
  have hterminal := hfits.sized previous k'.drawn payload host hhost
  have hanswer : (P.encrypt key (login.answerIv proof)
      (login.terminal previous k'.drawn payload host)).length = profile.terminalSize :=
    (P.length_encrypt ..).trans hterminal
  have hlast := Raw.Transaction.exchangeFrame_connected hcard hcurrent.markSent
    ⟨k'.drawn + 1,.challenged login k'.drawn payload k'.stage.chip⟩ Raw.additionalFrameStatus proof
    (hroom.room (Nat.le_of_eq hsize) (by rw [hproof]; exact Nat.le_of_eq hanswer))
  rw [hproof] at hlast
  refine Facing.known_unless_bind (unless_mapError Error.afterDelivery_code hlast ?_) (fun _ h => h ▸ rfl) ?_
  · rintro r t k ⟨rfl,_⟩
    exact ⟨_,rfl⟩
  have hphase' : requirePhase profile.operation ⟨0x00,P.encrypt key (login.answerIv proof)
      (login.terminal previous k'.drawn payload host)⟩ 0x00 profile.terminalSize = .ok () :=
    requirePhase_ok rfl hanswer
  rw [hphase']
  refine Facing.known_bind (a := ()) (fun _ _ => ⟨rfl,rfl,rfl⟩) ?_
  have hblocks : (login.terminal previous k'.drawn payload host).length % 16 = 0 := by
    rw [hterminal,hfits.blocks]
  obtain ⟨hterminalIv,hterminalIvSize⟩ := hfits.terminalVector _ hsize
  rw [hterminalIv]
  refine Facing.known_bind (hP.facing_decrypt hidle id hexact hterminalIvSize
    (by rw [hanswer,hfits.blocks]) hanswer (P.decrypt_encrypt _ _ _ hblocks) _) ?_
  exact Facing.pure (.inl ⟨_,rfl,host,hhost,rfl,rfl⟩)

end Login
end DesfireSdk.Native.Secure
