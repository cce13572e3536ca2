import DesfireSdk.Iso7816.Handshake
import DesfireSdk.Iso7816.Interruptions
import DesfireSdk.Iso7816.Logins
import DesfireSdk.Native.Secure.Authentications
import DesfireSdk.Native.Secure.Interruptions

/-!
# Mutual authentication

Each login succeeds at an honest card with the same key and leaves both ends with the same session. Whatever
else answers cannot bring it to succeed without the nonce of the host.
-/
namespace DesfireSdk.Security
open Interaction Program Native Native.Secure

namespace Procedure

/-- The part of a card in a procedure. -/
def counterpart (P : Primitives) (identifiers : Nat → Bytes) (capabilities : Bytes) : Procedure → Login Peer
  | standardAes => .standardAes
  | ev2First _ => .ev2First P identifiers capabilities
  | ev2Nonfirst _ => .ev2Nonfirst P

/-- First sends at most six capability bytes, and NonFirst renews a session of both ends. -/
def Permitted (peer : Option Peer) : Procedure → Prop
  | standardAes => True
  | ev2First pcdCapabilities => pcdCapabilities.length ≤ 6
  | ev2Nonfirst previous => ∃ session, peer = some (.ev2 session) ∧
      previous.transactionIdentifier = session.transactionIdentifier

/-- Host and card hold the same keys and identifier, and the host knows the capabilities of both. -/
def Agreed (identifier capabilities : Bytes) : Procedure → Material → Peer → Prop
  | standardAes,.standardAes material,.standardAes session => material.sessionKey = session.sessionKey
  | ev2First pcdCapabilities,.ev2 material,.ev2 session => Ev2Matched material session ∧
      material.information = granted identifier capabilities pcdCapabilities
  | ev2Nonfirst previous,.ev2 material,.ev2 session => Ev2Matched material session ∧ material.information = previous
  | _,_,_ => False

/-- A card that knows the procedure and holds the same key, at a transport and with a provider that work. -/
structure Prepared {ω : Type} (o : Oracle Environment) (P : Primitives) (limits : TransportCapabilities)
    (framing : Native.Framing) (personalization : Personalization Peer) (app : Raw.Application (Chip Peer ω))
    (start : CardState Peer ω) (identifiers : Nat → Bytes) (capabilities : Bytes) (procedure : Procedure)
    (keyNumber : Byte) (key : Bytes) : Prop where
  computes : Computes o P
  draws : Draws o
  card : Raw.Connected o limits framing (personalization.card P app) start
  room : LoginRoom limits framing procedure.profile.terminalSize
  known : personalization.logins procedure.profile.initialCommand =
    some (procedure.counterpart P identifiers capabilities)
  same : personalization.keys keyNumber = key
  size : key.length = 16
  selector : keyNumber ≤ 0x3F

section Honest
variable {ω : Type} {o : Oracle Environment} {P : Primitives} {limits : TransportCapabilities} {framing : Native.Framing}
  {personalization : Personalization Peer} {app : Raw.Application (Chip Peer ω)} {start k : CardState Peer ω}
  {identifiers : Nat → Bytes} {capabilities : Bytes} {procedure : Procedure} {keyNumber : Byte} {key : Bytes}
  {t : Raw.Transaction}

/-- The card after a login: the next nonce, the new session and the old contents. -/
def opened (k : CardState Peer ω) (session : Peer) : CardState Peer ω :=
  ⟨k.drawn + 1,.serving (.idle ⟨some session,k.stage.chip.contents⟩)⟩

theorem returning_connected {κ α β : Type} {observe : κ → Event Environment → κ} {start k : κ} {left : κ → Prop}
    {p : Op Raw.Transaction α} {g : α → β} {m : β → κ → Prop}
    (hp : Facing observe start o k p t (Unless Interrupts left fun r _ k' => ∃ a, r = .ok a ∧ m (g a) k')) :
    Facing observe start o k (Op.returning g p) t (Unless Interrupts left fun r _ k' => ∃ b, r = .ok b ∧ m b k') := by
  refine Facing.unless_settle hp (fun f _ hf => ⟨f,rfl,hf⟩) ?_
  rintro _ _ _ ⟨a,rfl,hm⟩
  exact ⟨g a,rfl,hm⟩

/-- Every native login at an honest card with the same key succeeds, unless it is interrupted. -/
theorem login_connected (hprepared : procedure.Prepared o P limits framing personalization app start identifiers
      capabilities keyNumber key) (hpermitted : procedure.Permitted k.stage.chip.peer)
    (hcurrent : Raw.Transaction.Current o framing t) :
    Facing ((personalization.card P app).observe framing) start o k
      (procedure.login keyNumber key Raw.Transaction.exchangeFrame) t
      (Unless Interrupts (Kept k) fun r _ k' => ∃ material, r = .ok material ∧ ∃ session,
        procedure.Agreed (identifiers k.drawn) capabilities material session ∧ k' = opened k session) := by
  obtain ⟨hP,hdraws,hcard,hroom,hknown,hkey,hsize,hselector⟩ := hprepared
  cases procedure with
  | standardAes =>
    refine returning_connected ((authenticate_connected hP hdraws hcard hroom hknown hkey hsize hselector k hcurrent).mono
      fun r _ k' h => h.mono (fun _ h => h) ?_)
    rintro ⟨material,rfl,_,session,_,_,hsame,rfl⟩
    exact ⟨material,rfl,.standardAes session,hsame,rfl⟩
  | ev2First pcdCapabilities =>
    refine returning_connected ((authenticateFirst_connected hP hdraws hcard hroom hknown hkey hsize hselector hpermitted
      k hcurrent).mono fun r _ k' h => h.mono (fun _ h => h) ?_)
    rintro ⟨material,rfl,session,hagreed,hinformation,rfl⟩
    exact ⟨material,rfl,.ev2 session,⟨hagreed.toEv2Matched,hinformation⟩,rfl⟩
  | ev2Nonfirst previous =>
    obtain ⟨session,hpeer,hprevious⟩ := hpermitted
    refine returning_connected ((authenticateNonfirst_connected hP hdraws hcard hroom hknown hkey hsize hselector k hpeer
      hprevious hcurrent).mono fun r _ k' h => h.mono (fun _ h => h) ?_)
    rintro ⟨material,rfl,session,hagreed,hinformation,rfl⟩
    exact ⟨material,rfl,.ev2 session,⟨hagreed.toEv2Matched,hinformation⟩,rfl⟩

theorem login_smooth {high low : Int} (hdeadline : high ≤ t.deadline) :
    Smooth o high low (procedure.login keyNumber key Raw.Transaction.exchangeFrame) t fun _ _ _ => True := by
  cases procedure with
  | standardAes => exact .returning (authenticate_smooth hdeadline)
  | ev2First pcdCapabilities => exact .returning (authenticateFirst_smooth pcdCapabilities hdeadline)
  | ev2Nonfirst previous => exact .returning (authenticateNonfirst_smooth previous hdeadline)

end Honest
end Procedure

/-- An ISO card with the same key, at a transport and with a provider that work. -/
structure IsoPrepared (o : Oracle Environment) (P : Primitives) (limits : TransportCapabilities)
    (personalization : Iso7816.Personalization) (start : Iso7816.CardState)
    (reference : Iso7816.Checked.KeyReference) (key : Bytes) (options : ExchangeOptions)
    (encoding : Iso7816.Raw.LengthEncoding) : Prop where
  computes : Computes o P
  draws : ∀ h, ∃ random : Bytes, o h (.random 32) = .ok random ∧ random.length = 32
  card : Iso7816.Connected o limits (personalization.card P) start
  room : Iso7816.Aes.LoginRoom limits encoding
  same : personalization.keys reference.value = key
  size : key.length = 16
  known : encoding.known = true
  positive : 0 < options.timeout

/-- Whatever transport, card, random source and provider do, a login sends its own frames in order, fails with an
error that denies no frame that was answered, and succeeds only for a card that returned the nonce of this run, and
for First the capabilities. At an honest card with the same key every login that is not disturbed succeeds, and
both ends hold the same session. -/
theorem mutual_authentication (o : Oracle Environment) :
    (∀ (procedure : Procedure) (keyNumber : Byte) (key : Bytes) (t : Raw.Transaction),
      Ensures some o (procedure.login keyNumber key Raw.Transaction.exchangeFrame) t fun r _ es =>
        r ≠ .error .thrown ∧ Sound t.framing procedure.profile (procedure.payload keyNumber) r es ∧
          ∀ material, r = .ok material → ∃ nonces challenge proof answer,
            Exchanged t.framing procedure.profile (procedure.payload keyNumber) key nonces challenge proof answer es ∧
              procedure.Vouches key nonces es material) ∧
    (∀ {τ : Type} (reference : Iso7816.Checked.KeyReference) (key : Bytes) (options : ExchangeOptions)
      (encoding : Iso7816.Raw.LengthEncoding) (s : τ),
      Ensures some o (Iso7816.Aes.authenticate reference key options encoding) s fun r _ es =>
        r ≠ .error .thrown ∧ Iso7816.Aes.OwnFrames reference encoding (deliveries es) ∧
          (∀ e, r = .error (.error e) → e.outcome = .notSent → ∀ d ∈ deliveries es, d.Withheld) ∧
          ∀ session, r = .ok session → ∃ hostRandom challenge ciphertext answer cardProof,
            Iso7816.Aes.Proved reference encoding key session hostRandom challenge ciphertext answer cardProof es) ∧
    (∀ {ω : Type} {P limits framing personalization} {app : Raw.Application (Chip Peer ω)} {start identifiers capabilities}
      {procedure : Procedure} {keyNumber key},
      procedure.Prepared o P limits framing personalization app start identifiers capabilities keyNumber key →
      ∀ (h : Trace Environment) (t : Raw.Transaction) (low : Int),
        let observe := (personalization.card P app).observe framing
        let k := reached observe start h
        let run := procedure.login keyNumber key Raw.Transaction.exchangeFrame o h t
        procedure.Permitted k.stage.chip.peer → Raw.Transaction.Current o framing t →
        Undisturbed t.deadline low (shown pulseOf run.events) →
        ∃ material, run.result = .ok material ∧ ∃ session,
          procedure.Agreed (identifiers k.drawn) capabilities material session ∧
          reached observe k run.events = Procedure.opened k session) ∧
    (∀ {τ : Type} {P limits personalization start reference key options encoding},
      IsoPrepared o P limits personalization start reference key options encoding →
      ∀ (h : Trace Environment) (s : τ) (low : Int),
        let observe := (personalization.card P).observe
        let k := reached observe start h
        let run := Iso7816.Aes.authenticate reference key options encoding o h s
        Undisturbed (low + options.timeout * 1000000) low (shown pulseOf run.events) →
        ∃ session, run.result = .ok session ∧
          Iso7816.Aes.Agreed reference (k.drawn + 2) session (reached observe k run.events)) := by
  refine ⟨?_,?_,?_,?_⟩
  · intro procedure keyNumber key t
    exact Procedure.login_vouched o procedure keyNumber key t
  · intro τ reference key options encoding s
    exact Iso7816.Aes.authenticate_proved o reference key options encoding s
  · intro ω P limits framing personalization app start identifiers capabilities procedure keyNumber key hprepared h t low
      observe k run hpermitted hcurrent hundisturbed
    exact (Procedure.login_smooth (Int.le_refl t.deadline)).facing
      (Procedure.login_connected hprepared hpermitted hcurrent) rfl hundisturbed
  · intro τ P limits personalization start reference key options encoding hprepared h s low observe k run hundisturbed
    obtain ⟨hP,hdraws,hcard,hroom,hsame,hsize,hknown,hpositive⟩ := hprepared
    exact (Iso7816.Aes.authenticate_smooth reference key encoding (Int.le_refl _) s).facing
      (Iso7816.Aes.authenticate_connected hP hdraws hcard hroom hsame hsize hknown hpositive k s) rfl hundisturbed

section Wired

/-- Nonces that tell both their number and the place of each byte. -/
def counted (number : Nat) : Bytes := (List.range 16).map fun i => UInt8.ofNat (16 * number + i)

theorem length_counted (number : Nat) : (counted number).length = 16 := by simp [counted]

def wiredNative : Personalization Peer where
  keys _ := zeros 16
  nonces := counted
  length_nonce := length_counted
  logins := nativeLogins .echo counted [5,6]
  continuation := rfl

/-- A card that serves nothing behind its logins. -/
def deaf : Raw.Application (Chip Peer Unit) := ⟨fun _ _ => 0,fun chip _ _ => ([Raw.illegalCommand],chip)⟩

def nativeStart : CardState Peer Unit := ⟨7,.serving (.idle ⟨some (.ev2 ⟨zeros 16,zeros 16,zeros 4,3⟩),()⟩)⟩

def nativeOracle : Oracle Environment := (wiredNative.card .echo deaf).wired .direct {} .echo nativeStart

theorem native_prepared (procedure : Procedure) (hsize : procedure.profile.terminalSize ≤ 32)
    (hknown : nativeLogins .echo counted [5,6] procedure.profile.initialCommand =
      some (procedure.counterpart .echo counted [5,6])) :
    procedure.Prepared nativeOracle .echo {} .direct wiredNative deaf nativeStart counted [5,6] 0 (zeros 16) where
  computes := Raw.wired_computes ..
  draws _ := ⟨zeros 16,rfl,length_zeros 16⟩
  card := Raw.wired_connected ..
  room := ⟨by decide,by decide,by
    change procedure.profile.terminalSize + 1 ≤ 65538
    omega⟩
  known := hknown
  same := rfl
  size := length_zeros 16
  selector := by decide

def wiredIso : Iso7816.Personalization := ⟨fun _ => zeros 16,counted,length_counted⟩

def isoOracle : Oracle Environment := (wiredIso.card .echo).wired {} .echo ⟨0,.idle⟩

theorem iso_prepared : IsoPrepared isoOracle .echo {} wiredIso ⟨0,.idle⟩ .piccMaster (zeros 16) {} .automatic where
  computes := Iso7816.wired_computes ..
  draws _ := ⟨zeros 32,rfl,length_zeros 32⟩
  card := Iso7816.wired_connected ..
  room := ⟨rfl,by decide,by decide⟩
  same := rfl
  size := length_zeros 16
  known := rfl
  positive := by decide

/-- All four logins at wired cards. -/
theorem mutual_authentication_wired :
    let t : Raw.Transaction := {framing := .direct,deadline := 1000,generation := 1}
    let key := zeros 16
    let standard := Procedure.standardAes.login 0 key Raw.Transaction.exchangeFrame nativeOracle [] t
    let first := (Procedure.ev2First [1,2]).login 0 key Raw.Transaction.exchangeFrame nativeOracle [] t
    let nonfirst := (Procedure.ev2Nonfirst (granted [] [] [])).login 0 key Raw.Transaction.exchangeFrame nativeOracle [] t
    let iso := Iso7816.Aes.authenticate .piccMaster key {} .automatic isoOracle [] ()
    (∃ material, standard.result = .ok material ∧ ∃ session,
      Procedure.standardAes.Agreed (counted 7) [5,6] material session ∧
      reached ((wiredNative.card .echo deaf).observe .direct) nativeStart standard.events =
        Procedure.opened nativeStart session) ∧
    (∃ material, first.result = .ok material ∧ ∃ session,
      (Procedure.ev2First [1,2]).Agreed (counted 7) [5,6] material session ∧
      reached ((wiredNative.card .echo deaf).observe .direct) nativeStart first.events =
        Procedure.opened nativeStart session) ∧
    (∃ material, nonfirst.result = .ok material ∧ ∃ session,
      (Procedure.ev2Nonfirst (granted [] [] [])).Agreed (counted 7) [5,6] material session ∧
      reached ((wiredNative.card .echo deaf).observe .direct) nativeStart nonfirst.events =
        Procedure.opened nativeStart session) ∧
    ∃ session, iso.result = .ok session ∧
      Iso7816.Aes.Agreed .piccMaster 2 session (reached (wiredIso.card .echo).observe ⟨0,.idle⟩ iso.events) :=
  have hcurrent : Raw.Transaction.Current nativeOracle .direct {framing := .direct,deadline := 1000,generation := 1} :=
    ⟨rfl,fun _ => rfl⟩
  ⟨(mutual_authentication nativeOracle).2.2.1 (native_prepared .standardAes (by decide) rfl) [] _ 0 trivial hcurrent
      (by decide +kernel),
    (mutual_authentication nativeOracle).2.2.1 (native_prepared (.ev2First [1,2]) (by decide) rfl) [] _ 0
      (show 2 ≤ 6 by decide) hcurrent (by decide +kernel),
    (mutual_authentication nativeOracle).2.2.1 (native_prepared (.ev2Nonfirst (granted [] [] [])) (by decide) rfl) [] _ 0
      ⟨_,rfl,rfl⟩ hcurrent (by decide +kernel),
    (mutual_authentication isoOracle).2.2.2 iso_prepared [] () 0 (by decide +kernel)⟩

end Wired
end DesfireSdk.Security
