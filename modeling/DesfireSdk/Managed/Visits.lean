import DesfireSdk.Managed.Authentication
import DesfireSdk.Managed.Sessions

/-!
# Visits at an honest card

A visit logs in, again and with any method, and executes commands in between. Whatever their
order is, the commands are calls of what is on the card, up to the one at which the visit is
refused or interrupted.
-/
namespace DesfireSdk.Managed
open Interaction Program Model Native.Secure

inductive Method
  | standardAes
  | ev2First (pcdCapabilities : Bytes)
  | ev2NonFirst

def Method.family : Method → Family
  | .standardAes => .standardAes
  | _ => .ev2

inductive Step
  | login (method : Method) (keyNumber : KeyNumber) (key : Aes128Key)
  | command (command : Native.Checked.Command)

/-- A login with a key at hand. -/
def Method.login (method : Method) (keyNumber : KeyNumber) (key : Aes128Key) (options : ExchangeOptions) :
    Op Card Unit :=
  match method with
  | .standardAes => authenticateStandardAes keyNumber (.direct key) options
  | .ev2First pcdCapabilities => Op.returning (fun _ => ())
    (authenticateEv2FirstAes keyNumber (.direct key) pcdCapabilities options)
  | .ev2NonFirst => Op.returning (fun _ => ()) (authenticateEv2NonFirstAes keyNumber (.direct key) options)

/-- The steps of a visit one after another, with the answers to its commands. -/
def visit (options : ExchangeOptions) : List Step → Op Card (List Bytes)
  | [] => pure []
  | .login method keyNumber key :: rest => do
    method.login keyNumber key options
    visit options rest
  | .command command :: rest => do
    let answer ← execute command options
    let answers ← visit options rest
    pure (answer :: answers)

def requested (steps : List Step) : List Native.Checked.Command :=
  steps.filterMap fun
    | .login .. => none
    | .command command => some command

/-- The situation after a login. -/
def Situation.loggedIn (situation : Situation) (method : Method) (keyNumber : KeyNumber) : Situation where
  family := some method.family
  iso := false
  authenticatedKey := some (UInt8.ofNat keyNumber.value)
  selectedApplication := situation.selectedApplication

section Login
variable {o : Oracle Environment} {κ : Type} {chip : Native.Raw.Responder κ} {framing : Native.Framing} {start k : κ}
  {limits : TransportCapabilities} {card : Card} {options : ExchangeOptions}

theorem authenticationPreflightLocked_connected
    (hpositive : 0 < options.timeout) (husable : card.usable = true)
    (hgeneration : ∀ h, o h .generation = card.generation) {requireEv2Session : Bool}
    (hev2 : requireEv2Session = true → card.ev2Session ≠ none) :
    Facing (chip.observe framing) start o k (authenticationPreflightLocked requireEv2Session options) card
      (Unless Interrupts (· = k) fun r card' k' => r = .ok () ∧ card' = card ∧ k' = k) := by
  have hidle := Native.Raw.Responder.observe_idle chip framing
  refine Facing.refuse_bind (Int.not_le.mpr hpositive) (Facing.quiet_bind hidle id fun h => ?_)
  refine Facing.refuse_cases (fun _ => .halted (.inr rfl) rfl) fun _ => ?_
  refine Facing.get_bind (Facing.refuse_bind (by simp [husable]) ?_)
  refine Facing.refuse_bind (fun hbad => hev2 hbad.1 hbad.2) ?_
  exact (checkGeneration_connected hgeneration _ _).mono fun _ _ _ h => .inl h

theorem selector_le (keyNumber : KeyNumber) : UInt8.ofNat keyNumber.value ≤ 0x3F := by
  have hbounded := keyNumber.bounded
  rw [UInt8.le_iff_toNat_le,UInt8.toNat_ofNat']
  change keyNumber.value % 256 ≤ 63
  omega

theorem Aes128Key.length_view {key : Aes128Key} (h : key.valid = true) : key.view.length = 16 := by
  simpa [Aes128Key.valid] using h

variable {P : Primitives} {ω : Type}

/-- A session family with its place in a managed card and its agreement with honest cards. -/
structure Line (o : Oracle Environment) (P : Primitives) where
  σ : Type
  secure : SecureSession σ
  slot : Slot σ
  agreement : Agreement o (honest P) σ

attribute [instance] Line.secure

def line (hP : Computes o P) : Family → Line o P
  | .ev2 => ⟨Security.Ev2.Session,inferInstance,ev2Slot,ev2Agreement hP⟩
  | .standardAes => ⟨Security.StandardAes.Session,inferInstance,standardAesSlot,standardAesAgreement hP⟩

/-- The host's session, if there is one, is in step with the chip's. -/
def Tuned (hP : Computes o P) (n : Nat) (card : Card) (k : CardState Peer ω) : Prop :=
  ∀ family, card.situation.family = some family → ∃ s p link, (line hP family).slot.holds card s ∧
    (line hP family).agreement.InStep n s p ∧ k.stage = .serving link ∧ link.application.peer = some p

theorem Tuned.pred {hP : Computes o P} {n : Nat} {k : CardState Peer ω} (h : Tuned hP (n+1) card k) :
    Tuned hP n card k := by
  intro family hfamily
  obtain ⟨s,p,link,hholds,hstep,hrest⟩ := h family hfamily
  refine ⟨s,p,link,hholds,?_,hrest⟩
  cases family with
  | ev2 =>
    obtain ⟨peer,hpeer,hready,hshared,hroom⟩ := hstep
    exact ⟨peer,hpeer,hready,hshared,Nat.le_of_succ_le hroom⟩
  | standardAes => exact hstep

/-- What a login changes: the card is in a new session with the chip, whose contents stay. -/
structure LoggedIn (hP : Computes o P) (n : Nat) (method : Method) (keyNumber : KeyNumber) (card : Card)
    (k : CardState Peer ω) (card' : Card) (k' : CardState Peer ω) : Prop extends card.Bound card' where
  usable : card'.usable = card.usable
  settled : card'.authenticationResetPending = false
  situation : card'.situation = card.situation.loggedIn method keyNumber
  contents : k'.stage.chip.contents = k.stage.chip.contents
  tuned : Tuned hP n card' k'

variable {personalization : Personalization Peer} {app : Native.Raw.Application (Chip Peer ω)}
  {origin : CardState Peer ω} {keyNumber : KeyNumber} {key : Aes128Key}

/-- What a login needs of host, chip and transport. -/
structure Loginable (o : Oracle Environment) (P : Primitives) (limits : TransportCapabilities)
    (personalization : Personalization Peer) (app : Native.Raw.Application (Chip Peer ω)) (origin : CardState Peer ω)
    (options : ExchangeOptions) (framing : Native.Framing) : Prop where
  draws : Draws o
  card : Native.Raw.Connected o limits framing (personalization.card P app) origin
  room : LoginRoom limits framing 32
  positive : 0 < options.timeout

theorem authenticateStandardAes_connected (hP : Computes o P)
    (hloginable : Loginable o P limits personalization app origin options card.raw.framing)
    (hlogin : personalization.logins 0xAA = some .standardAes) (hvalid : key.valid = true)
    (hkey : personalization.keys (UInt8.ofNat keyNumber.value) = key.view) (husable : card.usable = true)
    (hgeneration : ∀ h, o h .generation = card.generation) (n : Nat) (k : CardState Peer ω) :
    Facing ((personalization.card P app).observe card.raw.framing) origin o k
      (authenticateStandardAes keyNumber (.direct key) options) card
      (Unless Interrupts (Kept k) fun r card' k' =>
        r = .ok () ∧ LoggedIn hP n .standardAes keyNumber card k card' k') := by
  obtain ⟨hdraws,hcard,hroom,hpositive⟩ := hloginable
  refine admitted_connected hcard ?_
  refine Facing.known_unless_bind (authenticationPreflightLocked_connected hpositive husable hgeneration
    fun h => by cases h) (fun _ h => h ▸ rfl) ?_
  refine Facing.known_bind (a := key) (t := card) (l := k) (fun _ _ => ⟨rfl,rfl,rfl⟩) ?_
  unfold authenticateStandardAesLocked
  refine unless_catchAll ?_ fun _ _ _ h => ⟨_,h.1⟩
  refine Facing.refuse_bind (by simp [hvalid]) (Facing.get_bind ?_)
  refine Facing.unless_bind (Native.Raw.RawNativeChannel.begin_connected hcard hpositive card) (fun _ h => h ▸ rfl) ?_
  rintro transaction card' k' ⟨hcurrent,rfl,rfl⟩
  refine Facing.modify_bind ?_
  have hframes := authenticate_connected hP hdraws hcard (hroom.shorter (by decide)) hlogin hkey
    (Aes128Key.length_view hvalid) (selector_le keyNumber) k' hcurrent
  refine Facing.unless_bind (m := fun material card'' k'' => card'' = {card' with isoSession := none} ∧
    ∃ session peer, Security.StandardAes.Session.create material = .ok session ∧ StandardAesInStep session peer ∧
    k'' = ⟨k'.drawn + 1,.serving (.idle ⟨some (.standardAes peer),k'.stage.chip.contents⟩)⟩)
    (unless_onError (Facing.within (hframes.mono fun r t k'' h => h.mono (fun _ h => h) ?_))
      fun _ _ _ h => ⟨_,h.choose_spec.1⟩) (fun _ h => h) ?_
  · rintro ⟨material,rfl,session,peer,hcreate,hstep,_,rfl⟩
    exact ⟨material,rfl,rfl,session,peer,hcreate,hstep,rfl⟩
  rintro material card'' k'' ⟨rfl,session,peer,hcreate,hstep,rfl⟩
  have hsame : ∀ h, o h .generation = ({card' with isoSession := none} : Card).generation := hgeneration
  refine Facing.known_bind (checkGeneration_connected hsame _ _) ?_
  rw [hcreate]
  refine Facing.known_bind (a := session) (fun _ _ => ⟨rfl,rfl,rfl⟩) ?_
  intro h hh
  refine .inl ⟨rfl,⟨rfl,rfl⟩,rfl,rfl,rfl,rfl,?_⟩
  intro family hfamily
  cases hfamily
  exact ⟨session,_,_,⟨rfl,rfl⟩,⟨peer,rfl,hstep⟩,rfl,rfl⟩

/-- An EV2 login whose frames agree with the chip on material for a session. -/
theorem authenticateEv2Locked_connected (hP : Computes o P)
    (hloginable : Loginable o P limits personalization app origin options card.raw.framing) (first : Bool)
    (pcdCapabilities : Bytes) (hpcd : pcdCapabilities.length ≤ 6) (hnone : first = false → pcdCapabilities = [])
    (hvalid : key.valid = true) (hgeneration : ∀ h, o h .generation = card.generation) {n : Nat}
    (hroom : (if first then 0 else (card.ev2Session.map Security.Ev2.Session.counter).getD 0).toNat + n ≤
      Security.Ev2.counterMax.toNat) (method : Method) (hmethod : method.family = .ev2) (k : CardState Peer ω)
    (hframes : ∀ t, Native.Raw.Transaction.Current o card.raw.framing t →
      Facing ((personalization.card P app).observe card.raw.framing) origin o k
        (if first then Security.Ev2.authenticateFirst (UInt8.ofNat keyNumber.value) key.view pcdCapabilities
            Native.Raw.Transaction.exchangeFrame
          else Security.Ev2.authenticateNonfirst (UInt8.ofNat keyNumber.value) key.view
            ((card.ev2Session.map Security.Ev2.Session.authentication).getD {}) Native.Raw.Transaction.exchangeFrame) t
        (Unless Interrupts (Kept k) fun r _ k' => ∃ material, r = .ok material ∧ ∃ peer,
          Ev2Agreed material (if first then 0 else (card.ev2Session.map Security.Ev2.Session.counter).getD 0) peer ∧
          k' = ⟨k.drawn + 1,.serving (.idle ⟨some (.ev2 peer),k.stage.chip.contents⟩)⟩)) :
    Facing ((personalization.card P app).observe card.raw.framing) origin o k
      (authenticateEv2Locked first keyNumber key pcdCapabilities options) card
      (Unless Interrupts (Kept k) fun r card' k' =>
        (∃ information, r = .ok information) ∧ LoggedIn hP n method keyNumber card k card' k') := by
  obtain ⟨hdraws,hcard,hfits,hpositive⟩ := hloginable
  unfold authenticateEv2Locked
  refine unless_catchAll ?_ fun _ _ _ h => h.1
  refine Facing.refuse_bind (by simp [hvalid]) (Facing.refuse_bind ?_ (Facing.get_bind ?_))
  · rintro (hlong | ⟨hnonfirst,hsome⟩)
    · omega
    · exact hsome (hnone hnonfirst)
  refine Facing.unless_bind (Native.Raw.RawNativeChannel.begin_connected hcard hpositive card) (fun _ h => h ▸ rfl) ?_
  rintro transaction card' k' ⟨hcurrent,rfl,rfl⟩
  refine Facing.modify_bind ?_
  refine Facing.unless_bind (m := fun material card'' k'' => card'' = {card' with isoSession := none} ∧
    ∃ session peer, Security.Ev2.Session.create material
      (if first then 0 else (card'.ev2Session.map Security.Ev2.Session.counter).getD 0) = .ok session ∧
    Ev2InStep n session peer ∧ k'' = ⟨k'.drawn + 1,.serving (.idle ⟨some (.ev2 peer),k'.stage.chip.contents⟩)⟩)
    (unless_onError (Facing.within ((hframes _ hcurrent).mono fun r t k'' h => h.mono (fun _ h => h) ?_))
      fun _ _ _ h => ⟨_,h.choose_spec.1⟩) (fun _ h => h) ?_
  · rintro ⟨material,rfl,peer,hagreed,rfl⟩
    obtain ⟨session,hcreate,hstep,_⟩ := hagreed.inStep hroom
    exact ⟨material,rfl,rfl,session,peer,hcreate,hstep,rfl⟩
  rintro material card'' k'' ⟨rfl,session,peer,hcreate,hstep,rfl⟩
  have hsame : ∀ h, o h .generation = ({card' with isoSession := none} : Card).generation := hgeneration
  refine Facing.known_bind (checkGeneration_connected hsame _ _) ?_
  rw [hcreate]
  refine Facing.known_bind (a := session) (fun _ _ => ⟨rfl,rfl,rfl⟩) ?_
  refine Facing.modify_bind (Facing.pure (.inl ⟨⟨_,rfl⟩,⟨rfl,rfl⟩,rfl,rfl,?_,rfl,?_⟩))
  · rw [Situation.loggedIn,hmethod]
    rfl
  · intro family hfamily
    cases hfamily
    exact ⟨session,_,_,rfl,⟨peer,rfl,hstep⟩,rfl,rfl⟩

theorem unless_returning {α : Type} {p : Op Card α} {left : κ → Prop} {m : Card → κ → Prop}
    (hp : Facing (chip.observe framing) start o k p card
      (Unless Interrupts left fun r card' k' => (∃ a, r = .ok a) ∧ m card' k')) :
    Facing (chip.observe framing) start o k (Op.returning (fun _ => ()) p) card
      (Unless Interrupts left fun r card' k' => r = .ok () ∧ m card' k') := by
  refine Facing.unless_settle hp (fun e _ he => ⟨e,rfl,he⟩) ?_
  rintro r card' k' ⟨⟨_,rfl⟩,hm⟩
  exact ⟨rfl,hm⟩

/-- The chip knows every login. -/
structure Knows (P : Primitives) (personalization : Personalization Peer) (identifiers : Nat → Bytes)
    (capabilities : Bytes) : Prop where
  standardAes : personalization.logins 0xAA = some .standardAes
  ev2First : personalization.logins 0x71 = some (.ev2First P identifiers capabilities)
  ev2Nonfirst : personalization.logins 0x77 = some (.ev2Nonfirst P)

/-- NonFirst renews an EV2 session, and First sends at most six capability bytes. -/
def Method.Permitted (situation : Situation) : Method → Prop
  | .standardAes => True
  | .ev2First pcdCapabilities => pcdCapabilities.length ≤ 6
  | .ev2NonFirst => situation.family = some .ev2

/-- Every login with the chip's key succeeds and leaves host and chip in step, unless it is interrupted. -/
theorem login_connected (hP : Computes o P)
    (hloginable : Loginable o P limits personalization app origin options card.raw.framing)
    {identifiers : Nat → Bytes} {capabilities : Bytes} (hknows : Knows P personalization identifiers capabilities)
    {method : Method} (hpermitted : method.Permitted card.situation) (hvalid : key.valid = true)
    (hkey : personalization.keys (UInt8.ofNat keyNumber.value) = key.view) (husable : card.usable = true)
    (hgeneration : ∀ h, o h .generation = card.generation) {n : Nat} (hn : n ≤ Security.Ev2.counterMax.toNat)
    {k : CardState Peer ω} (htuned : Tuned hP n card k) :
    Facing ((personalization.card P app).observe card.raw.framing) origin o k
      (method.login keyNumber key options) card
      (Unless Interrupts (Kept k) fun r card' k' =>
        r = .ok () ∧ LoggedIn hP n method keyNumber card k card' k') := by
  have hcard := hloginable.card
  have hselector := selector_le keyNumber
  have hsize := Aes128Key.length_view hvalid
  cases method with
  | standardAes =>
    exact authenticateStandardAes_connected hP hloginable hknows.standardAes hvalid hkey husable hgeneration n k
  | ev2First pcdCapabilities =>
    have hfresh : (0 : UInt16).toNat + n ≤ Security.Ev2.counterMax.toNat := by
      rw [UInt16.toNat_zero,Nat.zero_add]
      exact hn
    have hlocked := authenticateEv2Locked_connected hP hloginable true pcdCapabilities hpermitted (fun h => by cases h) hvalid
      hgeneration hfresh (.ev2First pcdCapabilities) rfl k fun t hcurrent =>
        (authenticateFirst_connected hP hloginable.draws hcard hloginable.room hknows.ev2First hkey hsize hselector
          hpermitted k hcurrent).mono fun _ _ _ h => h.mono (fun _ h => h) fun ⟨material,hr,peer,hagreed,_,hk⟩ =>
            ⟨material,hr,peer,hagreed,hk⟩
    simp only [Method.login,authenticateEv2FirstAes]
    refine unless_returning (admitted_connected hcard ?_)
    refine Facing.known_unless_bind (authenticationPreflightLocked_connected hloginable.positive husable hgeneration
      fun h => by cases h) (fun _ h => h ▸ rfl) ?_
    refine Facing.known_bind (a := ()) (t := card) (l := k) (fun _ _ => ⟨rfl,rfl,rfl⟩) ?_
    refine Facing.known_bind (a := key) (t := card) (l := k) (fun _ _ => ⟨rfl,rfl,rfl⟩) ?_
    exact hlocked
  | ev2NonFirst =>
    obtain ⟨s,_,link,hholds,⟨peer,rfl,hstep⟩,hstage,hpeer⟩ := htuned .ev2 hpermitted
    have hsession : card.ev2Session = some s := hholds
    have hchip : k.stage.chip.peer = some (.ev2 peer) := by
      rw [hstage]
      exact hpeer
    have hcounter : (card.ev2Session.map Security.Ev2.Session.counter).getD 0 = peer.counter := by
      rw [hsession]
      exact hstep.shared.counter
    have hprevious : ((card.ev2Session.map Security.Ev2.Session.authentication).getD {}).transactionIdentifier =
        peer.transactionIdentifier := by
      rw [hsession]
      exact hstep.shared.identifier
    have hroom : ((card.ev2Session.map Security.Ev2.Session.counter).getD 0).toNat + n ≤
        Security.Ev2.counterMax.toNat := by
      rw [hsession]
      exact hstep.room
    have hlocked := authenticateEv2Locked_connected hP hloginable false [] (Nat.zero_le 6)
      (fun _ => rfl) hvalid hgeneration hroom .ev2NonFirst rfl k fun t hcurrent => by
        refine (authenticateNonfirst_connected hP hloginable.draws hcard (hloginable.room.shorter (by decide))
          hknows.ev2Nonfirst hkey hsize hselector k hchip hprevious hcurrent).mono fun r t' k' h => ?_
        refine h.mono (fun _ h => h) ?_
        rintro ⟨material,hresult,peer',hagreed,_,hstate⟩
        exact ⟨material,hresult,peer',by rw [if_neg Bool.false_ne_true,hcounter]; exact hagreed,hstate⟩
    simp only [Method.login,authenticateEv2NonFirstAes]
    refine unless_returning (admitted_connected hcard ?_)
    refine Facing.known_unless_bind (authenticationPreflightLocked_connected hloginable.positive husable hgeneration
      fun _ => by rw [hsession]; exact Option.some_ne_none s) (fun _ h => h ▸ rfl) ?_
    refine Facing.known_bind (a := key) (t := card) (l := k) (fun _ _ => ⟨rfl,rfl,rfl⟩) ?_
    exact hlocked

end Login

/-- What is on a card answers every command in its documented form. -/
def Documented {ω : Type} (contents : Contents ω) : Prop :=
  ∀ w opcode header data answer next, contents.execute w opcode header data = (.ok answer,next) →
    Native.Checked.checkParsed opcode header answer = .ok ()

section Visit
variable {o : Oracle Environment} {P : Primitives} {ω : Type} {limits : TransportCapabilities}
  {framing : Native.Framing} {personalization : Personalization Peer} {contents : Contents ω}
  {split : Native.Raw.Response → List Native.Raw.Response} {origin : CardState Peer ω}
  {options : ExchangeOptions} {card : Card}

/-- A command that the chip can serve with this reply in a situation. -/
structure Servable (hP : Computes o P) (personalization : Personalization Peer) (contents : Contents ω)
    (limits : TransportCapabilities) (framing : Native.Framing)
    (split : Native.Raw.Response → List Native.Raw.Response) (situation : Situation) (family : Family) (w : ω)
    (command : Native.Checked.Command) (reply : Except Byte Bytes) : Prop where
  active : situation.family = some family
  admissible : Admissible situation command
  serves : Serves (line hP family).agreement contents limits framing split
    (fun command => personalization.logins command = none) w (secureRequest command) reply

/-- The reply that the contents give to a command and what they are afterwards, served by the chip. -/
inductive Obliges (hP : Computes o P) (personalization : Personalization Peer) (contents : Contents ω)
    (limits : TransportCapabilities) (framing : Native.Framing)
    (split : Native.Raw.Response → List Native.Raw.Response) (situation : Situation) (w : ω)
    (command : Native.Checked.Command) : Except Byte Bytes → ω → Prop
  | answered {family answer next}
      (hservable : Servable hP personalization contents limits framing split situation family w command (.ok answer))
      (hexecute : contents.execute w command.opcode command.header command.data = (.ok answer,next))
      (hinside : Inside (secureRequest command) answer)
      (hanswers : (line hP family).agreement.Answers (secureRequest command) answer) :
      Obliges hP personalization contents limits framing split situation w command (.ok answer) next
  | refused {family status next}
      (hservable : Servable hP personalization contents limits framing split situation family w command (.error status))
      (hexecute : contents.execute w command.opcode command.header command.data = (.error status,next))
      (hstatus : Refusal status) :
      Obliges hP personalization contents limits framing split situation w command (.error status) next

/-- What the host reports of a reply. -/
def relayed : Except Byte Bytes → Except Fault Bytes
  | .ok answer => .ok answer
  | .error status => .error (.error (Native.Secure.rejected status))

/-- The end of a command the chip obliged: after an answer both ends go on in step. -/
structure Obliged (hP : Computes o P) (n : Nat) (card : Card) (reply : Except Byte Bytes) (next : ω)
    (r : Except Fault Bytes) (card' : Card) (k' : CardState Peer ω) : Prop where
  result : r = relayed reply
  contents : k'.stage.chip.contents = next
  alike : ∀ answer, reply = .ok answer → card.Alike card'
  tuned : ∀ answer, reply = .ok answer → Tuned hP n card' k'

/-- The contents of the chip are those before a command or those after it. -/
def Spans (w next : ω) (k : CardState Peer ω) : Prop := k.stage.chip.contents = w ∨ k.stage.chip.contents = next

theorem Spans.of_held {w next : ω} {drawn : Nat} {k : CardState Peer ω}
    (h : Held (fun link => ⟨drawn,.serving link⟩) w next k) : Spans w next k := by
  obtain ⟨link,rfl,hcontents⟩ := h
  exact hcontents

theorem Interrupts.error {f : Fault} (h : Interrupts f) : ∃ e, f = .error e := by
  cases f with
  | error e => exact ⟨e,rfl⟩
  | thrown => exact h.elim

/-- A command in step with the chip is executed as the contents say, unless it is interrupted. -/
theorem executeLocked_obliged (hP : Computes o P)
    (hcard : Native.Raw.Connected o limits card.raw.framing (personalization.card P ((honest P).application contents split))
      origin) (hpositive : 0 < options.timeout) (hsplit : Splits split)
    (hdocumented : Documented contents) (hattached : Attached o card) {n : Nat} {k : CardState Peer ω}
    (htuned : Tuned hP (n+1) card k) {command : Native.Checked.Command} {reply : Except Byte Bytes} {next : ω}
    (hobliges : Obliges hP personalization contents limits card.raw.framing split card.situation k.stage.chip.contents
      command reply next) :
    Facing ((personalization.card P ((honest P).application contents split)).observe card.raw.framing) origin o k
      (executeLocked command options) card
      (Unless Interrupts (Spans k.stage.chip.contents next) (Obliged hP n card reply next)) := by
  cases hobliges with
  | @answered family answer _ hservable hexecute hinside hanswers =>
    obtain ⟨hactive,hadmissible,hserves⟩ := hservable
    obtain ⟨s,p,link,hholds,hstep,hstage,hpeer⟩ := htuned family hactive
    obtain ⟨drawn,stage⟩ := k
    cases hstage
    have hlink : link.application = ⟨some p,link.application.contents⟩ := by
      rw [← hpeer]
    have hparsed := hdocumented _ _ _ _ _ _ hexecute
    have hexchange := exchangeProtected_answered hcard
      (personalization.chains P ((honest P).application contents split) drawn) personalization.continuation hsplit
      hpositive hstep hexecute hserves hinside hanswers hlink
    have hends := executeLocked_connected hholds hattached hadmissible
      (fun answer' s' k' => answer' = answer ∧ ∃ peer', (line hP family).agreement.InStep n s' peer' ∧
        k' = ⟨drawn,.serving (.idle ⟨some peer',next⟩)⟩)
      (fun e k' => Interrupts (.error e) ∧ Spans link.application.contents next k')
      (hexchange.mono fun r s' k' h => ?_)
    · refine hends.mono fun r card' k' h => ?_
      rcases h with ⟨_,s',rfl,rfl,rfl,peer',hstep',rfl⟩ | ⟨e,rfl,_,hinterrupts,hspans⟩
      · have halike := (line hP family).slot.put_alike hholds s'
        refine .inl ⟨rfl,rfl,fun _ _ => halike,fun _ _ family' hfamily' => ?_⟩
        rw [halike.situation,hactive] at hfamily'
        have hsame : family = family' := Option.some.inj hfamily'
        subst hsame
        exact ⟨s',peer',_,(line hP family).slot.put_holds hholds s',hstep',rfl,rfl⟩
      · exact .halted hinterrupts hspans
    · rcases h with ⟨hresult,hnext⟩ | ⟨⟨f,rfl,hinterrupts⟩,hheld⟩
      · exact .inl ⟨answer,hresult,hparsed,rfl,hnext⟩
      · obtain ⟨e,rfl⟩ := Interrupts.error hinterrupts
        exact .inr ⟨e,rfl,hinterrupts,.of_held hheld⟩
  | @refused family status _ hservable hexecute hstatus =>
    obtain ⟨hactive,hadmissible,hserves⟩ := hservable
    obtain ⟨s,p,link,hholds,hstep,hstage,hpeer⟩ := htuned family hactive
    obtain ⟨drawn,stage⟩ := k
    cases hstage
    have hlink : link.application = ⟨some p,link.application.contents⟩ := by
      rw [← hpeer]
    have hexchange := exchangeProtected_refused hcard
      (personalization.chains P ((honest P).application contents split) drawn) personalization.continuation
      hpositive hstep hexecute hserves hstatus hlink
    have hends := executeLocked_connected hholds hattached hadmissible (fun _ _ _ => False)
      (fun e k' => e = Native.Secure.rejected status ∧ k' = ⟨drawn,.serving (.idle ⟨none,next⟩)⟩ ∨
        Interrupts (.error e) ∧ Spans link.application.contents next k')
      (hexchange.mono fun r s' k' h => ?_)
    · refine hends.mono fun r card' k' h => ?_
      rcases h with ⟨_,_,_,_,hnever⟩ | ⟨e,rfl,_,⟨rfl,rfl⟩ | ⟨hinterrupts,hspans⟩⟩
      · exact hnever.elim
      · exact .inl ⟨rfl,rfl,fun _ h => (by cases h),fun _ h => (by cases h)⟩
      · exact .halted hinterrupts hspans
    · rcases h with ⟨hresult,_,hnext⟩ | ⟨⟨f,rfl,hinterrupts⟩,hheld⟩
      · exact .inr ⟨_,hresult,.inl ⟨rfl,hnext⟩⟩
      · obtain ⟨e,rfl⟩ := Interrupts.error hinterrupts
        exact .inr ⟨e,rfl,.inr ⟨hinterrupts,.of_held hheld⟩⟩

/-- The steps that host, chip and transport can take, up to the first command that is refused. -/
inductive Ready (hP : Computes o P) (personalization : Personalization Peer) (contents : Contents ω)
    (limits : TransportCapabilities) (framing : Native.Framing)
    (split : Native.Raw.Response → List Native.Raw.Response) : Situation → ω → List Step → Prop
  | done {situation w} : Ready hP personalization contents limits framing split situation w []
  | login {situation w method keyNumber key rest} (hpermitted : method.Permitted situation)
      (hvalid : key.valid = true) (hkey : personalization.keys (UInt8.ofNat keyNumber.value) = key.view)
      (hrest : Ready hP personalization contents limits framing split (situation.loggedIn method keyNumber) w rest) :
      Ready hP personalization contents limits framing split situation w (.login method keyNumber key :: rest)
  | answered {situation family w command answer next rest}
      (hservable : Servable hP personalization contents limits framing split situation family w command (.ok answer))
      (hexecute : contents.execute w command.opcode command.header command.data = (.ok answer,next))
      (hinside : Inside (secureRequest command) answer)
      (hanswers : (line hP family).agreement.Answers (secureRequest command) answer)
      (hrest : Ready hP personalization contents limits framing split situation next rest) :
      Ready hP personalization contents limits framing split situation w (.command command :: rest)
  | refused {situation family w command status next rest}
      (hservable : Servable hP personalization contents limits framing split situation family w command (.error status))
      (hexecute : contents.execute w command.opcode command.header command.data = (.error status,next))
      (hstatus : Refusal status) :
      Ready hP personalization contents limits framing split situation w (.command command :: rest)

/-- The contents of the chip after a part of the commands. -/
def Partway (contents : Contents ω) (w : ω) (steps : List Step) (k : CardState Peer ω) : Prop :=
  ∃ done, done <+: (requested steps).map secureRequest ∧ k.stage.chip.contents = (contents.run w done).2

theorem Contents.run_answered {w next : ω} {command : Native.Checked.Command} {answer : Bytes}
    (hexecute : contents.execute w command.opcode command.header command.data = (.ok answer,next))
    (rest : List Native.Secure.Request) : contents.run w (secureRequest command :: rest) =
      ((contents.run next rest).1.map (answer :: ·),(contents.run next rest).2) := by
  simp only [Contents.run,secureRequest,hexecute]

theorem Contents.run_refused {w next : ω} {command : Native.Checked.Command} {status : Byte}
    (hexecute : contents.execute w command.opcode command.header command.data = (.error status,next))
    (rest : List Native.Secure.Request) : contents.run w (secureRequest command :: rest) =
      (.error (.error (Native.Secure.rejected status)),next) := by
  simp only [Contents.run,secureRequest,hexecute]

theorem Partway.none {w : ω} {steps : List Step} {k : CardState Peer ω} (h : k.stage.chip.contents = w) :
    Partway contents w steps k :=
  ⟨[],List.nil_prefix,h⟩

/-- A command that was interrupted is done or not. -/
theorem Partway.of_spans {w next : ω} {command : Native.Checked.Command} {rest : List Step} {k : CardState Peer ω}
    (hrun : (contents.run w [secureRequest command]).2 = next) (h : Spans w next k) :
    Partway contents w (.command command :: rest) k := by
  rcases h with hbefore | hafter
  · exact .none hbefore
  · exact ⟨[secureRequest command],List.prefix_cons_inj _ |>.mpr List.nil_prefix,hafter.trans hrun.symm⟩

/-- A visit is a run of the chip's contents on its commands; one that is interrupted is a run on a part of them. -/
theorem visit_connected (hP : Computes o P)
    (hloginable : Loginable o P limits personalization ((honest P).application contents split) origin options framing)
    {identifiers : Nat → Bytes} {capabilities : Bytes} (hknows : Knows P personalization identifiers capabilities)
    (hsplit : Splits split) (hdocumented : Documented contents) {steps : List Step} {w : ω}
    {situation : Situation} (hready : Ready hP personalization contents limits framing split situation w steps)
    (hframing : card.raw.framing = framing) (hsituation : card.situation = situation) (hattached : Attached o card)
    (hbudget : steps.length ≤ Security.Ev2.counterMax.toNat) {k : CardState Peer ω}
    (hcontents : k.stage.chip.contents = w) (htuned : Tuned hP steps.length card k) :
    Facing ((personalization.card P ((honest P).application contents split)).observe framing) origin o k
      (visit options steps) card (Unless Interrupts (Partway contents w steps) fun r card' k' =>
        r = (contents.run w ((requested steps).map secureRequest)).1 ∧
        k'.stage.chip.contents = (contents.run w ((requested steps).map secureRequest)).2 ∧
        ∀ answers, r = .ok answers → Attached o card' ∧ Tuned hP 0 card' k') := by
  induction hready generalizing card k with
  | done => exact Facing.pure (.inl ⟨rfl,hcontents,fun _ _ => ⟨hattached,htuned⟩⟩)
  | @login situation w method keyNumber key rest hpermitted hvalid hkey hrest ih =>
    subst hframing hsituation
    have hlogin := login_connected hP hloginable hknows hpermitted hvalid hkey hattached.usable hattached.generation
      (Nat.le_of_succ_le hbudget) htuned.pred
    refine Facing.unless_bind (m := fun _ card' k' => LoggedIn hP rest.length method keyNumber card k card' k')
      (hlogin.mono fun r card' k' h => h.mono (fun _ h => h) fun h => ⟨(),h⟩)
      (fun k' hkept => .none (hkept.trans hcontents)) ?_
    intro _ card' k' hlogged
    have hattached' : Attached o card' :=
      ⟨⟨hlogged.usable.trans hattached.usable,hlogged.settled⟩,
        fun h => (hattached.generation h).trans hlogged.generation.symm⟩
    exact ih (by rw [hlogged.raw]) hlogged.situation hattached' (Nat.le_of_succ_le hbudget)
      (hlogged.contents.trans hcontents) hlogged.tuned
  | @answered situation family w command answer next rest hservable hexecute hinside hanswers hrest ih =>
    subst hframing hsituation hcontents
    have hrun := Contents.run_answered hexecute
    have hcommand := executeLocked_obliged hP hloginable.card hloginable.positive hsplit hdocumented
      hattached htuned (.answered hservable hexecute hinside hanswers)
    change Facing _ _ _ _ _ _ (Unless _ _ fun r card' k' =>
      r = (contents.run k.stage.chip.contents (secureRequest command :: (requested rest).map secureRequest)).1 ∧
      k'.stage.chip.contents =
        (contents.run k.stage.chip.contents (secureRequest command :: (requested rest).map secureRequest)).2 ∧
      ∀ answers, r = .ok answers → Attached o card' ∧ Tuned hP 0 card' k')
    rw [hrun]
    refine Facing.unless_bind (m := fun answer' card' k' =>
      Obliged hP rest.length card (.ok answer) next (.ok answer') card' k')
      ((admitted_connected hloginable.card hcommand).mono fun r card' k' h => h.mono (fun _ h => h) fun h => ?_)
      (fun k' hspans => .of_spans (by rw [hrun]; rfl) hspans) ?_
    · have hresult := h.result
      subst hresult
      exact ⟨answer,rfl,h⟩
    intro answer' card' k' h
    obtain ⟨hresult,hnext,halike,htuned'⟩ := h
    cases hresult
    have halike := halike answer rfl
    refine Facing.bind (ih (by rw [halike.raw]) halike.situation (hattached.alike halike)
      (Nat.le_of_succ_le hbudget) hnext (htuned' answer rfl)) ?_ ?_
    · rintro e card'' k'' (⟨hresult,hcontents',_⟩ | ⟨hhalted,done,hdone,hcontents'⟩)
      · rw [← hresult]
        exact .inl ⟨rfl,hcontents',fun _ hok => by cases hok⟩
      · obtain ⟨f,hf,hinterrupts⟩ := hhalted
        cases hf
        refine .halted hinterrupts ⟨secureRequest command :: done,?_,?_⟩
        · exact List.prefix_cons_inj _ |>.mpr hdone
        · rw [hrun]
          exact hcontents'
    · rintro answers card'' k'' (⟨hresult,hcontents',hstill⟩ | ⟨⟨_,hf,_⟩,_⟩)
      · rw [← hresult]
        exact Facing.pure (.inl ⟨rfl,hcontents',fun _ _ => hstill answers rfl⟩)
      · cases hf
  | @refused situation family w command status next rest hservable hexecute hstatus =>
    subst hframing hsituation hcontents
    have hrun := Contents.run_refused hexecute
    have hcommand := executeLocked_obliged hP hloginable.card hloginable.positive hsplit hdocumented
      hattached htuned (.refused hservable hexecute hstatus)
    change Facing _ _ _ _ _ _ (Unless _ _ fun r card' k' =>
      r = (contents.run k.stage.chip.contents (secureRequest command :: (requested rest).map secureRequest)).1 ∧
      k'.stage.chip.contents =
        (contents.run k.stage.chip.contents (secureRequest command :: (requested rest).map secureRequest)).2 ∧
      ∀ answers, r = .ok answers → Attached o card' ∧ Tuned hP 0 card' k')
    rw [hrun]
    refine Facing.bind (admitted_connected hloginable.card hcommand) ?_ ?_
    · rintro e card' k' (h | ⟨⟨f,hf,hinterrupts⟩,hspans⟩)
      · cases h.result
        exact .inl ⟨rfl,h.contents,fun _ hok => by cases hok⟩
      · cases hf
        exact .halted hinterrupts (.of_spans (by rw [hrun]) hspans)
    · rintro answer card' k' (h | ⟨⟨_,hf,_⟩,_⟩)
      · cases h.result
      · cases hf

end Visit

section Ledger

/-- A card that keeps what is written to it. -/
def ledger : Contents (List Bytes) where
  format _ _ := {headerSize := 1,dataSize := 2,requestMode := .mac,responseMode := .mac}
  execute w opcode _ data := if opcode = 0x8D then (.ok [],w ++ [data]) else (.error 0x1C,w)

def ledgerKeys : Personalization Peer where
  keys _ := zeros 16
  nonces _ := zeros 16
  length_nonce _ := length_zeros 16
  logins := nativeLogins .echo (fun _ => []) []
  continuation := rfl

def whole (response : Native.Raw.Response) : List Native.Raw.Response := [response]

def ledgerCard : Native.Raw.Responder (CardState Peer (List Bytes)) :=
  ledgerKeys.card .echo ((honest .echo).application ledger whole)

def ledgerOracle : Oracle Environment :=
  ledgerCard.wired .direct {} .echo ⟨0,.serving (.idle ⟨none,[]⟩)⟩

theorem ledger_computes : Computes ledgerOracle .echo := Native.Raw.wired_computes ..

def written (data : Bytes) : Native.Checked.Command := {opcode := 0x8D,header := [0x02],data}

theorem ledger_conveyable {size : Nat} (hsize : size ≤ 11) :
    Conveyable {} .direct whole (secureRequest (written [7,8])) size (.ok []) where
  answer answer hanswer wire response hwire hresponse := by
    cases hanswer
    have hshort : response.data.length ≤ 24 := hresponse
    have hroom : Native.Raw.Transaction.dataPerFrame .direct {} = 59 := rfl
    have hmaximum : (rawRequest (secureRequest (written [7,8])) wire).maximumResponse = 32 := rfl
    have hdata : (rawRequest (secureRequest (written [7,8])) wire).data.length = size := hwire
    have hreceive : response.data.length + Native.Raw.statusSize .direct ≤ ({} : TransportCapabilities).maxReceive := by
      change response.data.length + 1 ≤ 65538
      omega
    exact .whole (by omega) rfl rfl (by omega) (by omega) (by omega) hreceive
  refusal status hstatus := by cases hstatus

theorem written_admissible {situation : Situation} (hiso : situation.iso = false) (data : Bytes) :
    Admissible situation (written data) where
  valid := rfl
  framed := show (0x8D : Byte) ≠ 0x6D by decide
  kept := rfl
  context card hsituation := by
    have hnative : card.isoSession.isSome = false := (congrArg Situation.iso hsituation).trans hiso
    simp [requireContext,hnative,written,Native.Checked.Command.restrictsAuthenticatedKey]

theorem ledger_servable {situation : Situation} (hiso : situation.iso = false) (family : Family)
    (hfamily : situation.family = some family) (w : List Bytes) :
    Servable ledger_computes ledgerKeys ledger {} .direct whole situation family w (written [7,8]) (.ok []) where
  active := hfamily
  admissible := written_admissible hiso [7,8]
  serves := by
    cases family with
    | ev2 =>
      have hfits : Security.Ev2.Session.MacFits [0x02] [7,8] := by decide
      exact ⟨rfl,rfl,by decide,rfl,⟨rfl,rfl,rfl,rfl⟩,⟨Iff.rfl,hfits⟩,ledger_conveyable (Nat.le_refl 11)⟩
    | standardAes =>
      have hfits : Security.StandardAes.Session.ClearFits [0x02] [7,8] true := by
        unfold Security.StandardAes.Session.ClearFits
        decide
      have hcovered : ([0x8D,0x02,7,8] : Bytes).length ≤ Security.StandardAes.cmacMax := by decide
      exact ⟨rfl,rfl,by decide,rfl,⟨rfl,rfl,rfl,rfl⟩,⟨fun h => (by cases h),hfits,.inr hcovered⟩,
        ledger_conveyable (Nat.le_refl 11)⟩

theorem ledger_ready : Ready ledger_computes ledgerKeys ledger {} .direct whole
    ({raw := ⟨.direct⟩,generation := 1} : Card).situation []
    [.login .standardAes ⟨0,by decide⟩ zeroKey,.command (written [7,8]),.login (.ev2First []) ⟨0,by decide⟩ zeroKey,
      .command (written [7,8]),.login .ev2NonFirst ⟨0,by decide⟩ zeroKey,.command (written [7,8])] := by
  have hinside : Inside (secureRequest (written [7,8])) [] := ⟨Nat.le_refl 0,Nat.le_refl 0⟩
  have hcovered : (standardAesCommand (secureRequest (written [7,8])) []).AnswerCovered := .inr (by decide)
  refine .login trivial rfl rfl (.answered (ledger_servable rfl .standardAes rfl []) rfl hinside hcovered ?_)
  refine .login (Nat.zero_le 6) rfl rfl (.answered (ledger_servable rfl .ev2 rfl _) rfl hinside trivial ?_)
  exact .login rfl rfl rfl (.answered (ledger_servable rfl .ev2 rfl _) rfl hinside trivial .done)

theorem ledger_documented : Documented ledger := by
  intro w opcode header data answer next hexecute
  simp only [ledger] at hexecute
  split at hexecute
  · rename_i hopcode
    cases hexecute
    rw [hopcode]
    rfl
  · cases hexecute

theorem ledger_loginable : Loginable ledgerOracle .echo {} ledgerKeys ((honest .echo).application ledger whole)
    ⟨0,.serving (.idle ⟨none,[]⟩)⟩ {} .direct where
  draws h := ⟨zeros 16,rfl,length_zeros 16⟩
  card := Native.Raw.wired_connected ..
  room := ⟨by decide,by decide,by decide⟩
  positive := by decide

/-- Three logins in turn, with a write after each: the card keeps the three records. -/
theorem visit_connected_ledger :
    let card : Card := {raw := ⟨.direct⟩,generation := 1}
    let key : KeyNumber := ⟨0,by decide⟩
    let steps : List Step := [.login .standardAes key zeroKey,.command (written [7,8]),
      .login (.ev2First []) key zeroKey,.command (written [7,8]),.login .ev2NonFirst key zeroKey,
      .command (written [7,8])]
    Facing (ledgerCard.observe .direct) ⟨0,.serving (.idle ⟨none,[]⟩)⟩ ledgerOracle
      ⟨0,.serving (.idle ⟨none,[]⟩)⟩ (visit {} steps) card
      (Unless Interrupts (Partway ledger [] steps) fun r card' k' =>
        r = .ok [[],[],[]] ∧ k'.stage.chip.contents = [[7,8],[7,8],[7,8]] ∧
        ∀ answers, r = .ok answers → Attached ledgerOracle card' ∧ Tuned ledger_computes 0 card' k') :=
  visit_connected ledger_computes ledger_loginable ⟨rfl,rfl,rfl⟩ (fun _ h => ⟨.final h,rfl⟩) ledger_documented
    ledger_ready rfl rfl ⟨⟨rfl,rfl⟩,fun _ => rfl⟩ (by decide) rfl (fun _ h => by cases h)

end Ledger
end DesfireSdk.Managed
