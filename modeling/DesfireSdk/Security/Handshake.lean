import DesfireSdk.Native.Raw.Chaining
import DesfireSdk.Security.Ev2.Authentication
import DesfireSdk.Security.StandardAes.Authentication

/-!
# What a login is worth

Whatever transport, card and provider do: a login sends its own frames only, does not deny them
once one was answered, and returns material only for a card proof of the nonce it drew.
-/
namespace DesfireSdk.Security
open Interaction Program Native Native.Raw

/-- This question got this answer in the run. -/
def Observed (es : Trace Environment) (query : Query) (reply : query.Reply) : Prop :=
  (⟨query,reply⟩ : Event Environment) ∈ es

/-- A login hands over its first frame and, after a challenge, a proof. -/
inductive OwnFrames (framing : Native.Framing) (profile : NonceProfile) (payload : Bytes) : List Delivery → Prop
  | none : OwnFrames framing profile payload []
  | first {d : Delivery} (hd : d.frame = wire framing profile.initialCommand payload) :
      OwnFrames framing profile payload [d]
  | both {d d' : Delivery} (hd : d.frame = wire framing profile.initialCommand payload)
      (challenge : Bytes) (hchallenge : replyOf framing d = some ⟨0xAF,challenge⟩) (proof : Bytes)
      (hd' : d'.frame = wire framing 0xAF proof) : OwnFrames framing profile payload [d,d']

/-- The frames of a login and its evidence about them. -/
structure Sound {α : Type} (framing : Native.Framing) (profile : NonceProfile) (payload : Bytes) (r : Except Fault α)
    (es : Trace Environment) : Prop where
  own : OwnFrames framing profile payload (deliveries es)
  evident : ∀ e, r = .error (.error e) → (∃ d ∈ deliveries es, d.Answered) → e.outcome ≠ .notSent

/-- The nonces of a complete exchange with the frames and computations they come from. -/
structure Exchanged (framing : Native.Framing) (profile : NonceProfile) (payload key : Bytes) (nonces : Nonces)
    (challenge proof answer : Bytes) (es : Trace Environment) : Prop where
  drawn : Observed es (.random 16) (.ok nonces.host)
  opened : Observed es (.cbc key (zeros 16) challenge false) (.ok nonces.card)
  proved : Observed es (.cbc key (profile.proofIv challenge) (nonces.host ++ rotateLeft nonces.card) true)
    (.ok proof)
  closed : Observed es (.cbc key (profile.terminalIv proof) answer false) (.ok nonces.terminal)
  frames : ∃ d d', deliveries es = [d,d'] ∧ d.frame = wire framing profile.initialCommand payload ∧
    replyOf framing d = some ⟨0xAF,challenge⟩ ∧ d'.frame = wire framing 0xAF proof ∧
    replyOf framing d' = some ⟨0x00,answer⟩
  hostSize : nonces.host.length = 16
  cardSize : nonces.card.length = 16
  terminalSize : nonces.terminal.length = profile.terminalSize

/-- The provider derived both session keys from the nonces. -/
structure Ev2Keys (key : Bytes) (nonces : Nonces) (material : Ev2.AuthenticationMaterial)
    (es : Trace Environment) : Prop where
  encryption : Observed es (.cmac key ([0xA5,0x5A,0x00,0x01,0x00,0x80] ++
    Ev2.sessionContext nonces.host nonces.card)) (.ok material.encryptionKey)
  mac : Observed es (.cmac key ([0x5A,0xA5,0x00,0x01,0x00,0x80] ++
    Ev2.sessionContext nonces.host nonces.card)) (.ok material.macKey)

section Handshake
variable {o : Oracle Environment} {framing : Native.Framing} {profile : NonceProfile} {payload key : Bytes}
  {es es' : Trace Environment} {α : Type}

theorem Observed.left {query : Query} {reply : query.Reply} (h : Observed es query reply) (es' : Trace Environment) :
    Observed (es ++ es') query reply := List.mem_append_left es' h

theorem Observed.right {query : Query} {reply : query.Reply} (h : Observed es' query reply)
    (es : Trace Environment) : Observed (es ++ es') query reply := List.mem_append_right es h

theorem deliveries_quiet {es es' : Trace Environment} (h : deliveries es' = []) :
    deliveries (es ++ es') = deliveries es := by
  rw [deliveries_append,h,List.append_nil]

/-- Computations afterwards change nothing about an exchange. -/
theorem Exchanged.left {nonces : Nonces} {challenge proof answer : Bytes}
    (h : Exchanged framing profile payload key nonces challenge proof answer es) (hquiet : deliveries es' = []) :
    Exchanged framing profile payload key nonces challenge proof answer (es ++ es') where
  drawn := h.drawn.left es'
  opened := h.opened.left es'
  proved := h.proved.left es'
  closed := h.closed.left es'
  frames := by
    rw [deliveries_quiet hquiet]
    exact h.frames
  hostSize := h.hostSize
  cardSize := h.cardSize
  terminalSize := h.terminalSize

namespace Sound

theorem unsent {f : Fault} (hes : deliveries es = []) : Sound framing profile payload (.error f : Except Fault α) es := by
  refine ⟨by rw [hes]; exact .none,fun e _ h => ?_⟩
  obtain ⟨d,hd,_⟩ := h
  rw [hes] at hd
  cases hd

/-- A failure that does not deny what was handed over. -/
theorem admitted {f : Fault} (hown : OwnFrames framing profile payload (deliveries es))
    (hf : ∀ e, f = .error e → e.outcome ≠ .notSent) :
    Sound framing profile payload (.error f : Except Fault α) es := by
  refine ⟨hown,fun e he _ => ?_⟩
  cases he
  exact hf e rfl

theorem done {a : α} (hown : OwnFrames framing profile payload (deliveries es)) :
    Sound framing profile payload (.ok a) es := ⟨hown,fun _ h => by cases h⟩

end Sound

theorem requirePhase_reads {operation : String} {response : Response} {status : Byte} {size : Nat}
    (h : requirePhase operation response status size = .ok ()) :
    response.status = status ∧ response.data.length = size := by
  unfold requirePhase at h
  split at h
  · split at h <;> cases h
  · rename_i hstatus
    split at h
    · cases h
    · rename_i hsize
      exact ⟨Decidable.not_not.mp hstatus,Decidable.not_not.mp hsize⟩

theorem requirePhase_outcome {operation : String} {response : Response} {status : Byte} {size : Nat} {e : Error}
    (h : requirePhase operation response status size = .error e) : e.outcome ≠ .notSent := by
  unfold requirePhase at h
  split at h
  · split at h <;> cases h <;> exact Outcome.noConfusion
  · split at h <;> cases h
    exact Outcome.noConfusion

theorem equal_of_compared {left right : Bytes} (h : ¬constantTimeEqual left right = false) : left = right := by
  rw [constantTimeEqual_eq,Bool.not_eq_false,beq_iff_eq] at h
  exact h

theorem random_secret {τ : Type} {s : τ} (message : String) (size : Nat) :
    Ensures some o (Op.secretOutput message (Op.random size) size) s
      (Op.PrimitiveCase id id message size (fun reply => ⟨.random size,reply⟩) s) :=
  Op.ensures_secretOutput (Op.ensures_random fun _ => Op.primitive_cases _)

/-- The first frame of a login, answered or not. -/
theorem OwnFrames.hello {t t' : Transaction} {r : Except Fault Response} {ds : List Delivery}
    (h : t.FrameCase o profile.initialCommand payload r t' ds) : OwnFrames t.framing profile payload ds := by
  cases h with
  | threw | unsent => exact .none
  | failed d hd | discarded d hd | replied d hd => exact .first hd.1

/-- The proof of the host follows a challenge. -/
theorem OwnFrames.answer {t t' t'' : Transaction} {d : Delivery} {challenge proof : Bytes}
    {r : Except Fault Response} {ds : List Delivery} (hd : d.frame = wire t.framing profile.initialCommand payload)
    (hchallenge : replyOf t.framing d = some ⟨0xAF,challenge⟩) (hframing : t'.framing = t.framing)
    (h : t'.FrameCase o 0xAF proof r t'' ds) : OwnFrames t.framing profile payload (d :: ds) := by
  cases h with
  | threw | unsent => exact .first hd
  | failed d' hd' | discarded d' hd' | replied d' hd' =>
    have hproof := hd'.1
    rw [hframing] at hproof
    exact .both hd challenge hchallenge proof hproof

/-- A first frame without an answer that can be read. -/
theorem Sound.unanswered {t t' : Transaction} {f : Fault}
    (h : t.FrameCase o profile.initialCommand payload (.error f) t' (deliveries es)) :
    Sound t.framing profile payload (.error f : Except Fault α) es := by
  refine ⟨.hello h,fun e he hanswered => ?_⟩
  obtain ⟨d,hd,bytes,hbytes⟩ := hanswered
  cases he
  generalize deliveries es = ds at h hd
  cases h with
  | unsent => cases hd
  | failed d' _ f' hfailed =>
    rw [List.mem_singleton] at hd
    rw [hd,hfailed] at hbytes
    cases hbytes
  | discarded d' _ bytes' _ e' he' =>
    rw [he']
    exact Outcome.noConfusion

/-- A reply is one answered delivery. -/
theorem frame_reply {t t' : Transaction} {command : Byte} {data : Bytes} {response : Response}
    {ds : List Delivery} (h : t.FrameCase o command data (.ok response) t' ds) :
    ∃ d, ds = [d] ∧ d.frame = wire t.framing command data ∧ replyOf t.framing d = some response ∧
      t'.framing = t.framing := by
  cases h with
  | replied d hd bytes hanswer _ hresponse _ => exact ⟨d,rfl,hd.1,replyOf_eq hanswer hresponse,rfl⟩

/-- The frame after a challenge, whose failure does not deny the first. -/
theorem exchangeFrame_afterDelivery (o : Oracle Environment) (command : Byte) (data : Bytes) (t : Transaction) :
    Ensures some o (Op.mapError Error.afterDelivery (Transaction.exchangeFrame command data)) t fun r _ es =>
      (∃ r' t', t.FrameCase o command data r' t' (deliveries es) ∧ ∀ response, r = .ok response → r' = .ok response) ∧
        ∀ e, r = .error (.error e) → e.outcome ≠ .notSent := by
  refine Op.ensures_mapError ((Transaction.exchangeFrame_cases o command data t).full.mono fun r t' es hcase => ?_)
  refine ⟨⟨r,t',hcase,fun response hr => ?_⟩,fun e hr => ?_⟩ <;> rcases r with (_ | _) | _ <;> cases hr
  · rfl
  · exact Error.afterDelivery_outcome _

/-- What a login sent, and what it learned if it got through. -/
def Established (framing : Native.Framing) (profile : NonceProfile) (payload key : Bytes)
    (r : Except Fault Nonces) (es : Trace Environment) : Prop :=
  Sound framing profile payload r es ∧
    ∀ nonces, r = .ok nonces → ∃ challenge proof answer,
      Exchanged framing profile payload key nonces challenge proof answer es

theorem Established.failed {f : Fault} (h : Sound framing profile payload (.error f : Except Fault Nonces) es) :
    Established framing profile payload key (.error f) es := by
  refine ⟨h,fun nonces hr => ?_⟩
  cases hr

/-- No failure after a challenge denies the frames. -/
theorem afterChallenge_sound (t : Transaction) {t₁ : Transaction} {d : Delivery} {challenge host : Bytes}
    (hframing : t₁.framing = t.framing) (hd : d.frame = wire t.framing profile.initialCommand payload)
    (hchallenge : replyOf t.framing d = some ⟨0xAF,challenge⟩) (hhost : host.length = 16)
    (hdrawn : Observed es (.random 16) (.ok host)) (hes : deliveries es = [d]) :
    Ensures some o (do
      let randomB ← Op.mapError Error.asUnknown
        (Op.secretOutput profile.sizeMessage (Op.cbc key (zeros 16) challenge false) 16)
      let encryptedProof ← Op.mapError Error.asUnknown (Op.secretOutput profile.sizeMessage
        (Op.cbc key (profile.proofIv challenge) (host ++ rotateLeft randomB) true) 32)
      let terminal ← Op.mapError Error.afterDelivery (Transaction.exchangeFrame 0xAF encryptedProof)
      Op.ofResult (requirePhase profile.operation terminal 0x00 profile.terminalSize)
      let plaintext ← Op.mapError Error.asUnknown (Op.secretOutput profile.sizeMessage
        (Op.cbc key (profile.terminalIv encryptedProof) terminal.data false) profile.terminalSize)
      pure (⟨host,randomB,plaintext⟩ : Nonces)) t₁ fun r _ es' =>
        Established t.framing profile payload key r (es ++ es') := by
  have hasUnknown : ∀ e : Error, e.asUnknown.outcome ≠ .notSent := fun e => Outcome.noConfusion
  have hfirst : ∀ {f : Fault} {quiet : Trace Environment}, deliveries quiet = [] →
      (∀ e, f = .error e → e.outcome ≠ .notSent) →
      Established t.framing profile payload key (.error f) (es ++ quiet) := by
    intro f quiet hquiet hf
    refine .failed (.admitted ?_ hf)
    rw [deliveries_quiet hquiet,hes]
    exact .first hd
  refine ensures_bind (Op.PrimitiveCase.change Error.asUnknown (Op.cbc_secret _ _ _ _ _ _)) ?_ ?_
  · intro f t₂ events hcase
    cases hcase with
    | failed reply e hreply => exact hfirst rfl fun e he => by cases he; exact hasUnknown _
    | threw => exact hfirst rfl fun e he => nomatch he
  intro nonce t₂ events hcase
  cases hcase with
  | computed _ hcard =>
  refine ensures_bind (Op.PrimitiveCase.change Error.asUnknown (Op.cbc_secret _ _ _ _ _ _)) ?_ ?_
  · intro f t₂ events hcase
    cases hcase with
    | failed reply e hreply => exact hfirst rfl fun e he => by cases he; exact hasUnknown _
    | threw => exact hfirst rfl fun e he => nomatch he
  intro proof t₂ events hcase
  cases hcase with
  | computed _ hproof =>
  refine ensures_bind (exchangeFrame_afterDelivery o 0xAF proof t₁) ?_ ?_
  · intro f t₂ events hframe
    obtain ⟨⟨r',t₃,hcase,_⟩,hf⟩ := hframe
    refine .failed (.admitted ?_ fun e he => hf e (by rw [he]))
    have hown := OwnFrames.answer hd hchallenge hframing hcase
    rw [deliveries_append,hes]
    exact hown
  intro response t₂ events hframe
  obtain ⟨⟨r',t₃,hcase,hr'⟩,_⟩ := hframe
  rw [hr' response rfl] at hcase
  obtain ⟨d',hd',hproofFrame,hreply,_⟩ := frame_reply hcase
  have hown := OwnFrames.answer hd hchallenge hframing hcase
  rw [hd'] at hown
  have hsecond : ∀ {f : Fault} {quiet : Trace Environment}, deliveries quiet = [] →
      (∀ e, f = .error e → e.outcome ≠ .notSent) → Established t.framing profile payload key (.error f)
        (es ++ ([⟨.cbc key (zeros 16) challenge false,.ok nonce⟩] ++
          ([⟨.cbc key (profile.proofIv challenge) (host ++ rotateLeft nonce) true,.ok proof⟩] ++ (events ++ quiet)))) := by
    intro f quiet hquiet hf
    refine .failed (.admitted ?_ hf)
    simp only [deliveries_append,hes,hd',hquiet]
    exact hown
  refine Op.ensures_ofResult_bind (fun e he => ?_) fun _ hphase => ?_
  · refine hsecond rfl fun e' he' => ?_
    cases he'
    exact requirePhase_outcome he
  obtain ⟨hstatus,hsize⟩ := requirePhase_reads hphase
  refine ensures_bind (Op.PrimitiveCase.change Error.asUnknown (Op.cbc_secret _ _ _ _ _ _)) ?_ ?_
  · intro f t₂ events hcase
    cases hcase with
    | failed reply e hreply => exact hsecond rfl fun e he => by cases he; exact hasUnknown _
    | threw => exact hsecond rfl fun e he => nomatch he
  intro terminal t₂ events hcase
  cases hcase with
  | computed _ hterminal =>
  refine ensures_pure ⟨.done ?_,fun nonces hnonces => ?_⟩
  · simp only [deliveries_append,hes,hd']
    exact hown
  cases hnonces
  obtain ⟨status,answer⟩ := response
  cases hstatus
  refine ⟨challenge,proof,answer,?_,?_,?_,?_,⟨d,d',?_,hd,hchallenge,?_,?_⟩,hhost,hcard,hterminal⟩
  · exact hdrawn.left _
  · exact List.mem_append_right _ List.mem_cons_self
  · exact List.mem_append_right _ (List.mem_cons_of_mem _ List.mem_cons_self)
  · simp [Observed]
  · simp only [deliveries_append,hes,hd']
    rfl
  · rw [hproofFrame,hframing]
  · rw [← hframing]
    exact hreply

/-- A login returns nonces only for a proof by the card, and denies no frame that was answered. -/
theorem exchangeNonces_sound (o : Oracle Environment) (profile : NonceProfile) (payload key : Bytes) (t : Transaction) :
    Ensures some o (exchangeNonces profile payload key Transaction.exchangeFrame) t fun r _ es =>
      Established t.framing profile payload key r es := by
  refine ensures_bind (random_secret _ 16) ?_ ?_
  · intro f t₁ events hcase
    cases hcase with
    | failed | threw => exact .failed (.unsent rfl)
  intro host t₁ events hcase
  cases hcase with
  | computed _ hhost =>
  refine ensures_bind (Transaction.exchangeFrame_cases o profile.initialCommand payload t).full ?_ ?_
  · intro f t₁ events hcase
    exact .failed (.unanswered hcase)
  intro initial t₁ events hcase
  have hhello := OwnFrames.hello hcase
  obtain ⟨d,hevents,hd,hreply,hframing⟩ := frame_reply hcase
  refine Op.ensures_ofResult_bind (fun e he => ?_) fun _ hphase => ?_
  · refine .failed (.admitted ?_ fun e' he' => ?_)
    · rw [List.append_nil]
      exact hhello
    · cases he'
      exact requirePhase_outcome he
  obtain ⟨hstatus,_⟩ := requirePhase_reads hphase
  obtain ⟨status,challenge⟩ := initial
  cases hstatus
  have hdrawn : Observed ([⟨.random 16,.ok host⟩] ++ events) (.random 16) (.ok host) := List.mem_cons_self
  exact Ensures.mono (afterChallenge_sound t hframing hd hreply hhost hdrawn hevents) fun r _ es' h => by
    simpa using h

/-- A computation after the nonces: it sends nothing, denies nothing and gives `property`. -/
def Concludes (o : Oracle Environment) (property : α → Trace Environment → Prop) (p : Op Transaction α) : Prop :=
  ∀ s, Ensures some o p s fun r _ es => deliveries es = [] ∧ (∀ e, r = .error (.error e) → e.outcome ≠ .notSent) ∧
    ∀ a, r = .ok a → property a es

theorem Concludes.pure {property : α → Trace Environment → Prop} {a : α} (h : property a []) :
    Concludes o property (Pure.pure a) := by
  intro s
  refine ensures_pure ⟨rfl,fun e he => ?_,fun a' ha => ?_⟩
  · cases he
  · cases ha
    exact h

theorem Concludes.mono {property property' : α → Trace Environment → Prop} {p : Op Transaction α}
    (h : Concludes o property p) (himp : ∀ a es, property a es → property' a es) : Concludes o property' p := by
  intro s
  refine (h s).mono fun r _ es hrest => ?_
  obtain ⟨hquiet,hadmits,hproperty⟩ := hrest
  exact ⟨hquiet,hadmits,fun a ha => himp a es (hproperty a ha)⟩

/-- A check of the card's proof. -/
theorem Concludes.refuse {property : α → Trace Environment → Prop} {c : Prop} [Decidable c] {e : Error}
    {f : Unit → Op Transaction α} (he : e.outcome ≠ .notSent) (hf : ¬c → Concludes o property (f ())) :
    Concludes o property (Op.refuse c e >>= f) := by
  intro s
  refine Op.ensures_refuse_bind (fun _ => ?_) fun hc => hf hc s
  refine ⟨rfl,fun e' he' => ?_,fun a ha => ?_⟩
  · cases he'
    exact he
  · cases ha

/-- Nonces, then a conclusion from them. -/
theorem conclude_sound {f : Nonces → Op Transaction α} {property : Nonces → α → Trace Environment → Prop}
    (message : String) (t : Transaction) (hf : ∀ nonces, Concludes o (property nonces) (f nonces))
    (hlate : ∀ nonces a es es', property nonces a es' → property nonces a (es ++ es')) :
    Ensures some o (Op.catchAll id ⟨.internal,message,.unknown,0⟩ (do
      let nonces ← exchangeNonces profile payload key Transaction.exchangeFrame
      f nonces)) t fun r _ es => Sound t.framing profile payload r es ∧ ∀ a, r = .ok a →
        ∃ nonces challenge proof answer,
          Exchanged t.framing profile payload key nonces challenge proof answer es ∧ property nonces a es := by
  have hcaught : ∀ (r : Except Fault α) (s : Transaction) (es : Trace Environment), Sound t.framing profile payload r es →
      Sound t.framing profile payload (Op.afterThrow id ⟨.internal,message,.unknown,0⟩ r s).1 es := by
    intro r s es h
    rcases r with (e | _) | a
    · exact h
    · exact .admitted h.own fun e he => by cases he; exact Outcome.noConfusion
    · exact h
  have hfails : ∀ {β : Type} (r : Except Fault β) (s : Transaction) (f : Fault) (b : β),
      r = .error f → (Op.afterThrow id ⟨.internal,message,.unknown,0⟩ r s).1 ≠ .ok b := by
    intro β r s f b hr h
    rw [hr] at h
    cases f <;> cases h
  refine Op.ensures_catchAll (ensures_bind (exchangeNonces_sound o profile payload key t) ?_ ?_)
  · intro f s es h
    refine ⟨hcaught _ _ _ ?_,fun a ha => ?_⟩
    · obtain ⟨⟨hown,hevident⟩,_⟩ := h
      exact ⟨hown,fun e he => hevident e (by cases he; rfl)⟩
    · exact absurd ha (hfails _ _ f a rfl)
  intro nonces s es h
  obtain ⟨⟨hown,_⟩,hexchanged⟩ := h
  obtain ⟨challenge,proof,answer,hexchanged⟩ := hexchanged nonces rfl
  refine (hf nonces s).mono fun r s' es' hrest => ?_
  obtain ⟨hquiet,hadmits,hproperty⟩ := hrest
  have hown' : OwnFrames t.framing profile payload (deliveries (es ++ es')) := by
    rw [deliveries_quiet hquiet]
    exact hown
  rcases r with f | a
  · refine ⟨hcaught _ _ _ (.admitted hown' fun e he => hadmits e (by rw [he])),fun a ha => ?_⟩
    exact absurd ha (hfails _ _ f a rfl)
  · refine ⟨.done hown',fun a' ha => ?_⟩
    cases ha
    exact ⟨nonces,challenge,proof,answer,hexchanged.left hquiet,hlate nonces a es es' (hproperty a rfl)⟩

end Handshake

/-- The native AES logins. -/
inductive Procedure
  | standardAes
  | ev2First (pcdCapabilities : Bytes)
  | ev2Nonfirst (previous : Model.AuthenticationInfo)

inductive Material
  | standardAes (material : StandardAes.AuthenticationMaterial)
  | ev2 (material : Ev2.AuthenticationMaterial)

namespace Procedure

def profile : Procedure → NonceProfile
  | standardAes => StandardAes.authenticationProfile
  | ev2First _ => Ev2.firstProfile
  | ev2Nonfirst _ => Ev2.nonfirstProfile

/-- The data of the first frame. -/
def payload (keyNumber : Byte) : Procedure → Bytes
  | ev2First pcdCapabilities => keyNumber :: UInt8.ofNat pcdCapabilities.length :: pcdCapabilities
  | _ => [keyNumber]

def login {τ : Type} (keyNumber : Byte) (key : Bytes) (exchange : AuthenticationExchange τ) :
    Procedure → Op τ Material
  | standardAes => Op.returning .standardAes (StandardAes.authenticate keyNumber key exchange)
  | ev2First pcdCapabilities => Op.returning .ev2 (Ev2.authenticateFirst keyNumber key pcdCapabilities exchange)
  | ev2Nonfirst previous => Op.returning .ev2 (Ev2.authenticateNonfirst keyNumber key previous exchange)

/-- The card proved the nonce of the host and, for First, returned its capabilities; the material
comes from both nonces. -/
def Vouches (key : Bytes) (nonces : Nonces) (es : Trace Environment) : Procedure → Material → Prop
  | standardAes,.standardAes material => nonces.terminal = rotateLeft nonces.host ∧
      material.sessionKey = nonces.host.take 4 ++ nonces.card.take 4 ++ (nonces.host.drop 12).take 4 ++
        (nonces.card.drop 12).take 4
  | ev2First pcdCapabilities,.ev2 material => (nonces.terminal.drop 4).take 16 = rotateLeft nonces.host ∧
      (nonces.terminal.drop 26).take 6 = copyInto 6 pcdCapabilities ∧
      Ev2Keys key nonces material es ∧ material.information = Ev2.terminalInformation nonces.terminal
  | ev2Nonfirst previous,.ev2 material => nonces.terminal = rotateLeft nonces.host ∧
      Ev2Keys key nonces material es ∧ material.information = previous
  | _,_ => False

theorem Vouches.right {key : Bytes} {nonces : Nonces} {material : Material} (procedure : Procedure)
    (es es' : Trace Environment) (h : Vouches key nonces es' procedure material) :
    Vouches key nonces (es ++ es') procedure material := by
  have hkeys : ∀ {m}, Ev2Keys key nonces m es' → Ev2Keys key nonces m (es ++ es') :=
    fun h => ⟨h.encryption.right es,h.mac.right es⟩
  cases procedure <;> cases material
  · exact h
  · exact h
  · exact h
  · exact ⟨h.1,h.2.1,hkeys h.2.2.1,h.2.2.2⟩
  · exact h
  · exact ⟨h.1,hkeys h.2.1,h.2.2⟩

section Soundness
variable {o : Oracle Environment} {key : Bytes} {α : Type}

/-- Both session keys come from the provider. -/
theorem deriveMaterial_concludes (nonces : Nonces) (information : Model.AuthenticationInfo) :
    Concludes o (fun material es => Ev2Keys key nonces material es ∧ material.information = information)
      (Op.mapError Error.asUnknown (Ev2.deriveMaterial key nonces.host nonces.card information)) := by
  have hderive (label : Bytes) (s : Transaction) : Ensures some o (Ev2.deriveKey key label nonces.host nonces.card) s
      (Op.PrimitiveCase id id Ev2.authenticationOutput 16
        (fun reply => ⟨.cmac key (label ++ Ev2.sessionContext nonces.host nonces.card),reply⟩) s) :=
    Op.cmac_secret _ _ _ _
  intro s
  have hfailed : ∀ (f : Fault) (s : Transaction) {es : Trace Environment}, deliveries es = [] →
      let r := (Op.changeError Error.asUnknown (.error f : Except Fault Ev2.AuthenticationMaterial) s).1
      deliveries es = [] ∧ (∀ e, r = .error (.error e) → e.outcome ≠ .notSent) ∧ ∀ material, r = .ok material →
        Ev2Keys key nonces material es ∧ material.information = information := by
    intro f s es hquiet
    refine ⟨hquiet,fun e he => ?_,fun material hmaterial => ?_⟩
    · cases f <;> cases he
      exact Outcome.noConfusion
    · cases f <;> cases hmaterial
  refine Op.ensures_mapError (ensures_bind (hderive _ s) ?_ ?_)
  · intro f s' es hcase
    refine hfailed f s' ?_
    cases hcase <;> rfl
  intro encryption s' es hcase
  cases hcase with
  | computed _ hencryption =>
  refine ensures_bind (hderive _ s) ?_ ?_
  · intro f s' es hcase
    refine hfailed f s' ?_
    cases hcase <;> rfl
  intro mac s' es hcase
  cases hcase with
  | computed _ hmac =>
  refine ensures_pure ⟨rfl,fun e he => ?_,fun material hmaterial => ?_⟩
  · cases he
  cases hmaterial
  exact ⟨⟨List.mem_cons_self,List.mem_cons_of_mem _ List.mem_cons_self⟩,rfl⟩

theorem refused_sound {profile : NonceProfile} {payload : Bytes} {c : Prop} [Decidable c] {e : Error}
    {p : Op Transaction α} {t : Transaction} {post : α → Trace Environment → Prop}
    (hp : Ensures some o p t fun r _ es => Sound t.framing profile payload r es ∧ ∀ a, r = .ok a → post a es) :
    Ensures some o (do Op.refuse c e; p) t fun r _ es =>
      Sound t.framing profile payload r es ∧ ∀ a, r = .ok a → post a es := by
  refine Op.ensures_refuse_bind (fun _ => ⟨.unsent rfl,fun a ha => ?_⟩) fun _ => hp
  cases ha

theorem returning_sound {profile : NonceProfile} {payload : Bytes} {β : Type} {f : α → β} {p : Op Transaction α}
    {t : Transaction} {post : β → Trace Environment → Prop}
    (hp : Ensures some o p t fun r _ es => Sound t.framing profile payload r es ∧ ∀ a, r = .ok a → post (f a) es) :
    Ensures some o (Op.returning f p) t fun r _ es =>
      Sound t.framing profile payload r es ∧ ∀ b, r = .ok b → post b es := by
  refine Op.ensures_returning (hp.mono fun r s es h => ?_)
  obtain ⟨⟨hown,hevident⟩,hpost⟩ := h
  rcases r with f' | a
  · refine ⟨⟨hown,fun e he => hevident e (by cases he; rfl)⟩,fun b hb => ?_⟩
    cases hb
  · refine ⟨.done hown,fun b hb => ?_⟩
    cases hb
    exact hpost a rfl

end Soundness

/-- No exception leaves a login. -/
theorem login_returns (o : Oracle Environment) (procedure : Procedure) (keyNumber : Byte) (key : Bytes) (t : Transaction) :
    Ensures some o (procedure.login keyNumber key Transaction.exchangeFrame) t fun r _ _ => r ≠ .error .thrown := by
  have hreturning : ∀ {α β : Type} {f : α → β} {p : Op Transaction α},
      (Ensures some o p t fun r _ _ => r ≠ .error .thrown) →
      Ensures some o (Op.returning f p) t fun r _ _ => r ≠ .error .thrown := by
    intro α β f p hp
    refine Op.ensures_returning (hp.mono fun r _ _ h => ?_)
    rcases r with (_ | _) | _
    · exact nofun
    · exact absurd rfl h
    · exact nofun
  cases procedure <;> refine hreturning (Op.ensures_refuse_bind (fun _ => nofun) fun _ h => ?_) <;>
    exact Op.catchAll_not_thrown o h t

/-- What a login sends and admits, and what its material rests on. -/
theorem login_vouched (o : Oracle Environment) (procedure : Procedure) (keyNumber : Byte) (key : Bytes) (t : Transaction) :
    Ensures some o (procedure.login keyNumber key Transaction.exchangeFrame) t fun r _ es => r ≠ .error .thrown ∧
      Sound t.framing procedure.profile (procedure.payload keyNumber) r es ∧
        ∀ material, r = .ok material → ∃ nonces challenge proof answer,
          Exchanged t.framing procedure.profile (procedure.payload keyNumber) key nonces challenge proof answer es ∧
            Vouches key nonces es procedure material := by
  refine (login_returns o procedure keyNumber key t).and ?_
  cases procedure with
  | standardAes =>
    refine returning_sound (refused_sound (conclude_sound _ t (fun nonces => ?_) fun _ _ es es' h => ?_))
    · refine .refuse Outcome.noConfusion fun hproof => .pure ?_
      exact ⟨equal_of_compared hproof,rfl⟩
    · exact Vouches.right .standardAes es es' h
  | ev2First pcdCapabilities =>
    refine returning_sound (refused_sound (conclude_sound _ t (fun nonces => ?_) fun _ _ es es' h => ?_))
    · refine .refuse Outcome.noConfusion fun hproof => .refuse Outcome.noConfusion fun hecho => ?_
      refine (deriveMaterial_concludes nonces _).mono fun material es h => ?_
      exact ⟨equal_of_compared hproof,equal_of_compared hecho,h.1,h.2⟩
    · exact Vouches.right (.ev2First pcdCapabilities) es es' h
  | ev2Nonfirst previous =>
    refine returning_sound (refused_sound (conclude_sound _ t (fun nonces => ?_) fun _ _ es es' h => ?_))
    · refine .refuse Outcome.noConfusion fun hproof => ?_
      refine (deriveMaterial_concludes nonces _).mono fun material es h => ?_
      exact ⟨equal_of_compared hproof,h.1,h.2⟩
    · exact Vouches.right (.ev2Nonfirst previous) es es' h

/-- Whatever transport, card, random source and provider do: a native login sends its own frames only, none of
its failures denies a frame that was answered, and material comes from a card that proved this run's nonce. -/
theorem login_sound (o : Oracle Environment) (procedure : Procedure) (keyNumber : Byte) (key : Bytes) (t : Transaction) :
    Ensures some o (procedure.login keyNumber key Transaction.exchangeFrame) t fun r _ es =>
      Sound t.framing procedure.profile (procedure.payload keyNumber) r es ∧
        ∀ material, r = .ok material → ∃ nonces challenge proof answer,
          Exchanged t.framing procedure.profile (procedure.payload keyNumber) key nonces challenge proof answer es ∧
            Vouches key nonces es procedure material :=
  (login_vouched o procedure keyNumber key t).mono fun _ _ _ h => h.2

end Procedure
end DesfireSdk.Security
