import DesfireSdk.Foundation.Generation
import DesfireSdk.Foundation.Glances
import DesfireSdk.Native.Secure.Cases
import DesfireSdk.Security.Ev2.Authentication
import DesfireSdk.Security.StandardAes.Authentication

/-! Every frame of a native transaction is backed by the generation the transaction began with. -/
namespace DesfireSdk.Native
open Interaction Program

/-- The transaction keeps its generation, which backs every frame. -/
def Anchored {α : Type} (o : Oracle Environment) (p : Op Raw.Transaction α) : Prop :=
  ∀ t last, Ensures glanceOf o p t fun _ t' gs => t'.generation = t.generation ∧ Backed t.generation last gs

/-- A success hands over so many frames, each between two readings of the generation of the transaction. -/
def Exchanges {α : Type} (o : Oracle Environment) (n : Nat) (p : Op Raw.Transaction α) : Prop :=
  ∀ t, Ensures glanceOf o p t fun r t' gs =>
    ∀ a, r = .ok a → t'.generation = t.generation ∧ Flanked t.generation n gs

/-- An operation on another object whose frames this generation backs. -/
def Backs {σ α : Type} (o : Oracle Environment) (generation : UInt64) (p : Op σ α) : Prop :=
  ∀ s last, Ensures glanceOf o p s fun _ _ gs => Backed generation last gs

section Rules
variable {o : Oracle Environment} {α β : Type} {p : Op Raw.Transaction α} {m n : Nat}

namespace Anchored

theorem aside (hp : Aside o p) : Anchored o p := by
  intro t last
  refine (hp t).mono ?_
  rintro r _ _ ⟨rfl,rfl⟩
  exact ⟨rfl,trivial⟩

theorem bind {f : α → Op Raw.Transaction β} (hp : Anchored o p) (hf : ∀ a, Anchored o (f a)) : Anchored o (p >>= f) := by
  intro t last
  refine ensures_bind (hp t last) (fun _ _ _ h => h) ?_
  rintro a t' gs ⟨hkept,hbacked⟩ history
  have hrest := fun last => hf a t' last history
  refine ⟨(hrest none).1.trans hkept,hbacked.append fun last => ?_⟩
  rw [← hkept]
  exact (hrest last).2

theorem refuse_bind {c : Prop} [Decidable c] {e : Error} {f : Unit → Op Raw.Transaction α} (hf : Anchored o (f ())) :
    Anchored o (Op.refuse c e >>= f) :=
  .bind (.aside (.refuse c e)) fun _ => hf

theorem get_bind {f : Raw.Transaction → Op Raw.Transaction α} (hf : ∀ t, Anchored o (f t)) : Anchored o (get >>= f) :=
  fun t last => ensures_get_bind (hf t t last)

end Anchored

namespace Exchanges

theorem aside (hp : Aside o p) : Exchanges o 0 p := by
  intro t
  refine (hp t).mono ?_
  rintro r _ _ ⟨rfl,rfl⟩ _ _
  exact ⟨rfl,.none⟩

theorem bind {f : α → Op Raw.Transaction β} (hp : Exchanges o m p) (hf : ∀ a, Exchanges o n (f a)) :
    Exchanges o (m + n) (p >>= f) := by
  intro t
  refine ensures_bind (hp t) (fun _ _ _ _ => nofun) ?_
  intro a t' gs h
  obtain ⟨hkept,hflanked⟩ := h a rfl
  refine (hf a t').mono fun r t'' gs' h' b hb => ?_
  obtain ⟨hkept',hflanked'⟩ := h' b hb
  rw [hkept] at hkept' hflanked'
  exact ⟨hkept',hflanked.append hflanked'⟩

/-- A step without frames on the way. -/
theorem aside_bind {f : α → Op Raw.Transaction β} (hp : Aside o p) (hf : ∀ a, Exchanges o n (f a)) :
    Exchanges o n (p >>= f) := by
  rw [← Nat.zero_add n]
  exact .bind (.aside hp) hf

theorem settle {change : Except Fault α → Raw.Transaction → Except Fault β × Raw.Transaction}
    (hsuccess : ∀ r t b, (change r t).1 = .ok b → ∃ a, r = .ok a)
    (hkept : ∀ r t, (change r t).2.generation = t.generation) (hp : Exchanges o n p) :
    Exchanges o n (Program.settle change p) := by
  refine fun t => ensures_settle ((hp t).mono fun r t' gs h b hb => ?_)
  obtain ⟨a,ha⟩ := hsuccess r t' b hb
  exact ⟨(hkept r t').trans (h a ha).1,(h a ha).2⟩

theorem mapError (change : Error → Error) (hp : Exchanges o n p) : Exchanges o n (Op.mapError change p) :=
  .settle Op.changeError_success (by rintro ((_ | _) | _) t <;> rfl) hp

theorem catchAll (e : Error) (hp : Exchanges o n p) : Exchanges o n (Op.catchAll id e p) :=
  .settle Op.afterThrow_success (by rintro ((_ | _) | _) t <;> rfl) hp

end Exchanges

namespace Backs
variable {σ : Type} {generation : UInt64} {p : Op σ α}

theorem ensures (hp : Backs o generation p) (s : σ) (last : Option UInt64) :
    Ensures glanceOf o p s fun _ _ gs => Backed generation last gs :=
  hp s last

theorem unseen (hp : ∀ s, Ensures glanceOf o p s fun _ _ gs => gs = []) : Backs o generation p := by
  intro s last
  refine (hp s).mono ?_
  rintro _ _ _ rfl
  trivial

theorem bind {f : α → Op σ β} (hp : Backs o generation p) (hf : ∀ a, Backs o generation (f a)) :
    Backs o generation (p >>= f) :=
  fun s last => ensures_bind (hp s last) (fun _ _ _ h => h) fun a s' _ h history =>
    h.append fun last => hf a s' last history

theorem settle {change : Except Fault α → σ → Except Fault β × σ} (hp : Backs o generation p) :
    Backs o generation (Program.settle change p) :=
  fun s last => ensures_settle (hp s last)

theorem within {t : Raw.Transaction} {p : Op Raw.Transaction α} (hp : Anchored o p) :
    Backs o t.generation (Program.within t p : Op σ α) :=
  fun _ last => ensures_within ((hp t last).mono fun _ _ _ h => h.2)

end Backs
end Rules

namespace Raw.Transaction
variable {o : Oracle Environment} {t : Transaction}

/-- The controls of a frame read the generation, and succeed only if it is the one of the transaction. -/
theorem remainingOptions_reads : Ensures glanceOf o remainingOptions t fun r t' gs => t' = t ∧
    (gs = [] ∨ ∃ reading, gs = [.reading reading]) ∧ ∀ options, r = .ok options → gs = [.reading t.generation] := by
  refine ensures_get_bind (Op.ensures_now_bind fun now => ?_)
  refine Op.ensures_refuse_bind (fun _ => ⟨rfl,.inl rfl,nofun⟩) fun _ => Op.ensures_generation_bind fun reading => ?_
  refine Op.ensures_refuse_bind (fun _ => ⟨rfl,.inr ⟨_,rfl⟩,nofun⟩) fun hsame => ?_
  obtain rfl := Decidable.not_not.mp hsame
  refine Op.ensures_stopRequested_bind fun _ => ?_
  refine Op.ensures_refuse_bind (fun _ => ⟨rfl,.inr ⟨_,rfl⟩,nofun⟩) fun _ => ?_
  exact ensures_pure ⟨rfl,.inr ⟨_,rfl⟩,fun _ _ => rfl⟩

/-- A frame is handed over once, whatever becomes of it. -/
theorem handover_frames (change : Error → Error) (e : Error) (frame : Bytes) (controls : ExchangeOptions) :
    Ensures glanceOf o (Op.mapError change (Op.catchAll id e (Op.transportExchange frame controls))) t
      fun _ t' gs => t' = t ∧ ∃ generation, gs = [.frame generation] := by
  refine Op.ensures_mapError (Op.ensures_catchAll (Op.ensures_transportExchange fun reply => ?_))
  rcases reply.answer with (_ | _) | _ <;> exact ⟨rfl,reply.generation,rfl⟩

/-- A frame between two readings. -/
theorem exchangeFrame_glances (command : Byte) (data : Bytes) (t : Transaction) (last : Option UInt64) :
    Ensures glanceOf o (exchangeFrame command data) t fun r t' gs => t'.generation = t.generation ∧
      Backed t.generation last gs ∧ ∀ response, r = .ok response → Flanked t.generation 1 gs := by
  refine ensures_bind remainingOptions_reads ?_ ?_
  · rintro e _ _ ⟨rfl,hgs,_⟩
    rcases hgs with rfl | ⟨reading,rfl⟩ <;> exact ⟨rfl,trivial,nofun⟩
  rintro controls t _ ⟨rfl,_,hgs⟩
  obtain rfl := hgs controls rfl
  refine ensures_get_bind (ensures_bind (Aside.capabilities t) ?_ ?_)
  · rintro e _ _ ⟨rfl,rfl⟩
    exact ⟨rfl,trivial,nofun⟩
  rintro limits t _ ⟨rfl,rfl⟩
  refine Op.ensures_refuse_bind (fun _ => ⟨rfl,trivial,nofun⟩) fun _ => ?_
  refine ensures_bind ((Aside.ofResult _).mapError _ t) ?_ ?_
  · rintro e _ _ ⟨rfl,rfl⟩
    exact ⟨rfl,trivial,nofun⟩
  rintro encoded t _ ⟨rfl,rfl⟩
  refine Op.ensures_refuse_bind (fun _ => ⟨rfl,trivial,nofun⟩) fun _ => ensures_bind (handover_frames _ _ _ _) ?_ ?_
  · rintro e _ _ ⟨rfl,generation,rfl⟩
    exact ⟨rfl,⟨rfl,trivial⟩,nofun⟩
  rintro wireResponse t _ ⟨rfl,generation,rfl⟩
  refine ensures_modify_bind (Op.ensures_generation_bind fun reading => ?_)
  refine Op.ensures_refuse_bind (fun _ => ⟨rfl,⟨rfl,trivial⟩,nofun⟩) fun hsame => ?_
  obtain rfl := Decidable.not_not.mp hsame
  refine Op.ensures_refuse_bind (fun _ => ⟨rfl,⟨rfl,trivial⟩,nofun⟩) fun _ => Op.ensures_ofResult ?_
  exact ⟨rfl,⟨rfl,trivial⟩,fun _ _ => .frame generation .none⟩

theorem exchangeFrame_anchored (command : Byte) (data : Bytes) : Anchored o (exchangeFrame command data) :=
  fun t last => (exchangeFrame_glances command data t last).mono fun _ _ _ h => ⟨h.1,h.2.1⟩

theorem exchangeFrame_exchanges (command : Byte) (data : Bytes) : Exchanges o 1 (exchangeFrame command data) :=
  fun t => (exchangeFrame_glances command data t none).mono fun _ _ _ h response hr => ⟨h.1,h.2.2 response hr⟩

theorem exchangeLoop_anchored (request : Request) (dataPerFrame n : Nat) (first : Bool) (chain : Chain) :
    Anchored o (exchangeLoop request dataPerFrame n first chain) := by
  induction n generalizing first chain with
  | zero => exact .aside (.fail _)
  | succ n ih =>
    refine .bind (exchangeFrame_anchored _ _) fun response => .refuse_bind (.refuse_bind ?_)
    split
    · exact .refuse_bind (.aside (.pure _))
    · exact ih _ _

theorem exchange_anchored (request : Request) : Anchored o (exchange request) := by
  refine .get_bind fun t => .refuse_bind (.bind (.aside .capabilities) fun limits => ?_)
  refine .refuse_bind (.refuse_bind (.refuse_bind (.refuse_bind ?_)))
  exact exchangeLoop_anchored _ _ _ _ _

end Raw.Transaction

/-- An operation that starts has read the generation of its transaction. -/
theorem Raw.RawNativeChannel.begin_glances {σ : Type} {o : Oracle Environment} (channel : Raw.RawNativeChannel)
    (options : ExchangeOptions) (s : σ) :
    Ensures glanceOf o (channel.begin options) s fun r s' gs => s' = s ∧
      ((∃ e, r = .error (.error e)) ∧ gs = [] ∨ ∃ t, r = .ok t ∧ gs = [.reading t.generation]) := by
  refine Op.ensures_refuse_bind (fun _ => ⟨rfl,.inl ⟨⟨_,rfl⟩,rfl⟩⟩) fun _ => Op.ensures_stopRequested_bind fun _ => ?_
  refine Op.ensures_refuse_bind (fun _ => ⟨rfl,.inl ⟨⟨_,rfl⟩,rfl⟩⟩) fun _ => Op.ensures_admission_bind fun _ => ?_
  refine Op.ensures_refuse_bind (fun _ => ⟨rfl,.inl ⟨⟨_,rfl⟩,rfl⟩⟩) fun _ => ?_
  refine Op.ensures_refuse_bind (fun _ => ⟨rfl,.inl ⟨⟨_,rfl⟩,rfl⟩⟩) fun _ => ?_
  refine Op.ensures_now_bind fun _ => Op.ensures_generation_bind fun generation => ?_
  exact ensures_pure ⟨rfl,.inr ⟨_,rfl,rfl⟩⟩

namespace Secure
open Security Raw.Transaction
variable {o : Oracle Environment} {keyNumber : Byte} {key : Bytes}

/-- A protected exchange begins with the reading that backs its frames. -/
theorem exchangeProtected_glances {σ : Type} [SecureSession σ] {request : Request}
    (hprepare : ∀ s : σ, Ensures some o (prepare request) s fun _ _ es => Cryptographic es)
    (haccept : ∀ (s : σ) response, Ensures some o (accept request response) s fun _ _ es => Cryptographic es)
    (channel : Raw.RawNativeChannel) (options : ExchangeOptions) (s : σ) :
    Ensures glanceOf o (exchangeProtected channel request options) s fun _ _ gs =>
      gs = [] ∨ ∃ begun rest, gs = .reading begun :: rest ∧ Backed begun (some begun) rest := by
  refine Op.ensures_ofResult_bind (fun _ _ => .inl rfl) fun _ _ => ?_
  refine ensures_bind (channel.begin_glances options s) ?_ ?_
  · rintro f s' gs ⟨rfl,⟨_,rfl⟩ | ⟨t,ht,_⟩⟩
    · exact .inl rfl
    · cases ht
  rintro t s' gs ⟨rfl,⟨⟨e,he⟩,_⟩ | ⟨_,ht,rfl⟩⟩
  · cases he
  cases ht
  have hunseen : ∀ {α : Type} {p : Op σ α}, (∀ s, Ensures some o p s fun _ _ es => Cryptographic es) →
      Backs o t.generation p := by
    intro α p hp
    exact .unseen fun s => (hp s).through fun _ _ _ h => h.glances
  refine (Backs.ensures (.bind (.settle (hunseen hprepare)) fun prepared => ?_) s' (some t.generation)).mono ?_
  · refine .bind (.settle (.within (exchange_anchored _))) fun response => ?_
    refine .bind (.unseen fun s => ?_) fun _ => .bind (.settle (hunseen (haccept · response))) fun clear => ?_
    · unfold Op.refuseAfter
      exact ensures_ite (fun _ => ensures_modify_bind (Op.ensures_reject rfl)) fun _ => ensures_pure rfl
    refine .bind (.settle (.unseen fun s => Op.ensures_ofResult rfl)) fun checked => ?_
    exact .bind (.unseen fun _ => ensures_modify rfl) fun _ => .unseen fun _ => ensures_pure rfl
  · intro _ _ rest hbacked
    exact .inr ⟨_,rest,rfl,hbacked⟩

theorem ev2_exchangeProtected_glances (channel : Raw.RawNativeChannel) (request : Request)
    (options : ExchangeOptions) (session : Ev2.Session) :
    Ensures glanceOf o (exchangeProtected channel request options) session fun _ _ gs =>
      gs = [] ∨ ∃ begun rest, gs = .reading begun :: rest ∧ Backed begun (some begun) rest :=
  exchangeProtected_glances (fun _ => prepare_ev2Cases.mono fun _ _ _ h => h.cryptographic)
    (fun _ response => (accept_ev2Cases response).mono fun _ _ _ h => h.cryptographic) channel options session

theorem standardAes_exchangeProtected_glances (channel : Raw.RawNativeChannel) (request : Request)
    (options : ExchangeOptions) (session : StandardAes.Session) :
    Ensures glanceOf o (exchangeProtected channel request options) session fun _ _ gs =>
      gs = [] ∨ ∃ begun rest, gs = .reading begun :: rest ∧ Backed begun (some begun) rest :=
  exchangeProtected_glances (fun _ => prepare_aesCases.mono fun _ _ _ h => h.cryptographic)
    (fun _ response => (accept_aesCases response).mono fun _ _ _ h => h.cryptographic) channel options session

theorem exchangeNonces_exchanges (profile : NonceProfile) (payload : Bytes) :
    Exchanges o 2 (exchangeNonces profile payload key exchangeFrame) := by
  refine .aside_bind ((Aside.random 16).secretOutput _ _) fun host => ?_
  refine .bind (m := 1) (n := 1) (exchangeFrame_exchanges _ _) fun initial => .aside_bind (.ofResult _) fun _ => ?_
  refine .aside_bind (((Aside.cbc _ _ _ _).secretOutput _ _).mapError _) fun card => ?_
  refine .aside_bind (((Aside.cbc _ _ _ _).secretOutput _ _).mapError _) fun proof => ?_
  refine .bind (m := 1) (n := 0) (.mapError _ (exchangeFrame_exchanges _ _)) fun terminal => ?_
  refine .aside_bind (.ofResult _) fun _ => .aside ?_
  exact .bind (((Aside.cbc _ _ _ _).secretOutput _ _).mapError _) fun _ => .pure _

/-- What a login does with the nonces sends nothing. -/
theorem login_exchanges {α : Type} {e : Error} {profile : NonceProfile} {payload : Bytes}
    {f : Nonces → Op Raw.Transaction α} (hf : ∀ nonces, Aside o (f nonces)) :
    Exchanges o 2 (Op.catchAll id e (exchangeNonces profile payload key exchangeFrame >>= f)) :=
  .catchAll e (.bind (m := 2) (n := 0) (exchangeNonces_exchanges profile payload) fun nonces => .aside (hf nonces))

theorem deriveMaterial_aside (host card : Bytes) (information : Model.AuthenticationInfo) :
    Aside o (Op.mapError Error.asUnknown (Ev2.deriveMaterial key host card information) :
      Op Raw.Transaction Ev2.AuthenticationMaterial) := by
  refine .mapError (.bind ((Aside.cmac _ _).secretOutput _ _) fun _ => ?_) _
  exact .bind ((Aside.cmac _ _).secretOutput _ _) fun _ => .pure _

theorem authenticate_exchanges : Exchanges o 2 (StandardAes.authenticate keyNumber key exchangeFrame) :=
  .aside_bind (.refuse _ _) fun _ => login_exchanges fun _ => .bind (.refuse _ _) fun _ => .pure _

theorem authenticateFirst_exchanges (pcdCapabilities : Bytes) :
    Exchanges o 2 (Ev2.authenticateFirst keyNumber key pcdCapabilities exchangeFrame) :=
  .aside_bind (.refuse _ _) fun _ => login_exchanges fun _ =>
    .bind (.refuse _ _) fun _ => .bind (.refuse _ _) fun _ => deriveMaterial_aside _ _ _

theorem authenticateNonfirst_exchanges (previous : Model.AuthenticationInfo) :
    Exchanges o 2 (Ev2.authenticateNonfirst keyNumber key previous exchangeFrame) :=
  .aside_bind (.refuse _ _) fun _ => login_exchanges fun _ =>
    .bind (.refuse _ _) fun _ => deriveMaterial_aside _ _ _

end Secure
end DesfireSdk.Native
