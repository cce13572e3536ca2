import DesfireSdk.Iso7816.Session

/-! What the ISO layers leave behind: the channel keeps its caller's state, a session stays valid. -/
namespace DesfireSdk.Iso7816
open Interaction Program

theorem Raw.Channel.exchange_keeps {τ : Type} (apdu : Raw.Apdu) (options : ExchangeOptions)
    (limits : Raw.Limits) : Keeps (Raw.Channel.exchange apdu options limits : Op τ Raw.Response) := by
  refine keeps_bind (keeps_ask _) fun _ => ?_
  refine keeps_bind (keeps_refuse _ _) fun _ => ?_
  refine keeps_bind (keeps_refuse _ _) fun _ => ?_
  exact keeps_within _

theorem Checked.Channel.exchange_keeps {τ : Type} (command : Checked.Command)
    (options : ExchangeOptions) (limits : Checked.Limits) :
    Keeps (Checked.Channel.exchange command options limits : Op τ Checked.Response) := by
  refine keeps_bind (keeps_refuse _ _) fun _ => ?_
  exact keeps_bind (Raw.Channel.exchange_keeps _ _ _) fun _ => keeps_pure _

namespace Aes

theorem retainedCmac_keeps {τ : Type} (key iv input : Bytes) :
    Keeps (retainedCmac key iv input : Op τ Bytes) := by
  have hcbc (message : String) (key iv input : Bytes) (n : Nat) :
      Keeps (Op.secretOutput message (Op.cbc key iv input true) n : Op τ Bytes) :=
    keeps_settle (fun _ _ => rfl) (keeps_bind (keeps_ask _) fun _ => keeps_ofExcept _)
  refine keeps_bind (hcbc _ _ _ _ _) fun _ => ?_
  exact keeps_bind (hcbc _ _ _ _ _) fun _ => keeps_pure _

/-- A successful execution leaves the session valid. -/
def StaysValid (r : Except Fault Checked.Response) (s : Session) (_ : Trace Environment) : Prop :=
  ∀ response, r = .ok response → s.valid = true

theorem Session.exchangeProtected_valid (o : Oracle Environment) (command : Checked.Command)
    (options : ExchangeOptions) (limits : Checked.Limits) {s : Session} (hvalid : s.valid = true) :
    Ensures some o (Session.exchangeProtected command options limits) s StaysValid := by
  refine ensures_get_bind ?_
  refine ensures_bind (m := fun r s' _ => ∀ response, r = .ok response → s' = s) ?_ ?_ ?_
  · refine Op.ensures_onError ((Checked.Channel.exchange_keeps _ _ _).ensures.mono ?_)
    rintro ((_ | _) | response) _ _ rfl _ ⟨⟩
    rfl
  · simp [StaysValid]
  intro response s' _ h
  obtain rfl := h response rfl
  refine Op.ensures_refuseAfter_bind (by simp [StaysValid]) fun _ => ?_
  refine ensures_ite (fun _ => ?_) fun _ => ?_
  · refine Op.ensures_refuseAfter_bind (by simp [StaysValid]) fun _ => ?_
    exact ensures_pure fun _ _ => hvalid
  refine Op.ensures_refuseAfter_bind (by simp [StaysValid]) fun _ => ?_
  refine ensures_bind (m := fun r t _ => ∀ mac, r = .ok mac → t = s') ?_ ?_ ?_
  · refine Op.ensures_mapError (Op.ensures_onError ((retainedCmac_keeps _ _ _).ensures.mono ?_))
    rintro ((_ | _) | mac) _ _ rfl _ ⟨⟩
    rfl
  · simp [StaysValid]
  intro mac t _ h
  obtain rfl := h mac rfl
  refine Op.ensures_refuseAfter_bind (by simp [StaysValid]) fun _ => ?_
  refine Op.ensures_generation_bind fun _ => ?_
  refine Op.ensures_refuseAfter_bind (by simp [StaysValid]) fun _ => ?_
  refine ensures_modify_bind ?_
  exact ensures_pure fun _ _ => hvalid

theorem Session.execute_valid (o : Oracle Environment) (command : Checked.Command)
    (options : ExchangeOptions) (limits : Checked.Limits) {s : Session} (hvalid : s.valid = true) :
    Ensures some o (Session.execute command options limits) s StaysValid := by
  refine ensures_get_bind ?_
  refine Op.ensures_refuse_bind (by simp [StaysValid]) fun _ => ?_
  refine Op.ensures_generation_bind fun _ => ?_
  refine Op.ensures_refuseAfter_bind (by simp [StaysValid]) fun _ => ?_
  refine Op.ensures_refuse_bind (by simp [StaysValid]) fun _ => ?_
  refine Op.ensures_refuse_bind (by simp [StaysValid]) fun _ => ?_
  refine Op.ensures_catchAll ((exchangeProtected_valid o command options limits hvalid).mono ?_)
  rintro ((_ | _) | response) t _ h
  · simp [StaysValid]
  · simp [StaysValid]
  · exact fun _ _ => h response rfl

/-- A proof that succeeds gives a valid session. -/
theorem prove_valid (reference : Checked.KeyReference) (derivedKey : Bytes)
    (options : ExchangeOptions) (encoding : Raw.LengthEncoding) :
    Returns (prove reference derivedKey options encoding) fun session => session.valid = true := by
  unfold prove
  repeat refine returns_bind fun _ => ?_
  exact returns_pure rfl

theorem authenticate_valid {τ : Type} (o : Oracle Environment) (reference : Checked.KeyReference)
    (derivedKey : Bytes) (options : ExchangeOptions) (encoding : Raw.LengthEncoding) (s : τ) :
    Ensures some o (authenticate reference derivedKey options encoding) s fun r s' _ =>
      s' = s ∧ ∀ session, r = .ok session → session.valid = true := by
  refine ensures_within fun h => ⟨rfl,fun session hsession => ?_⟩
  refine prove_valid reference derivedKey options encoding o h false session ?_
  change (Op.errorOfThrow _ (prove reference derivedKey options encoding o h false).result _).1 =
    .ok session at hsession
  generalize (prove reference derivedKey options encoding o h false).result = r at hsession
  rcases r with (_ | _) | _ <;> cases hsession
  rfl

end Aes
end DesfireSdk.Iso7816
