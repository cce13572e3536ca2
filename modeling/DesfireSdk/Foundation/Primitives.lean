import DesfireSdk.Foundation.Environment
import DesfireSdk.Interaction.Machine

/-!
Abstract AES primitives: CBC of whole blocks with its inverse, and a MAC of one block.
Nothing else is assumed of them.
-/
namespace DesfireSdk
open Interaction

structure Primitives where
  encrypt : Bytes → Bytes → Bytes → Bytes
  decrypt : Bytes → Bytes → Bytes → Bytes
  mac : Bytes → Bytes → Bytes
  length_encrypt : ∀ key iv input, (encrypt key iv input).length = input.length
  length_decrypt : ∀ key iv input, (decrypt key iv input).length = input.length
  length_mac : ∀ key input, (mac key input).length = 16
  decrypt_encrypt : ∀ key iv input, input.length % 16 = 0 → decrypt key iv (encrypt key iv input) = input

/-- The provider computes these primitives under keys and vectors of sixteen bytes, on whole blocks. -/
structure Computes (o : Oracle Environment) (P : Primitives) : Prop where
  encrypt : ∀ h {key iv input : Bytes}, key.length = 16 → iv.length = 16 → input.length % 16 = 0 →
    o h (.cbc key iv input true) = .ok (P.encrypt key iv input)
  decrypt : ∀ h {key iv input : Bytes}, key.length = 16 → iv.length = 16 → input.length % 16 = 0 →
    o h (.cbc key iv input false) = .ok (P.decrypt key iv input)
  mac : ∀ h {key : Bytes} (input : Bytes), key.length = 16 → o h (.cmac key input) = .ok (P.mac key input)

namespace Computes
open Program
variable {o : Oracle Environment} {P : Primitives} {τ : Type} {s : τ} {message : String}
  {cleanup : Error → τ → τ}

theorem secret_encrypt (hP : Computes o P) {key iv input : Bytes} {n : Nat} (hkey : key.length = 16)
    (hiv : iv.length = 16) (hinput : input.length % 16 = 0) (hn : input.length = n) :
    Yields o (Op.secretOutput message (Op.cbc key iv input true) n) s (P.encrypt key iv input) s := by
  refine Yields.of_ensures (Op.ensures_secretOutput (Op.ensures_cbc fun h => ?_))
  rw [hP.encrypt h hkey hiv hinput,Op.sized_of_length ((P.length_encrypt ..).trans hn)]
  exact ⟨rfl,rfl⟩

theorem yields_encrypt (hP : Computes o P) {key iv input : Bytes} {n : Nat} (hkey : key.length = 16)
    (hiv : iv.length = 16) (hinput : input.length % 16 = 0) (hn : input.length = n) :
    Yields o (Op.onError cleanup (Op.secretOutput message (Op.cbc key iv input true) n)) s
      (P.encrypt key iv input) s :=
  Reaches.settle (hP.secret_encrypt hkey hiv hinput hn)

theorem yields_decrypt (hP : Computes o P) {key iv input : Bytes} {n : Nat} (hkey : key.length = 16)
    (hiv : iv.length = 16) (hinput : input.length % 16 = 0) (hn : input.length = n) :
    Yields o (Op.onError cleanup (Op.secretOutput message (Op.cbc key iv input false) n)) s
      (P.decrypt key iv input) s := by
  refine Yields.of_ensures
    (Op.ensures_onError (Op.ensures_secretOutput (Op.ensures_cbc fun h => ?_)))
  rw [hP.decrypt h hkey hiv hinput,Op.sized_of_length ((P.length_decrypt ..).trans hn)]
  exact ⟨rfl,rfl⟩

theorem yields_mac (hP : Computes o P) {key input : Bytes} (hkey : key.length = 16) :
    Yields o (Op.onError cleanup (Op.secretOutput message (Op.cmac key input) 16)) s
      (P.mac key input) s := by
  refine Yields.of_ensures
    (Op.ensures_onError (Op.ensures_secretOutput (Op.ensures_cmac fun h => ?_)))
  rw [hP.mac h input hkey,Op.sized_of_length (P.length_mac ..)]
  exact ⟨rfl,rfl⟩

section Machines
variable {κ : Type} {observe : κ → Event Environment → κ} {start k : κ} {moving : Query → Prop} {change : Error → Error}

/-- A block cipher call leaves a machine alone that only other questions move. -/
theorem facing_encrypt (hP : Computes o P) (hidle : Idle observe moving) {key iv input : Bytes} {n : Nat}
    (hquiet : ¬moving (.cbc key iv input true)) (hkey : key.length = 16) (hiv : iv.length = 16)
    (hwhole : input.length % 16 = 0) (hn : input.length = n) (s : τ) :
    Facing observe start o k (Op.mapError change (Op.secretOutput message (Op.cbc key iv input true) n)) s fun r s' k' =>
      r = .ok (P.encrypt key iv input) ∧ s' = s ∧ k' = k := by
  refine Facing.settle (Facing.settle (Facing.quiet_bind hidle hquiet fun h => ?_))
  rw [hP.encrypt h hkey hiv hwhole]
  refine Facing.pure ?_
  rw [Op.sized_of_length ((P.length_encrypt ..).trans hn)]
  exact ⟨rfl,rfl,rfl⟩

theorem facing_decrypt (hP : Computes o P) (hidle : Idle observe moving) {key iv input clear : Bytes} {n : Nat}
    (hquiet : ¬moving (.cbc key iv input false)) (hkey : key.length = 16) (hiv : iv.length = 16)
    (hwhole : input.length % 16 = 0) (hn : input.length = n) (hclear : P.decrypt key iv input = clear) (s : τ) :
    Facing observe start o k (Op.mapError change (Op.secretOutput message (Op.cbc key iv input false) n)) s fun r s' k' =>
      r = .ok clear ∧ s' = s ∧ k' = k := by
  refine Facing.settle (Facing.settle (Facing.quiet_bind hidle hquiet fun h => ?_))
  rw [hP.decrypt h hkey hiv hwhole,hclear]
  refine Facing.pure ?_
  have hlength : clear.length = n := by rw [← hclear,P.length_decrypt,hn]
  rw [Op.sized_of_length hlength]
  exact ⟨rfl,rfl,rfl⟩

end Machines
end Computes

namespace Op
open Program
variable {o : Oracle Environment} {τ α β ω : Type} {s s' : τ} {a : α}
  {view : Event Environment → Option ω} {seen ds : List ω}

theorem reaches_mapError {change : Error → Error} {p : Op τ α}
    (hp : Reaches view o seen p s (.ok a) s' ds) :
    Reaches view o seen (mapError change p) s (.ok a) s' ds :=
  Reaches.settle hp

theorem reaches_catchAll {cleanup : τ → τ} {e : Error} {p : Op τ α}
    (hp : Reaches view o seen p s (.ok a) s' ds) :
    Reaches view o seen (catchAll cleanup e p) s (.ok a) s' ds :=
  Reaches.settle hp

theorem reaches_catchAll_error {cleanup : τ → τ} {e e' : Error} {p : Op τ α}
    (hp : Reaches view o seen p s (.error (.error e')) s' ds) :
    Reaches view o seen (catchAll cleanup e p) s (.error (.error e')) s' ds :=
  Reaches.settle hp

theorem reaches_onError {cleanup : Error → τ → τ} {p : Op τ α}
    (hp : Reaches view o seen p s (.ok a) s' ds) :
    Reaches view o seen (onError cleanup p) s (.ok a) s' ds :=
  Reaches.settle hp

theorem reaches_onError_error {cleanup : Error → τ → τ} {e : Error} {p : Op τ α}
    (hp : Reaches view o seen p s (.error (.error e)) s' ds) :
    Reaches view o seen (onError cleanup p) s (.error (.error e)) (cleanup e s') ds :=
  Reaches.settle hp

theorem reaches_ofResult {r : Result α} (hr : r = .ok a) :
    Reaches view o seen (ofResult r) s (.ok a) s [] := by
  subst hr
  exact Reaches.pure

variable {r : Except Fault β}

theorem reaches_refuse_bind {c : Prop} [Decidable c] {e : Error} {f : Unit → Op τ β} (hc : ¬c)
    (hf : Reaches view o seen (f ()) s r s' ds) :
    Reaches view o seen (refuse c e >>= f) s r s' ds :=
  Reaches.refuse_bind hc hf

theorem reaches_refused {c : Prop} [Decidable c] {e : Error} (hc : c) :
    Reaches view o seen (refuse c e) s (.error (.error e)) s [] := by
  unfold refuse Program.refuse
  rw [if_pos hc]
  exact Reaches.fail

theorem reaches_refuseAfter_bind {cleanup : τ → τ} {c : Prop} [Decidable c] {e : Error}
    {f : Unit → Op τ β} (hc : ¬c) (hf : Reaches view o seen (f ()) s r s' ds) :
    Reaches view o seen (refuseAfter cleanup c e >>= f) s r s' ds := by
  simp only [refuseAfter,if_neg hc]
  exact Reaches.quiet_bind Reaches.pure hf

end Op

end DesfireSdk
