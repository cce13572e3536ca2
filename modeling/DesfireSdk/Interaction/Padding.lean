import Mathlib.Tactic.Common

/-!
# One-marker block padding

A message is followed by one marker and filled with blanks to whole blocks; removing the
blanks and the marker recovers it.
-/
namespace Interaction.Padding
variable {α : Type} (blank marker : α) (block : Nat)

/-- The blanks that complete the last block after the marker. -/
def fill (n : Nat) : Nat := ((n + 1 + block - 1) / block) * block - (n + 1)

def pad (data : List α) : List α := data ++ marker :: List.replicate (fill block data.length) blank

variable {blank marker block}

theorem fill_lt (hblock : 0 < block) (n : Nat) : fill block n < block := by
  unfold fill
  have hmod := Nat.mod_lt (n + 1 + block - 1) hblock
  have hdiv := Nat.div_add_mod (n + 1 + block - 1) block
  have hcomm := Nat.mul_comm ((n + 1 + block - 1) / block) block
  omega

theorem length_pad (hblock : 0 < block) (data : List α) :
    (pad blank marker block data).length = ((data.length + 1 + block - 1) / block) * block := by
  have hmod := Nat.mod_lt (data.length + 1 + block - 1) hblock
  have hdiv := Nat.div_add_mod (data.length + 1 + block - 1) block
  have hcomm := Nat.mul_comm ((data.length + 1 + block - 1) / block) block
  simp only [pad,fill,List.length_append,List.length_cons,List.length_replicate]
  omega

theorem length_pad_mod (blank marker : α) (hblock : 0 < block) (data : List α) :
    (pad blank marker block data).length % block = 0 := by
  rw [length_pad hblock]
  exact Nat.mul_mod_left _ _

theorem length_pad_pos (blank marker : α) (block : Nat) (data : List α) :
    0 < (pad blank marker block data).length := by
  simp only [pad,List.length_append,List.length_cons]
  omega

section Removal
variable [DecidableEq α]

/-- The length of a padded message without its trailing blanks. -/
def markerEnd (blank : α) (padded : List α) : Nat := (padded.reverse.dropWhile (· = blank)).length

/-- The message before the marker, when the padding is that of the last block. -/
def unpad (blank marker : α) (block : Nat) (padded : List α) : Option (List α) :=
  if markerEnd blank padded = 0 ∨ padded[markerEnd blank padded - 1]? ≠ some marker ∨
      block < padded.length - (markerEnd blank padded - 1) then none
  else some (padded.take (markerEnd blank padded - 1))

theorem markerEnd_append (hne : marker ≠ blank) (data : List α) (n : Nat) :
    markerEnd blank (data ++ marker :: List.replicate n blank) = data.length + 1 := by
  have hblanks : ∀ xs : List α, (List.replicate n blank ++ xs).dropWhile (· = blank) =
      xs.dropWhile (· = blank) := by
    intro xs
    induction n with
    | zero => rfl
    | succ n ih => simp [List.replicate_succ,ih]
  simp [markerEnd,hblanks,hne]

/-- Padding of any length is removed exactly. -/
theorem unpad_append (hne : marker ≠ blank) {data : List α} {n : Nat} (hn : n < block) :
    unpad blank marker block (data ++ marker :: List.replicate n blank) = some data := by
  have hend := markerEnd_append hne data n
  unfold unpad
  rw [hend,if_neg]
  · simp
  · simp
    omega

/-- Behind the end of the marker stand blanks only. -/
theorem eq_take_markerEnd (blank : α) (padded : List α) :
    ∃ n, padded = padded.take (markerEnd blank padded) ++ List.replicate n blank := by
  have hsplit : padded.reverse.takeWhile (· = blank) ++ padded.reverse.dropWhile (· = blank) = padded.reverse :=
    List.takeWhile_append_dropWhile
  have hpadded := congrArg List.reverse hsplit
  rw [List.reverse_append,List.reverse_reverse] at hpadded
  have htake : padded.take (markerEnd blank padded) = (padded.reverse.dropWhile (· = blank)).reverse := by
    have htaken : ((padded.reverse.dropWhile (· = blank)).reverse ++ (padded.reverse.takeWhile (· = blank)).reverse).take
        (padded.reverse.dropWhile (· = blank)).reverse.length = (padded.reverse.dropWhile (· = blank)).reverse :=
      List.take_left
    rw [hpadded,List.length_reverse] at htaken
    exact htaken
  have hblanks : (padded.reverse.takeWhile (· = blank)).reverse =
      List.replicate (padded.reverse.takeWhile (· = blank)).length blank := by
    rw [List.eq_replicate_iff]
    refine ⟨List.length_reverse,fun a ha => ?_⟩
    have hall : (padded.reverse.takeWhile (· = blank)).all (· = blank) = true := List.all_takeWhile
    exact of_decide_eq_true (List.all_eq_true.mp hall a (List.mem_reverse.mp ha))
  refine ⟨(padded.reverse.takeWhile (· = blank)).length,?_⟩
  rw [htake,← hblanks,hpadded]

/-- What is removed is one marker and less than a block of blanks. -/
theorem unpad_eq_some_iff (hne : marker ≠ blank) {padded data : List α} :
    unpad blank marker block padded = some data ↔
      ∃ n < block, padded = data ++ marker :: List.replicate n blank := by
  constructor
  · intro h
    unfold unpad at h
    split at h
    · cases h
    next hvalid =>
    rw [not_or,not_or,not_not,Nat.not_lt] at hvalid
    obtain ⟨hpositive,hmarker,hshort⟩ := hvalid
    obtain ⟨n,hpadded⟩ := eq_take_markerEnd blank padded
    have hdata : padded.take (markerEnd blank padded - 1) = data := Option.some.inj h
    have hlast : padded.take (markerEnd blank padded) = data ++ [marker] := by
      have hsucc : padded.take (markerEnd blank padded - 1 + 1) =
          padded.take (markerEnd blank padded - 1) ++ padded[markerEnd blank padded - 1]?.toList :=
        List.take_add_one
      rw [Nat.sub_add_cancel (Nat.pos_of_ne_zero hpositive),hmarker,hdata] at hsucc
      exact hsucc
    rw [hlast,List.append_assoc,List.singleton_append] at hpadded
    have hlength := congrArg List.length hpadded
    have hend := congrArg List.length hlast
    obtain ⟨hbound,_⟩ := List.getElem?_eq_some_iff.mp hmarker
    simp only [List.length_append,List.length_cons,List.length_replicate,List.length_take,List.length_nil] at hlength hend
    exact ⟨n,by omega,hpadded⟩
  · rintro ⟨n,hn,rfl⟩
    exact unpad_append hne hn

theorem unpad_pad (hne : marker ≠ blank) (hblock : 0 < block) (data : List α) :
    unpad blank marker block (pad blank marker block data) = some data :=
  unpad_append hne (fill_lt hblock data.length)

end Removal
end Interaction.Padding
