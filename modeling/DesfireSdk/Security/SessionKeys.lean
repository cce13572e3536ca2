import Mathlib.Data.List.Rotate
import DesfireSdk.Security.Ev2.Authentication

/-!
The key material of a card, byte by byte. The host cuts both nonces into slices; a card that reads
them by position comes to the same bytes.
-/
namespace DesfireSdk.Security

/-- The key of a Standard AES or ISO session: the outer four bytes of both nonces in turn. -/
def cardSessionKey (host nonce : Bytes) : Bytes :=
  (List.range 16).map fun i =>
    if i < 4 then host.getD i 0 else if i < 8 then nonce.getD (i - 4) 0
    else if i < 12 then host.getD (i + 4) 0 else nonce.getD i 0

/-- What a card derives both keys of an EV2 session from, after their labels. -/
def cardSessionVector (host nonce : Bytes) : Bytes :=
  (List.range 26).map fun i =>
    if i < 2 then host.getD i 0 else if i < 8 then host.getD i 0 ^^^ nonce.getD (i - 2) 0
    else if i < 18 then nonce.getD (i - 2) 0 else host.getD (i - 10) 0

/-- A field of a card: shorter content is followed by zeros. -/
def padded (size : Nat) (content : Bytes) : Bytes := (content.take size).rightpad size 0

section Agreement
variable {host nonce : Bytes}

theorem cardSessionKey_eq (hhost : host.length = 16) (hnonce : nonce.length = 16) :
    cardSessionKey host nonce =
      host.take 4 ++ nonce.take 4 ++ (host.drop 12).take 4 ++ (nonce.drop 12).take 4 := by
  obtain ⟨a,rfl⟩ := eq_ofFn hhost
  obtain ⟨b,rfl⟩ := eq_ofFn hnonce
  rfl

theorem cardSessionVector_eq (hhost : host.length = 16) (hnonce : nonce.length = 16) :
    cardSessionVector host nonce = Ev2.sessionContext host nonce := by
  obtain ⟨a,rfl⟩ := eq_ofFn hhost
  obtain ⟨b,rfl⟩ := eq_ofFn hnonce
  rfl

theorem copyInto_eq (size : Nat) (content : Bytes) : copyInto size content = padded size content := by
  unfold copyInto padded zeros List.rightpad
  rw [List.take_append,List.take_replicate,List.length_take]
  congr 2
  omega

@[simp] theorem length_padded (size : Nat) (content : Bytes) : (padded size content).length = size := by
  rw [← copyInto_eq,length_copyInto]

theorem rotateLeft_eq {input : Bytes} (h : input.length = 16) : rotateLeft input = input.rotate 1 :=
  (List.rotate_eq_drop_append_take (by omega)).symm

end Agreement
end DesfireSdk.Security
