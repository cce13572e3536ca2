import DesfireSdk.Foundation.Bytes

/-!
# Fields of a sequence

What a decoder takes from a sequence, as a relation between the position where it stands and the one
where it stops, and decoders whose every read is checked against the bounds of the sequence.
-/
namespace DesfireSdk

section Consumption
variable {α : Type}

/-- A decoder that stands at `start` of a sequence takes this field and stops at `stop`. -/
structure Consumes (payload : List α) (start : Nat) (field : List α) (stop : Nat) : Prop where
  taken : payload.drop start = field ++ payload.drop stop
  stops : stop = start + field.length
  within : stop ≤ payload.length

namespace Consumes
variable {payload field field' : List α} {start middle stop : Nat}

theorem nil (h : start ≤ payload.length) : Consumes payload start [] start := ⟨rfl,rfl,h⟩

/-- A field of known length. -/
theorem span (payload : List α) (start count : Nat) (h : start + count ≤ payload.length) :
    Consumes payload start ((payload.drop start).take count) (start + count) := by
  refine ⟨?_,?_,h⟩
  · rw [← List.drop_drop,List.take_append_drop]
  · rw [List.length_take,List.length_drop]
    omega

theorem append (h : Consumes payload start field middle) (h' : Consumes payload middle field' stop) :
    Consumes payload start (field ++ field') stop := by
  refine ⟨?_,?_,h'.within⟩
  · rw [h.taken,h'.taken,List.append_assoc]
  · rw [h'.stops,h.stops,List.length_append,Nat.add_assoc]

/-- A field that stands at a position is consumed there. -/
theorem of_drop {rest : List α} (hstart : start ≤ payload.length) (h : payload.drop start = field ++ rest) :
    Consumes payload start field (start + field.length) ∧ payload.drop (start + field.length) = rest := by
  have hrest : payload.drop (start + field.length) = rest := by
    rw [← List.drop_drop,h,List.drop_left]
  have hlength := congrArg List.length h
  rw [List.length_drop,List.length_append] at hlength
  exact ⟨⟨by rw [h,hrest],rfl,by omega⟩,hrest⟩

theorem take (h : Consumes payload start field stop) : (payload.drop start).take field.length = field := by
  rw [h.taken,List.take_left]

theorem getElem? (h : Consumes payload start field stop) (index : Nat) (hindex : index < field.length) :
    payload[start + index]? = field[index]? := by
  rw [← List.getElem?_drop,h.taken,List.getElem?_append_left hindex]

/-- The two parts of a field are consumed one after the other. -/
theorem split (field field' : List α) (h : Consumes payload start (field ++ field') stop) :
    Consumes payload start field (start + field.length) ∧ Consumes payload (start + field.length) field' stop := by
  have hstart : start ≤ payload.length := by
    have hstops := h.stops
    have hwithin := h.within
    omega
  have htaken := h.taken
  rw [List.append_assoc] at htaken
  obtain ⟨hfirst,hrest⟩ := of_drop hstart htaken
  refine ⟨hfirst,hrest,?_,h.within⟩
  rw [h.stops,List.length_append,Nat.add_assoc]

/-- What is consumed from a position to the end is all that stands there. -/
theorem to_end (h : Consumes payload start field payload.length) : payload.drop start = field := by
  rw [h.taken,List.drop_length,List.append_nil]

end Consumes
end Consumption

section Reading
variable {α β ε : Type}

/-- Decoders whose reads are checked: `none` is a read outside the sequence. -/
abbrev Reading (ε β : Type) := ExceptT ε Option β

namespace Reading

/-- A decoder that read nothing outside the sequence. -/
def within (r : Except ε β) : Reading ε β := ExceptT.mk (some r)

def element (payload : List α) (index : Nat) : Reading ε α := ExceptT.mk (payload[index]?.map .ok)

def span (payload : List α) (offset count : Nat) : Reading ε (List α) :=
  ExceptT.mk (if offset + count ≤ payload.length then some (.ok ((payload.drop offset).take count)) else none)

/-- The difference of two sizes, which is not below zero. -/
def difference (minuend subtrahend : Nat) : Reading ε Nat :=
  ExceptT.mk (if subtrahend ≤ minuend then some (.ok (minuend - subtrahend)) else none)

theorem element_within {payload : List α} {index : Nat} (h : index < payload.length) (default : α) :
    (element payload index : Reading ε α) = within (.ok (payload.getD index default)) := by
  simp [element,within,h]

theorem span_within {payload : List α} {offset count : Nat} (h : offset + count ≤ payload.length) :
    (span payload offset count : Reading ε (List α)) = within (.ok ((payload.drop offset).take count)) := by
  simp [span,within,h]

theorem difference_within {minuend subtrahend : Nat} (h : subtrahend ≤ minuend) :
    (difference minuend subtrahend : Reading ε Nat) = within (.ok (minuend - subtrahend)) := by
  simp [difference,within,h]

@[simp] theorem within_ok_bind (a : α) (f : α → Reading ε β) : within (.ok a) >>= f = f a := rfl

@[simp] theorem within_error_bind (e : ε) (f : α → Reading ε β) : within (.error e) >>= f = within (.error e) := rfl

@[simp] theorem throw_within (e : ε) : (throw e : Reading ε β) = within (.error e) := rfl

@[simp] theorem pure_within (b : β) : (pure b : Reading ε β) = within (.ok b) := rfl

/-- What a decoder of two fields needs to succeed. -/
theorem bind_eq_ok {r : Except ε α} {f : α → Except ε β} {b : β} (h : r >>= f = .ok b) :
    ∃ a, r = .ok a ∧ f a = .ok b := by
  cases r with
  | error e => cases h
  | ok a => exact ⟨a,rfl,h⟩

/-- A decoder stays within the sequence when its parts do, the later ones where the first succeeds. -/
theorem bind_within {r : Except ε α} {f : α → Reading ε β} {g : α → Except ε β}
    (h : ∀ a, r = .ok a → f a = within (g a)) : within r >>= f = within (r >>= g) := by
  cases r with
  | error e => rfl
  | ok a => exact h a rfl

end Reading
end Reading
end DesfireSdk
