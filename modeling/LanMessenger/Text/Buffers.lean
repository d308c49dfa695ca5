import Mathlib.Data.List.Basic

/-! A line of text kept at the front of an array, with the position behind it. -/

namespace Text

variable {γ : Type}

structure Holds (array : List γ) (position : Nat) (line : List γ) : Prop where
  inside : position ≤ array.length
  text : array.take position = line

namespace Holds

variable {array line : List γ} {position : Nat}

theorem empty (array : List γ) : Holds array 0 [] := ⟨Nat.zero_le _, List.take_zero⟩

theorem length (holds : Holds array position line) : line.length = position := by
  rw [← holds.text, List.length_take, Nat.min_eq_left holds.inside]

theorem eq_nil_iff (holds : Holds array position line) : line = [] ↔ position = 0 := by
  rw [← holds.length, List.length_eq_zero_iff]

theorem put (holds : Holds array position line) (room : position < array.length) (character : γ) :
    Holds (array.set position character) (position + 1) (line ++ [character]) := by
  refine ⟨by rwa [List.length_set], ?_⟩
  rw [List.take_succ_eq_append_getElem (by rwa [List.length_set]), List.take_set_of_le (Nat.le_refl _),
    List.getElem_set_self, holds.text]

theorem erase (holds : Holds array position line) (filler : γ) :
    Holds (array.set (position - 1) filler) (position - 1) line.dropLast := by
  refine ⟨by rw [List.length_set]; exact Nat.le_trans (Nat.sub_le _ _) holds.inside, ?_⟩
  rw [List.take_set_of_le (Nat.le_refl _), List.dropLast_eq_take, holds.length, ← holds.text, List.take_take,
    Nat.min_eq_left (Nat.sub_le _ _)]

end Holds

end Text
