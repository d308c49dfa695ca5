import Mathlib.Data.List.Range

/-! A file cut into blocks of one size with a shorter one behind, and put together again by writes
at positions. -/

namespace Files

variable {β : Type} (size : Nat) (contents : List β)

def block (index : Nat) : List β := (contents.drop (index * size)).take size

/-- As many whole blocks as there are, and the one behind them, which may be empty. -/
def blocks : List (List β) := (List.range (contents.length / size + 1)).map (block size contents)

/-- A write at a position; what lies between the end of the file and the position reads as filler. -/
def writeAt (filler : β) (contents : List β) (position : Nat) (written : List β) : List β :=
  if written = [] then contents
  else contents.take position ++ List.replicate (position - contents.length) filler ++ written ++
    contents.drop (position + written.length)

variable {size contents}

theorem block_length_le (index : Nat) : (block size contents index).length ≤ size := by
  simp only [block, List.length_take]
  omega

theorem block_whole {index : Nat} (inside : index < contents.length / size) :
    (block size contents index).length = size := by
  have enough : (index + 1) * size ≤ contents.length :=
    (Nat.mul_le_mul_right size inside).trans (Nat.div_mul_le_self _ _)
  rw [Nat.add_mul] at enough
  simp only [block, List.length_take, List.length_drop]
  omega

theorem block_last (positive : 0 < size) :
    (block size contents (contents.length / size)).length = contents.length % size := by
  have split := Nat.div_add_mod' contents.length size
  have rest := Nat.mod_lt contents.length positive
  simp only [block, List.length_take, List.length_drop]
  omega

theorem take_append_block (index : Nat) :
    contents.take (index * size) ++ block size contents index = contents.take ((index + 1) * size) := by
  rw [block, Nat.add_mul, Nat.one_mul, List.take_add]

theorem take_length_of_le {index : Nat} (inside : index ≤ contents.length / size) :
    (contents.take (index * size)).length = index * size :=
  List.length_take_of_le ((Nat.mul_le_mul_right size inside).trans (Nat.div_mul_le_self _ _))

theorem take_past_last (positive : 0 < size) : contents.take ((contents.length / size + 1) * size) = contents := by
  refine List.take_of_length_le (Nat.le_of_lt ?_)
  rw [Nat.mul_comm]
  exact Nat.lt_mul_div_succ _ positive

theorem writeAt_end (filler : β) (contents written : List β) :
    writeAt filler contents contents.length written = contents ++ written := by
  unfold writeAt
  split
  · rename_i none
    rw [none, List.append_nil]
  · simp

theorem writeAt_block (filler : β) {index : Nat} (inside : index ≤ contents.length / size) :
    writeAt filler (contents.take (index * size)) (index * size) (block size contents index) =
      contents.take ((index + 1) * size) := by
  have behind := writeAt_end filler (contents.take (index * size)) (block size contents index)
  rwa [take_length_of_le inside, take_append_block] at behind

/-- What comes out when each entry of a list goes through a partial function that has a value there. -/
theorem exists_conveyed {α : Type} (sent : List α) (convey : Nat → α → Option β) (arrives : Nat → β → Prop)
    (each : ∀ index entry, sent[index]? = some entry → ∃ value, convey index entry = some value ∧ arrives index value) :
    ∃ arrived : List β, sent.mapIdx convey = arrived.map some ∧ arrived.length = sent.length ∧
      ∀ (index : Nat) (value : β), arrived[index]? = some value → arrives index value := by
  induction sent generalizing convey arrives with
  | nil => exact ⟨[], rfl, rfl, fun index value there => by simp at there⟩
  | cons entry rest ih =>
    obtain ⟨value, conveyed, first⟩ := each 0 entry rfl
    obtain ⟨arrived, mapped, length, inOrder⟩ := ih (fun index => convey (index + 1))
      (fun index => arrives (index + 1)) fun index later there => each (index + 1) later there
    refine ⟨value :: arrived, ?_, by simp [length], fun index made there => ?_⟩
    · rw [List.mapIdx_cons, conveyed, mapped]
      rfl
    · cases index with
      | zero =>
        cases there
        exact first
      | succ index => exact inOrder index made there

end Files
