import LanMessenger.Files.Blocks

/-! The blocks of a file as they come in order, though some may not come, each written at its place. -/

namespace Files

variable {α β γ : Type}

/-- The entries stand for some of the first `count` places, later ones for later places. -/
inductive InOrder (stands : α → Nat → Prop) : List α → Nat → Prop
  | none : InOrder stands [] 0
  | missing {entries : List α} {count : Nat} (before : InOrder stands entries count) : InOrder stands entries (count + 1)
  | comes {entries : List α} {count : Nat} (before : InOrder stands entries count) (entry : α) (here : stands entry count) :
      InOrder stands (entries ++ [entry]) (count + 1)

namespace InOrder

variable {stands : α → Nat → Prop} {stands' : γ → Nat → Prop} {entries fewer : List α} {count later : Nat}

theorem nil (count : Nat) : InOrder stands [] count := by
  induction count with
  | zero => exact none
  | succ count ih => exact ih.missing

theorem mono (inOrder : InOrder stands entries count) (more : count ≤ later) : InOrder stands entries later := by
  induction more with
  | refl => exact inOrder
  | step _ ih => exact ih.missing

theorem of_sublist (inOrder : InOrder stands entries count) (sublist : fewer.Sublist entries) : InOrder stands fewer count := by
  induction inOrder generalizing fewer with
  | none =>
    rw [List.sublist_nil.mp sublist]
    exact none
  | missing _ ih => exact (ih sublist).missing
  | comes _ entry here ih =>
    rcases List.sublist_append_iff.mp sublist with ⟨front, back, rfl, kept, last⟩
    rcases List.sublist_singleton.mp last with rfl | rfl
    · rw [List.append_nil]
      exact (ih kept).missing
    · exact (ih kept).comes entry here

theorem map (inOrder : InOrder stands entries count) (f : α → γ)
    (each : ∀ entry ∈ entries, ∀ index, index < count → stands entry index → stands' (f entry) index) :
    InOrder stands' (entries.map f) count := by
  induction inOrder with
  | none => exact none
  | missing _ ih => exact (ih fun entry member index below => each entry member index (Nat.lt_succ_of_lt below)).missing
  | comes _ entry here ih =>
    rw [List.map_append]
    apply (ih _).comes
    · exact each entry (List.mem_append_right _ List.mem_cons_self) _ (Nat.lt_succ_self _) here
    · intro earlier member index below
      exact each earlier (List.mem_append_left _ member) index (Nat.lt_succ_of_lt below)

theorem exists_of_mem (inOrder : InOrder stands entries count) {entry : α} (member : entry ∈ entries) :
    ∃ index, stands entry index := by
  induction inOrder with
  | none => cases member
  | missing _ ih => exact ih member
  | @comes entries count _ last here ih =>
    rcases List.mem_append.mp member with earlier | now
    · exact ih earlier
    · rw [List.mem_singleton.mp now]
      exact ⟨count, here⟩

theorem length_le (inOrder : InOrder stands entries count) : entries.length ≤ count := by
  induction inOrder with
  | none => exact Nat.le_refl _
  | missing _ ih => exact Nat.le_succ_of_le ih
  | comes _ entry here ih =>
    rw [List.length_append]
    exact Nat.succ_le_succ ih

theorem of_inside (bound : Nat) (inOrder : InOrder stands entries count)
    (inside : ∀ entry ∈ entries, ∀ index, stands entry index → index < bound) : InOrder stands entries bound := by
  have within : InOrder stands entries (min count bound) := by
    induction inOrder with
    | none => exact (nil 0).mono (Nat.zero_le _)
    | missing _ ih => exact (ih inside).mono (by omega)
    | @comes entries count before entry here ih =>
      have below := inside entry (List.mem_append_right _ List.mem_cons_self) count here
      rw [Nat.min_eq_left below]
      apply InOrder.comes _ entry here
      have earlier := ih fun other member => inside other (List.mem_append_left _ member)
      rwa [Nat.min_eq_left (Nat.le_of_lt below)] at earlier
  exact within.mono (Nat.min_le_right _ _)

end InOrder

/-- What the writes of pieces, each at its position, make of an empty file. -/
def assemble (filler : β) (pieces : List (Nat × List β)) : List β :=
  pieces.foldl (fun contents piece => writeAt filler contents piece.1 piece.2) []

/-- The piece is the block of the file at that index, and goes where the file has it. -/
def Placed (size : Nat) (contents : List β) (piece : Nat × List β) (index : Nat) : Prop :=
  piece = (index * size, block size contents index)

variable {filler : β} {size index position count : Nat} {contents written : List β}

theorem assemble_append (filler : β) (pieces : List (Nat × List β)) (position : Nat) (written : List β) :
    assemble filler (pieces ++ [(position, written)]) = writeAt filler (assemble filler pieces) position written :=
  List.foldl_append ..

theorem writeAt_behind (written : List β) (behind : contents.length ≤ position) (some : written ≠ []) :
    writeAt filler contents position written =
      contents ++ (List.replicate (position - contents.length) filler ++ written) := by
  rw [writeAt, if_neg some, List.take_of_length_le behind, List.drop_eq_nil_of_le (Nat.le_add_right_of_le behind),
    List.append_nil, List.append_assoc]

theorem length_writeAt_behind (filler : β) (written : List β) (behind : contents.length ≤ position) :
    (writeAt filler contents position written).length ≤ position + written.length := by
  by_cases none : written = []
  · rw [writeAt, if_pos none]
    exact Nat.le_add_right_of_le behind
  · rw [writeAt_behind written behind none]
    simp only [List.length_append, List.length_replicate]
    omega

theorem block_writeAt_front (filler : β) (written : List β) (behind : contents.length ≤ position)
    (whole : (block size contents index).length = size) :
    block size (writeAt filler contents position written) index = block size contents index := by
  by_cases none : written = []
  · rw [writeAt, if_pos none]
  · rw [writeAt_behind written behind none]
    simp only [block, List.length_take, List.length_drop] at whole
    simp only [block]
    by_cases empty : size = 0
    · rw [empty, List.take_zero, List.take_zero]
    · rw [List.drop_append_of_le_length (by omega), List.take_append_of_le_length]
      rw [List.length_drop]
      omega

theorem block_writeAt (filler : β) (behind : contents.length ≤ index * size) (fits : written.length ≤ size) :
    block size (writeAt filler contents (index * size) written) index = written := by
  by_cases none : written = []
  · rw [writeAt, if_pos none, block, List.drop_eq_nil_of_le behind, none, List.take_nil]
  · rw [writeAt_behind written behind none, block, ← List.append_assoc, List.drop_left', List.take_of_length_le fits]
    simp only [List.length_append, List.length_replicate]
    omega

theorem InOrder.assembled {pieces : List (Nat × List β)} (filler : β) (inOrder : InOrder (Placed size contents) pieces count)
    (inside : count ≤ contents.length / size + 1) :
    (assemble filler pieces).length ≤ count * size ∧ ∀ piece ∈ pieces, ∃ index, index < count ∧
      Placed size contents piece index ∧ block size (assemble filler pieces) index = block size contents index := by
  induction inOrder with
  | none => exact ⟨Nat.zero_le _, by simp⟩
  | @missing pieces count _ ih =>
    rcases ih (by omega) with ⟨length, placed⟩
    refine ⟨length.trans (Nat.mul_le_mul_right size (Nat.le_succ count)), fun piece member => ?_⟩
    rcases placed piece member with ⟨index, below, rest⟩
    exact ⟨index, Nat.lt_succ_of_lt below, rest⟩
  | @comes pieces count _ piece here ih =>
    rcases ih (by omega) with ⟨length, placed⟩
    cases here
    have fits : (block size contents count).length ≤ size := block_length_le count
    rw [assemble_append]
    constructor
    · have added := length_writeAt_behind filler (block size contents count) length
      rw [Nat.add_mul, Nat.one_mul]
      omega
    · intro piece member
      rcases List.mem_append.mp member with earlier | now
      · rcases placed piece earlier with ⟨index, below, is, same⟩
        refine ⟨index, Nat.lt_succ_of_lt below, is, ?_⟩
        have whole : (block size contents index).length = size := block_whole (by omega)
        rw [block_writeAt_front filler _ length (by rw [same]; exact whole), same]
      · rw [List.mem_singleton.mp now]
        exact ⟨count, Nat.lt_succ_self count, rfl, block_writeAt filler length fits⟩

theorem InOrder.assembled_whole {pieces : List (Nat × List β)} (filler : β)
    (inOrder : InOrder (Placed size contents) pieces count) (inside : count ≤ contents.length / size + 1)
    (whole : pieces.length = count) : assemble filler pieces = contents.take (count * size) := by
  induction inOrder with
  | none => rw [Nat.zero_mul, List.take_zero]; rfl
  | missing before _ =>
    have fewer := before.length_le
    omega
  | @comes pieces count before piece here ih =>
    cases here
    rw [List.length_append] at whole
    rw [assemble_append, ih (by omega) (Nat.succ.inj whole)]
    exact writeAt_block filler (by omega)

end Files
