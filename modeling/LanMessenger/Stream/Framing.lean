import Mathlib.Data.List.Basic

/-! A byte stream made of frames, read in chunks by a receiver that takes at most one frame out of
its buffer for each chunk. Any type of frames with any type of bytes. -/

namespace Stream

variable {β μ : Type} (frame : μ → List β)

def bytes (messages : List μ) : List β := messages.flatMap frame

/-- The number of frames that lie whole within the first bytes of the stream. -/
def completed : List μ → Nat → Nat
  | [], _ => 0
  | message :: rest, received =>
    if (frame message).length ≤ received then completed rest (received - (frame message).length) + 1 else 0

variable {frame}

@[simp] theorem bytes_nil : bytes frame [] = [] := rfl

@[simp] theorem bytes_cons (message : μ) (rest : List μ) :
    bytes frame (message :: rest) = frame message ++ bytes frame rest := by simp [bytes]

@[simp] theorem bytes_append (front rest : List μ) :
    bytes frame (front ++ rest) = bytes frame front ++ bytes frame rest := by simp [bytes]

theorem front_of_stream {message : μ} {rest : List μ} {unread future : List β}
    (stream : unread ++ future = bytes frame (message :: rest)) :
    (∃ behind, unread = frame message ++ behind ∧ behind ++ future = bytes frame rest) ∨
      ∃ missing, missing ≠ [] ∧ frame message = unread ++ missing := by
  rw [bytes_cons] at stream
  rcases List.append_eq_append_iff.mp stream with ⟨missing, whole, later⟩ | ⟨behind, whole, later⟩
  · by_cases none : missing = []
    · left
      subst none
      exact ⟨[], by simpa using whole.symm, by simpa using later⟩
    · exact Or.inr ⟨missing, none, whole⟩
  · exact Or.inl ⟨behind, whole, later.symm⟩

theorem completed_eq_zero_iff (messages : List μ) (received : Nat) :
    completed frame messages received = 0 ↔ ∀ message ∈ messages.head?, received < (frame message).length := by
  cases messages with
  | nil => simp [completed]
  | cons message rest =>
    unfold completed
    split <;> simp <;> omega

theorem completed_append (front rest : List μ) (received : Nat) :
    completed frame (front ++ rest) ((bytes frame front).length + received) =
      front.length + completed frame rest received := by
  induction front with
  | nil => simp
  | cons message front ih =>
    rw [List.cons_append, completed, bytes_cons, List.length_append, if_pos (by omega)]
    rw [show (frame message).length + (bytes frame front).length + received - (frame message).length =
      (bytes frame front).length + received by omega, ih, List.length_cons]
    omega

theorem completed_bytes (messages : List μ) :
    completed frame messages (bytes frame messages).length = messages.length := by
  induction messages with
  | nil => rfl
  | cons message rest ih =>
    rw [bytes_cons, completed, List.length_append, if_pos (Nat.le_add_right _ _), Nat.add_sub_cancel_left, ih,
      List.length_cons]

end Stream
