import LanMessenger.Messages.InnerSizes

namespace LanMessenger

open CMemory

namespace MessageType

/-- The payloads for which the decoder of the type returns false. -/
def Refused (payload : List Byte) (size : Int) : MessageType → Prop
  | .status => size ≠ StatusMessage.size
  | .hello | .bye => False
  | .nickname => size ≠ NicknameMessage.size
  | .chat => size < 40 ∨ size ≠ 40 + ChatMessage.innerSize payload
  | .fileRequest => size < FileTransferMessage.size
  | .fileData => size < 16

/-- The payloads that the decoder of the type makes a message of, told by their lengths. -/
def Decodable (payload : List Byte) (size : Int) : MessageType → Prop
  | .status => size = StatusMessage.size
  | .hello | .bye => True
  | .nickname => size = NicknameMessage.size
  | .chat =>
    40 ≤ size ∧ size = 40 + ChatMessage.innerSize payload ∧ ChatMessage.innerSize payload ≤ chatMessageFieldSize
  | .fileRequest => FileTransferMessage.size ≤ size
  | .fileData =>
    16 ≤ size ∧ 0 ≤ FileDataMessage.innerSize payload ∧ 16 + FileDataMessage.innerSize payload ≤ payload.length

instance (payload : List Byte) (size : Int) (type : MessageType) : Decidable (type.Decodable payload size) :=
  match type with
  | .status | .nickname => inferInstanceAs (Decidable (size = _))
  | .hello | .bye => instDecidableTrue
  | .chat | .fileData => inferInstanceAs (Decidable (_ ∧ _ ∧ _))
  | .fileRequest => inferInstanceAs (Decidable (_ ≤ size))

def decodedSize (payload : List Byte) : MessageType → Int
  | .status => StatusMessage.size
  | .hello | .bye => 0
  | .nickname => NicknameMessage.size
  | .chat => 40 + ChatMessage.innerSize payload
  | .fileRequest => FileTransferMessage.size
  | .fileData => 16 + FileDataMessage.innerSize payload

theorem not_refused_of_decodable {payload : List Byte} {size : Int} {type : MessageType}
    (decodable : type.Decodable payload size) : ¬ type.Refused payload size := by
  cases type with
  | hello => exact id
  | bye => exact id
  | status => exact not_not.mpr decodable
  | nickname => exact not_not.mpr decodable
  | chat => exact not_or.mpr ⟨not_lt.mpr decodable.1, not_not.mpr decodable.2.1⟩
  | fileRequest => exact not_lt.mpr decodable
  | fileData => exact not_lt.mpr decodable.1

theorem refused_of_take {payload other : List Byte} {size : Int} {type : MessageType}
    (same : other.take size.toNat = payload.take size.toNat) (refused : type.Refused payload size) :
    type.Refused other size := by
  cases type with
  | chat =>
    by_cases short : size < 40
    · exact Or.inl short
    · refine Or.inr ?_
      rw [ChatMessage.innerSize_of_take same (not_lt.mp short)]
      exact refused.resolve_left short
  | _ => exact refused

end MessageType

namespace Message

variable {heap : Heap} {payload : List Byte} {size : Int} {type : MessageType}

theorem fromRawBytes_cases (heap : Heap) (payload : List Byte) (size : Int) (type : MessageType) :
    (type.Refused payload size ∧ fromRawBytes heap type payload size = .ok none) ∨
      (type.Decodable payload size ∧ ∃ message, fromRawBytes heap type payload size = .ok (some message) ∧
        message.size = type.decodedSize payload) ∨
      (¬ type.Refused payload size ∧ ¬ type.Decodable payload size ∧
        ∃ undefined, fromRawBytes heap type payload size = .error undefined) := by
  cases type with
  | hello => exact Or.inr (Or.inl ⟨trivial, _, rfl, rfl⟩)
  | bye => exact Or.inr (Or.inl ⟨trivial, _, rfl, rfl⟩)
  | status =>
    simp only [fromRawBytes, StatusMessage.fromRawBytes]
    by_cases differs : size ≠ StatusMessage.size
    · rw [if_pos differs]
      exact Or.inl ⟨differs, rfl⟩
    · rw [if_neg differs]
      exact Or.inr (Or.inl ⟨not_not.mp differs, _, rfl, rfl⟩)
  | nickname =>
    simp only [fromRawBytes, NicknameMessage.fromRawBytes]
    by_cases differs : size ≠ NicknameMessage.size
    · rw [if_pos differs]
      exact Or.inl ⟨differs, rfl⟩
    · rw [if_neg differs]
      exact Or.inr (Or.inl ⟨not_not.mp differs, _, rfl, rfl⟩)
  | fileRequest =>
    simp only [fromRawBytes, FileTransferMessage.fromRawBytes]
    by_cases short : size < FileTransferMessage.size
    · rw [if_pos short]
      exact Or.inl ⟨short, rfl⟩
    · rw [if_neg short]
      exact Or.inr (Or.inl ⟨not_lt.mp short, _, rfl, rfl⟩)
  | chat =>
    simp only [fromRawBytes]
    by_cases refused : size < 40 ∨ size ≠ 40 + ChatMessage.innerSize payload
    · rw [ChatMessage.fromRawBytes_refuses_iff.mpr refused]
      exact Or.inl ⟨refused, rfl⟩
    · rcases not_or.mp refused with ⟨long, differs⟩
      have long := not_lt.mp long
      have agrees := not_not.mp differs
      by_cases fits : ChatMessage.innerSize payload ≤ chatMessageFieldSize
      · rw [ChatMessage.fromRawBytes_accepts long agrees (Int.toNat_le.mpr fits)]
        refine Or.inr (Or.inl ⟨⟨long, agrees, fits⟩, _, rfl, ?_⟩)
        simp only [Message.size, ChatMessage.size, MessageType.decodedSize, maxNicknameSize]
        omega
      · rw [ChatMessage.fromRawBytes_overruns long agrees (not_le.mp fits)]
        exact Or.inr (Or.inr ⟨refused, fun decodable => fits decodable.2.2, _, rfl⟩)
  | fileData =>
    simp only [fromRawBytes, FileDataMessage.fromRawBytes_new]
    by_cases short : size < 16
    · rw [if_pos short]
      exact Or.inl ⟨short, rfl⟩
    · rw [if_neg short]
      by_cases negative : FileDataMessage.innerSize payload < 0
      · rw [if_pos negative]
        exact Or.inr (Or.inr ⟨short, fun decodable => not_lt.mpr decodable.2.1 negative, _, rfl⟩)
      · rw [if_neg negative]
        by_cases outside : (payload.length : Int) < 16 + FileDataMessage.innerSize payload
        · rw [if_pos outside]
          exact Or.inr (Or.inr ⟨short, fun decodable => not_lt.mpr decodable.2.2 outside, _, rfl⟩)
        · rw [if_neg outside]
          refine Or.inr (Or.inl ⟨⟨not_lt.mp short, not_lt.mp negative, not_lt.mp outside⟩, _, rfl, ?_⟩)
          simp only [Message.size, FileDataMessage.size, MessageType.decodedSize, List.length_take, List.length_drop]
          omega

theorem fromRawBytes_none_iff : fromRawBytes heap type payload size = .ok none ↔ type.Refused payload size := by
  rcases fromRawBytes_cases heap payload size type with
    ⟨refused, decoded⟩ | ⟨decodable, message, decoded, -⟩ | ⟨passes, -, undefined, decoded⟩
  · exact iff_of_true decoded refused
  · exact iff_of_false (by simp [decoded]) (MessageType.not_refused_of_decodable decodable)
  · exact iff_of_false (by simp [decoded]) passes

theorem fromRawBytes_some_iff :
    (∃ message, fromRawBytes heap type payload size = .ok (some message)) ↔ type.Decodable payload size := by
  rcases fromRawBytes_cases heap payload size type with
    ⟨refused, decoded⟩ | ⟨decodable, message, decoded, -⟩ | ⟨-, undecodable, undefined, decoded⟩
  · exact iff_of_false (by simp [decoded]) fun decodable => MessageType.not_refused_of_decodable decodable refused
  · exact iff_of_true ⟨message, decoded⟩ decodable
  · exact iff_of_false (by simp [decoded]) undecodable

end Message

end LanMessenger
