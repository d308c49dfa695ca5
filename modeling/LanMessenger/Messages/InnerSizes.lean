import LanMessenger.Messages.Message

namespace LanMessenger

open CMemory

/-- The decoder comes to its end, and what it makes depends on the declared bytes alone. -/
def ReadsDeclared {α : Type} (decoder : List Byte → Int → Except Undefined (Option α)) (payload : List Byte)
    (size : Int) : Prop :=
  ∃ decoded, ∀ other, size ≤ other.length → other.take size.toNat = payload.take size.toNat →
    decoder other size = .ok decoded

theorem drop_take_of_take {other payload : List Byte} {size start count : Nat}
    (same : other.take size = payload.take size) (inside : start + count ≤ size) :
    (other.drop start).take count = (payload.drop start).take count := by
  have both := congrArg (fun bytes => (bytes.drop start).take count) same
  simpa only [List.drop_take, List.take_take, min_eq_left (show count ≤ size - start by omega)] using both

theorem Field.ofBytes_of_take {other payload : List Byte} {size count : Nat} (same : other.take size = payload.take size)
    (inside : count ≤ size) (long : size ≤ payload.length) (otherLong : size ≤ other.length) :
    Field.ofBytes count other = Field.ofBytes count payload := by
  have front := drop_take_of_take same (show 0 + count ≤ size by omega)
  ext1
  rwa [Field.ofBytes_bytes (by omega), Field.ofBytes_bytes (by omega)]

namespace ChatMessage

def innerSize (payload : List Byte) : Int := int ((payload.drop maxNicknameSize).take 4)

variable {raw : ChatMessage} {payload : List Byte} {size : Int}

theorem size_new (raw : ChatMessage) : ((new raw).size : Int) = 40 := by
  simp [new, setSender, size]

def copied (raw : ChatMessage) (text : List Byte) : Field chatMessageFieldSize :=
  (raw.message_.overwrite (List.replicate maxChatMessageSize 0#8)).overwrite text

theorem fromRawBytes_new (raw : ChatMessage) (payload : List Byte) (size : Int) :
    (new raw).fromRawBytes payload size =
      if size < 40 then .ok none
      else if size ≠ 40 + innerSize payload then .ok none
      else if fits : (innerSize payload).toNat ≤ chatMessageFieldSize then
        .ok (some {
          message_ := raw.copied ((payload.drop (maxNicknameSize + 4)).take (innerSize payload).toNat)
          sender_ := Field.ofBytes maxNicknameSize payload
          messageSize := (innerSize payload).toNat
          messageSize_le := fits })
      else .error .outOfBounds := by
  unfold fromRawBytes
  simp only [size_new]
  rfl

theorem fromRawBytes_refuses_iff :
    (new raw).fromRawBytes payload size = .ok none ↔ size < 40 ∨ size ≠ 40 + innerSize payload := by
  rw [fromRawBytes_new]
  by_cases short : size < 40
  · rw [if_pos short]
    exact iff_of_true rfl (Or.inl short)
  · rw [if_neg short]
    by_cases differs : size ≠ 40 + innerSize payload
    · rw [if_pos differs]
      exact iff_of_true rfl (Or.inr differs)
    · rw [if_neg differs]
      refine iff_of_false (fun refused => ?_) (not_or.mpr ⟨short, differs⟩)
      split at refused <;> cases refused

theorem fromRawBytes_accepts (long : 40 ≤ size) (agrees : size = 40 + innerSize payload)
    (fits : (innerSize payload).toNat ≤ chatMessageFieldSize) :
    (new raw).fromRawBytes payload size = .ok (some {
      message_ := raw.copied ((payload.drop (maxNicknameSize + 4)).take (innerSize payload).toNat)
      sender_ := Field.ofBytes maxNicknameSize payload
      messageSize := (innerSize payload).toNat
      messageSize_le := fits }) := by
  rw [fromRawBytes_new, if_neg (not_lt.mpr long), if_neg (not_not.mpr agrees), dif_pos fits]

theorem fromRawBytes_overruns (long : 40 ≤ size) (agrees : size = 40 + innerSize payload)
    (large : chatMessageFieldSize < innerSize payload) : (new raw).fromRawBytes payload size = .error .outOfBounds := by
  rw [fromRawBytes_new, if_neg (not_lt.mpr long), if_neg (not_not.mpr agrees),
    dif_neg (by rw [Int.toNat_le]; exact not_le.mpr large)]

/-- A payload that passes the checks has its text inside what is declared, and the text fits into `message_`. -/
structure CopiesDeclared (raw : ChatMessage) (payload : List Byte) (size : Int) : Prop where
  within : (new raw).fromRawBytes payload size ≠ .ok none →
    0 ≤ innerSize payload ∧ innerSize payload ≤ size - 40 ∧ innerSize payload ≤ chatMessageFieldSize
  reads : ReadsDeclared (new raw).fromRawBytes payload size

theorem innerSize_of_take {other : List Byte} (same : other.take size.toNat = payload.take size.toNat) (long : 40 ≤ size) :
    innerSize other = innerSize payload := by
  rw [innerSize, drop_take_of_take same (by simp only [maxNicknameSize]; omega), innerSize]

theorem readsDeclared_of_fits (declared : size ≤ payload.length) (long : 40 ≤ size) (agrees : size = 40 + innerSize payload)
    (fits : innerSize payload ≤ chatMessageFieldSize) : ReadsDeclared (new raw).fromRawBytes payload size := by
  refine ⟨some ⟨raw.copied ((payload.drop (maxNicknameSize + 4)).take (innerSize payload).toNat),
    Field.ofBytes maxNicknameSize payload, (innerSize payload).toNat, Int.toNat_le.mpr fits⟩,
    fun other otherDeclared same => ?_⟩
  have inner := innerSize_of_take same long
  have text : (other.drop (maxNicknameSize + 4)).take (innerSize payload).toNat =
      (payload.drop (maxNicknameSize + 4)).take (innerSize payload).toNat :=
    drop_take_of_take same (by simp only [maxNicknameSize]; omega)
  have sender : Field.ofBytes maxNicknameSize other = Field.ofBytes maxNicknameSize payload :=
    Field.ofBytes_of_take same (by simp only [maxNicknameSize]; omega) (by omega) (by omega)
  rw [fromRawBytes_accepts long (by rwa [inner]) (by rw [inner]; exact Int.toNat_le.mpr fits)]
  simp only [inner, text, sender]

theorem readsDeclared_of_refused (refused : size < 40 ∨ size ≠ 40 + innerSize payload) :
    ReadsDeclared (new raw).fromRawBytes payload size := by
  refine ⟨none, fun other _ same => fromRawBytes_refuses_iff.mpr ?_⟩
  by_cases short : size < 40
  · exact Or.inl short
  · rw [innerSize_of_take same (not_lt.mp short)]
    exact refused

theorem copiesDeclared_iff (declared : size ≤ payload.length) :
    CopiesDeclared raw payload size ↔
      (size = 40 + innerSize payload → innerSize payload ≤ chatMessageFieldSize) := by
  constructor
  · intro copies agrees
    by_contra large
    have overruns : (new raw).fromRawBytes payload size = .error .outOfBounds :=
      fromRawBytes_overruns (by omega) agrees (not_le.mp large)
    have passes : (new raw).fromRawBytes payload size ≠ .ok none := by simp [overruns]
    exact large (copies.within passes).2.2
  · intro small
    by_cases refused : size < 40 ∨ size ≠ 40 + innerSize payload
    · exact ⟨fun passes => absurd (fromRawBytes_refuses_iff.mpr refused) passes, readsDeclared_of_refused refused⟩
    · rcases not_or.mp refused with ⟨long, differs⟩
      have agrees := not_not.mp differs
      exact ⟨fun _ => ⟨by omega, by omega, small agrees⟩,
        readsDeclared_of_fits declared (not_lt.mp long) agrees (small agrees)⟩

end ChatMessage

namespace FileDataMessage

def innerSize (payload : List Byte) : Int := int ((payload.drop 12).take 4)

variable {raw : FileDataMessage} {payload : List Byte} {size : Int}

theorem size_new (raw : FileDataMessage) : ((new raw).size : Int) = 16 := by
  simp [new, size]

theorem fromRawBytes_new (raw : FileDataMessage) (payload : List Byte) (size : Int) :
    (new raw).fromRawBytes payload size =
      if size < 16 then .ok none
      else if innerSize payload < 0 then .error .badAllocation
      else if (payload.length : Int) < 16 + innerSize payload then .error .outOfBounds
      else .ok (some {
        offset := word 8 (payload.take 8)
        isLast := (payload.drop 8).take 1 ≠ [0#8]
        padding := Field.ofBytes 3 (payload.drop 9)
        data := (payload.drop 16).take (innerSize payload).toNat }) := by
  unfold fromRawBytes
  simp only [size_new]
  rfl

theorem fromRawBytes_refuses_iff : (new raw).fromRawBytes payload size = .ok none ↔ size < 16 := by
  rw [fromRawBytes_new]
  by_cases short : size < 16
  · rw [if_pos short]
    exact iff_of_true rfl short
  · rw [if_neg short]
    refine iff_of_false (fun refused => ?_) short
    split at refused
    · cases refused
    · split at refused <;> cases refused

theorem fromRawBytes_accepts (long : 16 ≤ size) (nonnegative : 0 ≤ innerSize payload)
    (inside : 16 + innerSize payload ≤ payload.length) :
    (new raw).fromRawBytes payload size = .ok (some {
      offset := word 8 (payload.take 8)
      isLast := (payload.drop 8).take 1 ≠ [0#8]
      padding := Field.ofBytes 3 (payload.drop 9)
      data := (payload.drop 16).take (innerSize payload).toNat }) := by
  rw [fromRawBytes_new, if_neg (not_lt.mpr long), if_neg (not_lt.mpr nonnegative), if_neg (not_lt.mpr inside)]

/-- A payload that passes the check has its data inside what is declared. The block they go to is allocated for them. -/
structure CopiesDeclared (raw : FileDataMessage) (payload : List Byte) (size : Int) : Prop where
  within : (new raw).fromRawBytes payload size ≠ .ok none → 0 ≤ innerSize payload ∧ innerSize payload ≤ size - 16
  reads : ReadsDeclared (new raw).fromRawBytes payload size

theorem readsDeclared_of_within (long : 16 ≤ size) (declared : size ≤ payload.length) (nonnegative : 0 ≤ innerSize payload)
    (inside : innerSize payload ≤ size - 16) : ReadsDeclared (new raw).fromRawBytes payload size := by
  refine ⟨some ⟨word 8 (payload.take 8), (payload.drop 8).take 1 ≠ [0#8], Field.ofBytes 3 (payload.drop 9),
    (payload.drop 16).take (innerSize payload).toNat⟩, fun other otherDeclared same => ?_⟩
  have inner : innerSize other = innerSize payload := by
    rw [innerSize, drop_take_of_take same (by omega), innerSize]
  have offset : other.take 8 = payload.take 8 := drop_take_of_take same (show 0 + 8 ≤ size.toNat by omega)
  have mark : (other.drop 8).take 1 = (payload.drop 8).take 1 := drop_take_of_take same (by omega)
  have padding : Field.ofBytes 3 (other.drop 9) = Field.ofBytes 3 (payload.drop 9) := by
    have front := drop_take_of_take same (show 9 + 3 ≤ size.toNat by omega)
    ext1
    rwa [Field.ofBytes_bytes (by rw [List.length_drop]; omega), Field.ofBytes_bytes (by rw [List.length_drop]; omega)]
  have data : (other.drop 16).take (innerSize payload).toNat = (payload.drop 16).take (innerSize payload).toNat :=
    drop_take_of_take same (by omega)
  rw [fromRawBytes_accepts long (by rwa [inner]) (by omega)]
  simp only [inner, offset, mark, padding, data]

theorem copiesDeclared_iff (declared : size ≤ payload.length) :
    CopiesDeclared raw payload size ↔ (16 ≤ size → 0 ≤ innerSize payload ∧ innerSize payload ≤ size - 16) := by
  constructor
  · intro copies long
    exact copies.within (by rw [ne_eq, fromRawBytes_refuses_iff]; omega)
  · intro within
    by_cases short : size < 16
    · exact ⟨fun passes => absurd (fromRawBytes_refuses_iff.mpr short) passes,
        none, fun _ _ _ => fromRawBytes_refuses_iff.mpr short⟩
    · rcases within (not_lt.mp short) with ⟨nonnegative, inside⟩
      exact ⟨fun _ => ⟨nonnegative, inside⟩, readsDeclared_of_within (not_lt.mp short) declared nonnegative inside⟩

end FileDataMessage

/-- Which inner sizes the two decoders copy by: a text longer than `message_` and a block that is not in the declared
payload are let through. -/
theorem Message.innerSizes (heap : Heap) (payload : List Byte) (size : Int) (declared : size ≤ payload.length) :
    (ChatMessage.CopiesDeclared heap.chat payload size ↔
        (size = 40 + ChatMessage.innerSize payload → ChatMessage.innerSize payload ≤ chatMessageFieldSize)) ∧
      (FileDataMessage.CopiesDeclared heap.fileData payload size ↔
        (16 ≤ size → 0 ≤ FileDataMessage.innerSize payload ∧ FileDataMessage.innerSize payload ≤ size - 16)) :=
  ⟨ChatMessage.copiesDeclared_iff declared, FileDataMessage.copiesDeclared_iff declared⟩

theorem Message.innerSizes_block :
    let payload := List.replicate 12 0#8 ++ intBytes 1 ++ [65#8]
    ChatMessage.CopiesDeclared Heap.zeroed.chat payload 17 ∧
      FileDataMessage.CopiesDeclared Heap.zeroed.fileData payload 17 := by
  intro payload
  rcases Message.innerSizes Heap.zeroed payload 17 (by decide) with ⟨chat, fileData⟩
  exact ⟨chat.mpr (by decide), fileData.mpr (by decide)⟩

/-- The same bytes where only 16 of them are declared: the byte behind them is copied too. And a text of 1026 bytes,
    which is declared in full: it is copied into the 1025 bytes of `message_`. -/
theorem Message.innerSizes_shortBlock :
    (¬ ∀ (heap : Heap) (payload : List Byte) (size : Int), size ≤ payload.length → size ≤ maxPayloadSize →
        FileDataMessage.CopiesDeclared heap.fileData payload size) ∧
      ¬ ∀ (heap : Heap) (payload : List Byte) (size : Int), size ≤ payload.length → size ≤ maxPayloadSize →
        ChatMessage.CopiesDeclared heap.chat payload size := by
  constructor
  · intro all
    have copies := all Heap.zeroed (List.replicate 12 0#8 ++ intBytes 1 ++ [65#8]) 16 (by decide) (by decide)
    have within := (FileDataMessage.copiesDeclared_iff (by decide)).mp copies (by decide)
    revert within
    decide
  · intro all
    obtain ⟨payload, bytes⟩ : ∃ payload, payload = List.replicate maxNicknameSize 0#8 ++
        (intBytes (1026 : Nat) ++ List.replicate 1026 65#8) := ⟨_, rfl⟩
    have declared : (1066 : Int) ≤ payload.length := by
      simp only [bytes, List.length_append, List.length_replicate, intBytes_length, maxNicknameSize]
      decide
    have inner : ChatMessage.innerSize payload = 1026 := by
      rw [ChatMessage.innerSize, bytes, List.drop_left' (by simp), List.take_left' (by simp)]
      exact int_intBytes_natCast 1026 (by decide)
    have copies := all Heap.zeroed payload 1066 declared (by decide)
    have small := (ChatMessage.copiesDeclared_iff declared).mp copies (by rw [inner]; rfl)
    rw [inner] at small
    exact absurd small (by decide)

end LanMessenger
