import LanMessenger.Messages.InnerSizes

namespace LanMessenger

open CMemory

/-- What fills the strings of a message: a setter with any C string, called on an object with any contents, or the
    decoder of a payload that lies in the buffer. -/
inductive TextWrite
  | setNickName (self : NicknameMessage) (newNickName : List Byte)
  | setMessage (self : ChatMessage) (message : List Byte)
  | setChatSender (self : ChatMessage) (sender : List Byte)
  | setFileName (self : FileTransferMessage) (fileName : List Byte)
  | setFileSender (self : FileTransferMessage) (sender : List Byte)
  | nickname (payload : List Byte) (size : Int) (declared : size ≤ payload.length)
  | chat (raw : ChatMessage) (payload : List Byte) (size : Int) (declared : size ≤ payload.length)
  | fileRequest (payload : List Byte) (size : Int) (declared : size ≤ payload.length)

/-- The getters of these objects return strings that end in their fields. -/
def Message.StringsEnd : Message → Prop
  | nickname message => message.nickname.Terminated
  | chat message => message.message_.Terminated ∧ message.sender_.Terminated
  | fileRequest message => message.fileName_.Terminated ∧ message.sender_.Terminated
  | _ => True

instance (message : Message) : Decidable message.StringsEnd :=
  match message with
  | .nickname message => inferInstanceAs (Decidable message.nickname.Terminated)
  | .chat _ | .fileRequest _ => inferInstanceAs (Decidable (_ ∧ _))
  | .status _ | .hello | .bye | .fileData _ => instDecidableTrue

namespace TextWrite

/-- The object after the call; `none` where a decoder returns false. In `setMessage`, `strlen` reads `message_`. -/
def object : TextWrite → Except Undefined (Option Message)
  | setNickName self newNickName => .ok (some (.nickname (self.setNickName newNickName)))
  | setMessage self message =>
    if (self.setMessage message).message_.Terminated then .ok (some (.chat (self.setMessage message)))
    else .error .outOfBounds
  | setChatSender self sender => .ok (some (.chat (self.setSender sender)))
  | setFileName self fileName => .ok (some (.fileRequest (self.setFileName fileName)))
  | setFileSender self sender => .ok (some (.fileRequest (self.setSender sender)))
  | nickname payload size _ => .ok ((NicknameMessage.fromRawBytes payload size).map .nickname)
  | chat raw payload size _ => ((ChatMessage.new raw).fromRawBytes payload size).map (·.map .chat)
  | fileRequest payload size _ => .ok ((FileTransferMessage.fromRawBytes payload size).map .fileRequest)

/-- The strings of the object end in their fields, unless a decoder has refused the payload. -/
def StringsEnd (write : TextWrite) : Prop :=
  write.object ≠ .ok none → ∃ message, write.object = .ok (some message) ∧ message.StringsEnd

/-- The input leaves a NUL in each field of the object. -/
def LeavesNul : TextWrite → Prop
  | setNickName _ _ => True
  | setMessage self message =>
    (strlen message < maxChatMessageSize ∨ 0#8 ∈ self.message_.bytes.drop maxChatMessageSize) ∧ self.sender_.Terminated
  | setChatSender self sender => self.message_.Terminated ∧ strlen sender < maxNicknameSize
  | setFileName self fileName => strlen fileName < maxPathSize ∧ self.sender_.Terminated
  | setFileSender self sender => self.fileName_.Terminated ∧ strlen sender < maxNicknameSize
  | nickname payload size _ => size = nicknameFieldSize → 0#8 ∈ payload.take nicknameFieldSize
  | chat raw payload size _ =>
    40 ≤ size → size = 40 + ChatMessage.innerSize payload →
      ChatMessage.innerSize payload ≤ chatMessageFieldSize ∧
        (0#8 ∈ (payload.drop 40).take (ChatMessage.innerSize payload).toNat ∨
          ChatMessage.innerSize payload < maxChatMessageSize ∨
          (ChatMessage.innerSize payload = maxChatMessageSize ∧ 0#8 ∈ raw.message_.bytes.drop maxChatMessageSize)) ∧
        0#8 ∈ payload.take maxNicknameSize
  | fileRequest payload size _ =>
    (FileTransferMessage.size : Int) ≤ size →
      0#8 ∈ (payload.drop maxNicknameSize).take maxPathSize ∧ 0#8 ∈ payload.take maxNicknameSize

theorem terminated_setText_iff {size : Nat} (field : Field size) (text : List Byte) :
    (setText field text).Terminated ↔ strlen text < size := by
  rw [setText, Field.terminated_overwrite_zeroed_iff _ (by simp) (Nat.le_refl _), zero_mem_strncpy_iff, strncpy_length,
    Nat.max_self, List.drop_of_length_le (by simp)]
  simp

theorem terminated_ofBytes_iff {size : Nat} {payload : List Byte} (long : size ≤ payload.length) :
    (Field.ofBytes size payload).Terminated ↔ 0#8 ∈ payload.take size := by
  rw [Field.Terminated, Field.ofBytes_bytes long]

theorem stringsEnd_of_object {write : TextWrite} {message : Message} (made : write.object = .ok (some message)) :
    write.StringsEnd ↔ message.StringsEnd := by
  rw [StringsEnd, made]
  simp

theorem stringsEnd_of_refused {write : TextWrite} (refused : write.object = .ok none) : write.StringsEnd :=
  fun passes => absurd refused passes

theorem setNickName_terminated (self : NicknameMessage) (newNickName : List Byte) :
    (self.setNickName newNickName).nickname.Terminated := by
  simp only [NicknameMessage.setNickName, Field.Terminated, Field.set]
  exact List.mem_set (by simp) 0#8

theorem setMessage_terminated_iff (self : ChatMessage) (message : List Byte) :
    (self.setMessage message).message_.Terminated ↔
      strlen message < maxChatMessageSize ∨ 0#8 ∈ self.message_.bytes.drop maxChatMessageSize := by
  simp only [ChatMessage.setMessage]
  rw [Field.terminated_overwrite_zeroed_iff _ (by simp) (by simp), zero_mem_strncpy_iff, strncpy_length, Nat.max_self]
  simp

theorem copied_terminated_iff (raw : ChatMessage) {text : List Byte} (fits : text.length ≤ chatMessageFieldSize) :
    (raw.copied text).Terminated ↔ 0#8 ∈ text ∨ text.length < maxChatMessageSize ∨
      (text.length = maxChatMessageSize ∧ 0#8 ∈ raw.message_.bytes.drop maxChatMessageSize) := by
  rw [ChatMessage.copied, Field.terminated_overwrite_zeroed_iff _ fits (by simp)]
  refine or_congr_right ?_
  by_cases short : text.length < maxChatMessageSize
  · simp only [short, true_or]
  · by_cases same : text.length = maxChatMessageSize
    · simp [same]
    · have whole : text.length = chatMessageFieldSize := by
        simp only [chatMessageFieldSize, maxChatMessageSize] at *
        omega
      rw [List.drop_of_length_le (by simp [whole])]
      simp [short, same]

theorem nickname_stringsEnd_iff {payload : List Byte} {size : Int} (declared : size ≤ payload.length) :
    (nickname payload size declared).StringsEnd ↔ (nickname payload size declared).LeavesNul := by
  by_cases whole : size = nicknameFieldSize
  · have made : (nickname payload size declared).object =
        .ok (some (.nickname ⟨Field.ofBytes nicknameFieldSize payload⟩)) := by
      simp [object, NicknameMessage.fromRawBytes, NicknameMessage.size, whole]
    rw [stringsEnd_of_object made, LeavesNul]
    simp only [whole, true_implies]
    exact terminated_ofBytes_iff (by omega)
  · have refused : (nickname payload size declared).object = .ok none := by
      rw [object, show NicknameMessage.fromRawBytes payload size = none from if_pos whole]
      rfl
    exact iff_of_true (stringsEnd_of_refused refused) fun same => absurd same whole

theorem fileRequest_stringsEnd_iff {payload : List Byte} {size : Int} (declared : size ≤ payload.length) :
    (fileRequest payload size declared).StringsEnd ↔ (fileRequest payload size declared).LeavesNul := by
  by_cases short : size < FileTransferMessage.size
  · have refused : (fileRequest payload size declared).object = .ok none := by
      simp only [object, FileTransferMessage.fromRawBytes, if_pos short, Option.map_none]
    exact iff_of_true (stringsEnd_of_refused refused) fun long => absurd short (not_lt.mpr long)
  · have made : (fileRequest payload size declared).object = .ok (some (.fileRequest
        ⟨Field.ofBytes maxNicknameSize payload, Field.ofBytes maxPathSize (payload.drop maxNicknameSize)⟩)) := by
      simp only [object, FileTransferMessage.fromRawBytes, if_neg short, Option.map_some]
    have long := not_lt.mp short
    rw [stringsEnd_of_object made, LeavesNul]
    simp only [long, true_implies]
    simp only [FileTransferMessage.size, maxNicknameSize, maxPathSize] at long
    exact and_congr (terminated_ofBytes_iff (by rw [List.length_drop]; simp only [maxNicknameSize, maxPathSize]; omega))
      (terminated_ofBytes_iff (by simp only [maxNicknameSize]; omega))

theorem chat_stringsEnd_iff (raw : ChatMessage) {payload : List Byte} {size : Int} (declared : size ≤ payload.length) :
    (chat raw payload size declared).StringsEnd ↔ (chat raw payload size declared).LeavesNul := by
  by_cases passes : 40 ≤ size ∧ size = 40 + ChatMessage.innerSize payload
  · rcases passes with ⟨long, agrees⟩
    rw [LeavesNul]
    simp only [long, ← agrees, true_implies]
    by_cases fits : ChatMessage.innerSize payload ≤ chatMessageFieldSize
    · have made : (chat raw payload size declared).object = .ok (some (.chat
          ⟨raw.copied ((payload.drop 40).take (ChatMessage.innerSize payload).toNat), Field.ofBytes maxNicknameSize payload,
            (ChatMessage.innerSize payload).toNat, Int.toNat_le.mpr fits⟩)) := by
        rw [object, ChatMessage.fromRawBytes_accepts long agrees (Int.toNat_le.mpr fits)]
        rfl
      have length : ((payload.drop 40).take (ChatMessage.innerSize payload).toNat).length =
          (ChatMessage.innerSize payload).toNat := by
        rw [List.length_take, List.length_drop]
        omega
      rw [stringsEnd_of_object made]
      simp only [fits, true_and]
      refine and_congr ?_ (terminated_ofBytes_iff (by simp only [maxNicknameSize]; omega))
      rw [copied_terminated_iff raw (by rw [length]; exact Int.toNat_le.mpr fits), length]
      refine or_congr_right (or_congr ?_ (and_congr_left fun _ => ?_)) <;> simp only [maxChatMessageSize] <;> omega
    · have overruns : (chat raw payload size declared).object = .error .outOfBounds := by
        rw [object, ChatMessage.fromRawBytes_overruns long agrees (not_le.mp fits)]
        rfl
      refine iff_of_false (fun ends => ?_) (fun leaves => fits leaves.1)
      rcases ends (by simp [overruns]) with ⟨message, made, -⟩
      rw [overruns] at made
      cases made
  · have refused : (chat raw payload size declared).object = .ok none := by
      rw [object, ChatMessage.fromRawBytes_refuses_iff.mpr (by omega)]
      rfl
    exact iff_of_true (stringsEnd_of_refused refused) fun long agrees => absurd ⟨long, agrees⟩ passes

/-- Every setter and decoder, with every input: the strings it leaves end in their fields exactly when the input leaves
    a NUL there. -/
theorem stringsEnd_iff (write : TextWrite) : write.StringsEnd ↔ write.LeavesNul := by
  cases write with
  | setNickName self newNickName =>
    rw [stringsEnd_of_object rfl]
    exact iff_of_true (setNickName_terminated self newNickName) trivial
  | setMessage self message =>
    simp only [LeavesNul, ← setMessage_terminated_iff]
    by_cases ends : (self.setMessage message).message_.Terminated
    · have made : (setMessage self message).object = .ok (some (.chat (self.setMessage message))) := if_pos ends
      rw [stringsEnd_of_object made]
      exact Iff.rfl
    · refine iff_of_false (fun stringsEnd => ?_) fun leaves => ends leaves.1
      rcases stringsEnd (by simp [object, ends]) with ⟨message, made, -⟩
      simp [object, ends] at made
  | setChatSender self sender =>
    rw [stringsEnd_of_object rfl]
    exact and_congr Iff.rfl (terminated_setText_iff _ sender)
  | setFileName self fileName =>
    rw [stringsEnd_of_object rfl]
    exact and_congr (terminated_setText_iff _ fileName) Iff.rfl
  | setFileSender self sender =>
    rw [stringsEnd_of_object rfl]
    exact and_congr Iff.rfl (terminated_setText_iff _ sender)
  | nickname payload size declared => exact nickname_stringsEnd_iff declared
  | chat raw payload size declared => exact chat_stringsEnd_iff raw declared
  | fileRequest payload size declared => exact fileRequest_stringsEnd_iff declared

/-- A sender of 36 characters fills its field, and so does a path of 64; the 36 bytes of a request's sender come from the
    network as they are. -/
theorem stringsEnd_full :
    ¬ (setChatSender Heap.zeroed.chat (List.replicate maxNicknameSize 65#8)).StringsEnd ∧
      ¬ (setFileName (.ofFileName []) (List.replicate maxPathSize 65#8)).StringsEnd ∧
      ¬ (fileRequest (List.replicate maxNicknameSize 65#8 ++ List.replicate maxPathSize 0#8) 100 (by decide)).StringsEnd := by
  refine ⟨?_, ?_, ?_⟩
  · rw [stringsEnd_of_object rfl]
    decide
  · rw [stringsEnd_of_object rfl]
    decide
  · rw [stringsEnd_of_object rfl]
    decide

end TextWrite

end LanMessenger
