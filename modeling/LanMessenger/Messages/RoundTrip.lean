import LanMessenger.Messages.Message

namespace LanMessenger

open CMemory

inductive Contents
  | status (code : StatusCode)
  | hello
  | nickname (name : List Byte)
  | bye
  | chat (text sender : List Byte)
  | fileRequest (fileName sender : List Byte)
  | fileData (offset : BitVec 64) (isLast : Bool) (data : List Byte)
deriving DecidableEq

namespace Message

/-- The values that the fields of the object hold, the strings up to their NULs. -/
def contents : Message → Contents
  | status message => .status message.status
  | hello => .hello
  | nickname message => .nickname message.nickname.text
  | bye => .bye
  | chat message => .chat message.message message.sender
  | fileRequest message => .fileRequest message.fileName message.sender
  | fileData message => .fileData message.offset message.isLast message.data

/-- What a handler reads through the getters. The one for the file offset returns a `long`. -/
def read (target : Target) (beyond : List Byte) : Message → Contents
  | status message => .status message.status
  | hello => .hello
  | nickname message => .nickname (message.nickName beyond)
  | bye => .bye
  | chat message => .chat message.message message.sender
  | fileRequest message => .fileRequest message.fileName message.sender
  | fileData message => .fileData (BitVec.ofInt 64 (message.fileOffset target)) message.isLastBlock message.buffer

/-- The protocol's limits: a text shorter than `MAX_CHATMESSAGE_SIZE`, whose length is the one the
    object states, and a block of data that fits into one payload. -/
def WithinLimits : Message → Prop
  | chat message => message.messageSize < maxChatMessageSize ∧ message.message.length = message.messageSize
  | fileData message => message.size ≤ maxPayloadSize
  | _ => True

/-- The object a decoder makes out of the message's payload. -/
def received (heap : Heap) : Message → Message
  | chat message => chat { message with
      message_ := (heap.chat.message_.overwrite (List.replicate maxChatMessageSize 0#8)).overwrite
        (message.message_.bytes.take message.messageSize) }
  | message => message

@[simp] theorem toRawBytes_length (message : Message) : message.toRawBytes.length = message.size := by
  cases message with
  | status message => simp [toRawBytes, StatusMessage.toRawBytes, size, StatusMessage.size]
  | hello => rfl
  | nickname message => simp [toRawBytes, NicknameMessage.toRawBytes, size, NicknameMessage.size]
  | bye => rfl
  | chat message =>
    have bound := message.messageSize_le
    simp at bound
    simp [toRawBytes, ChatMessage.toRawBytes, size, ChatMessage.size]
    omega
  | fileRequest message => simp [toRawBytes, FileTransferMessage.toRawBytes, size, FileTransferMessage.size]
  | fileData message =>
    simp [toRawBytes, FileDataMessage.toRawBytes, size, FileDataMessage.size]
    omega

theorem size_le_maxPayloadSize {message : Message} (limits : message.WithinLimits) :
    message.size ≤ maxPayloadSize := by
  cases message with
  | chat message =>
    have short := limits.1
    simp only [maxChatMessageSize] at short
    simp only [size, ChatMessage.size, maxPayloadSize, maxMessageSize, messageHeaderSize, commandSize, maxNicknameSize]
    omega
  | fileData message => exact limits
  | _ => simp [size, StatusMessage.size, NicknameMessage.size, FileTransferMessage.size]

@[simp] theorem received_size (heap : Heap) (message : Message) : (message.received heap).size = message.size := by
  cases message <;> rfl

end Message

theorem StatusMessage.fromRawBytes_toRawBytes (message : StatusMessage) (tail : List Byte) :
    fromRawBytes (message.toRawBytes ++ tail) size = some message := by
  rw [fromRawBytes, if_neg (by simp), List.take_left' (by simp [toRawBytes, size]), toRawBytes, word_wordBytes]
  simp

theorem NicknameMessage.fromRawBytes_toRawBytes (message : NicknameMessage) (tail : List Byte) :
    fromRawBytes (message.toRawBytes ++ tail) size = some message := by
  rw [fromRawBytes, if_neg (by simp), toRawBytes, Field.ofBytes_append]

theorem FileTransferMessage.fromRawBytes_toRawBytes (message : FileTransferMessage) (tail : List Byte) :
    fromRawBytes (message.toRawBytes ++ tail) size = some message := by
  rw [fromRawBytes, if_neg (by simp), toRawBytes, List.append_assoc, Field.ofBytes_append,
    List.drop_left' (by simp), Field.ofBytes_append]

theorem ChatMessage.fromRawBytes_toRawBytes (raw message : ChatMessage) (tail : List Byte) :
    (new raw).fromRawBytes (message.toRawBytes ++ tail) message.size =
      .ok (some { message with
        message_ := (raw.message_.overwrite (List.replicate maxChatMessageSize 0#8)).overwrite
          (message.message_.bytes.take message.messageSize) }) := by
  have bound := message.messageSize_le
  have buffer : message.toRawBytes ++ tail = message.sender_.bytes ++ (intBytes message.messageSize ++
      (message.message_.bytes.take message.messageSize ++ tail)) := by
    simp only [toRawBytes, List.append_assoc]
  have header : message.toRawBytes ++ tail = (message.sender_.bytes ++ intBytes message.messageSize) ++
      (message.message_.bytes.take message.messageSize ++ tail) := by
    simp only [toRawBytes, List.append_assoc]
  have sender : Field.ofBytes maxNicknameSize (message.toRawBytes ++ tail) = message.sender_ := by
    rw [buffer, Field.ofBytes_append]
  have inner : int (((message.toRawBytes ++ tail).drop maxNicknameSize).take 4) = message.messageSize := by
    rw [buffer, List.drop_left' (by simp), List.take_left' (by simp)]
    exact int_intBytes_natCast _ (by simp at bound; omega)
  have text : ((message.toRawBytes ++ tail).drop (maxNicknameSize + 4)).take message.messageSize =
      message.message_.bytes.take message.messageSize := by
    rw [header, List.drop_left' (by simp), List.take_left' (by simpa using bound)]
  have emptySize : ((new raw).size : Int) = 40 := by simp [new, setSender, size]
  unfold fromRawBytes
  simp only [sender, inner, emptySize, Int.toNat_natCast, text]
  rw [if_neg (by simp [size]), if_neg (by simp [size]), dif_pos bound]
  rfl

theorem FileDataMessage.fromRawBytes_toRawBytes (raw message : FileDataMessage) (tail : List Byte)
    (fits : message.size ≤ maxPayloadSize) :
    (new raw).fromRawBytes (message.toRawBytes ++ tail) message.size = .ok (some message) := by
  obtain ⟨offset, isLast, padding, data⟩ := message
  simp only [size, maxPayloadSize, maxMessageSize, messageHeaderSize, commandSize] at fits
  let lastByte : List Byte := [if isLast then 1#8 else 0#8]
  have buffer : toRawBytes ⟨offset, isLast, padding, data⟩ ++ tail = wordBytes 8 offset ++ (lastByte ++
      (padding.bytes ++ (intBytes data.length ++ (data ++ tail)))) := by
    simp only [toRawBytes, List.append_assoc, lastByte]
  have offsetBytes : word 8 ((toRawBytes ⟨offset, isLast, padding, data⟩ ++ tail).take 8) = offset := by
    rw [buffer, List.take_left' (by simp), word_wordBytes]
  have mark : decide (((toRawBytes ⟨offset, isLast, padding, data⟩ ++ tail).drop 8).take 1 ≠ [0#8]) = isLast := by
    rw [buffer, List.drop_left' (by simp), List.take_left' (by simp [lastByte])]
    cases isLast <;> simp [lastByte]
  have paddingBytes : Field.ofBytes 3 ((toRawBytes ⟨offset, isLast, padding, data⟩ ++ tail).drop 9) = padding := by
    rw [buffer, ← List.append_assoc, List.drop_left' (by simp [lastByte]), Field.ofBytes_append]
  have inner : int (((toRawBytes ⟨offset, isLast, padding, data⟩ ++ tail).drop 12).take 4) = data.length := by
    rw [buffer, ← List.append_assoc, ← List.append_assoc, List.drop_left' (by simp [lastByte]),
      List.take_left' (by simp)]
    exact int_intBytes_natCast _ (by omega)
  have block : ((toRawBytes ⟨offset, isLast, padding, data⟩ ++ tail).drop 16).take data.length = data := by
    rw [buffer, ← List.append_assoc, ← List.append_assoc, ← List.append_assoc,
      List.drop_left' (by simp [lastByte]), List.take_left' rfl]
  have long : 16 + data.length ≤ (toRawBytes ⟨offset, isLast, padding, data⟩ ++ tail).length := by
    simp [buffer, lastByte]
    omega
  have emptySize : ((new raw).size : Int) = 16 := by simp [new, size]
  unfold fromRawBytes
  simp only [offsetBytes, mark, paddingBytes, inner, emptySize, Int.toNat_natCast, block]
  rw [if_neg (by simp [size]), if_neg (by omega), if_neg (by omega)]

namespace Message

theorem fromRawBytes_toRawBytes (heap : Heap) {message : Message} (limits : message.WithinLimits)
    (tail : List Byte) :
    fromRawBytes heap message.type (message.toRawBytes ++ tail) message.size =
      .ok (some (message.received heap)) := by
  cases message with
  | status message =>
    simp only [type, fromRawBytes, toRawBytes, size, StatusMessage.fromRawBytes_toRawBytes]
    rfl
  | hello => rfl
  | nickname message =>
    simp only [type, fromRawBytes, toRawBytes, size, NicknameMessage.fromRawBytes_toRawBytes]
    rfl
  | bye => rfl
  | chat message =>
    simp only [type, fromRawBytes, toRawBytes, size, ChatMessage.fromRawBytes_toRawBytes]
    rfl
  | fileRequest message =>
    simp only [type, fromRawBytes, toRawBytes, size, FileTransferMessage.fromRawBytes_toRawBytes]
    rfl
  | fileData message =>
    simp only [type, fromRawBytes, toRawBytes, size, FileDataMessage.fromRawBytes_toRawBytes _ _ _ limits]
    rfl

theorem contents_received (heap : Heap) {message : Message} (limits : message.WithinLimits) :
    (message.received heap).contents = message.contents := by
  cases message with
  | chat message =>
    obtain ⟨short, whole⟩ := limits
    simp only [maxChatMessageSize] at short
    have taken : message.message_.bytes.take message.messageSize = message.message := by
      rw [← whole]
      exact take_strlen _
    have text : ((heap.chat.message_.overwrite (List.replicate maxChatMessageSize 0#8)).overwrite
        message.message).text = message.message :=
      Field.text_overwrite_zeroed _ (zero_not_mem_cString _) (by simp; omega) (by simp)
    simp only [received, contents, ChatMessage.message, ChatMessage.sender, taken] at text ⊢
    rw [text]
  | _ => rfl

end Message

end LanMessenger
