import LanMessenger.Messages.RoundTrip
import LanMessenger.Messages.StringFields

namespace LanMessenger

open CMemory

theorem Target.toInt_long (target : Target) (value : Int) :
    (BitVec.ofInt 64 (target.long value)).toInt = target.long value := by
  cases target with
  | m64 => simp [long, longBits]
  | m32 =>
    rw [BitVec.toInt_ofInt]
    have low := BitVec.le_toInt (BitVec.ofInt 32 value)
    have high := BitVec.toInt_lt (x := BitVec.ofInt 32 value)
    exact Int.bmod_eq_of_le (by simp only [long, longBits]; omega) (by simp only [long, longBits]; omega)

@[simp] theorem Target.long_long (target : Target) (value : Int) : target.long (target.long value) = target.long value := by
  simp only [long, BitVec.ofInt_toInt]

theorem Target.long_eq_self_iff (target : Target) (value : Int) :
    target.long value = value ↔ -2 ^ (target.longBits - 1) ≤ value ∧ value < 2 ^ (target.longBits - 1) := by
  constructor
  · intro same
    rw [← same]
    exact ⟨BitVec.le_toInt _, BitVec.toInt_lt⟩
  · rintro ⟨low, high⟩
    rw [long, BitVec.toInt_ofInt]
    cases target with
    | m64 | m32 =>
      simp only [longBits, Nat.reduceSub, Int.reducePow] at low high
      exact Int.bmod_eq_of_le (by simp only [longBits]; omega) (by simp only [longBits]; omega)

theorem text_setText {size : Nat} (field : Field size) (text : List Byte) :
    (setText field text).text = (cString text).take size := by
  rw [setText, Field.text, Field.overwrite_whole _ (strncpy_length _ _), cString_strncpy]

namespace NicknameMessage

theorem bytes_setNickName (self : NicknameMessage) (newNickName : List Byte) :
    (self.setNickName newNickName).nickname.bytes = strncpy newNickName maxNicknameSize ++ [0#8] := by
  have behind : ((self.nickname.overwrite (List.replicate maxNicknameSize 0#8)).bytes.drop maxNicknameSize).length = 1 := by
    simp
  rcases List.length_eq_one_iff.mp behind with ⟨last, only⟩
  simp only [setNickName, Field.set]
  rw [Field.overwrite_bytes _ (by simp), strncpy_length, only, List.set_append_right _ _ (by simp)]
  simp

theorem text_setNickName (self : NicknameMessage) (newNickName : List Byte) :
    (self.setNickName newNickName).nickname.text = (cString newNickName).take maxNicknameSize := by
  rw [Field.text, bytes_setNickName]
  exact cString_strncpy_append_zero newNickName maxNicknameSize []

end NicknameMessage

namespace ChatMessage

theorem message_setMessage (self : ChatMessage) {message : List Byte} (short : strlen message < maxChatMessageSize) :
    (self.setMessage message).message = cString message := by
  have inside := (zero_mem_strncpy_iff message maxChatMessageSize).mpr short
  simp only [setMessage, ChatMessage.message, Field.text]
  rw [Field.overwrite_bytes _ (by simp), cString_append_of_mem inside, cString_strncpy,
    List.take_of_length_le (Nat.le_of_lt short)]

theorem messageSize_setMessage (self : ChatMessage) (message : List Byte) :
    (self.setMessage message).messageSize = (self.setMessage message).message.length := rfl

end ChatMessage

namespace Message

theorem contents_chat (raw : ChatMessage) (text sender : List Byte) (short : strlen text < maxChatMessageSize)
    (fits : strlen sender ≤ maxNicknameSize) :
    (chat ((ChatMessage.ofMessage raw text).setSender sender)).contents = .chat (cString text) (cString sender) := by
  have message : ((ChatMessage.ofMessage raw text).setSender sender).message = cString text :=
    ChatMessage.message_setMessage raw short
  have name : ((ChatMessage.ofMessage raw text).setSender sender).sender = cString sender := by
    rw [ChatMessage.sender, ChatMessage.setSender, text_setText, List.take_of_length_le fits]
  rw [contents, message, name]

theorem contents_fileRequest (fileName sender : List Byte) (short : strlen fileName < maxPathSize)
    (fits : strlen sender ≤ maxNicknameSize) :
    (fileRequest ((FileTransferMessage.ofFileName fileName).setSender sender)).contents =
      .fileRequest (cString fileName) (cString sender) := by
  have name : (cString fileName).take maxPathSize = cString fileName := List.take_of_length_le (Nat.le_of_lt short)
  simp only [contents, FileTransferMessage.ofFileName, FileTransferMessage.setFileName, FileTransferMessage.setSender,
    FileTransferMessage.fileName, FileTransferMessage.sender, text_setText, name, List.take_of_length_le fits]

end Message

theorem strlen_of_not_mem {text : List Byte} (nonzero : 0#8 ∉ text) : strlen text = text.length := by
  rw [strlen, cString_of_not_mem nonzero]

namespace Contents

/-- The message that the constructors and setters make of the values. The memory of its object is not initialised, or
    holds what other calls of the setters have left. -/
def build (target : Target) (heap : Heap) : Contents → Message
  | .status code => .status ⟨code⟩
  | .hello => .hello
  | .nickname name => .nickname (.ofNickName name)
  | .bye => .bye
  | .chat text sender => .chat ((ChatMessage.ofMessage heap.chat text).setSender sender)
  | .fileRequest fileName sender => .fileRequest ((FileTransferMessage.ofFileName fileName).setSender sender)
  | .fileData offset isLast data =>
    let message := ((FileDataMessage.new heap.fileData).setBuffer data).setFileOffset target offset.toInt
    .fileData (if isLast then message.markLastBlock else message)

def passed (target : Target) : Contents → Contents
  | .fileData offset isLast data => .fileData (BitVec.ofInt 64 (target.long offset.toInt)) isLast data
  | contents => contents

/-- The offset of a block is a number that a `long` can hold. -/
def FitsLong (target : Target) : Contents → Prop
  | .fileData offset _ _ =>
    -2 ^ (target.longBits - 1) ≤ offset.toInt ∧ offset.toInt < 2 ^ (target.longBits - 1)
  | _ => True

instance (target : Target) (contents : Contents) : Decidable (contents.FitsLong target) :=
  match contents with
  | .fileData _ _ _ => inferInstanceAs (Decidable (_ ∧ _))
  | .status _ | .hello | .nickname _ | .bye | .chat _ _ | .fileRequest _ _ => instDecidableTrue

theorem passed_eq_iff (target : Target) (contents : Contents) :
    contents.passed target = contents ↔ contents.FitsLong target := by
  cases contents with
  | fileData offset isLast data =>
    simp only [passed, fileData.injEq, and_true, FitsLong, ← Target.long_eq_self_iff]
    constructor
    · intro same
      rw [← target.toInt_long, same]
    · intro same
      rw [same, BitVec.ofInt_toInt]
  | _ => exact iff_of_true rfl trivial

def WithinLimits : Contents → Prop
  | .nickname name => name.length ≤ maxNicknameSize ∧ 0#8 ∉ name
  | .chat text sender =>
    (text.length < maxChatMessageSize ∧ 0#8 ∉ text) ∧ sender.length < maxNicknameSize ∧ 0#8 ∉ sender
  | .fileRequest fileName sender =>
    (fileName.length < maxPathSize ∧ 0#8 ∉ fileName) ∧ sender.length < maxNicknameSize ∧ 0#8 ∉ sender
  | .fileData _ _ data => data.length ≤ maxPayloadSize - 16
  | _ => True

instance (contents : Contents) : Decidable contents.WithinLimits :=
  match contents with
  | .nickname _ | .chat _ _ | .fileRequest _ _ => inferInstanceAs (Decidable (_ ∧ _))
  | .fileData _ _ data => inferInstanceAs (Decidable (data.length ≤ _))
  | .status _ | .hello | .bye => instDecidableTrue

variable {target : Target} {heap : Heap} {contents : Contents}

theorem contents_build (limits : contents.WithinLimits) : (contents.build target heap).contents = contents.passed target := by
  cases contents with
  | nickname name =>
    simp only [build, Message.contents, NicknameMessage.ofNickName, NicknameMessage.text_setNickName, passed,
      cString_of_not_mem limits.2, List.take_of_length_le limits.1]
  | chat text sender =>
    rcases limits with ⟨⟨textShort, textNonzero⟩, senderShort, senderNonzero⟩
    have contents := Message.contents_chat heap.chat text sender (by rwa [strlen_of_not_mem textNonzero])
      (by rw [strlen_of_not_mem senderNonzero]; exact Nat.le_of_lt senderShort)
    rwa [cString_of_not_mem textNonzero, cString_of_not_mem senderNonzero] at contents
  | fileRequest fileName sender =>
    rcases limits with ⟨⟨fileShort, fileNonzero⟩, senderShort, senderNonzero⟩
    have contents := Message.contents_fileRequest fileName sender (by rwa [strlen_of_not_mem fileNonzero])
      (by rw [strlen_of_not_mem senderNonzero]; exact Nat.le_of_lt senderShort)
    rwa [cString_of_not_mem fileNonzero, cString_of_not_mem senderNonzero] at contents
  | fileData offset isLast data =>
    cases isLast <;> rfl
  | _ => rfl

theorem withinLimits_build (limits : contents.WithinLimits) : (contents.build target heap).WithinLimits := by
  cases contents with
  | chat text sender =>
    rcases limits with ⟨⟨textShort, textNonzero⟩, -⟩
    have message := ChatMessage.message_setMessage heap.chat (show strlen text < maxChatMessageSize by
      rwa [strlen_of_not_mem textNonzero])
    have length : (heap.chat.setMessage text).messageSize = text.length := by
      rw [ChatMessage.messageSize_setMessage, message, cString_of_not_mem textNonzero]
    exact ⟨by simpa [build, ChatMessage.ofMessage, ChatMessage.setSender, length] using textShort, rfl⟩
  | fileData offset isLast data =>
    have fits : 16 + data.length ≤ maxPayloadSize := by
      have short := limits
      simp only [WithinLimits, maxPayloadSize, maxMessageSize, messageHeaderSize, commandSize] at short ⊢
      omega
    cases isLast <;> exact fits
  | _ => trivial

theorem stringsEnd_received (limits : contents.WithinLimits) (later : Heap) :
    ((contents.build target heap).received later).StringsEnd := by
  cases contents with
  | nickname name => exact TextWrite.setNickName_terminated _ name
  | chat text sender =>
    have built : ((Contents.chat text sender).build target heap).WithinLimits := withinLimits_build limits
    have short := built.1
    rcases limits with ⟨-, senderShort, senderNonzero⟩
    refine ⟨?_, (TextWrite.terminated_setText_iff _ sender).mpr (by rwa [strlen_of_not_mem senderNonzero])⟩
    have length : (((ChatMessage.ofMessage heap.chat text).setSender sender).message_.bytes.take
        ((ChatMessage.ofMessage heap.chat text).setSender sender).messageSize).length < maxChatMessageSize := by
      rw [List.length_take]
      exact lt_of_le_of_lt (Nat.min_le_left _ _) short
    exact (TextWrite.copied_terminated_iff later.chat (Nat.le_of_lt (Nat.lt_succ_of_lt length))).mpr (Or.inr (Or.inl length))
  | fileRequest fileName sender =>
    rcases limits with ⟨⟨fileShort, fileNonzero⟩, senderShort, senderNonzero⟩
    exact ⟨(TextWrite.terminated_setText_iff _ fileName).mpr (by rwa [strlen_of_not_mem fileNonzero]),
      (TextWrite.terminated_setText_iff _ sender).mpr (by rwa [strlen_of_not_mem senderNonzero])⟩
  | _ => trivial

theorem read_received (limits : contents.WithinLimits) (later : Heap) (beyond : List Byte) :
    ((contents.build target heap).received later).read target beyond = contents.passed target := by
  have held : (contents.build target heap).contents = contents.passed target := contents_build limits
  rw [← Message.contents_received later (withinLimits_build limits)] at held
  cases contents with
  | nickname name =>
    have ended : ((NicknameMessage.ofNickName name).nickName beyond) = (NicknameMessage.ofNickName name).nickname.text :=
      cString_append_of_mem (TextWrite.setNickName_terminated _ name) beyond
    rw [← held]
    exact congrArg Contents.nickname ended
  | fileData offset isLast data =>
    have back : BitVec.ofInt 64 (target.long (BitVec.ofInt 64 (target.long offset.toInt)).toInt) =
        BitVec.ofInt 64 (target.long offset.toInt) := by
      rw [target.toInt_long, target.long_long]
    cases isLast <;> exact congrArg (Contents.fileData · _ data) back
  | _ => exact held

end Contents

end LanMessenger
