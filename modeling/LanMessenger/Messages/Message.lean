import LanMessenger.Messages.Payloads

namespace LanMessenger

open CMemory

inductive Message
  | status (message : StatusMessage)
  | hello
  | nickname (message : NicknameMessage)
  | bye
  | chat (message : ChatMessage)
  | fileRequest (message : FileTransferMessage)
  | fileData (message : FileDataMessage)
deriving DecidableEq

/-- What the allocator hands out for objects whose constructors leave bytes unset. -/
structure Heap where
  chat : ChatMessage
  fileData : FileDataMessage

def Heap.zeroed : Heap where
  chat := ⟨Field.zero _, Field.zero _, 0, Nat.zero_le _⟩
  fileData := ⟨0#64, false, Field.zero _, []⟩

namespace Message

def type : Message → MessageType
  | status _ => .status
  | hello => .hello
  | nickname _ => .nickname
  | bye => .bye
  | chat _ => .chat
  | fileRequest _ => .fileRequest
  | fileData _ => .fileData

def size : Message → Nat
  | status _ => StatusMessage.size
  | hello => 0
  | nickname _ => NicknameMessage.size
  | bye => 0
  | chat message => message.size
  | fileRequest _ => FileTransferMessage.size
  | fileData message => message.size

def toRawBytes : Message → List Byte
  | status message => message.toRawBytes
  | hello => []
  | nickname message => message.toRawBytes
  | bye => []
  | chat message => message.toRawBytes
  | fileRequest message => message.toRawBytes
  | fileData message => message.toRawBytes

/-- The object `parseMessage` creates for the type, filled by its `fromRawBytes`. -/
def fromRawBytes (heap : Heap) (type : MessageType) (buffer : List Byte) (size : Int) :
    Except Undefined (Option Message) :=
  match type with
  | .status => .ok ((StatusMessage.fromRawBytes buffer size).map status)
  | .hello => .ok (some hello)
  | .nickname => .ok ((NicknameMessage.fromRawBytes buffer size).map nickname)
  | .bye => .ok (some bye)
  | .chat => ((ChatMessage.new heap.chat).fromRawBytes buffer size).map (·.map chat)
  | .fileRequest => .ok ((FileTransferMessage.fromRawBytes buffer size).map fileRequest)
  | .fileData => ((FileDataMessage.new heap.fileData).fromRawBytes buffer size).map (·.map fileData)

def header (self : Message) : MessageHeader := self.type.header self.size

/-- The bytes `writeData` hands to `send`. -/
def frame (self : Message) : List Byte := self.header.bytes ++ self.toRawBytes

end Message

end LanMessenger
