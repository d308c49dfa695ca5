import LanMessenger.Messages.Protocol

namespace LanMessenger

open CMemory

/-! Each decoder gets the memory from the first payload byte to the end of the receive buffer and
the declared size; it returns `none` where the source returns false. An object is filled over
whatever its memory held before (`self`, or `raw` in a constructor). -/

def setText {size : Nat} (field : Field size) (text : List Byte) : Field size :=
  (field.overwrite (List.replicate size 0#8)).overwrite (strncpy text size)

structure StatusMessage where
  status : StatusCode
deriving DecidableEq

namespace StatusMessage

def size : Nat := 4

def toRawBytes (self : StatusMessage) : List Byte := wordBytes 4 self.status.value

def fromRawBytes (buffer : List Byte) (bufferSize : Int) : Option StatusMessage :=
  if bufferSize ≠ size then none else some ⟨StatusCode.ofValue (word 4 (buffer.take size))⟩

end StatusMessage

structure NicknameMessage where
  nickname : Field nicknameFieldSize
deriving DecidableEq

namespace NicknameMessage

def size : Nat := nicknameFieldSize

def setNickName (self : NicknameMessage) (newNickName : List Byte) : NicknameMessage where
  nickname := ((self.nickname.overwrite (List.replicate maxNicknameSize 0#8)).overwrite
    (strncpy newNickName maxNicknameSize)).set (nicknameFieldSize - 1) 0#8

/-- The object `NicknameMessage( nickName )` makes. No byte of the field keeps its old value. -/
def ofNickName (nickName : List Byte) : NicknameMessage :=
  setNickName ⟨Field.zero nicknameFieldSize⟩ nickName

/-- The string read at `nickName()`; where the field has no NUL it runs on into what lies `beyond`. -/
def nickName (self : NicknameMessage) (beyond : List Byte) : List Byte :=
  cString (self.nickname.bytes ++ beyond)

def toRawBytes (self : NicknameMessage) : List Byte := self.nickname.bytes

def fromRawBytes (buffer : List Byte) (bufferSize : Int) : Option NicknameMessage :=
  if bufferSize ≠ size then none else some ⟨Field.ofBytes nicknameFieldSize buffer⟩

end NicknameMessage

structure ChatMessage where
  message_ : Field chatMessageFieldSize
  sender_ : Field maxNicknameSize
  messageSize : Nat
  messageSize_le : messageSize ≤ chatMessageFieldSize
deriving DecidableEq

namespace ChatMessage

def size (self : ChatMessage) : Nat := maxNicknameSize + 4 + self.messageSize

def message (self : ChatMessage) : List Byte := self.message_.text

def sender (self : ChatMessage) : List Byte := self.sender_.text

/-- The state of the object where a NUL is left in `message_`. Elsewhere `strlen` reads past it: what calls `setMessage`
    sees to that. -/
def setMessage (self : ChatMessage) (message : List Byte) : ChatMessage :=
  let message_ := (self.message_.overwrite (List.replicate maxChatMessageSize 0#8)).overwrite
    (strncpy message maxChatMessageSize)
  { self with message_, messageSize := message_.text.length, messageSize_le := message_.length_text_le }

/-- `setSender( sender )`; the source's NULL does what an empty string does. -/
def setSender (self : ChatMessage) (sender : List Byte) : ChatMessage :=
  { self with sender_ := setText self.sender_ sender }

def new (raw : ChatMessage) : ChatMessage :=
  { raw with messageSize := 0, messageSize_le := Nat.zero_le _ }.setSender []

def ofMessage (raw : ChatMessage) (message : List Byte) : ChatMessage := (raw.setMessage message).setSender []

/-- The bytes `memcpy` takes from behind `payload_` are all overwritten by the text. -/
def toRawBytes (self : ChatMessage) : List Byte :=
  self.sender_.bytes ++ intBytes self.messageSize ++ self.message_.bytes.take self.messageSize

def fromRawBytes (self : ChatMessage) (buffer : List Byte) (bufferSize : Int) :
    Except Undefined (Option ChatMessage) :=
  let payloadSize : Int := self.size
  if bufferSize < payloadSize then .ok none
  else
    let sender_ := Field.ofBytes maxNicknameSize buffer
    let messageSize := int ((buffer.drop maxNicknameSize).take 4)
    if bufferSize ≠ payloadSize + messageSize then .ok none
    -- the text is copied into message_ without a look at its capacity
    else if fits : messageSize.toNat ≤ chatMessageFieldSize then
      .ok (some {
        message_ := (self.message_.overwrite (List.replicate maxChatMessageSize 0#8)).overwrite
          ((buffer.drop (maxNicknameSize + 4)).take messageSize.toNat)
        sender_
        messageSize := messageSize.toNat
        messageSize_le := fits })
    else .error .outOfBounds

end ChatMessage

structure FileTransferMessage where
  sender_ : Field maxNicknameSize
  fileName_ : Field maxPathSize
deriving DecidableEq

namespace FileTransferMessage

def size : Nat := maxNicknameSize + maxPathSize

def fileName (self : FileTransferMessage) : List Byte := self.fileName_.text

def sender (self : FileTransferMessage) : List Byte := self.sender_.text

def setFileName (self : FileTransferMessage) (fileName : List Byte) : FileTransferMessage :=
  { self with fileName_ := setText self.fileName_ fileName }

def setSender (self : FileTransferMessage) (sender : List Byte) : FileTransferMessage :=
  { self with sender_ := setText self.sender_ sender }

/-- The object `FileTransferMessage( fileName )` makes. No byte of its fields keeps its old value. -/
def ofFileName (fileName : List Byte) : FileTransferMessage :=
  (setFileName ⟨Field.zero maxNicknameSize, Field.zero maxPathSize⟩ fileName).setSender []

def toRawBytes (self : FileTransferMessage) : List Byte := self.sender_.bytes ++ self.fileName_.bytes

def fromRawBytes (buffer : List Byte) (bufferSize : Int) : Option FileTransferMessage :=
  if bufferSize < size then none
  else some ⟨Field.ofBytes maxNicknameSize buffer, Field.ofBytes maxPathSize (buffer.drop maxNicknameSize)⟩

end FileTransferMessage

/-- `data` is the block at `payload_.data`, of `payload_.size` bytes; `padding` the three bytes the
    compiler leaves between `isLast` and `size`, which travel with the structure. -/
structure FileDataMessage where
  offset : BitVec 64
  isLast : Bool
  padding : Field 3
  data : List Byte
deriving DecidableEq

namespace FileDataMessage

def size (self : FileDataMessage) : Nat := 16 + self.data.length

def buffer (self : FileDataMessage) : List Byte := self.data

def bufferSize (self : FileDataMessage) : Nat := self.data.length

def fileOffset (self : FileDataMessage) (target : Target) : Int := target.long self.offset.toInt

def isLastBlock (self : FileDataMessage) : Bool := self.isLast

def markLastBlock (self : FileDataMessage) : FileDataMessage := { self with isLast := true }

def setBuffer (self : FileDataMessage) (buffer : List Byte) : FileDataMessage := { self with data := buffer }

/-- `setFileOffset( const long offset )`, stored as an `int64_t`. -/
def setFileOffset (self : FileDataMessage) (target : Target) (offset : Int) : FileDataMessage :=
  { self with offset := BitVec.ofInt 64 (target.long offset) }

def new (raw : FileDataMessage) : FileDataMessage := { raw with offset := 0#64, isLast := false, data := [] }

/-- The bytes `memcpy` takes from behind `payload_` are all overwritten by the data. -/
def toRawBytes (self : FileDataMessage) : List Byte :=
  wordBytes 8 self.offset ++ [if self.isLast then 1#8 else 0#8] ++ self.padding.bytes ++
    intBytes self.data.length ++ self.data

def fromRawBytes (self : FileDataMessage) (buffer : List Byte) (bufferSize : Int) :
    Except Undefined (Option FileDataMessage) :=
  let payloadSize : Int := self.size
  if bufferSize < payloadSize then .ok none
  else
    let size := int ((buffer.drop 12).take 4)
    -- the inner size is not compared with the declared one
    if size < 0 then .error .badAllocation
    else if (buffer.length : Int) < 16 + size then .error .outOfBounds
    else .ok (some {
      offset := word 8 (buffer.take 8)
      isLast := (buffer.drop 8).take 1 ≠ [0#8]
      padding := Field.ofBytes 3 (buffer.drop 9)
      data := (buffer.drop 16).take size.toNat })

end FileDataMessage

end LanMessenger
