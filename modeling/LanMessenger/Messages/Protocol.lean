import LanMessenger.CMemory.Field

namespace LanMessenger

open CMemory

@[simp] abbrev commandSize : Nat := 4
@[simp] abbrev maxPathSize : Nat := 64
@[simp] abbrev maxNicknameSize : Nat := 36
@[simp] abbrev maxChatMessageSize : Nat := 1024
@[simp] abbrev maxNetworkMessageQueue : Nat := 40
@[simp] abbrev maxMessageSize : Nat := 1448

/-- `sizeof( MessageHeader )`: the command and an `int`. -/
@[simp] abbrev messageHeaderSize : Nat := commandSize + 4
@[simp] abbrev maxPayloadSize : Nat := maxMessageSize - messageHeaderSize

@[simp] abbrev nicknameFieldSize : Nat := maxNicknameSize + 1
@[simp] abbrev chatMessageFieldSize : Nat := maxChatMessageSize + 1

/-- What C++ leaves undefined, where the code can be brought to it: an access outside an array,
    or a negative number of bytes asked of `malloc` and then filled. -/
inductive Undefined
  | outOfBounds
  | badAllocation
deriving DecidableEq

/-- The two targets of the Makefiles. They differ in the width of `long`. -/
inductive Target
  | m64
  | m32
deriving DecidableEq

def Target.longBits : Target → Nat
  | m64 => 64
  | m32 => 32

def Target.long (target : Target) (value : Int) : Int := (BitVec.ofInt target.longBits value).toInt

/-- `Errors::StatusCode`. A peer can put any other number into the field. -/
inductive StatusCode
  | ok
  | chattingAlone
  | nickNameAlreadyRegistered
  | acceptFileTransfer
  | rejectFileTransfer
  | fileTransferCanceled
  | other (value : BitVec 32) (unnamed : value.toNat < 200 ∨ 205 < value.toNat)
deriving DecidableEq

namespace StatusCode

def value : StatusCode → BitVec 32
  | ok => 200#32
  | chattingAlone => 201#32
  | nickNameAlreadyRegistered => 202#32
  | acceptFileTransfer => 203#32
  | rejectFileTransfer => 204#32
  | fileTransferCanceled => 205#32
  | other value _ => value

def ofValue (value : BitVec 32) : StatusCode :=
  if h200 : value = 200#32 then ok
  else if h201 : value = 201#32 then chattingAlone
  else if h202 : value = 202#32 then nickNameAlreadyRegistered
  else if h203 : value = 203#32 then acceptFileTransfer
  else if h204 : value = 204#32 then rejectFileTransfer
  else if h205 : value = 205#32 then fileTransferCanceled
  else other value (by bv_omega)

@[simp] theorem ofValue_value (code : StatusCode) : ofValue code.value = code := by
  cases code with
  | other value unnamed =>
    have distinct : ∀ named : Nat, 200 ≤ named → named ≤ 205 → value ≠ BitVec.ofNat 32 named := by
      intro named low high same
      subst same
      simp only [BitVec.toNat_ofNat] at unnamed
      omega
    change ofValue value = other value unnamed
    unfold ofValue
    rw [dif_neg (distinct 200 (by omega) (by omega)), dif_neg (distinct 201 (by omega) (by omega)),
      dif_neg (distinct 202 (by omega) (by omega)), dif_neg (distinct 203 (by omega) (by omega)),
      dif_neg (distinct 204 (by omega) (by omega)), dif_neg (distinct 205 (by omega) (by omega))]
  | _ => rfl

end StatusCode

/-- `Message::Type` without `MSG_INVALID`. -/
inductive MessageType
  | status
  | hello
  | nickname
  | bye
  | chat
  | fileRequest
  | fileData
deriving DecidableEq

namespace MessageType

def all : List MessageType := [status, hello, nickname, bye, chat, fileRequest, fileData]

def command : MessageType → List Byte
  | hello => ascii ['H', 'I']
  | nickname => ascii ['N', 'A', 'M']
  | bye => ascii ['B', 'Y', 'E']
  | status => ascii ['S', 'T']
  | chat => ascii ['M', 'S', 'G']
  | fileRequest => ascii ['R', 'E', 'Q']
  | fileData => ascii ['D', 'T', 'A']

end MessageType

structure MessageHeader where
  command : Field commandSize
  size : Int

namespace MessageHeader

def ofBytes (buffer : List Byte) : MessageHeader where
  command := Field.ofBytes commandSize buffer
  size := int ((buffer.drop commandSize).take 4)

def bytes (header : MessageHeader) : List Byte := header.command.bytes ++ intBytes header.size

/-- The loop over the message types: the first whose command is `strcmp`-equal, or `MSG_INVALID`. -/
def type (header : MessageHeader) : Option MessageType :=
  MessageType.all.find? fun current => cString header.command.bytes = current.command

end MessageHeader

namespace MessageType

def header (type : MessageType) (size : Int) : MessageHeader where
  command := (Field.zero commandSize).overwrite (strncpy type.command commandSize)
  size

theorem header_type (type : MessageType) (size : Int) : (type.header size).type = some type := by
  cases type <;> rfl

end MessageType

end LanMessenger
