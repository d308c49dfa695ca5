import LanMessenger.Client.SessionServer
import LanMessenger.Files.Blocks
import LanMessenger.Server.Server
import LanMessenger.Session.Frames

namespace LanMessenger

open CMemory

/-- A regular file as `fopen` opens it: in both builds its positions are numbers of type `long`. -/
structure File (target : Target) where
  contents : List Byte
  small : contents.length < 2 ^ (target.longBits - 1)

variable {target : Target} {τ : Type}

def File.reads (file : File target) : Readable := fun position _ =>
  match file.contents[position]? with
  | some value => .byte value
  | none => .endOfFile

abbrev fileBlockSize : Nat := maxPayloadSize - 16

def File.lastIndex (file : File target) : Nat := file.contents.length / fileBlockSize

theorem Target.long_of_lt (value : Nat) (small : value < 2 ^ (target.longBits - 1)) :
    target.long value = value := by
  cases target with
  | m64 =>
    simp only [longBits, Nat.reduceSub, Nat.reducePow] at small
    rw [long, longBits, BitVec.toInt_ofInt]
    exact Int.bmod_eq_of_le (by omega) (by omega)
  | m32 =>
    simp only [longBits, Nat.reduceSub, Nat.reducePow] at small
    rw [long, longBits, BitVec.toInt_ofInt]
    exact Int.bmod_eq_of_le (by omega) (by omega)

theorem File.position_small (file : File target) {index : Nat} (inside : index ≤ file.lastIndex) :
    index * fileBlockSize < 2 ^ (target.longBits - 1) :=
  Nat.lt_of_le_of_lt ((Nat.mul_le_mul_right _ inside).trans (Nat.div_mul_le_self _ _)) file.small

theorem File.ends_iff (file : File target) {index : Nat} (inside : index ≤ file.lastIndex) :
    file.contents.length < index * fileBlockSize + fileBlockSize ↔ index = file.lastIndex := by
  rw [File.lastIndex] at inside ⊢
  simp only [fileBlockSize, maxPayloadSize, maxMessageSize, messageHeaderSize, commandSize] at inside ⊢
  omega

structure FileDataMessage.IsBlockOf (message : FileDataMessage) (file : File target) (index : Nat) : Prop where
  inside : index ≤ file.lastIndex
  offset : message.offset.toInt = index * fileBlockSize
  data : message.data = Files.block fileBlockSize file.contents index
  last : message.isLast = decide (index = file.lastIndex)

theorem FileDataMessage.toInt_setFileOffset (message : FileDataMessage) (position : Nat)
    (small : position < 2 ^ (target.longBits - 1)) :
    (message.setFileOffset target position).offset.toInt = position := by
  have bound : position < 2 ^ 63 := by
    cases target with
    | m64 => exact small
    | m32 => exact Nat.lt_trans small (by decide)
  rw [setFileOffset, Target.long_of_lt position small]
  simp only [BitVec.toInt_ofInt]
  exact Int.bmod_eq_of_le (by omega) (by omega)

namespace FileDataMessage.IsBlockOf

variable {message : FileDataMessage} {file : File target} {index : Nat}

theorem size_le (block : message.IsBlockOf file index) : message.size ≤ maxPayloadSize := by
  have short : message.data.length ≤ fileBlockSize := by
    rw [block.data]
    exact Files.block_length_le index
  simp only [size]
  simp only [fileBlockSize, maxPayloadSize, maxMessageSize, messageHeaderSize, commandSize] at short ⊢
  omega

theorem fileOffset (block : message.IsBlockOf file index) :
    message.fileOffset target = (index * fileBlockSize : Nat) := by
  rw [FileDataMessage.fileOffset, block.offset, ← Nat.cast_mul]
  exact Target.long_of_lt _ (file.position_small block.inside)

theorem copyFileData (block : message.IsBlockOf file index) (raw : FileDataMessage) :
    (Server.copyFileData target raw message).IsBlockOf file index := by
  have offset : (((new raw).setBuffer message.buffer).setFileOffset target
      (message.fileOffset target)).offset.toInt = index * fileBlockSize := by
    rw [block.fileOffset, toInt_setFileOffset _ _ (file.position_small block.inside), Nat.cast_mul]
  have last := block.last
  unfold Server.copyFileData
  split
  · rename_i marked
    exact ⟨block.inside, offset, block.data, marked.symm.trans last⟩
  · rename_i unmarked
    exact ⟨block.inside, offset, block.data, (Bool.eq_false_of_not_eq_true unmarked).symm.trans last⟩

end FileDataMessage.IsBlockOf

/-- The memory of a session that receives a frame. -/
structure Hop where
  heap : Heap
  buffer : Field maxMessageSize

def Hop.deliver (hop : Hop) (message : Message) : List Message :=
  match (Inbox.new hop.buffer).readData hop.heap (some message.frame) with
  | .ok (_, handled, _) => handled
  | .error _ => []

theorem Hop.deliver_eq (hop : Hop) {message : Message} (limits : message.WithinLimits) :
    hop.deliver message = [message.received hop.heap] := by
  let frame := message.toFrame limits
  have bytes : frame.bytes = message.frame := message.toFrame_bytes limits
  have stream : [] ++ message.frame ++ [] = Stream.bytes Frame.bytes [frame] := by simp [bytes]
  have nonempty : message.frame ≠ [] := by
    rw [← bytes]
    exact List.ne_nil_of_length_pos (by rw [Frame.bytes_length]; simp)
  obtain ⟨handled, next, left, read, -, -, ⟨-, whole, none⟩ | ⟨first, rest, made, behind, same, -, decoded, rfl⟩⟩ :=
    Inbox.readData_frames hop.heap (Inbox.holds_new hop.buffer) nonempty
      (by rw [← bytes]; simpa using frame.bytes_length_le) stream
  · -- the frame is whole, so it is not waited for
    rw [whole, List.nil_append, ← bytes, Stream.completed, if_pos (Nat.le_refl _)] at none
    cases none
  · obtain ⟨rfl, -⟩ := List.cons.inj same
    have whole := Message.fromRawBytes_toRawBytes hop.heap limits behind
    simp only [frame, Message.toFrame, Message.toRawBytes_length] at decoded
    rw [whole] at decoded
    cases decoded
    rw [Hop.deliver, read]

/-- Where a block passes on its way: the sender's session in the server, the server's new message, and
    the receiving client. -/
structure Route where
  up : Hop
  raw : FileDataMessage
  down : Hop

def Route.convey (route : Route) (target : Target) (message : FileDataMessage) : Option FileDataMessage :=
  match route.up.deliver (.fileData message) with
  | [.fileData dataMessage] =>
    match route.down.deliver (.fileData (Server.copyFileData target route.raw dataMessage)) with
    | [.fileData arrived] => some arrived
    | _ => none
  | _ => none

theorem Route.convey_block (route : Route) {message : FileDataMessage} {file : File target} {index : Nat}
    (block : message.IsBlockOf file index) :
    ∃ arrived, route.convey target message = some arrived ∧ arrived.IsBlockOf file index := by
  have copied := block.copyFileData route.raw
  have sent : (Message.fileData message).WithinLimits := block.size_le
  have resent : (Message.fileData (Server.copyFileData target route.raw message)).WithinLimits := copied.size_le
  refine ⟨_, ?_, copied⟩
  unfold Route.convey
  rw [Hop.deliver_eq route.up sent]
  simp only [Message.received]
  rw [Hop.deliver_eq route.down resent]
  rfl

end LanMessenger
