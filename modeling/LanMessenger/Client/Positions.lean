import LanMessenger.Client.Upload
import LanMessenger.Server.Broadcast

namespace LanMessenger

open CMemory Transition

variable {target sender server receiver : Target} {τ : Type}

theorem Target.long_eq_iff (target : Target) (value : Nat) :
    target.long value = value ↔ value < 2 ^ (target.longBits - 1) := by
  rw [Target.long_eq_self_iff]
  constructor
  · intro held
    exact_mod_cast held.2
  · intro small
    exact ⟨le_trans (neg_nonpos.mpr (by positivity)) (Int.natCast_nonneg value), by exact_mod_cast small⟩

theorem FileDataMessage.toInt_setFileOffset_eq (message : FileDataMessage) (position : Int) :
    (message.setFileOffset target position).offset.toInt = target.long position := target.toInt_long position

namespace SessionServer

variable {session : SessionServer τ} {raw message : FileDataMessage} {fopen : Option Readable} {handle : FileHandle} {origin : τ}

def block (session : SessionServer τ) (raw : FileDataMessage) (handle : FileHandle) : List Byte × Bool × FileHandle :=
  readBlock (session.fileTransferBuffer_.bytes.take (maxPayloadSize - (FileDataMessage.new raw).size)) handle

def blockMessage (target : Target) (session : SessionServer τ) (raw : FileDataMessage) (handle : FileHandle) : FileDataMessage :=
  let message := ((FileDataMessage.new raw).setBuffer (session.block raw handle).1).setFileOffset target
    session.fileTransferOffset_.toNat
  if (session.block raw handle).2.1 then message.markLastBlock else message

@[simp] theorem offset_blockMessage : (session.blockMessage target raw handle).offset =
    ((FileDataMessage.new raw).setFileOffset target session.fileTransferOffset_.toNat).offset := by
  unfold blockMessage
  split <;> rfl

@[simp] theorem data_blockMessage : (session.blockMessage target raw handle).data = (session.block raw handle).1 := by
  unfold blockMessage
  split <;> rfl

theorem length_readBlock_le (cells : List Byte) (handle : FileHandle) : (readBlock cells handle).1.length ≤ cells.length := by
  induction cells generalizing handle with
  | nil => exact Nat.zero_le _
  | cons cell cells ih =>
    rw [readBlock]
    split
    · exact Nat.zero_le _
    · exact Nat.succ_le_succ (ih _)
    · exact Nat.succ_le_succ (ih _)

theorem length_cells (session : SessionServer τ) (raw : FileDataMessage) :
    (session.fileTransferBuffer_.bytes.take (maxPayloadSize - (FileDataMessage.new raw).size)).length = fileBlockSize := by
  simp [FileDataMessage.new, FileDataMessage.size, fileBlockSize]

theorem length_block_le : (session.block raw handle).1.length ≤ fileBlockSize := by
  rw [← length_cells session raw]
  exact length_readBlock_le _ handle

theorem size_blockMessage_le : (session.blockMessage target raw handle).size ≤ maxPayloadSize := by
  have short : (session.block raw handle).1.length ≤ fileBlockSize := length_block_le
  rw [FileDataMessage.size, data_blockMessage]
  simp only [fileBlockSize, maxPayloadSize, maxMessageSize, messageHeaderSize, commandSize] at short ⊢
  omega

theorem outbox_sendBlock (raw : FileDataMessage) (origin : τ) (handle : FileHandle) :
    (session.sendBlock target raw origin handle).outbox =
      session.outbox.send ⟨.fileData (session.blockMessage target raw handle), origin⟩ := by
  simp only [sendBlock, blockMessage, block]
  split
  · rename_i ended
    simp only [ended, if_true]
    rfl
  · rename_i goes
    simp only [Bool.eq_false_of_not_eq_true goes, Bool.false_eq_true, if_false]
    rfl

def Sends (session : SessionServer τ) (target : Target) (raw : FileDataMessage) (fopen : Option Readable) (origin : τ)
    (message : FileDataMessage) : Prop :=
  (session.cycle target raw fopen origin).outbox.sendingQueue_ =
    session.outbox.sendingQueue_ ++ [⟨.fileData message, origin⟩]

theorem Sends.made (sends : session.Sends target raw fopen origin message) :
    ∃ handle, message = session.blockMessage target raw handle := by
  have grows : session.outbox.sendingQueue_ ≠ session.outbox.sendingQueue_ ++ [⟨.fileData message, origin⟩] := by simp
  unfold Sends cycle at sends
  split at sends
  · exact absurd sends grows
  · split at sends
    · exact absurd sends grows
    · rename_i handle _
      split at sends
      · exact absurd sends grows
      · rename_i room
        refine ⟨handle, ?_⟩
        rw [outbox_sendBlock, Outbox.send_of_room (by simpa using room)] at sends
        cases List.append_cancel_left sends
        rfl

theorem sends_blockMessage (raw : FileDataMessage) (origin : τ)
    (going : session.isSendingFile_ = true ∧ session.hasFileTransferStarted_ = true)
    (opened : (session.fileTransferHandle_ <|> fopen.map (FileHandle.reading · 0 0)) = some handle)
    (room : session.outbox.canSendMessages = true) :
    session.Sends target raw fopen origin (session.blockMessage target raw handle) := by
  have cycled : session.cycle target raw fopen origin = session.sendBlock target raw origin handle := by
    simp only [cycle, going.1, going.2, opened, room]
    rfl
  rw [Sends, cycled, outbox_sendBlock, Outbox.send_of_room room]

end SessionServer

theorem Server.offset_copyFileData (raw message : FileDataMessage) :
    (Server.copyFileData target raw message).offset.toInt = message.fileOffset target := by
  have copied : (((FileDataMessage.new raw).setBuffer message.buffer).setFileOffset target
      (message.fileOffset target)).offset.toInt = message.fileOffset target := by
    rw [FileDataMessage.toInt_setFileOffset_eq, FileDataMessage.fileOffset, Target.long_long]
  unfold Server.copyFileData
  split <;> exact copied

theorem Server.size_copyFileData (raw message : FileDataMessage) :
    (Server.copyFileData target raw message).size = message.size := by
  unfold Server.copyFileData
  split <;> rfl

theorem Route.convey_eq (route : Route) {message : FileDataMessage} (small : message.size ≤ maxPayloadSize) :
    route.convey server message = some (Server.copyFileData server route.raw message) := by
  have sent : (Message.fileData message).WithinLimits := small
  have resent : (Message.fileData (Server.copyFileData server route.raw message)).WithinLimits :=
    (Server.size_copyFileData route.raw message).trans_le small
  unfold Route.convey
  rw [Hop.deliver_eq route.up sent]
  simp only [Message.received]
  rw [Hop.deliver_eq route.down resent]
  rfl

namespace SessionServer

variable {session : SessionServer τ} {raw message : FileDataMessage} {fopen : Option Readable} {origin : τ}

theorem Sends.arrives (sends : session.Sends sender raw fopen origin message) (server : Target) (route : Route) :
    message.offset.toInt = sender.long session.fileTransferOffset_.toNat ∧
      ∃ arrived, route.convey server message = some arrived ∧ arrived.offset.toInt = message.fileOffset server := by
  rcases sends.made with ⟨handle, rfl⟩
  refine ⟨?_, _, Route.convey_eq route size_blockMessage_le, Server.offset_copyFileData route.raw _⟩
  rw [offset_blockMessage, FileDataMessage.toInt_setFileOffset_eq]

/-- A block that a client sends, and what becomes of its offset: the number in the field on the wire, the one the server
    reads there, the one in the field of the server's copy, and the one the receiver passes to `saveData`. They are
    all the sender's position if and only if it fits into the `long` of each of the three builds. -/
theorem positions_kept_iff (sends : session.Sends sender raw fopen origin message) (route : Route) :
    ∃ arrived, route.convey server message = some arrived ∧
      ((message.offset.toInt = session.fileTransferOffset_.toNat ∧
          message.fileOffset server = session.fileTransferOffset_.toNat ∧
          arrived.offset.toInt = session.fileTransferOffset_.toNat ∧
          arrived.fileOffset receiver = session.fileTransferOffset_.toNat) ↔
        ∀ target ∈ [sender, server, receiver], session.fileTransferOffset_.toNat < 2 ^ (target.longBits - 1)) := by
  rcases sends.arrives server route with ⟨wire, arrived, conveyed, copied⟩
  refine ⟨arrived, conveyed, ?_⟩
  simp only [List.forall_mem_cons, List.not_mem_nil, false_implies, implies_true, and_true]
  rw [FileDataMessage.fileOffset] at copied
  rw [FileDataMessage.fileOffset, FileDataMessage.fileOffset, copied, wire, ← sender.long_eq_iff, ← server.long_eq_iff,
    ← receiver.long_eq_iff]
  constructor
  · intro kept
    rcases kept with ⟨sent, read, -, saved⟩
    rw [sent] at read saved
    rw [read] at saved
    exact ⟨sent, read, saved⟩
  · intro fits
    rcases fits with ⟨sent, read, saved⟩
    rw [sent, read]
    exact ⟨rfl, rfl, rfl, saved⟩

/-- A client whose request was accepted, and which has no letter waiting. -/
def uploading : SessionServer Unit :=
  { new (Field.zero _) (Field.zero _) (Field.zero _) () with
    outbox := .new
    isSendingFile_ := true
    hasFileTransferStarted_ := true }

theorem readyToSend_uploading : uploading.ReadyToSend := ⟨rfl, rfl, rfl, rfl, fun _ member => by cases member⟩

def twoBlocks : Readable := fun position _ => if position < 1500 then .byte 65#8 else .endOfFile

/-- The client has sent the first block of it. -/
def midway : SessionServer Unit :=
  { uploading with fileTransferOffset_ := 1424#64, fileTransferHandle_ := some (.reading twoBlocks 1424 1424) }

theorem positions_kept_iff_second :
    let message := midway.blockMessage .m32 Heap.zeroed.fileData (.reading twoBlocks 1424 1424)
    ∃ arrived, Route.convey ⟨⟨.zeroed, Field.zero _⟩, Heap.zeroed.fileData, ⟨.zeroed, Field.zero _⟩⟩ .m32 message =
        some arrived ∧
      message.data.length = 76 ∧ message.offset.toInt = 1424 ∧ message.fileOffset .m32 = 1424 ∧
      arrived.offset.toInt = 1424 ∧ arrived.fileOffset .m64 = 1424 := by
  intro message
  have sends : midway.Sends .m32 Heap.zeroed.fileData (some twoBlocks) () message :=
    sends_blockMessage Heap.zeroed.fileData () ⟨rfl, rfl⟩ rfl rfl
  have length : message.data.length = 76 := by decide +kernel
  rcases @positions_kept_iff .m32 .m32 .m64 _ _ _ _ _ _ sends
    ⟨⟨.zeroed, Field.zero _⟩, Heap.zeroed.fileData, ⟨.zeroed, Field.zero _⟩⟩ with ⟨arrived, conveyed, kept⟩
  exact ⟨arrived, conveyed, length, kept.mpr (by decide)⟩

end SessionServer

namespace Upload

theorem reaches (file : File target) {session : SessionServer τ} (ready : session.ReadyToSend)
    (idle : session.outbox.sendingQueue_ = []) (raw : FileDataMessage) (origin : τ) {index : Nat}
    (inside : index ≤ file.lastIndex) :
    ∃ events upload, Run (Upload.step file) Always (start session) events upload ∧ upload.session.Sending file index ∧
      upload.session.outbox.sendingQueue_ = [] := by
  induction index with
  | zero =>
    have tracks : (start session).Tracks file := tracks_start ready
    exact ⟨[], _, .nil, (if_pos (Nat.zero_le _)).mp tracks.phase, idle⟩
  | succ index ih =>
    rcases ih (Nat.le_of_succ_le inside) with ⟨events, upload, run, sending, empty⟩
    have room : upload.session.outbox.canSendMessages = true := by
      rw [Outbox.canSendMessages, empty]
      rfl
    rcases sending.cycle_room raw origin room with ⟨message, -, outbox, next⟩
    rw [if_neg (Nat.ne_of_lt inside)] at next
    refine ⟨events ++ [.cycle raw origin] ++ [.writeData], _, (run.snoc trivial rfl).snoc trivial rfl, ?_, ?_⟩
    · exact ⟨next.inside, next.sending, next.started, next.offset, next.handle⟩
    · simp only [outbox, Outbox.send_of_room room, empty]
      rfl

/-- The first block from 2 GiB on, of a file of which it holds the last byte, passes a server built for 32 bits. -/
theorem positions_truncated :
    ∃ (file : File .m64) (events : List (Event Unit)) (upload : Upload Unit) (message : FileDataMessage),
      Run (Upload.step file) Always (start SessionServer.uploading) events upload ∧
        upload.session.Sends .m64 Heap.zeroed.fileData (some file.reads) () message ∧
        upload.session.fileTransferOffset_.toNat = 2147484560 ∧ message.offset.toInt = 2147484560 ∧
        ∀ route : Route, ∃ arrived, route.convey .m32 message = some arrived ∧ arrived.offset.toInt = -2147482736 := by
  let file : File .m64 := ⟨List.replicate 2147484561 65#8, by rw [List.length_replicate]; decide⟩
  have inside : 1508065 ≤ file.lastIndex := by
    rw [File.lastIndex, List.length_replicate]
    decide
  obtain ⟨events, upload, run, sending, empty⟩ :=
    reaches file SessionServer.readyToSend_uploading rfl Heap.zeroed.fileData () inside
  rcases sending.opened with ⟨calls, opened⟩
  have room : upload.session.outbox.canSendMessages = true := by
    rw [Outbox.canSendMessages, empty]
    rfl
  have sends : upload.session.Sends .m64 Heap.zeroed.fileData (some file.reads) () _ :=
    SessionServer.sends_blockMessage Heap.zeroed.fileData () ⟨sending.sending, sending.started⟩ opened room
  have position : upload.session.fileTransferOffset_.toNat = 2147484560 := sending.position
  have wire := (sends.arrives .m32 ⟨⟨.zeroed, Field.zero _⟩, Heap.zeroed.fileData, ⟨.zeroed, Field.zero _⟩⟩).1
  rw [position] at wire
  refine ⟨file, events, upload, _, run, sends, position, wire, fun route => ?_⟩
  rcases sends.arrives .m32 route with ⟨-, arrived, conveyed, copied⟩
  refine ⟨arrived, conveyed, ?_⟩
  rw [copied, FileDataMessage.fileOffset, wire]
  rfl

end Upload

end LanMessenger
