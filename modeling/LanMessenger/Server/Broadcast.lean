import LanMessenger.Messages.Built
import LanMessenger.Server.Effects
import LanMessenger.Transition.Runs

namespace LanMessenger

open CMemory Transition

variable {τ : Type}

theorem basename_subset {path : List Byte} {byte : Byte} (member : byte ∈ basename path) : byte ∈ path := by
  rw [basename, List.mem_reverse] at member
  exact List.mem_reverse.mp ((List.takeWhile_prefix _).subset member)

theorem length_basename_le (path : List Byte) : (basename path).length ≤ path.length := by
  rw [basename, List.length_reverse]
  exact (List.takeWhile_prefix _).length_le.trans_eq List.length_reverse

namespace Server

/-- What a message of `current` is to bring to another session. -/
def carried (current : SessionData τ) (message : Message) (peer : SessionData τ) : Option Contents :=
  match message with
  | .chat chat => some (.chat chat.message current.client.nickName)
  | .fileRequest request => some (.fileRequest (basename request.fileName) current.client.nickName)
  | .fileData block =>
    if peer.client.fileTransferStatus_ = .acceptFileTransfer then some (.fileData block.offset block.isLast block.data)
    else none
  | _ => none

/-- One message with these contents is new in the session's queue, or nothing is; the rest is as it was. -/
def Gains (data after : SessionData τ) : Option Contents → Prop
  | none => after = data
  | some contents => ∃ letter : Letter τ, letter.message.contents = contents ∧ after = data.queued letter

def answers (origin : τ) (server : Server τ) (message : Message) : List (Letter τ) :=
  if server.sessions_.size = 1 then
    match message with
    | .chat _ | .fileRequest _ => [⟨.status ⟨.chattingAlone⟩, origin⟩]
    | _ => []
  else []

/-- The other sessions get what the message carries, its sender nothing of it; a session that is alone turns on no
    transfer. -/
structure Broadcasts (origin : τ) (client : SessionId) (current : SessionData τ) (message : Message)
    (server next : Server τ) : Prop where
  peers : ∀ peer data, peer ≠ client → server.findSession peer = some data →
    ∃ after, next.findSession peer = some after ∧ Gains data after (carried current message data)
  nobody : ∀ peer, server.findSession peer = none → next.findSession peer = none
  own : ∃ after, next.findSession client = some after ∧
    after.client.outbox.sendingQueue_ = current.client.outbox.sendingQueue_ ++ answers origin server message ∧
    (server.sessions_.size = 1 → after.isFileTransferSender = current.isFileTransferSender)
  alone : server.sessions_.size = 1 → next.fileTransferModeActive_ = server.fileTransferModeActive_

def Relayable (server : Server τ) : Message → Prop
  | .chat chat => chat.message.length < maxChatMessageSize
  | .fileRequest request => server.fileTransferModeActive_ = false ∧ request.fileName.length < maxPathSize
  | .fileData block => block.data.length ≤ maxPayloadSize - 16
  | _ => False

/-- A text that is relayed leaves room in the line of the log, which begins with the running time and names the sender;
    the offset of a block that somebody is to get is a number that the server's `long` can hold. -/
def Survives (target : Target) (elapsed : Int) (server : Server τ) (client : SessionId) (current : SessionData τ) :
    Message → Prop
  | .chat chat => server.sessions_.size ≠ 1 →
    Common.elapsedWidth elapsed + current.client.nickName.length + chat.message.length ≤ 482
  | .fileData block =>
    (∃ peer data, peer ≠ client ∧ server.findSession peer = some data ∧
      data.client.fileTransferStatus_ = .acceptFileTransfer) →
    target.long block.offset.toInt = block.offset.toInt
  | _ => True

theorem contents_copyFileData (target : Target) (raw block : FileDataMessage) :
    (Message.fileData (copyFileData target raw block)).contents = .fileData block.offset block.isLast block.data ↔
      target.long block.offset.toInt = block.offset.toInt := by
  have copied : (Message.fileData (copyFileData target raw block)).contents =
      .fileData (BitVec.ofInt 64 (target.long block.offset.toInt)) block.isLast block.data := by
    unfold copyFileData
    cases last : block.isLast <;>
      simp [FileDataMessage.isLastBlock, last, Message.contents, FileDataMessage.markLastBlock,
        FileDataMessage.setFileOffset, FileDataMessage.setBuffer, FileDataMessage.new, FileDataMessage.buffer,
        FileDataMessage.fileOffset]
  rw [copied]
  simp only [Contents.fileData.injEq, and_true]
  constructor
  · intro same
    rw [← Target.toInt_long, same]
  · intro same
    rw [same, BitVec.ofInt_toInt]

variable {server next : Server τ} {client : SessionId} {current : SessionData τ} {origin : τ} {message : Message}
  {target : Target} {memory : Memory}

theorem answers_of_more (more : server.sessions_.size ≠ 1) : answers origin server message = [] := if_neg more

theorem answers_fileData (block : FileDataMessage) : answers origin server (.fileData block) = [] := by
  unfold answers
  exact ite_self []

theorem broadcasts_alone {change : SessionId → SessionData τ → SessionData τ}
    (found : server.findSession client = some current)
    (alone : server.sessions_.size = 1) (rewrites : Rewrites server next change)
    (queue : (change client current).client.outbox.sendingQueue_ =
      current.client.outbox.sendingQueue_ ++ answers origin server message)
    (flag : (change client current).isFileTransferSender = current.isFileTransferSender)
    (mode : next.fileTransferModeActive_ = server.fileTransferModeActive_) :
    Broadcasts origin client current message server next := by
  refine ⟨fun peer data other there => ?_, fun peer absent => ?_, ⟨_, ?_, queue, fun _ => flag⟩, fun _ => mode⟩
  · exact absurd alone (size_ne_one (by rw [there]; rfl) (by rw [found]; rfl) other)
  · rw [rewrites.find, absent, Option.map_none]
  · rw [rewrites.find, found, Option.map_some]

theorem broadcasts_rewrites {change : SessionId → SessionData τ → SessionData τ}
    (found : server.findSession client = some current) (more : server.sessions_.size ≠ 1)
    (rewrites : Rewrites server next change)
    (queue : (change client current).client.outbox.sendingQueue_ = current.client.outbox.sendingQueue_)
    (gains : ∀ peer data, peer ≠ client → server.findSession peer = some data →
      Gains data (change peer data) (carried current message data)) :
    Broadcasts origin client current message server next := by
  refine ⟨fun peer data other there => ⟨_, ?_, gains peer data other there⟩, fun peer absent => ?_,
    ⟨change client current, ?_, ?_, ?_⟩, ?_⟩
  · rw [rewrites.find, there, Option.map_some]
  · rw [rewrites.find, absent, Option.map_none]
  · rw [rewrites.find, found, Option.map_some]
  · rw [queue, answers_of_more more, List.append_nil]
  · exact fun alone => absurd alone more
  · exact fun alone => absurd alone more

theorem chattingAlone_broadcasts (found : server.findSession client = some current) (alone : server.sessions_.size = 1)
    (room : current.client.outbox.canSendMessages = true)
    (answered : answers origin server message = [⟨.status ⟨.chattingAlone⟩, origin⟩]) :
    Broadcasts origin client current message server (server.send client ⟨.status ⟨.chattingAlone⟩, origin⟩) := by
  refine broadcasts_alone found alone (rewrites_modify server client _) ?_ ?_ rfl
  · rw [if_pos rfl, SessionData.send_of_room room, answered]
    rfl
  · rw [if_pos rfl]
    rfl

theorem chat_broadcasts {chat : ChatMessage} (found : server.findSession client = some current)
    (more : server.sessions_.size ≠ 1)
    (room : ∀ peer data, server.findSession peer = some data → data.client.outbox.canSendMessages = true)
    (limits : Relayable server (.chat chat)) :
    Broadcasts origin client current (.chat chat) server
      (server.sendToPeers client (chatLetter memory origin current chat)) := by
  refine broadcasts_rewrites found more (rewrites_sendToPeers server client _) (by rw [if_pos rfl]) ?_
  intro peer data other there
  have short : chat.message.length < maxChatMessageSize := limits
  have contents := Message.contents_chat (memory.heap peer).chat chat.message current.client.nickName
    (by simpa [strlen, ChatMessage.message, Field.text] using short)
    (by simpa [strlen, SessionClient.nickName, Field.text] using Field.length_text_le current.client.nickName_)
  refine ⟨_, ?_, by rw [if_neg other, chatLetter, SessionData.sendSome, SessionData.send_of_room (room peer data there)]⟩
  simpa [ChatMessage.message, SessionClient.nickName, Field.text] using contents

theorem chat_broadcasts_iff {chat : ChatMessage} (found : server.findSession client = some current)
    (room : ∀ peer data, server.findSession peer = some data → data.client.outbox.canSendMessages = true)
    (limits : Relayable server (.chat chat)) :
    (∃ next, server.availableMessage target memory origin client (.chat chat) = .ok next ∧
        Broadcasts origin client current (.chat chat) server next) ↔
      Survives target memory.elapsed server client current (.chat chat) := by
  rw [chat_eq found]
  have fits := fits_chatRelayed_iff memory.elapsed current.client.nickName chat.message
  by_cases alone : server.sessions_.size = 1
  · rw [if_pos alone]
    refine iff_of_true ⟨_, rfl, ?_⟩ fun more => absurd alone more
    exact chattingAlone_broadcasts found alone (room client current found) (if_pos alone)
  · rw [if_neg alone]
    by_cases overrun : ∃ buffer ∈ chatRelayed memory.elapsed current.client.nickName chat.message, ¬ buffer.Fits
    · rw [if_pos overrun]
      refine iff_of_false ?_ fun survives => ?_
      · rintro ⟨next, handled, -⟩
        cases handled
      · obtain ⟨buffer, member, outside⟩ := overrun
        exact outside (fits.mpr (survives alone) buffer member)
    · rw [if_neg overrun]
      refine iff_of_true ⟨_, rfl, chat_broadcasts found alone room limits⟩ fun _ => fits.mp fun buffer member => ?_
      by_contra outside
      exact overrun ⟨buffer, member, outside⟩

theorem fileRequest_broadcasts {request : FileTransferMessage} (found : server.findSession client = some current)
    (room : ∀ peer data, server.findSession peer = some data → data.client.outbox.canSendMessages = true)
    (limits : Relayable server (.fileRequest request)) :
    ∃ next, server.availableMessage target memory origin client (.fileRequest request) = .ok next ∧
      Broadcasts origin client current (.fileRequest request) server next := by
  have handled : server.availableMessage target memory origin client (.fileRequest request) = .ok _ :=
    fileRequest_eq found request
  refine ⟨_, handled, ?_⟩
  rcases limits with ⟨idle, short⟩
  rcases fileRequest_ok handled with ⟨same, foundToo, ⟨active, -⟩ | ⟨-, alone, sent⟩ | ⟨-, more, -, rewrites⟩⟩
  · rw [idle] at active
    cases active
  · rw [sent]
    exact chattingAlone_broadcasts found alone (room client current found) (if_pos alone)
  · rw [found] at foundToo
    cases foundToo
    refine broadcasts_rewrites found more rewrites (by rw [if_pos rfl]; rfl) ?_
    intro peer data other there
    have nonzero : 0#8 ∉ basename request.fileName := fun member => zero_not_mem_cString _ (basename_subset member)
    have contents := Message.contents_fileRequest (basename request.fileName) current.client.nickName
      (by rw [strlen_of_not_mem nonzero]; exact lt_of_le_of_lt (length_basename_le _) short)
      (by simpa [strlen, SessionClient.nickName, Field.text] using Field.length_text_le current.client.nickName_)
    refine ⟨_, ?_, by rw [if_neg other, requestLetter, SessionData.sendSome, SessionData.send_of_room (room peer data there)]⟩
    simpa [cString_of_not_mem nonzero, SessionClient.nickName, Field.text] using contents

theorem sendSome_dataLetter (block : FileDataMessage) (peer : SessionId) {data : SessionData τ}
    (room : data.client.outbox.canSendMessages = true) (accepts : data.client.fileTransferStatus_ = .acceptFileTransfer) :
    data.sendSome (dataLetter target memory origin block peer data) =
      data.queued ⟨.fileData (copyFileData target (memory.heap peer).fileData block), origin⟩ := by
  rw [dataLetter, if_neg (not_not.mpr accepts), SessionData.sendSome, SessionData.send_of_room room]

theorem fileData_broadcasts_iff {block : FileDataMessage} (found : server.findSession client = some current)
    (room : ∀ peer data, server.findSession peer = some data → data.client.outbox.canSendMessages = true) :
    (∃ next, server.availableMessage target memory origin client (.fileData block) = .ok next ∧
        Broadcasts origin client current (.fileData block) server next) ↔
      Survives target memory.elapsed server client current (.fileData block) := by
  have handled : server.availableMessage target memory origin client (.fileData block) = .ok _ := fileData_eq found block
  rcases fileData_ok handled with ⟨same, foundToo, ⟨alone, mode, rewrites⟩ | ⟨more, -, rewrites⟩⟩
  · refine iff_of_true ⟨_, handled, broadcasts_alone found alone rewrites ?_ ?_ mode⟩ ?_
    · rw [answers_fileData, if_pos rfl, List.append_nil]
      split <;> rfl
    · rw [if_pos rfl]
      split <;> rfl
    · rintro ⟨peer, data, other, there, -⟩
      exact absurd alone (size_ne_one (by rw [there]; rfl) (by rw [found]; rfl) other)
  · simp only [handled, Except.ok.injEq, exists_eq_left']
    constructor
    · rintro broadcasts ⟨peer, data, other, there, accepts⟩
      rcases broadcasts.peers peer data other there with ⟨after, thereAfter, gains⟩
      rw [rewrites.find, there, Option.map_some, if_neg other,
        sendSome_dataLetter block peer (room peer data there) accepts] at thereAfter
      simp only [carried, if_pos accepts, Gains] at gains
      rcases gains with ⟨letter, contents, rfl⟩
      have sent := congrArg (fun data : SessionData τ => data.client.outbox.sendingQueue_) (Option.some.inj thereAfter)
      simp only [SessionData.queued, List.append_cancel_left_eq, List.cons.injEq, and_true] at sent
      rw [← sent] at contents
      exact (contents_copyFileData target _ block).mp contents
    · intro fits
      refine broadcasts_rewrites found more rewrites ?_ ?_
      · rw [if_pos rfl]
        split <;> rfl
      · intro peer data other there
        rw [if_neg other]
        by_cases accepts : data.client.fileTransferStatus_ = .acceptFileTransfer
        · rw [sendSome_dataLetter block peer (room peer data there) accepts, carried, if_pos accepts]
          exact ⟨_, (contents_copyFileData target _ block).mpr (fits ⟨peer, data, other, there, accepts⟩), rfl⟩
        · rw [dataLetter, if_pos accepts, carried, if_neg accepts]
          rfl

/-- Whom a relayed message reaches, and as what: everybody it is for, with the sender's name from the server, unless the
    line of the log is longer than its arrays or the offset of a block does not survive the server's `long`. -/
theorem broadcast (target : Target) (memory : Memory) (origin : τ) (server : Server τ) (client : SessionId)
    (current : SessionData τ) (message : Message) (found : server.findSession client = some current)
    (room : ∀ peer data, server.findSession peer = some data → data.client.outbox.canSendMessages = true)
    (limits : server.Relayable message) :
    (∃ next, server.availableMessage target memory origin client message = .ok next ∧
        Broadcasts origin client current message server next) ↔
      Survives target memory.elapsed server client current message := by
  cases message with
  | chat chat => exact chat_broadcasts_iff found room limits
  | fileRequest request => exact iff_of_true (fileRequest_broadcasts found room limits) trivial
  | fileData block => exact fileData_broadcasts_iff found room
  | status | hello | nickname | bye => cases limits

def greeting : ChatMessage := .ofMessage Heap.zeroed.chat (ascii ['h', 'i'])

theorem broadcast_chat :
    ∃ server : Server Unit, ∃ current, exec (step .m64) new [.addSession 1 (Field.zero _), .addSession 2 (Field.zero _)] =
        some server ∧ server.findSession 1 = some current ∧
      ∃ next, server.availableMessage .m64 Memory.zeroed () 1 (.chat greeting) = .ok next ∧
        Broadcasts () 1 current (.chat greeting) server next := by
  have outcome : (exec (step .m64) (new : Server Unit) [.addSession 1 (Field.zero _), .addSession 2 (Field.zero _)]).map
      (fun server => ((server.findSession 1).map fun data => data.client.nickName, decide (∀ peer data,
        server.findSession peer = some data → data.client.outbox.canSendMessages = true))) =
      some (some (ascii ['U', 's', 'e', 'r', ' ', '1']), true) := by
    decide +kernel
  rcases Option.map_eq_some_iff.mp outcome with ⟨server, ran, facts⟩
  rw [Prod.mk.injEq] at facts
  rcases Option.map_eq_some_iff.mp facts.1 with ⟨current, found, name⟩
  have short : greeting.message.length < maxChatMessageSize := by
    decide +kernel
  have survives : Survives .m64 Memory.zeroed.elapsed server 1 current (.chat greeting) := by
    intro _
    rw [name]
    decide +kernel
  exact ⟨server, current, ran, found, (broadcast .m64 Memory.zeroed () server 1 current (.chat greeting) found
    (of_decide_eq_true facts.2) short).mpr survives⟩

/-- The block at 2^31 of a file, on a server built for 32 bits. -/
def farBlock : FileDataMessage := { Heap.zeroed.fileData with offset := 0x80000000#64 }

/-- The session that accepted the file is sent the block with a negative offset. -/
theorem broadcast_farBlock :
    ∃ server : Server Unit, ∃ current, exec (step .m32) new [.addSession 1 (Field.zero _), .addSession 2 (Field.zero _),
        .message 1 Memory.zeroed () (.fileRequest (.ofFileName (ascii ['f']))),
        .message 2 Memory.zeroed () (.status ⟨.acceptFileTransfer⟩)] = some server ∧
      server.findSession 1 = some current ∧
      (∀ peer data, server.findSession peer = some data → data.client.outbox.canSendMessages = true) ∧
      server.Relayable (.fileData farBlock) ∧
      ¬ ∃ next, server.availableMessage .m32 Memory.zeroed () 1 (.fileData farBlock) = .ok next ∧
        Broadcasts () 1 current (.fileData farBlock) server next := by
  have outcome : (exec (step .m32) (new : Server Unit) [.addSession 1 (Field.zero _), .addSession 2 (Field.zero _),
      .message 1 Memory.zeroed () (.fileRequest (.ofFileName (ascii ['f']))),
      .message 2 Memory.zeroed () (.status ⟨.acceptFileTransfer⟩)]).map (fun server => ((server.findSession 1).isSome,
        (server.findSession 2).map fun data => data.client.fileTransferStatus_, decide (∀ peer data,
          server.findSession peer = some data → data.client.outbox.canSendMessages = true))) =
      some (true, some .acceptFileTransfer, true) := by
    decide +kernel
  rcases Option.map_eq_some_iff.mp outcome with ⟨server, ran, facts⟩
  simp only [Prod.mk.injEq] at facts
  rcases facts with ⟨own, answered, decided⟩
  rcases Option.isSome_iff_exists.mp own with ⟨current, found⟩
  rcases Option.map_eq_some_iff.mp answered with ⟨data, there, accepts⟩
  have room := of_decide_eq_true decided
  refine ⟨server, current, ran, found, room, Nat.zero_le _, fun relayed => ?_⟩
  have fits := (fileData_broadcasts_iff found room).mp relayed ⟨2, data, by decide, there, accepts⟩
  revert fits
  decide

end Server

end LanMessenger
