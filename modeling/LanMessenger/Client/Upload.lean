import LanMessenger.Client.Transfer
import LanMessenger.Transition.Runs

namespace LanMessenger

open CMemory Transition

variable {target : Target} {τ : Type}

namespace SessionServer

structure OutOfTransfer (session : SessionServer τ) : Prop where
  handle : session.fileTransferHandle_.isNone = true
  receiving : session.isReceivingFile_ = false
  sending : session.isSendingFile_ = false
  started : session.hasFileTransferStarted_ = false

theorem outOfTransfer_disable (session : SessionServer τ) : session.disableFileTransferMode.OutOfTransfer :=
  ⟨rfl, rfl, rfl, rfl⟩

/-- The loop of `cycle` on a regular file: it stops early when the file ends inside the block. -/
theorem readBlock_file (file : File target) (cells : List Byte) {position : Nat} (calls : Nat)
    (inside : position ≤ file.contents.length) :
    ∃ after, readBlock cells (.reading file.reads position calls) =
      ((file.contents.drop position).take cells.length, decide (file.contents.length < position + cells.length),
        .reading file.reads (position + ((file.contents.drop position).take cells.length).length) after) := by
  induction cells generalizing position calls with
  | nil =>
    refine ⟨calls, ?_⟩
    have notEnded : ¬ file.contents.length < position := by omega
    simp [readBlock, notEnded]
  | cons cell cells ih =>
    rcases Nat.lt_or_eq_of_le inside with before | rfl
    · have read : file.reads position calls = .byte file.contents[position] := by
        simp [File.reads, List.getElem?_eq_getElem before]
      have next : position + 1 ≤ file.contents.length := before
      obtain ⟨after, rest⟩ := ih (calls + 1) next
      refine ⟨after, ?_⟩
      simp only [readBlock, FileHandle.fread, read, rest]
      rw [List.drop_eq_getElem_cons before]
      simp only [List.length_cons, List.take_succ_cons, Prod.mk.injEq, FileHandle.reading.injEq, true_and, and_true]
      refine ⟨?_, ?_⟩
      · congr 2
        omega
      · omega
    · have read : file.reads file.contents.length calls = .endOfFile := by simp [File.reads]
      refine ⟨calls + 1, ?_⟩
      simp [readBlock, FileHandle.fread, read]

/-- Before the block at an index: the blocks in front of it were read from the file. -/
structure Sending (session : SessionServer τ) (file : File target) (index : Nat) : Prop where
  inside : index ≤ file.lastIndex
  sending : session.isSendingFile_ = true
  started : session.hasFileTransferStarted_ = true
  offset : session.fileTransferOffset_ = BitVec.ofNat 64 (index * fileBlockSize)
  handle : (session.fileTransferHandle_ = none ∧ index = 0) ∨
    ∃ calls, session.fileTransferHandle_ = some (.reading file.reads (index * fileBlockSize) calls)

variable {session : SessionServer τ} {file : File target} {index : Nat}

theorem Sending.opened (sending : session.Sending file index) :
    ∃ calls, (session.fileTransferHandle_ <|> (some file.reads).map (FileHandle.reading · 0 0)) =
      some (.reading file.reads (index * fileBlockSize) calls) := by
  rcases sending.handle with ⟨closed, rfl⟩ | ⟨calls, there⟩
  · exact ⟨0, by rw [closed, Nat.zero_mul]; rfl⟩
  · exact ⟨calls, by rw [there]; rfl⟩

theorem Sending.position (sending : session.Sending file index) :
    session.fileTransferOffset_.toNat = index * fileBlockSize := by
  have small := file.position_small sending.inside
  have bound : index * fileBlockSize < 2 ^ 64 :=
    Nat.lt_of_lt_of_le small (by cases target <;> decide)
  rw [sending.offset, BitVec.toNat_ofNat, Nat.mod_eq_of_lt bound]

theorem readBlock_index (sending : session.Sending file index) (raw : FileDataMessage) (calls : Nat) :
    ∃ after, readBlock (session.fileTransferBuffer_.bytes.take (maxPayloadSize - (FileDataMessage.new raw).size))
        (.reading file.reads (index * fileBlockSize) calls) =
      (Files.block fileBlockSize file.contents index, decide (index = file.lastIndex), .reading file.reads
        (index * fileBlockSize + (Files.block fileBlockSize file.contents index).length) after) := by
  have before : index * fileBlockSize ≤ file.contents.length :=
    (Nat.mul_le_mul_right _ sending.inside).trans (Nat.div_mul_le_self _ _)
  have cells : (session.fileTransferBuffer_.bytes.take (maxPayloadSize - (FileDataMessage.new raw).size)).length =
      fileBlockSize := by
    simp [FileDataMessage.new, FileDataMessage.size, fileBlockSize]
  obtain ⟨after, read⟩ := readBlock_file file
    (session.fileTransferBuffer_.bytes.take (maxPayloadSize - (FileDataMessage.new raw).size)) calls before
  refine ⟨after, read.trans ?_⟩
  simp only [cells, file.ends_iff sending.inside, Files.block]

theorem sendBlock_file (sending : session.Sending file index) (raw : FileDataMessage) (origin : τ) (calls : Nat) :
    ∃ message, message.IsBlockOf file index ∧
      (session.sendBlock target raw origin (.reading file.reads (index * fileBlockSize) calls)).outbox =
        session.outbox.send ⟨.fileData message, origin⟩ ∧
      (if index = file.lastIndex then
        (session.sendBlock target raw origin (.reading file.reads (index * fileBlockSize) calls)).OutOfTransfer
      else (session.sendBlock target raw origin
        (.reading file.reads (index * fileBlockSize) calls)).Sending file (index + 1)) := by
  have inside := sending.inside
  obtain ⟨after, read⟩ := readBlock_index sending raw calls
  let message := ((FileDataMessage.new raw).setBuffer (Files.block fileBlockSize file.contents index)).setFileOffset
    target session.fileTransferOffset_.toNat
  have offset : message.offset.toInt = index * fileBlockSize := by
    simp only [message, sending.position]
    rw [FileDataMessage.toInt_setFileOffset _ _ (file.position_small inside), Nat.cast_mul]
  unfold sendBlock
  simp only [read, decide_eq_true_eq]
  by_cases last : index = file.lastIndex
  · simp only [if_pos last]
    exact ⟨message.markLastBlock, ⟨inside, offset, rfl, (decide_eq_true last).symm⟩, rfl, rfl, rfl, rfl, rfl⟩
  · simp only [if_neg last]
    have more : index < file.lastIndex := Nat.lt_of_le_of_ne inside last
    have whole : index * fileBlockSize + (Files.block fileBlockSize file.contents index).length =
        (index + 1) * fileBlockSize := by
      rw [Files.block_whole more, Nat.add_mul, Nat.one_mul]
    refine ⟨message, ⟨inside, offset, rfl, (decide_eq_false last).symm⟩, rfl, more, sending.sending, sending.started,
      ?_, Or.inr ⟨after, ?_⟩⟩
    · simp only [send, sending.offset, ← BitVec.ofNat_add, whole]
    · simp only [send, whole]

theorem Sending.cycle_full (sending : session.Sending file index) (raw : FileDataMessage) (origin : τ)
    (full : session.outbox.canSendMessages = false) :
    (session.cycle target raw (some file.reads) origin).Sending file index ∧
      (session.cycle target raw (some file.reads) origin).outbox = session.outbox := by
  obtain ⟨calls, opened⟩ := sending.opened
  have cycled : session.cycle target raw (some file.reads) origin =
      { session with fileTransferHandle_ := some (.reading file.reads (index * fileBlockSize) calls) } := by
    simp only [cycle, sending.sending, sending.started, opened, full]
    rfl
  rw [cycled]
  exact ⟨⟨sending.inside, sending.sending, sending.started, sending.offset, Or.inr ⟨calls, rfl⟩⟩, rfl⟩

theorem Sending.cycle_room (sending : session.Sending file index) (raw : FileDataMessage) (origin : τ)
    (room : session.outbox.canSendMessages = true) :
    ∃ message, message.IsBlockOf file index ∧
      (session.cycle target raw (some file.reads) origin).outbox =
        session.outbox.send ⟨.fileData message, origin⟩ ∧
      (if index = file.lastIndex then (session.cycle target raw (some file.reads) origin).OutOfTransfer
      else (session.cycle target raw (some file.reads) origin).Sending file (index + 1)) := by
  obtain ⟨calls, opened⟩ := sending.opened
  have cycled : session.cycle target raw (some file.reads) origin =
      session.sendBlock target raw origin (.reading file.reads (index * fileBlockSize) calls) := by
    simp only [cycle, sending.sending, sending.started, opened, room]
    rfl
  rw [cycled]
  exact sendBlock_file sending raw origin calls

theorem OutOfTransfer.cycle (out : session.OutOfTransfer) (raw : FileDataMessage) (fopen : Option Readable)
    (origin : τ) : session.cycle target raw fopen origin = session := by
  simp [SessionServer.cycle, out.sending]

structure ReadyToSend (session : SessionServer τ) : Prop where
  sending : session.isSendingFile_ = true
  started : session.hasFileTransferStarted_ = true
  handle : session.fileTransferHandle_ = none
  offset : session.fileTransferOffset_ = 0#64
  noBlocks : ∀ letter ∈ session.outbox.sendingQueue_, letter.message.type ≠ .fileData

end SessionServer

/-- A sending client: `written` are the letters it has transmitted, and `rounds` counts the calls of
    `cycle` that found room in the queue. -/
structure Upload (τ : Type) where
  session : SessionServer τ
  written : List (Letter τ)
  rounds : Nat

namespace Upload

def start (session : SessionServer τ) : Upload τ := ⟨session, [], 0⟩

inductive Event (τ : Type)
  | cycle (raw : FileDataMessage) (origin : τ)
  | writeData
  | chat (raw : ChatMessage) (origin : τ) (message : List Byte)
  | gotChat (elapsed : Int) (origin : τ) (message : ChatMessage)

def step (file : File target) (upload : Upload τ) : Event τ → Option (Upload τ)
  | .cycle raw origin => some { upload with
      session := upload.session.cycle target raw (some file.reads) origin
      rounds := if upload.session.outbox.canSendMessages then upload.rounds + 1 else upload.rounds }
  | .writeData =>
    let (letter, outbox) := upload.session.outbox.writeData
    some { upload with session := { upload.session with outbox }, written := upload.written ++ letter.toList }
  | .chat raw origin message => (upload.session.chat raw origin message).map fun session => { upload with session }
  | .gotChat elapsed origin message =>
    match upload.session.availableMessage target .refuse true elapsed origin (.chat message) with
    | .ok (session, _) => some { upload with session }
    | .error _ => none

def accepted (upload : Upload τ) : List (Letter τ) := upload.written ++ upload.session.outbox.sendingQueue_

def blocks (letters : List (Letter τ)) : List FileDataMessage :=
  letters.filterMap fun letter =>
    match letter.message with
    | .fileData message => some message
    | _ => none

def queued (upload : Upload τ) : List FileDataMessage := blocks upload.accepted

structure Tracks (upload : Upload τ) (file : File target) : Prop where
  count : upload.queued.length = min upload.rounds (file.lastIndex + 1)
  inOrder : ∀ (index : Nat) (message : FileDataMessage), upload.queued[index]? = some message → message.IsBlockOf file index
  phase : if upload.rounds ≤ file.lastIndex then upload.session.Sending file upload.rounds
    else upload.session.OutOfTransfer

theorem blocks_append (front back : List (Letter τ)) : blocks (front ++ back) = blocks front ++ blocks back :=
  List.filterMap_append

theorem blocks_eq_nil {letters : List (Letter τ)} (others : ∀ letter ∈ letters, letter.message.type ≠ .fileData) :
    blocks letters = [] := by
  refine List.filterMap_eq_nil_iff.mpr fun letter member => ?_
  have other := others letter member
  split
  · rename_i message same
    rw [same] at other
    exact absurd rfl other
  · rfl

theorem tracks_start {session : SessionServer τ} {file : File target} (ready : session.ReadyToSend) :
    (start session).Tracks file := by
  have none : (start session).queued = [] := by
    rw [queued, accepted, start, List.nil_append]
    exact blocks_eq_nil ready.noBlocks
  refine ⟨?_, fun index message there => ?_, ?_⟩
  · rw [none]
    exact (Nat.zero_min _).symm
  · simp [none] at there
  · rw [start, if_pos (Nat.zero_le _)]
    refine ⟨Nat.zero_le _, ready.sending, ready.started, ?_, Or.inl ⟨ready.handle, rfl⟩⟩
    rw [Nat.zero_mul]
    exact ready.offset

variable {upload next : Upload τ} {file : File target}

theorem Tracks.keep (tracks : upload.Tracks file) (queued : next.queued = upload.queued)
    (rounds : next.rounds = upload.rounds)
    (session : next.session = { upload.session with outbox := next.session.outbox }) : next.Tracks file := by
  refine ⟨by rw [queued, rounds, tracks.count], queued ▸ tracks.inOrder, ?_⟩
  · have phase := tracks.phase
    rw [rounds]
    split
    · rename_i more
      rw [if_pos more] at phase
      rw [session]
      exact ⟨phase.inside, phase.sending, phase.started, phase.offset, phase.handle⟩
    · rename_i done
      rw [if_neg done] at phase
      rw [session]
      exact ⟨phase.handle, phase.receiving, phase.sending, phase.started⟩

theorem Tracks.writeData (tracks : upload.Tracks file) (stepped : upload.step file .writeData = some next) :
    next.Tracks file := by
  obtain ⟨⟨⟨queue, flag⟩, handle, offset, receiving, sending, started, buffer, name, nick⟩, written, rounds⟩ := upload
  cases queue with
  | nil =>
    cases stepped
    refine tracks.keep ?_ rfl rfl
    simp [queued, accepted]
  | cons letter rest =>
    cases stepped
    refine tracks.keep ?_ rfl rfl
    simp [queued, accepted]

theorem accepted_send (upload : Upload τ) (letter : Letter τ) :
    { upload with session := upload.session.send letter }.accepted =
      if upload.session.outbox.canSendMessages then upload.accepted ++ [letter] else upload.accepted := by
  by_cases full : upload.session.outbox.sendingQueue_.length > maxNetworkMessageQueue
  · rw [if_neg (by simpa [Outbox.canSendMessages] using full)]
    simp only [accepted, SessionServer.send, Outbox.send, Outbox.sendMessage, if_pos full]
  · rw [if_pos (by simpa [Outbox.canSendMessages] using full)]
    simp only [accepted, SessionServer.send, Outbox.send, Outbox.sendMessage, if_neg full, List.append_assoc]

theorem Tracks.chat (tracks : upload.Tracks file) (letter : Letter τ) (other : letter.message.type ≠ .fileData) :
    { upload with session := upload.session.send letter }.Tracks file := by
  refine tracks.keep ?_ rfl rfl
  have none : blocks [letter] = [] := blocks_eq_nil fun one member => by
    rw [List.mem_singleton.mp member]
    exact other
  rw [queued, accepted_send]
  split
  · rw [blocks_append, none, List.append_nil]
    rfl
  · rfl

theorem Tracks.cycle (tracks : upload.Tracks file) (raw : FileDataMessage) (origin : τ)
    (stepped : upload.step file (.cycle raw origin) = some next) : next.Tracks file := by
  cases stepped
  have phase := tracks.phase
  have count := tracks.count
  by_cases more : upload.rounds ≤ file.lastIndex
  · rw [if_pos more] at phase
    cases room : upload.session.outbox.canSendMessages with
    | false =>
      obtain ⟨sending, outbox⟩ := phase.cycle_full raw origin room
      have same : { upload with session := upload.session.cycle target raw (some file.reads) origin }.queued =
          upload.queued := by
        simp only [queued, accepted, outbox]
      exact ⟨(congrArg List.length same).trans count, fun index message there => tracks.inOrder index message
        (same ▸ there), (if_pos more).mpr sending⟩
    | true =>
      obtain ⟨message, block, outbox, phase⟩ := phase.cycle_room raw origin room
      have one : ({ upload with
          session := upload.session.cycle target raw (some file.reads) origin
          rounds := upload.rounds + 1 } : Upload τ).queued = upload.queued ++ [message] := by
        have sent := accepted_send upload ⟨.fileData message, origin⟩
        rw [if_pos room] at sent
        have blocksOf := congrArg blocks sent
        rw [blocks_append] at blocksOf
        simp only [queued, accepted, outbox]
        exact blocksOf
      rw [Nat.min_eq_left (by omega)] at count
      refine ⟨?_, fun index made there => ?_, ?_⟩
      · simp only [if_true]
        rw [one, List.length_append, count, Nat.min_eq_left (by omega)]
        rfl
      · simp only [if_true] at there
        rw [one, List.getElem?_append] at there
        split at there
        · exact tracks.inOrder index made there
        · rename_i outside
          have position : index = upload.rounds := by
            have bound := (List.getElem?_eq_some_iff.mp there).1
            simp only [List.length_singleton] at bound
            omega
          subst position
          rw [count, Nat.sub_self] at there
          cases there
          exact block
      · simp only [if_true]
        split at phase
        · have past : ¬ upload.rounds + 1 ≤ file.lastIndex := by omega
          exact (if_neg past).mpr phase
        · have further : upload.rounds + 1 ≤ file.lastIndex := by omega
          exact (if_pos further).mpr phase
  · rw [if_neg more] at phase
    simp only [phase.cycle raw (some file.reads) origin]
    have past : file.lastIndex <
        if upload.session.outbox.canSendMessages then upload.rounds + 1 else upload.rounds := by
      split <;> omega
    refine ⟨count.trans ?_, tracks.inOrder, (if_neg (Nat.not_le_of_lt past)).mpr phase⟩
    have before : file.lastIndex + 1 ≤ upload.rounds := by omega
    exact (Nat.min_eq_right before).trans (Nat.min_eq_right past).symm

theorem Tracks.step (tracks : upload.Tracks file) {event : Event τ} (stepped : upload.step file event = some next) :
    next.Tracks file := by
  cases event with
  | cycle raw origin => exact tracks.cycle raw origin stepped
  | writeData => exact tracks.writeData stepped
  | chat raw origin message =>
    rcases Option.map_eq_some_iff.mp stepped with ⟨session, chatted, rfl⟩
    cases SessionServer.chat_some chatted
    exact tracks.chat _ fun same => by cases same
  | gotChat elapsed origin message =>
    simp only [Upload.step] at stepped
    split at stepped
    · rename_i read
      cases (SessionServer.same_of_chat read).1
      cases stepped
      exact tracks
    · cases stepped

theorem tracks_of_run {session : SessionServer τ} (ready : session.ReadyToSend) {events : List (Event τ)}
    (run : Run (Upload.step file) Always (start session) events upload) : upload.Tracks file :=
  run.invariant (Tracks · file) (tracks_start ready) fun _ _ _ tracks _ stepped => tracks.step stepped

end Upload

end LanMessenger
