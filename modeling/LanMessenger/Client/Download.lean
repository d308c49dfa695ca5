import LanMessenger.Client.Upload

namespace LanMessenger

open CMemory Transition

variable {target : Target} {τ : Type}

abbrev Disk := List Byte → List Byte

def FileEffect.apply (disk : Disk) : FileEffect → Disk
  | .truncate fileName => Function.update disk fileName []
  | .write fileName position data =>
    Function.update disk fileName (Files.writeAt 0#8 (disk fileName) position data)
  | .received _ => disk

namespace SessionServer

/-- The blocks handled in turn; every file opens. The time matters to a chat message only. -/
def handleBlocks (target : Target) (origin : τ) :
    SessionServer τ → Disk → List FileDataMessage → Except Fault (SessionServer τ × Disk)
  | session, disk, [] => .ok (session, disk)
  | session, disk, message :: rest =>
    match session.availableMessage target .refuse true 0 origin (.fileData message) with
    | .error fault => .error fault
    | .ok (session, effects) => handleBlocks target origin session (effects.foldl FileEffect.apply disk) rest

/-- A reception before the block at an index; the other files are as they were on the `old` disk. -/
structure Receiving (session : SessionServer τ) (file : File target) (fileName : List Byte) (old disk : Disk)
    (index : Nat) : Prop where
  receiving : session.isReceivingFile_ = true
  name : session.fileName_.text = fileName
  others : ∀ other, other ≠ fileName → disk other = old other
  handle : (session.fileTransferHandle_ = none ∧ index = 0) ∨
    ∃ position, session.fileTransferHandle_ = some (.writing fileName position) ∧
      disk fileName = file.contents.take (index * fileBlockSize)

variable {session : SessionServer τ} {file : File target} {fileName : List Byte} {old disk : Disk} {index : Nat}
  {message : FileDataMessage}

theorem Receiving.saveData (receiving : session.Receiving file fileName old disk index)
    (block : message.IsBlockOf file index) :
    ∃ position effects, session.saveData true message.buffer (message.fileOffset target) =
        ({ session with fileTransferHandle_ := some (.writing fileName position) }, effects) ∧
      effects.foldl FileEffect.apply disk fileName = file.contents.take ((index + 1) * fileBlockSize) ∧
      ∀ other, other ≠ fileName → effects.foldl FileEffect.apply disk other = old other := by
  have offset : ¬ ((index * fileBlockSize : Nat) : Int) < 0 := by omega
  have inside : index ≤ file.contents.length / fileBlockSize := block.inside
  have written := Files.writeAt_block 0#8 inside
  rw [← block.data] at written
  unfold SessionServer.saveData
  rw [receiving.receiving, block.fileOffset]
  rcases receiving.handle with ⟨closed, rfl⟩ | ⟨at_, opened, saved⟩
  · refine ⟨(0 * fileBlockSize : Nat) + message.data.length,
      [.truncate fileName, .write fileName (0 * fileBlockSize : Nat) message.data], ?_, ?_, fun other different => ?_⟩
    · simp only [closed, receiving.name, FileHandle.fseek, if_neg offset, FileHandle.fwrite]
      rfl
    · simpa [FileEffect.apply] using written
    · simpa [FileEffect.apply, different] using receiving.others other different
  · refine ⟨index * fileBlockSize + message.data.length, [.write fileName (index * fileBlockSize) message.data],
      ?_, ?_, fun other different => ?_⟩
    · simp only [opened, FileHandle.fseek, if_neg offset, FileHandle.fwrite]
      rfl
    · simpa [FileEffect.apply, saved] using written
    · simpa [FileEffect.apply, different] using receiving.others other different

theorem Receiving.availableMessage (receiving : session.Receiving file fileName old disk index)
    (block : message.IsBlockOf file index) (origin : τ) :
    ∃ next effects, session.availableMessage target .refuse true 0 origin (.fileData message) = .ok (next, effects) ∧
      (if index = file.lastIndex then next.OutOfTransfer ∧
          effects.foldl FileEffect.apply disk fileName = file.contents ∧
          ∀ other, other ≠ fileName → effects.foldl FileEffect.apply disk other = old other
        else next.Receiving file fileName old (effects.foldl FileEffect.apply disk) (index + 1)) := by
  obtain ⟨position, effects, saved, contents, others⟩ := receiving.saveData block
  unfold SessionServer.availableMessage
  simp only [receiving.receiving, Bool.not_true, Bool.false_eq_true, if_false, saved,
    FileDataMessage.isLastBlock, block.last, decide_eq_true_eq]
  by_cases last : index = file.lastIndex
  · simp only [if_pos last]
    refine ⟨_, _, rfl, outOfTransfer_disable _, ?_, fun other different => ?_⟩
    · rw [List.foldl_append, List.foldl_cons, List.foldl_nil, FileEffect.apply, contents, last]
      exact Files.take_past_last (by decide)
    · rw [List.foldl_append, List.foldl_cons, List.foldl_nil, FileEffect.apply]
      exact others other different
  · simp only [if_neg last]
    exact ⟨_, _, rfl, rfl, receiving.name, others, Or.inr ⟨position, rfl, contents⟩⟩

theorem Receiving.handleBlocks (origin : τ) {messages : List FileDataMessage}
    (receiving : session.Receiving file fileName old disk index)
    (inOrder : ∀ (step : Nat) (message : FileDataMessage), messages[step]? = some message →
      message.IsBlockOf file (index + step))
    (count : index + messages.length = file.lastIndex + 1) (more : messages ≠ []) :
    ∃ final saved, session.handleBlocks target origin disk messages = .ok (final, saved) ∧ final.OutOfTransfer ∧
      saved fileName = file.contents ∧ ∀ other, other ≠ fileName → saved other = old other := by
  induction messages generalizing session disk index with
  | nil => exact absurd rfl more
  | cons message rest ih =>
    obtain ⟨next, effects, handled, after⟩ := receiving.availableMessage (inOrder 0 message rfl) origin
    simp only [SessionServer.handleBlocks, handled]
    rw [List.length_cons] at count
    by_cases last : index = file.lastIndex
    · rw [if_pos last] at after
      have none : rest = [] := List.length_eq_zero_iff.mp (by omega)
      subst none
      exact ⟨next, _, rfl, after⟩
    · rw [if_neg last] at after
      have nonempty : rest ≠ [] := by
        rintro rfl
        simp only [List.length_nil] at count
        omega
      refine ih after (fun step later there => ?_) (by omega) nonempty
      have block := inOrder (step + 1) later there
      rwa [← Nat.add_assoc, Nat.add_right_comm] at block

end SessionServer

namespace Upload

/-- The blocks queued for a file are in order and cover it; once all are queued the sender is done, and
    the receiver that handles what arrives of them has the same file. -/
theorem arrives_unchanged (file : File target) {session : SessionServer τ} (ready : session.ReadyToSend)
    {events : List (Event τ)} {upload : Upload τ}
    (run : Run (Upload.step file) Always (start session) events upload) :
    upload.queued.length = min upload.rounds (file.contents.length / fileBlockSize + 1) ∧
      (∀ (index : Nat) (message : FileDataMessage), upload.queued[index]? = some message →
        message.offset.toInt = index * fileBlockSize ∧ message.bufferSize ≤ fileBlockSize ∧
          (message.isLastBlock = true ↔ index = file.contents.length / fileBlockSize) ∧
          (message.isLastBlock = true → message.bufferSize = file.contents.length % fileBlockSize)) ∧
      (file.contents.length / fileBlockSize + 1 ≤ upload.rounds →
        upload.session.OutOfTransfer ∧
          ∀ (route : Nat → Route) (origin : τ) (receiver : SessionServer τ) (disk : Disk),
            receiver.isReceivingFile_ = true → receiver.fileTransferHandle_ = none →
            ∃ arrived final saved,
              upload.queued.mapIdx (fun index message => (route index).convey target message) = arrived.map some ∧
                receiver.handleBlocks target origin disk arrived = .ok (final, saved) ∧
                saved receiver.fileName_.text = file.contents ∧
                (∀ other, other ≠ receiver.fileName_.text → saved other = disk other) ∧ final.OutOfTransfer) := by
  have tracks := tracks_of_run ready run
  refine ⟨tracks.count, fun index message there => ?_, fun enough => ?_⟩
  · have block := tracks.inOrder index message there
    refine ⟨block.offset, ?_, ?_, fun last => ?_⟩
    · rw [FileDataMessage.bufferSize, block.data]
      exact Files.block_length_le index
    · rw [FileDataMessage.isLastBlock, block.last, decide_eq_true_eq, File.lastIndex]
    · rw [FileDataMessage.isLastBlock, block.last, decide_eq_true_eq] at last
      rw [FileDataMessage.bufferSize, block.data, last]
      exact Files.block_last (by decide)
  · have phase := tracks.phase
    have past : ¬ upload.rounds ≤ file.lastIndex := Nat.not_le_of_lt enough
    rw [if_neg past] at phase
    refine ⟨phase, fun route origin receiver disk receiving closed => ?_⟩
    obtain ⟨arrived, conveyed, length, inOrder⟩ := Files.exists_conveyed upload.queued
      (fun index message => (route index).convey target message)
      (fun index message => message.IsBlockOf file index)
      fun index message there => (route index).convey_block (tracks.inOrder index message there)
    have count : 0 + arrived.length = file.lastIndex + 1 := by
      rw [Nat.zero_add, length, tracks.count, Nat.min_eq_right (by exact enough)]
    have start : receiver.Receiving file receiver.fileName_.text disk disk 0 :=
      ⟨receiving, rfl, fun _ _ => rfl, Or.inl ⟨closed, rfl⟩⟩
    have nonempty : arrived ≠ [] := List.ne_nil_of_length_pos (by omega)
    obtain ⟨final, saved, handled, out, contents, others⟩ := start.handleBlocks origin
      (fun step message there => by rw [Nat.zero_add]; exact inOrder step message there) count nonempty
    exact ⟨arrived, final, saved, conveyed, handled, contents, others, out⟩

theorem arrives_unchanged_oneByte :
    ∃ upload arrived final saved,
      exec (Upload.step (⟨[97#8], by decide⟩ : File .m64))
          (start { (SessionServer.new (Field.zero _) (Field.zero _) (Field.zero _) ()).sendFile ()
            ⟨ascii ['f'], by decide, by decide, by decide⟩ with hasFileTransferStarted_ := true })
          [.cycle Heap.zeroed.fileData (), .writeData] = some upload ∧
        upload.queued.mapIdx (fun _ message => (Route.mk ⟨Heap.zeroed, Field.zero _⟩ Heap.zeroed.fileData
          ⟨Heap.zeroed, Field.zero _⟩).convey .m64 message) = arrived.map some ∧
        SessionServer.handleBlocks .m64 ()
          { SessionServer.new (Field.zero _) (Field.zero _) (Field.zero _) () with
            isReceivingFile_ := true, fileName_ := (Field.zero _).set 0 103#8 } (fun _ => []) arrived =
              .ok (final, saved) ∧
        saved (ascii ['g']) = [97#8] := by
  let file : File .m64 := ⟨[97#8], by decide⟩
  let session : SessionServer Unit := { (SessionServer.new (Field.zero _) (Field.zero _) (Field.zero _) ()).sendFile ()
    ⟨ascii ['f'], by decide, by decide, by decide⟩ with hasFileTransferStarted_ := true }
  have ready : session.ReadyToSend := ⟨rfl, rfl, rfl, rfl, by decide⟩
  let events : List (Event Unit) := [.cycle Heap.zeroed.fileData (), .writeData]
  obtain ⟨upload, executed, rounds⟩ := Option.map_eq_some_iff.mp
    (by decide +kernel : (exec (Upload.step file) (start session) events).map Upload.rounds = some 1)
  obtain ⟨-, -, complete⟩ := arrives_unchanged file ready (run_of_exec executed)
  have enough : file.contents.length / fileBlockSize + 1 ≤ upload.rounds := by
    rw [rounds]
    decide
  obtain ⟨-, received⟩ := complete enough
  obtain ⟨arrived, final, saved, conveyed, handled, contents, -, -⟩ := received
    (fun _ => ⟨⟨Heap.zeroed, Field.zero _⟩, Heap.zeroed.fileData, ⟨Heap.zeroed, Field.zero _⟩⟩) ()
    { SessionServer.new (Field.zero _) (Field.zero _) (Field.zero _) () with
      isReceivingFile_ := true, fileName_ := (Field.zero _).set 0 103#8 } (fun _ => []) rfl rfl
  exact ⟨upload, arrived, final, saved, executed, conveyed, handled, contents⟩

end Upload

end LanMessenger
