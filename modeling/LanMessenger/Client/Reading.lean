import LanMessenger.Client.Positions
import LanMessenger.Client.TransferState
import Mathlib.Data.List.Forall2

namespace LanMessenger

open CMemory Transition

variable {target : Target} {τ : Type}

namespace Fread

def delivered : Fread → Option Byte
  | byte value => some value
  | _ => none

/-- The loop of `cycle` goes on to the next cell. -/
def passes : Fread → Bool
  | endOfFile => false
  | _ => true

@[simp] theorem delivered_byte (value : Byte) : (byte value).delivered = some value := rfl
@[simp] theorem delivered_endOfFile : endOfFile.delivered = none := rfl
@[simp] theorem delivered_error : error.delivered = none := rfl
@[simp] theorem passes_byte (value : Byte) : (byte value).passes = true := rfl
@[simp] theorem passes_endOfFile : endOfFile.passes = false := rfl
@[simp] theorem passes_error : error.passes = true := rfl

theorem length_delivered_le (outcomes : List Fread) :
    (outcomes.filterMap delivered).length ≤ (outcomes.filter passes).length := by
  induction outcomes with
  | nil => exact Nat.le_refl _
  | cons outcome outcomes ih =>
    cases outcome <;> simp [List.filterMap_cons, List.filter_cons]
    all_goals omega

theorem no_error_iff (outcomes : List Fread) :
    error ∉ outcomes ↔ (outcomes.filterMap delivered).length = (outcomes.filter passes).length := by
  induction outcomes with
  | nil => simp
  | cons outcome outcomes ih =>
    have short := length_delivered_le outcomes
    cases outcome with
    | byte value => simpa [List.filterMap_cons, List.filter_cons] using ih
    | endOfFile => simpa [List.filterMap_cons, List.filter_cons] using ih
    | error =>
      apply iff_of_false (by simp)
      simp only [List.filterMap_cons, delivered_error, List.filter_cons, passes_error, if_true, List.length_cons]
      omega

end Fread

namespace SessionServer

def readOutcomes : List Byte → FileHandle → List Fread
  | [], _ => []
  | _ :: cells, handle =>
    match handle.fread with
    | (.endOfFile, _) => [.endOfFile]
    | (outcome, handle) => outcome :: readOutcomes cells handle

structure Fills (data : List Byte) (outcomes : List Fread) : Prop where
  length : data.length = (outcomes.filter Fread.passes).length
  clean : Fread.error ∉ outcomes → data = outcomes.filterMap Fread.delivered

theorem fills_readBlock (cells : List Byte) (handle : FileHandle) :
    Fills (readBlock cells handle).1 (readOutcomes cells handle) := by
  induction cells generalizing handle with
  | nil => exact ⟨rfl, fun _ => rfl⟩
  | cons cell cells ih =>
    rw [readBlock, readOutcomes]
    rcases handle.fread with ⟨outcome, after⟩
    cases outcome with
    | byte value =>
      have rest := ih after
      refine ⟨congrArg Nat.succ rest.length, fun clean => ?_⟩
      exact congrArg (value :: ·) (rest.clean fun failed => clean (List.mem_cons_of_mem _ failed))
    | endOfFile => exact ⟨rfl, fun _ => rfl⟩
    | error => exact ⟨congrArg Nat.succ (ih after).length, fun clean => absurd (List.mem_cons_self ..) clean⟩

theorem readOutcomes_ne_nil {cells : List Byte} (some : cells ≠ []) (handle : FileHandle) : readOutcomes cells handle ≠ [] := by
  cases cells with
  | nil => exact absurd rfl some
  | cons cell cells =>
    rw [readOutcomes]
    split <;> simp

def Sourced (file : Readable) (calls : Nat) (outcomes : List Fread) : Prop :=
  ∀ index outcome, outcomes[index]? = some outcome → ∃ position, outcome = file position (calls + index)

theorem Sourced.nil (file : Readable) (calls : Nat) : Sourced file calls [] := by
  intro index outcome there
  simp at there

theorem Sourced.cons {file : Readable} {position calls : Nat} {first : Fread} {outcomes : List Fread}
    (made : file position calls = first) (sourced : Sourced file (calls + 1) outcomes) :
    Sourced file calls (first :: outcomes) := by
  intro index outcome there
  cases index with
  | zero =>
    cases there
    exact ⟨position, made.symm⟩
  | succ index =>
    rcases sourced index outcome there with ⟨at_, same⟩
    exact ⟨at_, by rw [same, Nat.add_right_comm, Nat.add_assoc]⟩

theorem Sourced.append {file : Readable} {calls : Nat} {front back : List Fread} (sourced : Sourced file calls front)
    (rest : Sourced file (calls + front.length) back) : Sourced file calls (front ++ back) := by
  intro index outcome there
  rcases Nat.lt_or_ge index front.length with before | behind
  · rw [List.getElem?_append_left before] at there
    exact sourced index outcome there
  · rw [List.getElem?_append_right behind] at there
    rcases rest _ outcome there with ⟨at_, same⟩
    exact ⟨at_, by rw [same, Nat.add_assoc, Nat.add_sub_cancel' behind]⟩

theorem sourced_readOutcomes (cells : List Byte) (file : Readable) (position calls : Nat) :
    Sourced file calls (readOutcomes cells (.reading file position calls)) := by
  induction cells generalizing position calls with
  | nil => exact .nil file calls
  | cons cell cells ih =>
    rw [readOutcomes, FileHandle.fread]
    cases made : file position calls with
    | byte value => exact .cons made (ih (position + 1) (calls + 1))
    | endOfFile => exact .cons made (.nil file _)
    | error => exact .cons made (ih position (calls + 1))

theorem handle_readBlock (cells : List Byte) (file : Readable) (position calls : Nat) :
    ∃ reached, (readBlock cells (.reading file position calls)).2.2 =
      .reading file reached (calls + (readOutcomes cells (.reading file position calls)).length) := by
  induction cells generalizing position calls with
  | nil => exact ⟨position, rfl⟩
  | cons cell cells ih =>
    rw [readBlock, readOutcomes, FileHandle.fread]
    cases made : file position calls with
    | byte value =>
      rcases ih (position + 1) (calls + 1) with ⟨reached, rest⟩
      exact ⟨reached, by rw [List.length_cons, ← Nat.add_assoc, Nat.add_right_comm]; exact rest⟩
    | endOfFile => exact ⟨position, rfl⟩
    | error =>
      rcases ih position (calls + 1) with ⟨reached, rest⟩
      exact ⟨reached, by rw [List.length_cons, ← Nat.add_assoc, Nat.add_right_comm]; exact rest⟩

theorem sendBlock_sending {session : SessionServer τ} {raw : FileDataMessage} {origin : τ} {handle : FileHandle}
    (goes : (session.sendBlock target raw origin handle).isSendingFile_ = true) :
    (session.sendBlock target raw origin handle).fileTransferOffset_ =
        session.fileTransferOffset_ + BitVec.ofNat 64 (session.block raw handle).1.length ∧
      (session.sendBlock target raw origin handle).fileTransferHandle_ = some (session.block raw handle).2.2 := by
  unfold sendBlock at goes ⊢
  simp only at goes ⊢
  split at goes
  · cases goes
  · rename_i more
    rw [if_neg more]
    exact ⟨rfl, rfl⟩

end SessionServer

def Readable.FailsFrom (file : Readable) (count : Nat) : Prop := ∀ position calls, count ≤ calls → file position calls = .error

/-- A file of this many bytes at most, each of which can be read. -/
structure Readable.Holds (file : Readable) (count : Nat) : Prop where
  readable : ∀ position calls, file position calls ≠ .error
  ends : ∀ position calls, count ≤ calls → file position calls = .endOfFile

/-- A transfer that reads a file: the blocks that `cycle` has put into the queue, and for each of them the outcomes of
    its calls of `fread`. -/
structure Reading (τ : Type) where
  session : SessionServer τ
  sent : List FileDataMessage
  reads : List (List Fread)

namespace Reading

def start (session : SessionServer τ) : Reading τ := ⟨session, [], []⟩

/-- Others write from the queue and add to it. -/
inductive Event (τ : Type)
  | cycle (raw : FileDataMessage) (origin : τ)
  | queue (outbox : Outbox τ)

def cycleReads (file : Readable) (session : SessionServer τ) (raw : FileDataMessage) : Option (List Fread) :=
  if session.isSendingFile_ && session.hasFileTransferStarted_ && session.outbox.canSendMessages then
    some (SessionServer.readOutcomes
      (session.fileTransferBuffer_.bytes.take (maxPayloadSize - (FileDataMessage.new raw).size))
      (session.fileTransferHandle_.getD (.reading file 0 0)))
  else none

def step (target : Target) (file : Readable) (reading : Reading τ) : Event τ → Option (Reading τ)
  | .cycle raw origin =>
    let session := reading.session.cycle target raw (some file) origin
    some {
      session
      sent := reading.sent ++
        Upload.blocks (session.outbox.sendingQueue_.drop reading.session.outbox.sendingQueue_.length)
      reads := reading.reads ++ (cycleReads file reading.session raw).toList }
  | .queue outbox => some { reading with session := { reading.session with outbox } }

def handle (reading : Reading τ) (file : Readable) : FileHandle :=
  reading.session.fileTransferHandle_.getD (.reading file 0 0)

def deliveredBefore (reading : Reading τ) (index : Nat) : List Byte :=
  (reading.reads.take index).flatten.filterMap Fread.delivered

/-- The blocks are what was read, and each says how much was read before it. -/
structure Faithful (reading : Reading τ) : Prop where
  data : reading.sent.flatMap FileDataMessage.data = reading.reads.flatten.filterMap Fread.delivered
  offsets : ∀ index message, reading.sent[index]? = some message →
    message.offset.toInt = ((reading.deliveredBefore index).length : Int)

/-- No read failed, and the number of bytes read before each block fits into a `long`. -/
structure Clean (reading : Reading τ) (target : Target) : Prop where
  reads : Fread.error ∉ reading.reads.flatten
  fits : ∀ index < reading.sent.length, (reading.deliveredBefore index).length < 2 ^ (target.longBits - 1)

abbrev Filled (sent : List FileDataMessage) (reads : List (List Fread)) : Prop :=
  List.Forall₂ (fun message outcomes => SessionServer.Fills message.data outcomes ∧ outcomes ≠ []) sent reads

namespace Filled

variable {sent : List FileDataMessage} {reads : List (List Fread)}

theorem length_data (filled : Filled sent reads) :
    (sent.flatMap FileDataMessage.data).length = (reads.flatten.filter Fread.passes).length := by
  induction filled with
  | nil => rfl
  | cons first _ ih =>
    rw [List.flatMap_cons, List.length_append, ih, first.1.length, List.flatten_cons, List.filter_append, List.length_append]

theorem data_of_clean (filled : Filled sent reads) (clean : Fread.error ∉ reads.flatten) :
    sent.flatMap FileDataMessage.data = reads.flatten.filterMap Fread.delivered := by
  induction filled with
  | nil => rfl
  | cons first _ ih =>
    rw [List.flatten_cons, List.mem_append, not_or] at clean
    rw [List.flatMap_cons, ih clean.2, first.1.clean clean.1, List.flatten_cons, List.filterMap_append]

theorem length_le (filled : Filled sent reads) : sent.length ≤ reads.flatten.length := by
  induction filled with
  | nil => exact Nat.le_refl _
  | cons first _ ih =>
    have some := List.length_pos_of_ne_nil first.2
    rw [List.length_cons, List.flatten_cons, List.length_append]
    omega

end Filled

structure Tracks (reading : Reading τ) (target : Target) (file : Readable) : Prop where
  filled : Filled reading.sent reading.reads
  offsets : ∀ index message, reading.sent[index]? = some message → message.offset.toInt =
    target.long (BitVec.ofNat 64 ((reading.sent.take index).flatMap FileDataMessage.data).length).toNat
  sourced : SessionServer.Sourced file 0 reading.reads.flatten
  phase : reading.session.isSendingFile_ = true →
    reading.session.fileTransferOffset_ = BitVec.ofNat 64 (reading.sent.flatMap FileDataMessage.data).length ∧
      ∃ position, reading.handle file = .reading file position reading.reads.flatten.length

variable {reading next : Reading τ} {file : Readable} {session : SessionServer τ}

theorem tracks_start (ready : session.ReadyToSend) : (start session).Tracks target file := by
  refine ⟨.nil, fun index message there => ?_, .nil file 0, fun _ => ⟨ready.offset, 0, ?_⟩⟩
  · simp [start] at there
  · rw [handle, start, ready.handle]
    rfl

theorem step_idle (raw : FileDataMessage) (origin : τ)
    (idle : ¬ (reading.session.isSendingFile_ = true ∧ reading.session.hasFileTransferStarted_ = true)) :
    reading.step target file (.cycle raw origin) = some reading := by
  have silent : cycleReads file reading.session raw = none :=
    if_neg fun reads => by simp only [Bool.and_eq_true] at reads; exact idle reads.1
  simp [step, reading.session.cycle_idle raw (some file) idle, silent, Upload.blocks]

variable {raw : FileDataMessage} {origin : τ}

theorem opened (reading : Reading τ) (file : Readable) :
    (reading.session.fileTransferHandle_ <|> (some file).map (FileHandle.reading · 0 0)) = some (reading.handle file) := by
  rw [handle]
  cases reading.session.fileTransferHandle_ <;> rfl

theorem step_full (going : reading.session.isSendingFile_ = true ∧ reading.session.hasFileTransferStarted_ = true)
    (full : reading.session.outbox.canSendMessages = false) : reading.step target file (.cycle raw origin) =
      some { reading with session.fileTransferHandle_ := some (reading.handle file) } := by
  have cycled : reading.session.cycle target raw (some file) origin =
      { reading.session with fileTransferHandle_ := some (reading.handle file) } := by
    simp only [SessionServer.cycle, going.1, going.2, reading.opened, full]
    rfl
  have silent : cycleReads file reading.session raw = none := if_neg (by simp [full])
  simp [step, cycled, silent, Upload.blocks]

theorem step_room (going : reading.session.isSendingFile_ = true ∧ reading.session.hasFileTransferStarted_ = true)
    (room : reading.session.outbox.canSendMessages = true) : reading.step target file (.cycle raw origin) = some {
      session := reading.session.sendBlock target raw origin (reading.handle file)
      sent := reading.sent ++ [reading.session.blockMessage target raw (reading.handle file)]
      reads := reading.reads ++ [SessionServer.readOutcomes
        (reading.session.fileTransferBuffer_.bytes.take (maxPayloadSize - (FileDataMessage.new raw).size))
        (reading.handle file)] } := by
  have cycled : reading.session.cycle target raw (some file) origin =
      reading.session.sendBlock target raw origin (reading.handle file) := by
    simp only [SessionServer.cycle, going.1, going.2, reading.opened, room]
    rfl
  have reads : cycleReads file reading.session raw = some (SessionServer.readOutcomes
      (reading.session.fileTransferBuffer_.bytes.take (maxPayloadSize - (FileDataMessage.new raw).size))
      (reading.handle file)) := if_pos (by simp [going, room])
  simp only [step, cycled, reads, SessionServer.outbox_sendBlock, Outbox.send_of_room room, List.drop_left]
  rfl

theorem Tracks.handled (tracks : reading.Tracks target file) (going : reading.session.isSendingFile_ = true) (outbox : Outbox τ) :
    ({ reading with session := { reading.session with
      outbox, fileTransferHandle_ := some (reading.handle file) } } : Reading τ).Tracks target file :=
  ⟨tracks.filled, tracks.offsets, tracks.sourced, fun _ => tracks.phase going⟩

theorem Tracks.room (tracks : reading.Tracks target file)
    (going : reading.session.isSendingFile_ = true ∧ reading.session.hasFileTransferStarted_ = true)
    (room : reading.session.outbox.canSendMessages = true)
    (stepped : reading.step target file (.cycle raw origin) = some next) : next.Tracks target file := by
  rw [step_room going room] at stepped
  cases stepped
  rcases tracks.phase going.1 with ⟨offset, position, open_⟩
  let cells := reading.session.fileTransferBuffer_.bytes.take (maxPayloadSize - (FileDataMessage.new raw).size)
  have cellsNonempty : cells ≠ [] := by
    apply List.ne_nil_of_length_pos
    rw [SessionServer.length_cells]
    decide
  refine ⟨?_, fun index message there => ?_, ?_, fun sending => ?_⟩
  · refine List.rel_append tracks.filled (.cons ⟨?_, SessionServer.readOutcomes_ne_nil cellsNonempty _⟩ .nil)
    rw [SessionServer.data_blockMessage]
    exact SessionServer.fills_readBlock cells (reading.handle file)
  · rcases Nat.lt_or_ge index reading.sent.length with before | behind
    · rw [List.getElem?_append_left before] at there
      rw [List.take_append_of_le_length (Nat.le_of_lt before)]
      exact tracks.offsets index message there
    · have last : index = reading.sent.length := by
        have bound := (List.getElem?_eq_some_iff.mp there).1
        rw [List.length_append, List.length_singleton] at bound
        omega
      subst last
      rw [List.getElem?_concat_length] at there
      cases there
      rw [List.take_left, SessionServer.offset_blockMessage, FileDataMessage.toInt_setFileOffset_eq, offset]
  · rw [List.flatten_append, List.flatten_singleton, open_]
    apply tracks.sourced.append
    rw [Nat.zero_add]
    exact SessionServer.sourced_readOutcomes cells file position _
  · rcases SessionServer.sendBlock_sending sending with ⟨moved, held⟩
    rcases SessionServer.handle_readBlock cells file position reading.reads.flatten.length with ⟨reached, counted⟩
    refine ⟨?_, reached, ?_⟩
    · rw [moved, offset, ← BitVec.ofNat_add, List.flatMap_append, List.length_append, List.flatMap_singleton,
        SessionServer.data_blockMessage]
    · rw [handle, held, List.flatten_append, List.flatten_singleton, List.length_append, open_]
      exact counted

theorem Tracks.step (tracks : reading.Tracks target file) {event : Event τ}
    (stepped : reading.step target file event = some next) : next.Tracks target file := by
  cases event with
  | cycle raw origin =>
    by_cases going : reading.session.isSendingFile_ = true ∧ reading.session.hasFileTransferStarted_ = true
    · cases room : reading.session.outbox.canSendMessages with
      | true => exact tracks.room going room stepped
      | false =>
        rw [step_full going room] at stepped
        cases stepped
        exact tracks.handled going.1 _
    · rw [step_idle raw origin going] at stepped
      cases stepped
      exact tracks
  | queue outbox =>
    cases stepped
    exact ⟨tracks.filled, tracks.offsets, tracks.sourced, tracks.phase⟩

theorem tracks_of_run (ready : session.ReadyToSend) {events : List (Event τ)}
    (run : Run (Reading.step target file) Always (start session) events reading) : reading.Tracks target file :=
  run.invariant (Tracks · target file) (tracks_start ready) fun _ _ _ tracks _ stepped => tracks.step stepped

theorem Tracks.faithful_iff (tracks : reading.Tracks target file) : reading.Faithful ↔ reading.Clean target := by
  constructor
  · intro faithful
    refine ⟨?_, fun index inside => ?_⟩
    · rw [Fread.no_error_iff, ← faithful.data]
      exact tracks.filled.length_data
    · have there := List.getElem?_eq_getElem inside
      have said := faithful.offsets index _ there
      rw [tracks.offsets index _ there] at said
      have bound : target.long (BitVec.ofNat 64 ((reading.sent.take index).flatMap FileDataMessage.data).length).toNat <
          2 ^ (target.longBits - 1) := BitVec.toInt_lt
      rw [said] at bound
      exact_mod_cast bound
  · intro clean
    refine ⟨tracks.filled.data_of_clean clean.reads, fun index message there => ?_⟩
    have inside := (List.getElem?_eq_some_iff.mp there).1
    have before : Fread.error ∉ (reading.reads.take index).flatten := fun failed =>
      clean.reads ((List.take_sublist index reading.reads).flatten.mem failed)
    have data : (reading.sent.take index).flatMap FileDataMessage.data = reading.deliveredBefore index :=
      Filled.data_of_clean (List.forall₂_take index tracks.filled) before
    have small := clean.fits index inside
    have wide : (reading.deliveredBefore index).length < 2 ^ 64 :=
      Nat.lt_of_lt_of_le small (by cases target <;> decide)
    rw [tracks.offsets index message there, data, BitVec.toNat_ofNat, Nat.mod_eq_of_lt wide]
    exact target.long_of_lt _ small

theorem Tracks.failed (tracks : reading.Tracks target file) {count : Nat} (fails : file.FailsFrom count)
    (further : count < reading.reads.flatten.length) : Fread.error ∈ reading.reads.flatten := by
  have there := List.getElem?_eq_getElem further
  rcases tracks.sourced count _ there with ⟨position, made⟩
  rw [fails position _ (by omega)] at made
  rw [← made]
  exact List.getElem_mem further

theorem Tracks.clean_of_holds (tracks : reading.Tracks target file) {count : Nat} (holds : file.Holds count)
    (small : count < 2 ^ (target.longBits - 1)) : reading.Clean target := by
  constructor
  · intro failed
    rcases List.getElem?_of_mem failed with ⟨index, there⟩
    rcases tracks.sourced index _ there with ⟨position, made⟩
    exact holds.readable position _ made.symm
  · intro index _
    have whole : (reading.reads.take index).flatten ++ (reading.reads.drop index).flatten = reading.reads.flatten := by
      rw [← List.flatten_append, List.take_append_drop]
    -- no call delivers a byte but the first ones
    have behind : ((reading.reads.take index).flatten.drop count).filterMap Fread.delivered = [] := by
      rw [List.filterMap_eq_nil_iff]
      intro outcome member
      rcases List.getElem?_of_mem member with ⟨place, there⟩
      rw [List.getElem?_drop] at there
      have early : reading.reads.flatten[count + place]? = some outcome := by
        rw [← whole, List.getElem?_append_left (List.getElem?_eq_some_iff.mp there).1, there]
      rcases tracks.sourced (count + place) outcome early with ⟨position, made⟩
      rw [made, holds.ends position _ (by omega), Fread.delivered_endOfFile]
    refine Nat.lt_of_le_of_lt ?_ small
    rw [deliveredBefore, ← List.take_append_drop count (reading.reads.take index).flatten, List.filterMap_append, behind,
      List.append_nil]
    exact (List.length_filterMap_le _ _).trans (List.length_take_le _ _)

theorem readBlock_fails {count : Nat} (fails : file.FailsFrom count) (cells : List Byte) (position : Nat) {calls : Nat}
    (past : count ≤ calls) : (SessionServer.readBlock cells (.reading file position calls)).2.1 = false := by
  induction cells generalizing calls with
  | nil => rfl
  | cons cell cells ih =>
    rw [SessionServer.readBlock, FileHandle.fread, fails position calls past]
    exact ih (Nat.le_succ_of_le past)

theorem goes_sendBlock {handle : FileHandle} (more : (session.block raw handle).2.1 = false) :
    (session.sendBlock target raw origin handle).isSendingFile_ = session.isSendingFile_ ∧
      (session.sendBlock target raw origin handle).hasFileTransferStarted_ = session.hasFileTransferStarted_ := by
  unfold SessionServer.sendBlock
  unfold SessionServer.block at more
  simp only [more]
  exact ⟨rfl, rfl⟩

/-- A read error that persists never ends the transfer: each further call of `cycle` that finds room sends a block. -/
theorem Tracks.endless (tracks : reading.Tracks target file) {count : Nat} (fails : file.FailsFrom count)
    (past : count ≤ reading.reads.flatten.length)
    (going : reading.session.isSendingFile_ = true ∧ reading.session.hasFileTransferStarted_ = true) (raw : FileDataMessage)
    (origin : τ) (more : Nat) :
    ∃ events next, Run (Reading.step target file) Always reading events next ∧
      next.sent.length = reading.sent.length + more := by
  induction more generalizing reading with
  | zero => exact ⟨[], reading, .nil, rfl⟩
  | succ more ih =>
    let emptied : Reading τ := { reading with session := { reading.session with outbox := .new } }
    have emptying : reading.step target file (.queue .new) = some emptied := rfl
    have same : emptied.Tracks target file := tracks.step emptying
    have stepped : emptied.step target file (.cycle raw origin) = some _ := step_room going rfl
    have after := same.step stepped
    rcases same.phase going.1 with ⟨-, position, open_⟩
    have goes : (emptied.session.block raw (emptied.handle file)).2.1 = false := by
      rw [open_]
      exact readBlock_fails fails _ position past
    have still : (emptied.session.sendBlock target raw origin (emptied.handle file)).isSendingFile_ = true ∧
        (emptied.session.sendBlock target raw origin (emptied.handle file)).hasFileTransferStarted_ = true := by
      rw [(goes_sendBlock goes).1, (goes_sendBlock goes).2]
      exact going
    obtain ⟨events, last, run, sent⟩ := ih after (by
      rw [List.flatten_append, List.length_append]
      exact Nat.le_add_right_of_le past) still
    refine ⟨_, last, ((Run.nil.snoc trivial emptying).snoc trivial stepped).trans run, ?_⟩
    rw [sent, List.length_append, List.length_singleton]
    show reading.sent.length + 1 + more = reading.sent.length + (more + 1)
    omega

/-- The blocks of a transfer are what was read of its file, each at its position, and a persistent error ends it, if
    and only if no call of `fread` in it fails and no block lies past what a `long` holds. -/
theorem blocks_iff (ready : session.ReadyToSend) :
    (∀ events reading, Run (Reading.step target file) Always (start session) events reading → reading.Faithful) ∧
        (∀ count, file.FailsFrom count → ∃ bound, ∀ events reading,
          Run (Reading.step target file) Always (start session) events reading → reading.sent.length ≤ bound) ↔
      ∀ events reading, Run (Reading.step target file) Always (start session) events reading → reading.Clean target := by
  constructor
  · intro both events reading run
    exact (tracks_of_run ready run).faithful_iff.mp (both.1 events reading run)
  · intro clean
    refine ⟨fun events reading run => (tracks_of_run ready run).faithful_iff.mpr (clean events reading run),
      fun count fails => ⟨count, fun events reading run => ?_⟩⟩
    have tracks := tracks_of_run ready run
    apply tracks.filled.length_le.trans
    by_contra further
    exact (clean events reading run).reads (tracks.failed fails (Nat.lt_of_not_le further))

def threeBytes : Readable := fun _ calls => if calls < 3 then .byte 65#8 else .endOfFile

theorem holds_threeBytes : threeBytes.Holds 3 := by
  constructor
  · intro position calls
    unfold threeBytes
    split <;> exact fun failed => by cases failed
  · intro position calls further
    exact if_neg (by omega)

/-- All transfers of the file are right; and one call of `cycle` sends it. -/
theorem blocks_iff_threeBytes :
    ((∀ events reading, Run (Reading.step .m32 threeBytes) Always (start SessionServer.uploading) events reading →
          reading.Faithful) ∧
        ∀ count, threeBytes.FailsFrom count → ∃ bound, ∀ events reading,
          Run (Reading.step .m32 threeBytes) Always (start SessionServer.uploading) events reading →
            reading.sent.length ≤ bound) ∧
      ∃ reading, Run (Reading.step .m32 threeBytes) Always (start SessionServer.uploading)
          [.cycle Heap.zeroed.fileData ()] reading ∧
        reading.sent.map FileDataMessage.data = [ascii ['A', 'A', 'A']] := by
  constructor
  · apply (blocks_iff SessionServer.readyToSend_uploading).mpr
    intro events reading run
    exact (tracks_of_run SessionServer.readyToSend_uploading run).clean_of_holds holds_threeBytes (by decide)
  · have outcome : (exec (Reading.step .m32 threeBytes) (start SessionServer.uploading)
        [.cycle Heap.zeroed.fileData ()]).map (fun reading => reading.sent.map FileDataMessage.data) =
          some [ascii ['A', 'A', 'A']] := by
      decide +kernel
    rcases Option.map_eq_some_iff.mp outcome with ⟨reading, executed, data⟩
    exact ⟨reading, run_of_exec executed, data⟩

/-- A directory: each call of `fread` fails. -/
theorem blocks_unread :
    ∃ file : Readable, file.FailsFrom 0 ∧
      (∃ events reading, Run (Reading.step .m64 file) Always (start SessionServer.uploading) events reading ∧
        ¬ reading.Faithful) ∧
      ∀ bound, ∃ events reading, Run (Reading.step .m64 file) Always (start SessionServer.uploading) events reading ∧
        bound < reading.sent.length := by
  have fails : Readable.FailsFrom (fun _ _ => .error) 0 := fun _ _ _ => rfl
  have initial : (start SessionServer.uploading).Tracks .m64 fun _ _ => .error :=
    tracks_start SessionServer.readyToSend_uploading
  refine ⟨_, fails, ?_, fun bound => ?_⟩
  · rcases initial.endless fails (Nat.zero_le _) ⟨rfl, rfl⟩ Heap.zeroed.fileData () 1 with ⟨events, reading, run, sent⟩
    have tracks := tracks_of_run SessionServer.readyToSend_uploading run
    refine ⟨events, reading, run, fun faithful => ?_⟩
    exact (tracks.faithful_iff.mp faithful).reads (tracks.failed fails (Nat.lt_of_lt_of_le (by rw [sent]; decide)
      tracks.filled.length_le))
  · obtain ⟨events, reading, run, sent⟩ :=
      initial.endless fails (Nat.zero_le _) ⟨rfl, rfl⟩ Heap.zeroed.fileData () (bound + 1)
    exact ⟨events, reading, run, by rw [sent]; exact Nat.lt_add_left 0 (Nat.lt_succ_self bound)⟩

end Reading

end LanMessenger
