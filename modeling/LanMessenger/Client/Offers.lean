import LanMessenger.Client.Positions
import LanMessenger.Client.Saving

namespace LanMessenger

open CMemory Transition

variable {target : Target} {τ : Type}

namespace SessionServer

variable {session : SessionServer τ}

/-- A call of `cycle`: it does nothing, it gives up, it opens the file while the queue is full, or it sends a block. -/
theorem cycle_cases (raw : FileDataMessage) (fopen : Option Readable) (origin : τ) :
    session.cycle target raw fopen origin = session ∨
      session.cycle target raw fopen origin = session.disableFileTransferMode ∨
      (session.isSendingFile_ = true ∧ session.hasFileTransferStarted_ = true ∧
        ∃ handle, (session.fileTransferHandle_ <|> fopen.map (FileHandle.reading · 0 0)) = some handle ∧
          (session.cycle target raw fopen origin = { session with fileTransferHandle_ := some handle } ∨
            session.cycle target raw fopen origin = session.sendBlock target raw origin handle)) := by
  by_cases idle : (!session.isSendingFile_ || !session.hasFileTransferStarted_) = true
  · left
    rw [cycle, if_pos idle]
  · right
    rw [cycle, if_neg idle]
    simp only [Bool.or_eq_true, Bool.not_eq_true', not_or, Bool.not_eq_false] at idle
    split
    · exact Or.inl rfl
    · rename_i handle opened
      refine Or.inr ⟨idle.1, idle.2, handle, opened, ?_⟩
      split
      · exact Or.inl rfl
      · exact Or.inr rfl

/-- A client that sends nothing but blocks of files which its user offered and which it opened: `offered` are the
names, and `opened` the files that they stood for. -/
structure Offers (session : SessionServer τ) (offered : List (List Byte)) (opened : List (List Byte × File target)) :
    Prop where
  oneRole : session.isSendingFile_ = true → session.isReceivingFile_ = false
  named : session.isSendingFile_ = true → session.fileName_.text ∈ offered ∨ session.fileName_.text = []
  closed : session.isSendingFile_ = false → session.isReceivingFile_ = false → session.fileTransferHandle_ = none
  fresh : session.isSendingFile_ = false → session.fileTransferOffset_ = 0#64
  reading : session.isSendingFile_ = true →
    (session.fileTransferHandle_ = none ∧ session.fileTransferOffset_ = 0#64) ∨
    ∃ name ∈ offered, ∃ file index calls, (name, file) ∈ opened ∧ index ≤ file.lastIndex ∧
      session.fileTransferOffset_ = BitVec.ofNat 64 (index * fileBlockSize) ∧
      session.fileTransferHandle_ = some (.reading file.reads (index * fileBlockSize) calls)

variable {offered : List (List Byte)} {opened : List (List Byte × File target)} {origin : τ}

theorem offers_disabled (idle : session.isSendingFile_ = false) (apart : session.isReceivingFile_ = false)
    (closed : session.fileTransferHandle_ = none) (fresh : session.fileTransferOffset_ = 0#64) :
    session.Offers offered opened := by
  refine ⟨fun _ => apart, fun sending => ?_, fun _ _ => closed, fun _ => fresh, fun sending => ?_⟩
  · rw [idle] at sending
    cases sending
  · rw [idle] at sending
    cases sending

theorem Offers.mono (offers : session.Offers offered opened) {names : List (List Byte)}
    {files : List (List Byte × File target)} (more : offered ⊆ names) (further : opened ⊆ files) :
    session.Offers names files := by
  refine ⟨offers.oneRole, fun sending => (offers.named sending).imp_left fun was => more was, offers.closed, offers.fresh,
    fun sending => (offers.reading sending).imp_right ?_⟩
  rintro ⟨name, was, file, index, calls, found, rest⟩
  exact ⟨name, more was, file, index, calls, further found, rest⟩

theorem Offers.queue (offers : session.Offers offered opened) (outbox : Outbox τ) :
    ({ session with outbox } : SessionServer τ).Offers offered opened :=
  ⟨offers.oneRole, offers.named, offers.closed, offers.fresh, offers.reading⟩

theorem Offers.sendFile (offers : session.Offers offered opened) (free : session.hasFileTransfer = false)
    (origin : τ) (fileName : FileName) :
    (session.sendFile origin fileName).Offers (offered ++ [fileName.text]) opened := by
  simp only [hasFileTransfer, Bool.or_eq_false_iff] at free
  rcases free with ⟨apart, idle⟩
  refine ⟨fun _ => apart, fun _ => Or.inl ?_, fun still => Bool.noConfusion still, fun still => Bool.noConfusion still,
    fun _ => Or.inl ⟨offers.closed idle apart, offers.fresh idle⟩⟩
  have named : (session.sendFile origin fileName).fileName_.text = fileName.text :=
    text_overwrite_strncpy session.fileName_ fileName
  rw [named]
  exact List.mem_append_right _ List.mem_cons_self

def opens (session : SessionServer τ) : Bool :=
  session.isSendingFile_ && session.hasFileTransferStarted_ && session.fileTransferHandle_.isNone

def recordOpened (session : SessionServer τ) (file : Option (File target)) (opened : List (List Byte × File target)) :
    List (List Byte × File target) :=
  if session.opens then opened ++ (file.map fun file => (session.fileName_.text, file)).toList else opened

theorem subset_recordOpened (session : SessionServer τ) (file : Option (File target))
    (opened : List (List Byte × File target)) : opened ⊆ session.recordOpened file opened := by
  unfold recordOpened
  split
  · exact List.subset_append_left _ _
  · exact fun _ was => was

theorem Offers.sends (offers : session.Offers offered opened) (sending : session.isSendingFile_ = true)
    (started : session.hasFileTransferStarted_ = true) {file : Option (File target)} {handle : FileHandle}
    (named : session.fileName_.text = [] → file = none)
    (found : (session.fileTransferHandle_ <|> (file.map File.reads).map (FileHandle.reading · 0 0)) = some handle) :
    ∃ name ∈ offered, ∃ file' index calls, (name, file') ∈ session.recordOpened file opened ∧
      session.Sending file' index ∧ handle = .reading file'.reads (index * fileBlockSize) calls := by
  rcases offers.reading sending with ⟨closed, start⟩ | ⟨name, was, file', index, calls, there, inside, position, held⟩
  · rw [closed] at found
    rcases file with - | file
    · cases found
    · cases found
      have name : session.fileName_.text ∈ offered := by
        rcases offers.named sending with offered | unnamed
        · exact offered
        · cases named unnamed
      refine ⟨session.fileName_.text, name, file, 0, 0, ?_, ⟨Nat.zero_le _, sending, started, ?_, Or.inl ⟨closed, rfl⟩⟩, ?_⟩
      · rw [recordOpened, opens, sending, started, closed]
        exact List.mem_append_right _ List.mem_cons_self
      · rw [start, Nat.zero_mul]
      · rw [Nat.zero_mul]
  · rw [held] at found
    cases found
    refine ⟨name, was, file', index, calls, ?_, ⟨inside, sending, started, position, Or.inr ⟨calls, held⟩⟩, rfl⟩
    rw [recordOpened, opens, held]
    simpa using there

theorem Sending.isBlockOf {file : File target} {index : Nat} (sending : session.Sending file index) (raw : FileDataMessage)
    (calls : Nat) :
    (session.blockMessage target raw (.reading file.reads (index * fileBlockSize) calls)).IsBlockOf file index := by
  rcases readBlock_index sending raw calls with ⟨after, read⟩
  have offset : (((FileDataMessage.new raw).setBuffer (Files.block fileBlockSize file.contents index)).setFileOffset
      target session.fileTransferOffset_.toNat).offset.toInt = index * fileBlockSize := by
    rw [sending.position, FileDataMessage.toInt_setFileOffset _ _ (file.position_small sending.inside), Nat.cast_mul]
  simp only [blockMessage, block, read, decide_eq_true_eq]
  split
  · rename_i last
    exact ⟨sending.inside, offset, rfl, (decide_eq_true last).symm⟩
  · rename_i more
    exact ⟨sending.inside, offset, rfl, (decide_eq_false more).symm⟩

theorem sendBlock_role (target : Target) (raw : FileDataMessage) (origin : τ) (session : SessionServer τ)
    (handle : FileHandle) :
    ((session.sendBlock target raw origin handle).isSendingFile_ = session.isSendingFile_ ∧
        (session.sendBlock target raw origin handle).isReceivingFile_ = session.isReceivingFile_ ∧
        (session.sendBlock target raw origin handle).fileName_ = session.fileName_) ∨
      ((session.sendBlock target raw origin handle).isSendingFile_ = false ∧
        (session.sendBlock target raw origin handle).isReceivingFile_ = false ∧
        (session.sendBlock target raw origin handle).fileTransferOffset_ = 0#64) := by
  simp only [sendBlock]
  split
  · exact Or.inr ⟨rfl, rfl, rfl⟩
  · exact Or.inl ⟨rfl, rfl, rfl⟩

theorem Offers.sendBlock {name : List Byte} {file : File target} {index calls : Nat}
    (offers : session.Offers offered opened) (was : name ∈ offered) (there : (name, file) ∈ opened)
    (sending : session.Sending file index) (raw : FileDataMessage) (origin : τ) :
    (session.sendBlock target raw origin (.reading file.reads (index * fileBlockSize) calls)).Offers offered opened := by
  rcases sendBlock_file sending raw origin calls with ⟨-, -, -, after⟩
  rcases sendBlock_role target raw origin session (.reading file.reads (index * fileBlockSize) calls) with
    ⟨going, receiving, fileName⟩ | ⟨idle, apart, offset⟩
  · rw [sending.sending] at going
    split at after
    · exact Bool.noConfusion (after.sending.symm.trans going)
    · rcases after.handle with ⟨-, none⟩ | ⟨later, held⟩
      · cases none
      · refine ⟨fun _ => receiving.trans (offers.oneRole sending.sending), fun _ => ?_, ?_, ?_, fun _ => Or.inr ?_⟩
        · rw [fileName]
          exact offers.named sending.sending
        · exact fun idle => Bool.noConfusion (idle.symm.trans going)
        · exact fun idle => Bool.noConfusion (idle.symm.trans going)
        · exact ⟨name, was, file, index + 1, later, there, after.inside, after.offset, held⟩
  · split at after
    · exact offers_disabled idle apart (Option.isNone_iff_eq_none.mp after.handle) offset
    · exact Bool.noConfusion (idle.symm.trans after.sending)

theorem Offers.recorded (offers : session.Offers offered opened) (file : Option (File target)) :
    session.Offers offered (session.recordOpened file opened) :=
  offers.mono (fun _ was => was) (session.subset_recordOpened file opened)

theorem Offers.cycle (offers : session.Offers offered opened) {file : Option (File target)}
    (named : session.fileName_.text = [] → file = none) (raw : FileDataMessage) (origin : τ) :
    (session.cycle target raw (file.map File.reads) origin).Offers offered (session.recordOpened file opened) := by
  rcases session.cycle_cases raw (file.map File.reads) origin with same | disabled | ⟨sending, started, handle, found, cycled⟩
  · rw [same]
    exact offers.recorded file
  · rw [disabled]
    exact offers_disabled rfl rfl rfl rfl
  · rcases offers.sends sending started named found with ⟨name, was, file', index, calls, there, before, rfl⟩
    rcases cycled with waits | sends
    · rw [waits]
      refine ⟨offers.oneRole, offers.named, ?_, offers.fresh, fun _ => Or.inr ?_⟩
      · exact fun idle => Bool.noConfusion (idle.symm.trans sending)
      · exact ⟨name, was, file', index, calls, there, before.inside, before.offset, rfl⟩
    · rw [sends]
      exact (offers.recorded file).sendBlock was there before raw origin

theorem saveData_leaves (opens : Bool) (session : SessionServer τ) (buffer : List Byte) (offset : Int) :
    (session.saveData opens buffer offset).1 = session.disableFileTransferMode ∨
      ∃ handle, (session.saveData opens buffer offset).1 = { session with fileTransferHandle_ := handle } := by
  unfold saveData
  split
  · exact Or.inr ⟨session.fileTransferHandle_, rfl⟩
  · split
    · exact Or.inr ⟨_, rfl⟩
    · split
      · exact Or.inl rfl
      · exact Or.inr ⟨_, rfl⟩

theorem Offers.availableMessage (offers : session.Offers offered opened) {answer : Answer} {opens : Bool} {elapsed : Int}
    {message : Message}
    {after : SessionServer τ} {effects : List FileEffect}
    (handled : session.availableMessage target answer opens elapsed origin message = .ok (after, effects))
    (admits : ∀ file, message = .fileRequest file → session.fileTransfer.Admits answer) :
    after.Offers offered opened := by
  have disabled : session.disableFileTransferMode.Offers offered opened := offers_disabled rfl rfl rfl rfl
  cases message with
  | status message =>
    simp only [SessionServer.availableMessage] at handled
    split at handled
    · split at handled <;> cases handled
      exact ⟨offers.oneRole, offers.named, offers.closed, offers.fresh, offers.reading⟩
    · split at handled <;> cases handled
      exact disabled
    · split at handled <;> cases handled
      exact disabled
    · cases handled
      exact offers
  | nickname message =>
    cases handled
    exact ⟨offers.oneRole, offers.named, offers.closed, offers.fresh, offers.reading⟩
  | fileRequest file =>
    have admits := admits file rfl
    simp only [SessionServer.availableMessage] at handled
    split at handled
    · cases handled
    · cases handled
      cases answer with
      | refuse =>
        refine ⟨fun _ => rfl, offers.named, fun idle _ => ?_, offers.fresh, offers.reading⟩
        cases receiving : session.isReceivingFile_ with
        | false => exact offers.closed idle receiving
        | true => exact admits receiving
      | cancelName =>
        have closed : session.fileTransferHandle_ = none := admits
        refine ⟨fun _ => rfl, fun _ => Or.inr (text_set_zero _), fun _ _ => closed, offers.fresh, fun sending => Or.inl ?_⟩
        rcases offers.reading sending with start | ⟨_, _, _, _, _, _, _, _, held⟩
        · exact start
        · rw [closed] at held
          cases held
      | accept targetFileName =>
        have idle : session.isSendingFile_ = false := admits.1
        have never : session.isSendingFile_ ≠ true := fun sending => Bool.noConfusion (idle.symm.trans sending)
        exact ⟨fun sending => absurd sending never, fun sending => absurd sending never, fun _ apart => Bool.noConfusion apart, fun _ => offers.fresh idle,
          fun sending => absurd sending never⟩
  | fileData block =>
    simp only [SessionServer.availableMessage] at handled
    split at handled
    · cases handled
      exact offers
    · rename_i going
      have receiving : session.isReceivingFile_ = true := by simpa using going
      have never : session.isSendingFile_ ≠ true := fun sending =>
        Bool.noConfusion ((offers.oneRole sending).symm.trans receiving)
      split at handled
      · cases handled
        exact offers_disabled rfl rfl rfl rfl
      · cases handled
        rcases saveData_leaves opens session block.buffer (block.fileOffset target) with ended | ⟨handle, kept⟩
        · rw [ended]
          exact disabled
        · rw [kept]
          exact ⟨offers.oneRole, offers.named, fun _ apart => Bool.noConfusion (apart.symm.trans receiving), offers.fresh,
            fun sending => absurd sending never⟩
  | chat chat =>
    rw [(same_of_chat handled).1]
    exact offers
  | hello | bye =>
    cases handled
    exact offers

theorem write_of_saveData {opens : Bool} {buffer fileName data : List Byte} {offset : Int} {position : Nat}
    (written : .write fileName position data ∈ (session.saveData opens buffer offset).2) (positive : 0 ≤ offset) :
    data = buffer ∧ (position : Int) = offset := by
  unfold saveData at written
  split at written
  · cases written
  · split at written
    · rename_i handle _
      cases handle with
      | reading file position calls => cases written
      | writing name behind =>
        cases List.mem_singleton.mp written
        rw [if_neg (Int.not_lt.mpr positive)]
        exact ⟨rfl, Int.toNat_of_nonneg positive⟩
    · split at written
      · cases written
      · rcases List.mem_cons.mp written with none | written
        · cases none
        · cases List.mem_singleton.mp written
          rw [if_neg (Int.not_lt.mpr positive)]
          exact ⟨rfl, Int.toNat_of_nonneg positive⟩

theorem write_of_availableMessage {answer : Answer} {opens : Bool} {elapsed : Int} {message : Message} {after : SessionServer τ}
    {effects : List FileEffect} {fileName data : List Byte} {position : Nat}
    (handled : session.availableMessage target answer opens elapsed origin message = .ok (after, effects))
    (written : .write fileName position data ∈ effects) :
    ∃ block, message = .fileData block ∧
      (0 ≤ block.fileOffset target → data = block.buffer ∧ (position : Int) = block.fileOffset target) := by
  by_cases other : ∀ block, message ≠ .fileData block
  · rw [availableMessage_effects other handled] at written
    cases written
  · simp only [not_forall, not_not] at other
    rcases other with ⟨block, rfl⟩
    refine ⟨block, rfl, fun positive => ?_⟩
    by_cases receiving : session.isReceivingFile_ = true
    · have outcome := availableMessage_fileData receiving handled
      split at outcome
      · rw [outcome.2] at written
        rcases List.mem_append.mp written with saved | reported
        · exact write_of_saveData saved positive
        · cases List.mem_singleton.mp reported
      · rw [outcome.2] at written
        exact write_of_saveData written positive
    · rw [SessionServer.availableMessage, if_pos (by simp [receiving])] at handled
      cases handled
      cases written

end SessionServer

end LanMessenger
