import LanMessenger.Client.Letters

/-! The files that a client sends one after another: its requests, the blocks behind each of them, and the file that was
opened for it. -/

namespace LanMessenger

open CMemory

variable {target : Target} {τ : Type}

/-- The requests of a client, counted, and the blocks that follow each. -/
structure Series where
  requests : Nat
  blocks : Nat → List FileDataMessage

namespace Series

def empty : Series := ⟨0, fun _ => []⟩

def enter (series : Series) (letter : Letter τ) : Series :=
  match letter.message with
  | .fileRequest _ => { series with requests := series.requests + 1 }
  | .fileData block => { series with
      blocks := Function.update series.blocks series.requests (series.blocks series.requests ++ [block]) }
  | _ => series

def after (series : Series) (letters : List (Letter τ)) : Series := letters.foldl enter series

variable {series : Series}

@[simp] theorem after_nil : series.after ([] : List (Letter τ)) = series := rfl

@[simp] theorem after_cons (letter : Letter τ) (rest : List (Letter τ)) :
    series.after (letter :: rest) = (series.enter letter).after rest := rfl

@[simp] theorem after_append (front back : List (Letter τ)) : series.after (front ++ back) = (series.after front).after back :=
  List.foldl_append ..

theorem enter_other {letter : Letter τ} (request : ∀ file, letter.message ≠ .fileRequest file)
    (data : ∀ block, letter.message ≠ .fileData block) : series.enter letter = series := by
  unfold enter
  split
  · rename_i file same
    exact absurd same (request file)
  · rename_i block same
    exact absurd same (data block)
  · rfl

theorem after_notes {letters : List (Letter τ)} (notes : ∀ letter ∈ letters, letter.message.isNote = true) :
    series.after letters = series := by
  induction letters with
  | nil => rfl
  | cons letter rest ih =>
    have note := notes letter List.mem_cons_self
    rw [after_cons, enter_other, ih fun later member => notes later (List.mem_cons_of_mem _ member)]
    · intro file same
      rw [same] at note
      cases note
    · intro block same
      rw [same] at note
      cases note

theorem after_extended {before extended : List (Letter τ)} (longer : Extended before extended) :
    series.after extended = series.after before := by
  rcases longer with ⟨sent, rfl, notes⟩
  rw [after_append, after_notes notes]

theorem isPrefix_enter (series : Series) (letter : Letter τ) (request : Nat) :
    series.blocks request <+: (series.enter letter).blocks request := by
  unfold enter
  split
  · exact List.prefix_rfl
  · by_cases last : request = series.requests
    · subst last
      simp only [Function.update_self]
      exact List.prefix_append _ _
    · simp only [Function.update_of_ne last]
      exact List.prefix_rfl
  · exact List.prefix_rfl

theorem isPrefix_after (series : Series) (letters : List (Letter τ)) (request : Nat) :
    series.blocks request <+: (series.after letters).blocks request := by
  induction letters generalizing series with
  | nil => exact List.prefix_rfl
  | cons letter rest ih => exact (isPrefix_enter series letter request).trans (ih (series.enter letter))

structure Kept (series : Series) (sources : Nat → Option (List Byte × File target)) : Prop where
  inOrder : ∀ (request index : Nat) (block : FileDataMessage), (series.blocks request)[index]? = some block →
    ∃ name file, sources request = some (name, file) ∧ block.IsBlockOf file index
  unused : ∀ request, series.requests < request → sources request = none

variable {sources : Nat → Option (List Byte × File target)} {request : Nat}

theorem kept_empty : empty.Kept (fun _ => none : Nat → Option (List Byte × File target)) :=
  ⟨fun _ _ _ there => by simp [empty] at there, fun _ _ => rfl⟩

theorem Kept.nothing (kept : series.Kept sources) (unopened : sources request = none) : series.blocks request = [] := by
  cases there : series.blocks request with
  | nil => rfl
  | cons block rest =>
    rcases kept.inOrder request 0 block (by rw [there]; rfl) with ⟨name, file, source, -⟩
    rw [unopened] at source
    cases source

theorem Kept.requested (kept : series.Kept sources) (file : FileTransferMessage) (origin : τ) :
    (series.enter ⟨.fileRequest file, origin⟩).Kept sources :=
  ⟨kept.inOrder, fun request later => kept.unused request (Nat.lt_of_succ_lt later)⟩

theorem Kept.opened (kept : series.Kept sources) (source : Option (List Byte × File target))
    (unopened : sources series.requests = none) : series.Kept (Function.update sources series.requests source) := by
  constructor
  · intro request index block there
    by_cases last : request = series.requests
    · subst last
      rw [kept.nothing unopened] at there
      cases there
    · rw [Function.update_of_ne last]
      exact kept.inOrder request index block there
  · intro request later
    rw [Function.update_of_ne (Nat.ne_of_gt later)]
    exact kept.unused request later

theorem Kept.sent (kept : series.Kept sources) {name : List Byte} {file : File target} {block : FileDataMessage}
    (source : sources series.requests = some (name, file))
    (isBlock : block.IsBlockOf file (series.blocks series.requests).length) (origin : τ) :
    (series.enter ⟨.fileData block, origin⟩).Kept sources := by
  refine ⟨fun request index other there => ?_, kept.unused⟩
  by_cases last : request = series.requests
  · subst last
    simp only [enter, Function.update_self, List.getElem?_append] at there
    split at there
    · exact kept.inOrder series.requests index other there
    · rename_i behind
      have bound := (List.getElem?_eq_some_iff.mp there).1
      rw [List.length_singleton] at bound
      have place : index = (series.blocks series.requests).length := by omega
      rw [place, Nat.sub_self] at there
      cases there
      exact ⟨name, file, source, place ▸ isBlock⟩
  · simp only [enter, Function.update_of_ne last] at there
    exact kept.inOrder request index other there

end Series

namespace SessionServer

/-- A client that sends is before a block of the file it opened for its request, or has opened none for it. -/
def Reads (session : SessionServer τ) (source : Option (List Byte × File target)) (index : Nat) : Prop :=
  session.isSendingFile_ = true →
    (session.fileTransferHandle_ = none ∧ session.fileTransferOffset_ = 0#64 ∧ source = none ∧ index = 0) ∨
    ∃ name file calls, source = some (name, file) ∧ index ≤ file.lastIndex ∧
      session.fileTransferOffset_ = BitVec.ofNat 64 (index * fileBlockSize) ∧
      session.fileTransferHandle_ = some (.reading file.reads (index * fileBlockSize) calls)

/-- The client goes on where the series of what it has sent ends. -/
structure Supplies (session : SessionServer τ) (series : Series) (sources : Nat → Option (List Byte × File target)) :
    Prop where
  kept : series.Kept sources
  reads : session.Reads (sources series.requests) (series.blocks series.requests).length

/-- The file that is opened, if one is, is the one of the last request. -/
def recordSources (session : SessionServer τ) (series : Series) (file : Option (File target))
    (sources : Nat → Option (List Byte × File target)) : Nat → Option (List Byte × File target) :=
  if session.opens then Function.update sources series.requests (file.map fun file => (session.fileName_.text, file))
  else sources

variable {session after : SessionServer τ} {series : Series} {sources : Nat → Option (List Byte × File target)}
  {offered : List (List Byte)} {opened : List (List Byte × File target)}

theorem Supplies.of_client (supplies : session.Supplies series sources)
    (same : after.isSendingFile_ = true → session.isSendingFile_ = true ∧
      after.fileTransferHandle_ = session.fileTransferHandle_ ∧ after.fileTransferOffset_ = session.fileTransferOffset_) :
    after.Supplies series sources := by
  refine ⟨supplies.kept, fun sending => ?_⟩
  rcases same sending with ⟨going, handle, offset⟩
  rw [handle, offset]
  exact supplies.reads going

theorem Supplies.sendFile (supplies : session.Supplies series sources) (offers : session.Offers offered opened)
    (free : session.hasFileTransfer = false) (origin : τ) (fileName : FileName) (file : FileTransferMessage) :
    (session.sendFile origin fileName).Supplies (series.enter (⟨.fileRequest file, origin⟩ : Letter τ)) sources := by
  simp only [hasFileTransfer, Bool.or_eq_false_iff] at free
  rcases free with ⟨apart, idle⟩
  have unopened : sources (series.requests + 1) = none := supplies.kept.unused _ (Nat.lt_succ_self _)
  refine ⟨supplies.kept.requested file origin, fun _ => Or.inl ⟨offers.closed idle apart, offers.fresh idle, unopened, ?_⟩⟩
  exact List.length_eq_zero_iff.mpr (supplies.kept.nothing unopened)

theorem cycle_opened {fopen : Option Readable} {handle : FileHandle} (sending : session.isSendingFile_ = true)
    (started : session.hasFileTransferStarted_ = true)
    (found : (session.fileTransferHandle_ <|> fopen.map (FileHandle.reading · 0 0)) = some handle) (raw : FileDataMessage)
    (origin : τ) : session.cycle target raw fopen origin =
      if session.outbox.canSendMessages then session.sendBlock target raw origin handle
      else { session with fileTransferHandle_ := some handle } := by
  simp only [cycle, sending, started, found]
  cases session.outbox.canSendMessages <;> rfl

theorem Sending.supplies {fopen : Option Readable} {name : List Byte} {file : File target} {calls : Nat}
    (sending : session.Sending file (series.blocks series.requests).length)
    (found : (session.fileTransferHandle_ <|> fopen.map (FileHandle.reading · 0 0)) =
      some (.reading file.reads ((series.blocks series.requests).length * fileBlockSize) calls))
    (kept : series.Kept sources) (source : sources series.requests = some (name, file)) (raw : FileDataMessage) (origin : τ) :
    ∃ sent, (session.cycle target raw fopen origin).outbox.sendingQueue_ = session.outbox.sendingQueue_ ++ sent ∧
      (session.cycle target raw fopen origin).Supplies (series.after sent) sources := by
  rw [cycle_opened sending.sending sending.started found]
  cases room : session.outbox.canSendMessages with
  | false =>
    refine ⟨[], (List.append_nil _).symm, kept, fun _ => Or.inr ⟨name, file, calls, source, sending.inside, sending.offset, rfl⟩⟩
  | true =>
    rcases sendBlock_file sending raw origin calls with ⟨block, isBlock, outbox, after⟩
    refine ⟨[⟨.fileData block, origin⟩], by rw [if_pos rfl, outbox, Outbox.send_of_room room], kept.sent source isBlock origin, ?_⟩
    have length : ((series.enter (⟨.fileData block, origin⟩ : Letter τ)).blocks series.requests).length =
        (series.blocks series.requests).length + 1 := by
      simp only [Series.enter, Function.update_self, List.length_append, List.length_singleton]
    intro going
    simp only [if_true] at going ⊢
    split at after
    · exact Bool.noConfusion (after.sending.symm.trans going)
    · rcases after.handle with ⟨-, first⟩ | ⟨later, held⟩
      · cases first
      · refine Or.inr ⟨name, file, later, source, ?_⟩
        simp only [Series.after_cons, Series.after_nil]
        rw [show (series.enter (⟨.fileData block, origin⟩ : Letter τ)).requests = series.requests from rfl, length]
        exact ⟨after.inside, after.offset, held⟩

theorem Supplies.cycle (supplies : session.Supplies series sources) (file : Option (File target)) (raw : FileDataMessage)
    (origin : τ) : ∃ sent,
      (session.cycle target raw (file.map File.reads) origin).outbox.sendingQueue_ = session.outbox.sendingQueue_ ++ sent ∧
      (session.cycle target raw (file.map File.reads) origin).Supplies (series.after sent)
        (session.recordSources series file sources) := by
  by_cases going : session.isSendingFile_ = true ∧ session.hasFileTransferStarted_ = true
  · rcases going with ⟨sending, started⟩
    rcases supplies.reads sending with ⟨closed, offset, unopened, first⟩ | ⟨name, opened, calls, source, inside, offset, held⟩
    · have opens : session.opens = true := by rw [SessionServer.opens, sending, started, closed]; rfl
      rw [recordSources, if_pos opens]
      cases file with
      | none =>
        have disabled : session.cycle target raw none origin = session.disableFileTransferMode := by
          simp [SessionServer.cycle, sending, started, closed]
        refine ⟨[], ?_, ?_⟩
        · rw [Option.map_none, disabled, List.append_nil]
          rfl
        · rw [Option.map_none, disabled]
          exact ⟨supplies.kept.opened none unopened, fun going => Bool.noConfusion going⟩
      | some file =>
        have found : (session.fileTransferHandle_ <|> ((some file).map File.reads).map (FileHandle.reading · 0 0)) =
            some (.reading file.reads ((series.blocks series.requests).length * fileBlockSize) 0) := by
          rw [first, closed, Nat.zero_mul]
          rfl
        have source : Function.update sources series.requests
            ((some file).map fun file => (session.fileName_.text, file)) series.requests =
            some (session.fileName_.text, file) := Function.update_self ..
        have inside : (series.blocks series.requests).length ≤ file.lastIndex := by
          rw [first]
          exact Nat.zero_le _
        have position : session.fileTransferOffset_ =
            BitVec.ofNat 64 ((series.blocks series.requests).length * fileBlockSize) := by
          rw [first, Nat.zero_mul, offset]
        exact Sending.supplies ⟨inside, sending, started, position, Or.inl ⟨closed, first⟩⟩ found
          (supplies.kept.opened _ unopened) source raw origin
    · have opens : session.opens = false := by simp [SessionServer.opens, held]
      rw [recordSources, opens]
      exact Sending.supplies ⟨inside, sending, started, offset, Or.inr ⟨calls, held⟩⟩ (by rw [held]; rfl) supplies.kept source
        raw origin
  · have opens : session.opens = false := by
      apply Bool.eq_false_of_not_eq_true
      intro opens
      simp only [SessionServer.opens, Bool.and_eq_true] at opens
      exact going opens.1
    rw [cycle_idle raw (file.map File.reads) going, recordSources, opens]
    exact ⟨[], (List.append_nil _).symm, supplies⟩

theorem sending_of_availableMessage {answer : Answer} {opens : Bool} {elapsed : Int} {origin : τ} {message : Message}
    {effects : List FileEffect} (oneRole : session.isSendingFile_ = true → session.isReceivingFile_ = false)
    (handled : session.availableMessage target answer opens elapsed origin message = .ok (after, effects))
    (sending : after.isSendingFile_ = true) : session.isSendingFile_ = true ∧
      after.fileTransferHandle_ = session.fileTransferHandle_ ∧ after.fileTransferOffset_ = session.fileTransferOffset_ := by
  cases message with
  | status message =>
    simp only [availableMessage] at handled
    split at handled
    · split at handled <;> cases handled
      exact ⟨sending, rfl, rfl⟩
    · split at handled <;> cases handled
      cases sending
    · split at handled <;> cases handled
      cases sending
    · cases handled
      exact ⟨sending, rfl, rfl⟩
  | fileRequest file =>
    simp only [availableMessage] at handled
    split at handled
    · cases handled
    · cases handled
      cases answer with
      | refuse => exact ⟨sending, rfl, rfl⟩
      | cancelName => exact ⟨sending, rfl, rfl⟩
      | accept targetFileName => exact ⟨sending, rfl, rfl⟩
  | fileData block =>
    simp only [availableMessage] at handled
    split at handled
    · cases handled
      exact ⟨sending, rfl, rfl⟩
    · rename_i going
      have receiving : session.isReceivingFile_ = true := by simpa using going
      split at handled <;> cases handled
      · cases sending
      · rcases saveData_leaves opens session block.buffer (block.fileOffset target) with ended | ⟨handle, kept⟩
        · rw [ended] at sending
          cases sending
        · rw [kept] at sending
          exact Bool.noConfusion ((oneRole sending).symm.trans receiving)
  | chat chat =>
    cases (same_of_chat handled).1
    exact ⟨sending, rfl, rfl⟩
  | _ =>
    cases handled
    exact ⟨sending, rfl, rfl⟩

end SessionServer

end LanMessenger
