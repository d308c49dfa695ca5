import LanMessenger.Client.TransferState

namespace LanMessenger

open CMemory Transition

variable {τ : Type}

namespace FileEffect

def saves (fileName data : List Byte) : FileEffect → Bool
  | write written _ bytes => decide (written = fileName ∧ bytes = data)
  | _ => false

/-- The effects write the data to the file, wherever in it. -/
def Saved (effects : List FileEffect) (fileName data : List Byte) : Prop := effects.any (saves fileName data) = true

instance (effects : List FileEffect) (fileName data : List Byte) : Decidable (Saved effects fileName data) :=
  inferInstanceAs (Decidable (_ = true))

end FileEffect

namespace SessionServer

/-- What `saveData` would write to is the target. -/
structure FindsTarget (session : SessionServer τ) (targetFileName : List Byte) (opens : Bool) : Prop where
  closed : session.fileTransferHandle_ = none → opens = true ∧ session.fileName_.text = targetFileName
  opened : ∀ handle, session.fileTransferHandle_ = some handle → handle.written = some targetFileName

variable {session : SessionServer τ} {targetFileName : List Byte}

theorem saved_saveData_iff (receiving : session.isReceivingFile_ = true) (opens : Bool) (buffer : List Byte) (offset : Int) :
    FileEffect.Saved (session.saveData opens buffer offset).2 targetFileName buffer ↔
      session.FindsTarget targetFileName opens := by
  rw [saveData, if_neg (by simp [receiving])]
  cases held : session.fileTransferHandle_ with
  | none =>
    cases opens with
    | false =>
      refine iff_of_false ?_ fun finds => by cases (finds.closed held).1
      intro saved
      cases saved
    | true =>
      simp only [Bool.not_true, Bool.false_eq_true, if_false, FileEffect.Saved, FileHandle.fseek, FileHandle.fwrite,
        List.any_cons, FileEffect.saves, List.any_nil, Bool.false_or, Bool.or_false, and_true, decide_eq_true_eq]
      constructor
      · intro same
        refine ⟨fun _ => ⟨rfl, same⟩, fun handle open_ => ?_⟩
        rw [held] at open_
        cases open_
      · intro finds
        exact (finds.closed held).2
  | some handle =>
    cases handle with
    | reading file position calls =>
      refine iff_of_false ?_ fun finds => by cases finds.opened _ held
      intro saved
      cases saved
    | writing fileName position =>
      simp only [FileEffect.Saved, FileHandle.fseek, FileHandle.fwrite, List.any_cons, FileEffect.saves, List.any_nil,
        Bool.or_false, and_true, decide_eq_true_eq]
      constructor
      · intro same
        refine ⟨fun none => ?_, fun handle open_ => ?_⟩
        · rw [held] at none
          cases none
        · rw [held] at open_
          cases open_
          exact congrArg some same
      · intro finds
        exact Option.some.inj (finds.opened _ held)

theorem saveData_silent (opens : Bool) (buffer : List Byte) (offset : Int) (fileName : List Byte) :
    FileEffect.received fileName ∉ (session.saveData opens buffer offset).2 := by
  unfold saveData
  split
  · simp
  · split
    · rename_i handle _
      cases handle <;> simp [FileHandle.fseek, FileHandle.fwrite]
    · split
      · simp
      · simp [FileHandle.fseek, FileHandle.fwrite]

variable {target : Target} {after : SessionServer τ} {answer : Answer} {opens : Bool} {elapsed : Int} {origin : τ}
  {effects : List FileEffect}

theorem availableMessage_fileData (receiving : session.isReceivingFile_ = true) {block : FileDataMessage}
    (handled : session.availableMessage target answer opens elapsed origin (.fileData block) = .ok (after, effects)) :
    if block.isLastBlock = true then
      after = (session.saveData opens block.buffer (block.fileOffset target)).1.disableFileTransferMode ∧
        effects = (session.saveData opens block.buffer (block.fileOffset target)).2 ++
          [.received (session.saveData opens block.buffer (block.fileOffset target)).1.fileName_.text]
    else after = (session.saveData opens block.buffer (block.fileOffset target)).1 ∧
      effects = (session.saveData opens block.buffer (block.fileOffset target)).2 := by
  rw [availableMessage, if_neg (by simp [receiving])] at handled
  simp only at handled
  split at handled
  · rename_i last
    rw [if_pos last]
    cases handled
    exact ⟨rfl, rfl⟩
  · rename_i more
    rw [if_neg more]
    cases handled
    exact ⟨rfl, rfl⟩

theorem availableMessage_effects {message : Message} (other : ∀ block, message ≠ .fileData block)
    (handled : session.availableMessage target answer opens elapsed origin message = .ok (after, effects)) : effects = [] := by
  cases message with
  | fileData block => exact absurd rfl (other block)
  | status status =>
    rcases status with ⟨code⟩
    cases code with
    | acceptFileTransfer | rejectFileTransfer | fileTransferCanceled =>
      simp only [availableMessage] at handled
      split at handled
      · cases handled
      · cases handled
        rfl
    | _ =>
      cases handled
      rfl
  | fileRequest file =>
    simp only [availableMessage] at handled
    split at handled
    · cases handled
    · cases handled
      rfl
  | chat chat => exact (same_of_chat handled).2
  | hello | bye | nickname =>
    cases handled
    rfl

end SessionServer

/-- A client's session, the target named in the last acceptance of a file, and whether each block handled since was
    written to it. -/
structure Saving (τ : Type) where
  session : SessionServer τ
  targetFileName : List Byte
  saved : Bool

namespace Saving

abbrev Event (τ : Type) := ClientTransfer.Event τ

def start (fileTransferBuffer_ : Field maxMessageSize) (fileName_ : Field maxPathSize) (nickName_ : Field maxNicknameSize)
    (origin : τ) : Saving τ := ⟨.new fileTransferBuffer_ fileName_ nickName_ origin, [], false⟩

def record (saving : Saving τ) (session : SessionServer τ) (effects : List FileEffect) (answer : Answer) :
    Message → Saving τ
  | .fileRequest _ =>
    match answer with
    | .accept targetFileName => ⟨session, targetFileName.text, true⟩
    | _ => { saving with session }
  | .fileData block =>
    if saving.session.isReceivingFile_ then
      { saving with session, saved := saving.saved && decide (FileEffect.Saved effects saving.targetFileName block.buffer) }
    else { saving with session }
  | _ => { saving with session }

/-- `Client::run` tests `hasFileTransfer` before it asks for the file to send, and a message may be handled before
    the user answers: `sendFile` comes at any time. -/
def step (target : Target) (saving : Saving τ) : Event τ → Option (Saving τ)
  | .message answer opens elapsed origin message =>
    match saving.session.availableMessage target answer opens elapsed origin message with
    | .ok (session, effects) => some (saving.record session effects answer message)
    | .error _ => none
  | .sendFile origin fileName => some { saving with session := saving.session.sendFile origin fileName }
  | .cycle raw fopen origin => some { saving with session := saving.session.cycle target raw fopen origin }
  | .queue outbox => some { saving with session := { saving.session with outbox } }

/-- Where the step reports a file as received, each block of it handled so far is saved. -/
def ReportsTruly (target : Target) (saving : Saving τ) (event : Event τ) : Prop :=
  ∀ answer opens elapsed origin message session effects fileName, event = .message answer opens elapsed origin message →
    saving.session.availableMessage target answer opens elapsed origin message = .ok (session, effects) →
      .received fileName ∈ effects → (saving.record session effects answer message).saved = true

/-- A block that is marked as the last finds the accepted target open, or opens it. -/
def LastFindsTarget (saving : Saving τ) : Event τ → Prop
  | .message _ opens _ _ (.fileData block) =>
    saving.session.isReceivingFile_ = true → block.isLastBlock = true →
      saving.session.FindsTarget saving.targetFileName opens
  | _ => True

def Tracked (transfer : FileTransfer) (targetFileName : List Byte) (saved : Bool) : Prop :=
  transfer.receiving = true → saved = false →
    ∃ handle, transfer.handle = some handle ∧ handle.written ≠ some targetFileName

namespace Tracked

variable {transfer : FileTransfer} {targetFileName : List Byte} {saved : Bool}

theorem idle (stopped : transfer.receiving = false) : Tracked transfer targetFileName saved := by
  intro receiving
  rw [stopped] at receiving
  cases receiving

theorem changes (tracked : Tracked transfer targetFileName saved) {after : FileTransfer} {answer : Answer} {message : Message}
    (changes : SessionServer.Changes transfer after answer message) (request : ∀ file, message ≠ .fileRequest file) :
    Tracked after targetFileName saved := by
  cases changes with
  | same _ kept => exact kept ▸ tracked
  | starts _ _ started => exact started ▸ tracked
  | ends _ finished => exact finished ▸ idle rfl
  | asked _ => exact absurd rfl (request _)
  | saves _ receiving handle saved file =>
    subst saved
    refine fun _ missed => ⟨handle, rfl, ?_⟩
    rcases tracked receiving missed with ⟨open_, there, elsewhere⟩
    rwa [file, there]

theorem cycle {session : SessionServer τ} (tracked : Tracked session.fileTransfer targetFileName saved) (target : Target)
    (raw : FileDataMessage) (fopen : Option Readable) (origin : τ) :
    Tracked (session.cycle target raw fopen origin).fileTransfer targetFileName saved := by
  by_cases going : session.isSendingFile_ = true ∧ session.hasFileTransferStarted_ = true
  · rcases session.cycle_transfer target raw fopen origin going with finished | ⟨before, handle, found, file, held⟩
    · rw [finished]
      exact idle rfl
    · rw [held]
      refine fun receiving missed => ⟨handle, rfl, ?_⟩
      rcases tracked receiving missed with ⟨open_, there, elsewhere⟩
      rw [show session.fileTransferHandle_ = some open_ from there] at found
      cases found
      rwa [file]
  · rw [session.cycle_idle raw fopen going]
    exact tracked

end Tracked

def Consistent (saving : Saving τ) : Prop := Tracked saving.session.fileTransfer saving.targetFileName saving.saved

variable {target : Target} {saving next : Saving τ} {session : SessionServer τ} {effects : List FileEffect} {origin : τ}
  {block : FileDataMessage}

theorem consistent_start (buffer : Field maxMessageSize) (fileName : Field maxPathSize) (nickName : Field maxNicknameSize)
    (origin : τ) : (start buffer fileName nickName origin).Consistent := Tracked.idle rfl

theorem Consistent.saved_iff (consistent : saving.Consistent) (receiving : saving.session.isReceivingFile_ = true)
    (opens : Bool) (buffer : List Byte) (offset : Int) :
    (saving.saved && decide (FileEffect.Saved (saving.session.saveData opens buffer offset).2 saving.targetFileName
      buffer)) = true ↔ saving.session.FindsTarget saving.targetFileName opens := by
  rw [Bool.and_eq_true, decide_eq_true_eq, SessionServer.saved_saveData_iff receiving]
  constructor
  · intro both
    exact both.2
  · intro finds
    refine ⟨?_, finds⟩
    by_contra missed
    rcases consistent receiving (Bool.eq_false_of_not_eq_true missed) with ⟨handle, there, elsewhere⟩
    exact elsewhere (finds.opened handle there)

theorem Consistent.saveData (consistent : saving.Consistent) (receiving : saving.session.isReceivingFile_ = true)
    (opens : Bool) (buffer : List Byte) (offset : Int) :
    Tracked (saving.session.saveData opens buffer offset).1.fileTransfer saving.targetFileName
      (saving.saved && decide (FileEffect.Saved (saving.session.saveData opens buffer offset).2 saving.targetFileName
        buffer)) := by
  have outcome := consistent.saved_iff receiving opens buffer offset
  rcases SessionServer.saveData_transfer receiving opens buffer offset with finished | ⟨handle, kept, file⟩
  · rw [finished]
    exact Tracked.idle rfl
  · rw [kept]
    refine fun _ missed => ⟨handle, rfl, fun writes => ?_⟩
    have astray : ¬ saving.session.FindsTarget saving.targetFileName opens := fun finds => by
      rw [outcome.mpr finds] at missed
      cases missed
    rw [writes] at file
    refine astray ⟨fun closed => ⟨?_, ?_⟩, fun open_ there => ?_⟩
    · by_contra failed
      rw [SessionServer.saveData, if_neg (by simp [receiving]), closed, if_pos (by simp [failed])] at kept
      cases (congrArg FileTransfer.receiving kept).trans receiving
    · rw [closed] at file
      exact (Option.some.inj file).symm
    · rw [there] at file
      exact file.symm

theorem Consistent.message (consistent : saving.Consistent) {answer : Answer} {opens : Bool} {elapsed : Int} {message : Message}
    (handled : saving.session.availableMessage target answer opens elapsed origin message = .ok (session, effects)) :
    (saving.record session effects answer message).Consistent := by
  have changes := SessionServer.changes_message handled
  cases message with
  | fileRequest file =>
    have answered : session.fileTransfer = answer.applied saving.session.fileTransfer := by
      cases changes with
      | asked answered => exact answered
      | same other _ => exact absurd rfl (other file)
      | starts other _ _ => exact absurd rfl (other file)
      | ends other _ => exact absurd rfl (other file)
      | saves other _ _ _ _ => exact absurd rfl (other file)
    cases answer with
    | refuse => exact Tracked.idle (congrArg FileTransfer.receiving answered)
    | cancelName => exact Tracked.idle (congrArg FileTransfer.receiving answered)
    | accept targetFileName =>
      exact fun _ missed => by cases missed
  | fileData block =>
    by_cases receiving : saving.session.isReceivingFile_ = true
    · have outcome := SessionServer.availableMessage_fileData receiving handled
      simp only [record, if_pos receiving]
      split at outcome
      · rcases outcome with ⟨rfl, -⟩
        exact Tracked.idle rfl
      · rcases outcome with ⟨rfl, rfl⟩
        exact consistent.saveData receiving opens block.buffer (block.fileOffset target)
    · simp only [record, if_neg receiving]
      exact Tracked.changes consistent changes fun _ same => by cases same
  | _ => exact Tracked.changes consistent changes fun _ same => by cases same

theorem Consistent.step (consistent : saving.Consistent) {event : Event τ} (stepped : saving.step target event = some next) :
    next.Consistent := by
  cases event with
  | message answer opens elapsed origin message =>
    simp only [Saving.step] at stepped
    split at stepped
    · rename_i handled
      cases stepped
      exact consistent.message handled
    · cases stepped
  | sendFile origin fileName =>
    cases stepped
    exact consistent
  | cycle raw fopen origin =>
    cases stepped
    exact Tracked.cycle consistent target raw fopen origin
  | queue outbox =>
    cases stepped
    exact consistent

section Reports

variable {answer : Answer} {opens : Bool} {elapsed : Int} {message : Message}
  (handled : saving.session.availableMessage target answer opens elapsed origin message = .ok (session, effects))
include handled

theorem reportsTruly_message_iff : ReportsTruly target saving (.message answer opens elapsed origin message) ↔
    ∀ fileName, .received fileName ∈ effects → (saving.record session effects answer message).saved = true := by
  constructor
  · intro truly fileName reported
    exact truly answer opens elapsed origin message session effects fileName rfl handled reported
  · intro truly _ _ _ _ _ _ _ fileName same again reported
    cases same
    rw [handled] at again
    cases again
    exact truly fileName reported

theorem reportsTruly_silent (silent : ∀ fileName, .received fileName ∉ effects) :
    ReportsTruly target saving (.message answer opens elapsed origin message) :=
  (reportsTruly_message_iff handled).mpr fun fileName reported => absurd reported (silent fileName)

end Reports

theorem Consistent.reportsTruly_block_iff (consistent : saving.Consistent) {answer : Answer} {opens : Bool} {elapsed : Int}
    (handled : saving.session.availableMessage target answer opens elapsed origin (.fileData block) = .ok (session, effects)) :
    ReportsTruly target saving (.message answer opens elapsed origin (.fileData block)) ↔
      saving.LastFindsTarget (.message answer opens elapsed origin (.fileData block)) := by
  by_cases receiving : saving.session.isReceivingFile_ = true
  · have outcome := SessionServer.availableMessage_fileData receiving handled
    by_cases last : block.isLastBlock = true
    · rw [if_pos last] at outcome
      have saved : (saving.record session effects answer (.fileData block)).saved = true ↔
          saving.session.FindsTarget saving.targetFileName opens := by
        rw [← consistent.saved_iff receiving opens block.buffer (block.fileOffset target)]
        simp [record, receiving, outcome.2, FileEffect.Saved, FileEffect.saves]
      rw [reportsTruly_message_iff handled, saved]
      constructor
      · intro truly _ _
        exact truly _ (by rw [outcome.2]; exact List.mem_append_right _ (List.mem_singleton_self _))
      · intro finds _ _
        exact finds receiving last
    · rw [if_neg last] at outcome
      refine iff_of_true (reportsTruly_silent handled ?_) fun _ marked => absurd marked last
      rw [outcome.2]
      exact SessionServer.saveData_silent opens _ _
  · refine iff_of_true (reportsTruly_silent handled ?_) fun accepted => absurd accepted receiving
    rw [SessionServer.availableMessage, if_pos (by simp [receiving])] at handled
    cases handled
    simp

theorem reportsTruly_iff (consistent : saving.Consistent) {event : Event τ} (stepped : saving.step target event = some next) :
    ReportsTruly target saving event ↔ saving.LastFindsTarget event := by
  cases event with
  | message answer opens elapsed origin message =>
    simp only [Saving.step] at stepped
    split at stepped
    · rename_i session effects handled
      by_cases file : ∃ block, message = .fileData block
      · rcases file with ⟨block, rfl⟩
        exact consistent.reportsTruly_block_iff handled
      · rw [not_exists] at file
        have silent := SessionServer.availableMessage_effects file handled
        apply iff_of_true (reportsTruly_silent handled (by simp [silent]))
        cases message with
        | fileData block => exact absurd rfl (file block)
        | _ => exact trivial
    · cases stepped
  | _ => exact iff_of_true (by intro _ _ _ _ _ _ _ _ same; cases same) trivial

/-- The runs in which every report of a received file is true are those in which each last block finds the accepted
    target open, or opens it. -/
theorem reports_iff {buffer : Field maxMessageSize} {fileName : Field maxPathSize} {nickName : Field maxNicknameSize}
    {events : List (Event τ)} :
    Run (Saving.step target) (ReportsTruly target) (start buffer fileName nickName origin) events saving ↔
      Run (Saving.step target) LastFindsTarget (start buffer fileName nickName origin) events saving :=
  Run.iff_of_invariant Consistent (consistent_start buffer fileName nickName origin)
    (fun _ _ _ consistent stepped => reportsTruly_iff consistent stepped)
    fun _ _ _ consistent _ stepped => consistent.step stepped

theorem reports_unopened :
    ∃ saving : Saving Unit, exec (Saving.step .m64) (start (Field.zero _) (Field.zero _) (Field.zero _) ())
        [.message (.accept ⟨ascii ['f'], by decide, by decide, by decide⟩) false 0 ()
          (.fileRequest (.ofFileName (ascii ['f'])))] = some saving ∧
      ¬ ReportsTruly .m64 saving (.message .refuse false 0 () (.fileData Heap.zeroed.fileData.markLastBlock)) := by
  have outcome : (exec (Saving.step .m64) (start (Field.zero _) (Field.zero _) (Field.zero _) ())
      [.message (.accept ⟨ascii ['f'], by decide, by decide, by decide⟩) false 0 ()
        (.fileRequest (.ofFileName (ascii ['f'])))]).map (fun saving =>
          (saving.session.availableMessage .m64 .refuse false 0 () (.fileData Heap.zeroed.fileData.markLastBlock)).toOption.map
            fun handled => (handled.2, (saving.record handled.1 handled.2 .refuse
              (.fileData Heap.zeroed.fileData.markLastBlock)).saved)) = some (some ([.received []], false)) := by
    decide +kernel
  rcases Option.map_eq_some_iff.mp outcome with ⟨saving, ran, answered⟩
  refine ⟨saving, ran, fun truly => ?_⟩
  rcases Option.map_eq_some_iff.mp answered with ⟨⟨session, effects⟩, handled, reported⟩
  simp only [Prod.mk.injEq] at reported
  have told := truly _ _ _ _ _ session effects [] rfl (by
    cases answer : saving.session.availableMessage .m64 .refuse false 0 () (.fileData Heap.zeroed.fileData.markLastBlock) with
    | error fault =>
      rw [answer] at handled
      cases handled
    | ok outcome =>
      rw [answer] at handled
      exact congrArg Except.ok (Option.some.inj handled)) (by rw [reported.1]; exact List.mem_singleton_self _)
  rw [reported.2] at told
  cases told

end Saving

end LanMessenger
