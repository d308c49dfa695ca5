import LanMessenger.Client.FileTransfer
import LanMessenger.Transition.Runs

namespace LanMessenger

open CMemory Transition

variable {τ : Type}

namespace FileHandle

def written : FileHandle → Option (List Byte)
  | reading _ _ _ => none
  | writing fileName _ => some fileName

theorem written_fread (handle : FileHandle) : handle.fread.2.written = handle.written := by
  unfold fread
  split
  · split <;> rfl
  · rfl

theorem written_write (handle : FileHandle) (offset : Int) (data : List Byte) :
    ((handle.fseek offset).fwrite data).1.written = handle.written := by
  cases handle <;> rfl

end FileHandle

namespace SessionServer

theorem written_readBlock (cells : List Byte) (handle : FileHandle) : (readBlock cells handle).2.2.written = handle.written := by
  induction cells generalizing handle with
  | nil => rfl
  | cons cell cells ih =>
    have read := handle.written_fread
    rw [readBlock]
    split
    · rename_i same
      rw [same] at read
      exact read
    · rename_i same
      rw [same] at read
      exact (ih _).trans read
    · rename_i same
      rw [same] at read
      exact (ih _).trans read

variable {target : Target} {session after : SessionServer τ} {origin : τ}

theorem cycle_transfer (target : Target) (raw : FileDataMessage) (fopen : Option Readable) (origin : τ)
    (going : session.isSendingFile_ = true ∧ session.hasFileTransferStarted_ = true) :
    (session.cycle target raw fopen origin).fileTransfer = .disabled ∨
      ∃ opened handle, (session.fileTransferHandle_ <|> fopen.map (FileHandle.reading · 0 0)) = some opened ∧
        handle.written = opened.written ∧
        (session.cycle target raw fopen origin).fileTransfer = { session.fileTransfer with handle := some handle } := by
  rw [cycle, if_neg (by simp [going])]
  split
  · exact Or.inl (fileTransfer_disable session)
  · rename_i opened found
    split
    · exact Or.inr ⟨opened, opened, found, rfl, rfl⟩
    · have kept := written_readBlock (session.fileTransferBuffer_.bytes.take
        (maxPayloadSize - (FileDataMessage.new raw).size)) opened
      unfold sendBlock
      rcases read : readBlock (session.fileTransferBuffer_.bytes.take
        (maxPayloadSize - (FileDataMessage.new raw).size)) opened with ⟨block, endOfFile, handle⟩
      rw [read] at kept
      simp only [read]
      cases endOfFile with
      | true => exact Or.inl (fileTransfer_disable _)
      | false => exact Or.inr ⟨opened, handle, found, kept, rfl⟩

theorem cycle_idle (raw : FileDataMessage) (fopen : Option Readable)
    (idle : ¬ (session.isSendingFile_ = true ∧ session.hasFileTransferStarted_ = true)) :
    session.cycle target raw fopen origin = session := by
  rw [cycle, if_pos]
  simp only [Bool.or_eq_true, Bool.not_eq_true']
  by_contra going
  simp only [not_or, Bool.not_eq_false] at going
  exact idle going

theorem saveData_transfer (receiving : session.isReceivingFile_ = true) (opens : Bool) (buffer : List Byte)
    (offset : Int) :
    (session.saveData opens buffer offset).1.fileTransfer = .disabled ∨
      ∃ handle, (session.saveData opens buffer offset).1.fileTransfer =
          { session.fileTransfer with handle := some handle } ∧
        handle.written = (session.fileTransferHandle_.getD (.writing session.fileName_.text 0)).written := by
  rw [saveData, if_neg (by simp [receiving])]
  cases held : session.fileTransferHandle_ with
  | some handle => exact Or.inr ⟨_, rfl, handle.written_write offset buffer⟩
  | none =>
    cases opens with
    | false => exact Or.inl (fileTransfer_disable session)
    | true => exact Or.inr ⟨_, rfl, FileHandle.written_write (.writing session.fileName_.text 0) offset buffer⟩

inductive Changes (before after : FileTransfer) (answer : Answer) : Message → Prop
  | same {message : Message} (request : ∀ file, message ≠ .fileRequest file) (kept : after = before) :
      Changes before after answer message
  | starts {message : Message} (request : ∀ file, message ≠ .fileRequest file) (sending : before.sending = true)
      (started : after = { before with started := true }) : Changes before after answer message
  | ends {message : Message} (request : ∀ file, message ≠ .fileRequest file) (finished : after = .disabled) :
      Changes before after answer message
  | asked {file : FileTransferMessage} (answered : after = answer.applied before) :
      Changes before after answer (.fileRequest file)
  | saves {message : Message} (request : ∀ file, message ≠ .fileRequest file) (receiving : before.receiving = true)
      (handle : FileHandle) (saved : after = { before with handle := some handle })
      (file : handle.written = (before.handle.getD (.writing before.fileName 0)).written) :
      Changes before after answer message

theorem changes_message {answer : Answer} {opens : Bool} {elapsed : Int} {message : Message} {effects : List FileEffect}
    (handled : session.availableMessage target answer opens elapsed origin message = .ok (after, effects)) :
    Changes session.fileTransfer after.fileTransfer answer message := by
  cases message with
  | hello | bye =>
    cases handled
    exact .same (fun _ same => by cases same) rfl
  | chat chat =>
    cases (same_of_chat handled).1
    exact .same (fun _ same => by cases same) rfl
  | nickname name =>
    cases handled
    exact .same (fun _ same => by cases same) rfl
  | status status =>
    obtain ⟨code⟩ := status
    have request : ∀ file, Message.status ⟨code⟩ ≠ .fileRequest file := fun _ same => by cases same
    cases code with
    | acceptFileTransfer =>
      simp only [availableMessage] at handled
      split at handled
      · cases handled
      · rename_i going
        cases handled
        exact .starts request (sending_of_verdict going) rfl
    | rejectFileTransfer =>
      simp only [availableMessage] at handled
      split at handled
      · cases handled
      · cases handled
        exact .ends request (fileTransfer_disable session)
    | fileTransferCanceled =>
      simp only [availableMessage] at handled
      split at handled
      · cases handled
      · cases handled
        exact .ends request (fileTransfer_disable session)
    | _ =>
      cases handled
      exact .same request rfl
  | fileRequest file =>
    simp only [availableMessage] at handled
    split at handled
    · cases handled
    · cases handled
      refine .asked ?_
      cases answer with
      | refuse => rfl
      | cancelName =>
        simp only [gotFileTransferRequest, Answer.applied, fileTransfer, send, text_set_zero]
      | accept targetFileName =>
        simp only [gotFileTransferRequest, Answer.applied, fileTransfer, send,
          text_overwrite _ targetFileName.noNul targetFileName.fits]
  | fileData block =>
    have request : ∀ file, Message.fileData block ≠ .fileRequest file := fun _ same => by cases same
    simp only [availableMessage] at handled
    split at handled
    · cases handled
      exact .same request rfl
    · rename_i accepted
      have receiving : session.isReceivingFile_ = true := by simpa using accepted
      split at handled
      · cases handled
        exact .ends request (fileTransfer_disable _)
      · cases handled
        rcases saveData_transfer receiving opens block.buffer (block.fileOffset target) with
          finished | ⟨handle, saved, file⟩
        · exact .ends request finished
        · exact .saves request receiving handle saved file

end SessionServer

theorem FileTransferMessage.fileName_ofFileName (name : FileName) :
    (FileTransferMessage.ofFileName name.text).fileName = name.text := by
  simp only [FileTransferMessage.fileName, ofFileName, setSender, setFileName, setText]
  exact SessionServer.text_overwrite_strncpy _ name

namespace FileTransfer

variable {transfer : FileTransfer} {opened requested : List Byte}

/-- A client has one role; a handle belongs to it and is on the file now named, which for a file that is read is
    the one of the own request. -/
structure Coherent (transfer : FileTransfer) (opened requested : List Byte) : Prop where
  oneRole : ¬ (transfer.sending = true ∧ transfer.receiving = true)
  handle : ∀ handle, transfer.handle = some handle →
    match handle.written with
    | some fileName => transfer.receiving = true ∧ fileName = transfer.fileName
    | none => transfer.sending = true ∧ transfer.started = true ∧ opened = transfer.fileName ∧ opened = requested

/-- What a sender has named in its request is what it will open, unless the name is gone. -/
structure Orderly (transfer : FileTransfer) (opened requested : List Byte) : Prop
    extends Coherent transfer opened requested where
  named : transfer.sending = true → transfer.fileName = requested ∨ transfer.fileName = []
  nonempty : ∀ handle, transfer.handle = some handle → handle.written = none → opened ≠ []

theorem orderly_disabled (opened requested : List Byte) : disabled.Orderly opened requested := by
  refine ⟨⟨fun both => ?_, fun handle held => ?_⟩, fun sending => ?_, fun handle held => ?_⟩
  · cases both.1
  · cases held
  · cases sending
  · cases held

theorem Coherent.roles (coherent : transfer.Coherent opened requested) {handle : FileHandle}
    (held : transfer.handle = some handle) :
    (handle.written = some transfer.fileName ∧ transfer.receiving = true) ∨
      (handle.written = none ∧ transfer.sending = true ∧ transfer.started = true ∧ opened = transfer.fileName ∧
        opened = requested) := by
  have agrees := coherent.handle handle held
  cases file : handle.written with
  | some fileName =>
    rw [file] at agrees
    exact Or.inl ⟨by rw [agrees.2], agrees.1⟩
  | none =>
    rw [file] at agrees
    exact Or.inr ⟨rfl, agrees⟩

theorem Orderly.writing (orderly : transfer.Orderly opened requested) (receiving : transfer.receiving = true)
    {handle : FileHandle} (held : transfer.handle = some handle) : handle.written = some transfer.fileName := by
  rcases orderly.roles held with ⟨file, -⟩ | ⟨-, sending, -⟩
  · exact file
  · exact absurd ⟨sending, receiving⟩ orderly.oneRole

theorem Orderly.reading (orderly : transfer.Orderly opened requested) (sending : transfer.sending = true)
    {handle : FileHandle} (held : transfer.handle = some handle) :
    handle.written = none ∧ opened = transfer.fileName ∧ opened = requested := by
  rcases orderly.roles held with ⟨-, receiving⟩ | ⟨file, -, -, same, own⟩
  · exact absurd ⟨sending, receiving⟩ orderly.oneRole
  · exact ⟨file, same, own⟩

theorem Orderly.starts (orderly : transfer.Orderly opened requested) :
    ({ transfer with started := true } : FileTransfer).Orderly opened requested := by
  refine ⟨⟨orderly.oneRole, fun handle held => ?_⟩, orderly.named, orderly.nonempty⟩
  rcases orderly.roles held with ⟨file, receiving⟩ | ⟨file, sending, -, same, own⟩
  · rw [file]
    exact ⟨receiving, rfl⟩
  · rw [file]
    exact ⟨sending, rfl, same, own⟩

theorem Orderly.saves (orderly : transfer.Orderly opened requested) (receiving : transfer.receiving = true)
    {handle : FileHandle} (file : handle.written = (transfer.handle.getD (.writing transfer.fileName 0)).written) :
    ({ transfer with handle := some handle } : FileTransfer).Orderly opened requested := by
  have written : handle.written = some transfer.fileName := by
    rw [file]
    cases held : transfer.handle with
    | none => rfl
    | some handle => exact orderly.writing receiving held
  refine ⟨⟨orderly.oneRole, fun current held => ?_⟩, orderly.named, fun current held reads => ?_⟩
  · cases held
    rw [written]
    exact ⟨receiving, rfl⟩
  · cases held
    rw [written] at reads
    cases reads

theorem Orderly.opens (orderly : transfer.Orderly opened requested) (sending : transfer.sending = true)
    {fopen : Option Readable} {before : FileHandle}
    (found : (transfer.handle <|> fopen.map (FileHandle.reading · 0 0)) = some before)
    (named : fopen.isSome = true → transfer.fileName ≠ []) :
    let opened := if transfer.handle.isNone then transfer.fileName else opened
    before.written = none ∧ opened = transfer.fileName ∧ opened = requested ∧ opened ≠ [] := by
  cases held : transfer.handle with
  | some current =>
    rw [held] at found
    cases found
    obtain ⟨none, same, own⟩ := orderly.reading sending held
    exact ⟨none, same, own, orderly.nonempty _ held none⟩
  | none =>
    rw [held] at found
    obtain ⟨content, opens, rfl⟩ := Option.map_eq_some_iff.mp found
    have name := named (by rw [opens]; rfl)
    exact ⟨rfl, rfl, (orderly.named sending).resolve_right name, name⟩

theorem Orderly.cycles (orderly : transfer.Orderly opened requested) (sending : transfer.sending = true)
    (started : transfer.started = true) {handle : FileHandle} {fopen : Option Readable} {before : FileHandle}
    (found : (transfer.handle <|> fopen.map (FileHandle.reading · 0 0)) = some before)
    (named : fopen.isSome = true → transfer.fileName ≠ []) (file : handle.written = before.written) :
    ({ transfer with handle := some handle } : FileTransfer).Orderly
      (if transfer.handle.isNone then transfer.fileName else opened) requested := by
  obtain ⟨none, same, own, nonempty⟩ := orderly.opens sending found named
  refine ⟨⟨orderly.oneRole, fun current held => ?_⟩, orderly.named, fun _ _ _ => nonempty⟩
  cases held
  rw [file, none]
  exact ⟨sending, started, same, own⟩

theorem Orderly.requests (orderly : transfer.Orderly opened requested) (idle : transfer.receiving = false)
    (stopped : transfer.sending = false) (name : List Byte) :
    ({ transfer with sending := true, fileName := name } : FileTransfer).Orderly opened name := by
  have closed : ∀ handle, transfer.handle ≠ some handle := by
    intro handle held
    rcases orderly.roles held with ⟨-, receiving⟩ | ⟨-, sending, -⟩
    · rw [idle] at receiving
      cases receiving
    · rw [stopped] at sending
      cases sending
  refine ⟨⟨fun both => ?_, fun handle held => absurd held (closed handle)⟩, fun _ => Or.inl rfl,
    fun handle held => absurd held (closed handle)⟩
  rw [idle] at both
  cases both.2

/-- An answer that finds no handle it would leave behind or rename, and accepts nothing while a file is sent. -/
def Admits (transfer : FileTransfer) : Answer → Prop
  | .refuse => transfer.receiving = true → transfer.handle = none
  | .cancelName => transfer.handle = none
  | .accept targetFileName => transfer.sending = false ∧
    (transfer.handle.isSome = true → targetFileName.text = transfer.fileName)

theorem Orderly.coherent_applied_iff (orderly : transfer.Orderly opened requested) (answer : Answer) :
    (answer.applied transfer).Coherent opened requested ↔ transfer.Admits answer := by
  cases answer with
  | refuse =>
    constructor
    · intro coherent receiving
      by_contra held
      obtain ⟨handle, held⟩ := Option.ne_none_iff_exists'.mp held
      have agrees := coherent.handle handle held
      rw [orderly.writing receiving held] at agrees
      cases agrees.1
    · intro closed
      refine ⟨fun both => (by cases both.2), fun handle held => ?_⟩
      rcases orderly.roles held with ⟨-, receiving⟩ | ⟨file, sending⟩
      · rw [Answer.applied, closed receiving] at held
        cases held
      · rw [file]
        exact sending
  | cancelName =>
    constructor
    · intro coherent
      by_contra held
      obtain ⟨handle, held⟩ := Option.ne_none_iff_exists'.mp held
      rcases coherent.roles held with ⟨-, receiving⟩ | ⟨file, -, -, unnamed, -⟩
      · cases receiving
      · exact orderly.nonempty handle held file unnamed
    · intro closed
      refine ⟨fun both => (by cases both.2), fun handle held => ?_⟩
      rw [Admits] at closed
      rw [Answer.applied, closed] at held
      cases held
  | accept targetFileName =>
    constructor
    · intro coherent
      have stopped : transfer.sending = false := by
        by_contra sending
        exact coherent.oneRole ⟨Bool.eq_true_of_not_eq_false sending, rfl⟩
      refine ⟨stopped, fun open_ => ?_⟩
      obtain ⟨handle, held⟩ := Option.isSome_iff_exists.mp open_
      rcases orderly.roles held with ⟨before, -⟩ | ⟨-, sending, -⟩
      · have agrees := coherent.handle handle held
        rw [before] at agrees
        exact agrees.2.symm
      · rw [stopped] at sending
        cases sending
    · rintro ⟨stopped, same⟩
      refine ⟨fun both => ?_, fun handle held => ?_⟩
      · rw [Answer.sending_applied, stopped] at both
        cases both.1
      · have named : targetFileName.text = transfer.fileName := same (Option.isSome_iff_exists.mpr ⟨handle, held⟩)
        rcases orderly.roles held with ⟨before, -⟩ | ⟨-, sending, -⟩
        · rw [before]
          exact ⟨rfl, named.symm⟩
        · rw [stopped] at sending
          cases sending

theorem Orderly.applied (orderly : transfer.Orderly opened requested) {answer : Answer}
    (coherent : (answer.applied transfer).Coherent opened requested) : (answer.applied transfer).Orderly opened requested := by
  refine ⟨coherent, fun sending => ?_, ?_⟩
  · cases answer with
    | refuse => exact orderly.named sending
    | cancelName => exact Or.inr rfl
    | accept targetFileName => exact absurd ⟨sending, rfl⟩ coherent.oneRole
  · cases answer <;> exact orderly.nonempty

end FileTransfer

/-- A client's session, the name it opened a file by for reading last, and the name in its last own request. -/
structure ClientTransfer (τ : Type) where
  session : SessionServer τ
  opened : List Byte
  requested : List Byte

namespace ClientTransfer

/-- `chat`, `setNickName`, `disconnect` and `writeData` touch nothing but the queue. -/
inductive Event (τ : Type)
  | message (answer : Answer) (opens : Bool) (elapsed : Int) (origin : τ) (message : Message)
  | sendFile (origin : τ) (fileName : FileName)
  | cycle (raw : FileDataMessage) (fopen : Option Readable) (origin : τ)
  | queue (outbox : Outbox τ)

def start (fileTransferBuffer_ : Field maxMessageSize) (fileName_ : Field maxPathSize) (nickName_ : Field maxNicknameSize)
    (origin : τ) : ClientTransfer τ := ⟨.new fileTransferBuffer_ fileName_ nickName_ origin, [], []⟩

def Going (client : ClientTransfer τ) : Prop :=
  client.session.isSendingFile_ = true ∧ client.session.hasFileTransferStarted_ = true

instance (client : ClientTransfer τ) : Decidable client.Going := inferInstanceAs (Decidable (_ ∧ _))

/-- A file with an empty name cannot be opened. -/
def step (target : Target) (client : ClientTransfer τ) : Event τ → Option (ClientTransfer τ)
  | .message answer opens elapsed origin message =>
    match client.session.availableMessage target answer opens elapsed origin message with
    | .ok (session, _) => some { client with session }
    | .error _ => none
  | .sendFile origin fileName =>
    if client.session.hasFileTransfer then none
    else some { client with
      session := client.session.sendFile origin fileName
      requested := (FileTransferMessage.ofFileName fileName.text).fileName }
  | .cycle raw fopen origin =>
    if client.session.fileName_.text = [] ∧ fopen.isSome = true then none
    else some { client with
      session := client.session.cycle target raw fopen origin
      opened :=
        if client.Going ∧ client.session.fileTransferHandle_.isNone then client.session.fileName_.text
        else client.opened }
  | .queue outbox => some { client with session := { client.session with outbox } }

def Coherent (client : ClientTransfer τ) : Prop := client.session.fileTransfer.Coherent client.opened client.requested

/-- The step leads to a coherent state, and what it reads is the file named in the own request. -/
def StaysCoherent (target : Target) (client : ClientTransfer τ) (event : Event τ) : Prop :=
  ∀ next, client.step target event = some next → next.Coherent ∧
    ∀ raw fopen origin, event = .cycle raw fopen origin → client.Going →
      (client.session.fileTransferHandle_.isSome = true ∨ fopen.isSome = true) → next.opened = next.requested

/-- Each request is answered in a way that the transfer in hand admits. -/
def RolesApart (client : ClientTransfer τ) : Event τ → Prop
  | .message answer _ _ _ (.fileRequest _) => client.session.fileTransfer.Admits answer
  | _ => True

def Orderly (client : ClientTransfer τ) : Prop := client.session.fileTransfer.Orderly client.opened client.requested

theorem orderly_start (buffer : Field maxMessageSize) (fileName : Field maxPathSize) (nickName : Field maxNicknameSize)
    (origin : τ) : (start buffer fileName nickName origin).Orderly := by
  have fresh : (SessionServer.new buffer fileName nickName origin).fileTransfer = .disabled := by
    simp only [SessionServer.new, SessionServer.fileTransfer, FileTransfer.disabled, SessionServer.text_set_zero]
  simp only [Orderly, start, fresh]
  exact FileTransfer.orderly_disabled [] []

variable {client next : ClientTransfer τ} {target : Target} {origin : τ}

theorem Orderly.sendFile (orderly : client.Orderly) {fileName : FileName}
    (stepped : client.step target (.sendFile origin fileName) = some next) : next.Orderly := by
  simp only [step] at stepped
  split at stepped
  · cases stepped
  · rename_i free
    cases stepped
    simp only [SessionServer.hasFileTransfer, Bool.or_eq_true, not_or, Bool.not_eq_true] at free
    simp only [Orderly, SessionServer.fileTransfer_sendFile, FileTransferMessage.fileName_ofFileName]
    exact FileTransfer.Orderly.requests orderly free.1 free.2 fileName.text

theorem Orderly.cycle (orderly : client.Orderly) {raw : FileDataMessage} {fopen : Option Readable}
    (stepped : client.step target (.cycle raw fopen origin) = some next) :
    next.Orderly ∧ (client.Going → (client.session.fileTransferHandle_.isSome = true ∨ fopen.isSome = true) →
      next.opened = next.requested) := by
  simp only [step] at stepped
  split at stepped
  · cases stepped
  · rename_i opens
    cases stepped
    have named : fopen.isSome = true → client.session.fileTransfer.fileName ≠ [] :=
      fun given empty => opens ⟨empty, given⟩
    by_cases going : client.Going
    · constructor
      · simp only [Orderly, going, true_and]
        rcases client.session.cycle_transfer target raw fopen origin going with
          finished | ⟨before, handle, found, file, held⟩
        · rw [finished]
          exact FileTransfer.orderly_disabled _ _
        · rw [held]
          exact FileTransfer.Orderly.cycles orderly going.1 going.2 found named file
      · intro _ opened
        obtain ⟨before, found⟩ : ∃ before, (client.session.fileTransfer.handle <|>
            fopen.map (FileHandle.reading · 0 0)) = some before := by
          cases held : client.session.fileTransfer.handle with
          | some handle => exact ⟨handle, rfl⟩
          | none =>
            obtain ⟨content, given⟩ := Option.isSome_iff_exists.mp
              (opened.resolve_left (by rw [show client.session.fileTransferHandle_ = none from held]; decide))
            exact ⟨_, by rw [given]; rfl⟩
        simp only [going, true_and]
        exact (FileTransfer.Orderly.opens orderly going.1 found named).2.2.1
    · refine ⟨?_, fun goes => absurd goes going⟩
      simp only [Orderly, going, false_and, if_false, SessionServer.cycle_idle raw fopen going]
      exact orderly

theorem Orderly.changes (orderly : client.Orderly) {answer : Answer} {message : Message} {after : FileTransfer}
    (changes : SessionServer.Changes client.session.fileTransfer after answer message)
    (request : ∀ file, message ≠ .fileRequest file) : after.Orderly client.opened client.requested := by
  cases changes with
  | same _ kept => exact kept ▸ orderly
  | starts _ _ started => exact started ▸ FileTransfer.Orderly.starts orderly
  | ends _ finished => exact finished ▸ FileTransfer.orderly_disabled _ _
  | asked _ => exact absurd rfl (request _)
  | saves _ receiving handle saved file => exact saved ▸ FileTransfer.Orderly.saves orderly receiving file

theorem Orderly.message (orderly : client.Orderly) {answer : Answer} {opens : Bool} {elapsed : Int} {message : Message}
    (stepped : client.step target (.message answer opens elapsed origin message) = some next) :
    (∀ file, message ≠ .fileRequest file) ∧ next.Orderly ∨
      (∃ file, message = .fileRequest file) ∧ next.opened = client.opened ∧ next.requested = client.requested ∧
        next.session.fileTransfer = answer.applied client.session.fileTransfer := by
  simp only [step] at stepped
  split at stepped
  · rename_i session effects handled
    cases stepped
    have changes := SessionServer.changes_message handled
    by_cases request : ∃ file, message = .fileRequest file
    · obtain ⟨file, rfl⟩ := request
      refine Or.inr ⟨⟨file, rfl⟩, rfl, rfl, ?_⟩
      cases changes with
      | asked answered => exact answered
      | same other _ => exact absurd rfl (other file)
      | starts other _ _ => exact absurd rfl (other file)
      | ends other _ => exact absurd rfl (other file)
      | saves other _ _ _ _ => exact absurd rfl (other file)
    · rw [not_exists] at request
      exact Or.inl ⟨request, Orderly.changes orderly changes request⟩
  · cases stepped

/-- After a step the client is in order or it has answered a request, and the answer decides. -/
theorem Orderly.step (orderly : client.Orderly) {event : Event τ} (stepped : client.step target event = some next) :
    (next.Coherent ↔ client.RolesApart event) ∧ (next.Coherent → next.Orderly) := by
  have fine : next.Orderly → client.RolesApart event →
      (next.Coherent ↔ client.RolesApart event) ∧ (next.Coherent → next.Orderly) :=
    fun after apart => ⟨iff_of_true after.toCoherent apart, fun _ => after⟩
  cases event with
  | message answer opens elapsed origin message =>
    rcases Orderly.message orderly stepped with ⟨request, after⟩ | ⟨⟨file, rfl⟩, opened, requested, applied⟩
    · refine fine after ?_
      cases message with
      | fileRequest file => exact absurd rfl (request file)
      | _ => exact trivial
    · simp only [Coherent, Orderly, opened, requested, applied]
      exact ⟨FileTransfer.Orderly.coherent_applied_iff orderly answer, FileTransfer.Orderly.applied orderly⟩
  | sendFile origin fileName => exact fine (orderly.sendFile stepped) trivial
  | cycle raw fopen origin => exact fine (orderly.cycle stepped).1 trivial
  | queue outbox =>
    cases stepped
    exact fine orderly trivial

theorem staysCoherent_iff (orderly : client.Orderly) {event : Event τ} (stepped : client.step target event = some next) :
    StaysCoherent target client event ↔ client.RolesApart event := by
  rw [← (orderly.step stepped).1]
  constructor
  · intro stays
    exact (stays next stepped).1
  · intro coherent after taken
    rw [stepped] at taken
    cases taken
    refine ⟨coherent, ?_⟩
    rintro raw fopen origin rfl
    exact (orderly.cycle stepped).2

/-- The runs in which the transfer state of a client stays coherent are those in which each request is answered in
    a way that the transfer in hand admits. -/
theorem transferState {buffer : Field maxMessageSize} {fileName : Field maxPathSize} {nickName : Field maxNicknameSize}
    {events : List (Event τ)} :
    Run (ClientTransfer.step target) (StaysCoherent target) (start buffer fileName nickName origin) events client ↔
      Run (ClientTransfer.step target) RolesApart (start buffer fileName nickName origin) events client :=
  Run.iff_of_invariant Orderly (orderly_start buffer fileName nickName origin)
    (fun _ _ _ orderly stepped => staysCoherent_iff orderly stepped)
    fun _ _ _ orderly stays stepped => (orderly.step stepped).2 (stays _ stepped).1

theorem transferState_bothRoles :
    ∃ client : ClientTransfer Unit, exec (ClientTransfer.step .m64)
        (start (Field.zero _) (Field.zero _) (Field.zero _) ())
        [.sendFile () ⟨ascii ['f'], by decide, by decide, by decide⟩] = some client ∧
      ¬ StaysCoherent .m64 client (.message (.accept ⟨ascii ['g'], by decide, by decide, by decide⟩) true 0 ()
        (.fileRequest (.ofFileName (ascii ['g'])))) := by
  have outcome : (exec (ClientTransfer.step .m64) (start (Field.zero _) (Field.zero _) (Field.zero _) ())
      [.sendFile () ⟨ascii ['f'], by decide, by decide, by decide⟩]).map (fun client =>
        (client.step .m64 (.message (.accept ⟨ascii ['g'], by decide, by decide, by decide⟩) true 0 ()
          (.fileRequest (.ofFileName (ascii ['g']))))).map fun next =>
          (next.session.isSendingFile_, next.session.isReceivingFile_)) = some (some (true, true)) := by
    decide +kernel
  obtain ⟨client, ran, taken⟩ := Option.map_eq_some_iff.mp outcome
  obtain ⟨next, stepped, roles⟩ := Option.map_eq_some_iff.mp taken
  refine ⟨client, ran, fun stays => ?_⟩
  exact (stays next stepped).1.oneRole (Prod.mk.inj roles)

end ClientTransfer

end LanMessenger
