import LanMessenger.Client.FileTransfer
import LanMessenger.Network.Network

namespace LanMessenger

open CMemory

namespace SessionServer

variable {τ : Type}

/-- What a call of `cycle` that is about a transfer comes to: it goes on, with a block or without one, or
    it is over, with the last block or because the file did not open. -/
inductive Cycled (before after : FileTransfer) (origin : τ) : List (Letter τ) → Prop
  | waits (handle : Option FileHandle) (goesOn : after = { before with handle }) : Cycled before after origin []
  | sends (block : FileDataMessage) (more : block.isLast = false) (handle : Option FileHandle)
      (goesOn : after = { before with handle }) : Cycled before after origin [⟨.fileData block, origin⟩]
  | fails (finished : after = .disabled) : Cycled before after origin []
  | ends (block : FileDataMessage) (last : block.isLast = true) (finished : after = .disabled) :
      Cycled before after origin [⟨.fileData block, origin⟩]

variable {target : Target}

theorem transferLetters_accepted (outbox : Outbox τ) (letter : Letter τ) (room : outbox.canSendMessages = true)
    (transfers : letter.message.ofTransfer = true) :
    transferLetters (outbox.send letter).sendingQueue_ = transferLetters outbox.sendingQueue_ ++ [letter] := by
  rw [Outbox.send_of_room room]
  simp [transferLetters, transfers]

theorem sendBlock_cycled (session : SessionServer τ) (raw : FileDataMessage) (origin : τ) (handle : FileHandle)
    (room : session.outbox.canSendMessages = true) :
    ∃ sent, transferLetters (session.sendBlock target raw origin handle).outbox.sendingQueue_ =
        transferLetters session.outbox.sendingQueue_ ++ sent ∧
      Cycled session.fileTransfer (session.sendBlock target raw origin handle).fileTransfer origin sent := by
  unfold sendBlock
  rcases read : readBlock (session.fileTransferBuffer_.bytes.take (maxPayloadSize - (FileDataMessage.new raw).size))
    handle with ⟨block, endOfFile, after⟩
  let message := ((FileDataMessage.new raw).setBuffer block).setFileOffset target session.fileTransferOffset_.toNat
  simp only [read]
  cases endOfFile with
  | true =>
    refine ⟨_, transferLetters_accepted session.outbox ⟨.fileData message.markLastBlock, origin⟩ room rfl, ?_⟩
    exact Cycled.ends message.markLastBlock rfl (fileTransfer_disable _)
  | false =>
    refine ⟨_, transferLetters_accepted session.outbox ⟨.fileData message, origin⟩ room rfl, ?_⟩
    exact Cycled.sends message rfl (some after) rfl

theorem cycle_cycled (session : SessionServer τ) (raw : FileDataMessage) (fopen : Option Readable) (origin : τ) :
    session.cycle target raw fopen origin = session ∨
      (session.isSendingFile_ = true ∧ session.hasFileTransferStarted_ = true ∧
        ∃ sent, transferLetters (session.cycle target raw fopen origin).outbox.sendingQueue_ =
            transferLetters session.outbox.sendingQueue_ ++ sent ∧
          Cycled session.fileTransfer (session.cycle target raw fopen origin).fileTransfer origin sent) := by
  by_cases idle : (!session.isSendingFile_ || !session.hasFileTransferStarted_) = true
  · left
    rw [cycle, if_pos idle]
  · right
    have going : session.isSendingFile_ = true ∧ session.hasFileTransferStarted_ = true := by
      simpa using idle
    refine ⟨going.1, going.2, ?_⟩
    rw [cycle, if_neg idle]
    split
    · exact ⟨[], (List.append_nil _).symm, Cycled.fails (fileTransfer_disable session)⟩
    · rename_i handle _
      by_cases full : (!session.outbox.canSendMessages) = true
      · rw [if_pos full]
        exact ⟨[], (List.append_nil _).symm, Cycled.waits (some handle) rfl⟩
      · rw [if_neg full]
        exact sendBlock_cycled session raw origin handle (by simpa using full)

end SessionServer

namespace SessionServer

variable {τ : Type}

theorem saveData_cases {session : SessionServer τ} (receiving : session.isReceivingFile_ = true) (opens : Bool) (buffer : List Byte) (offset : Int) :
    (∃ handle effects, session.saveData opens buffer offset =
        ({ session with fileTransferHandle_ := some handle }, effects)) ∨
      (session.fileTransferHandle_ = none ∧ opens = false ∧
        session.saveData opens buffer offset = (session.disableFileTransferMode, [])) := by
  unfold saveData
  simp only [receiving, Bool.not_true, Bool.false_eq_true, if_false]
  cases handle : session.fileTransferHandle_ with
  | some open_ => exact Or.inl ⟨_, _, rfl⟩
  | none =>
    cases opens with
    | false => exact Or.inr ⟨rfl, rfl, rfl⟩
    | true => exact Or.inl ⟨_, _, rfl⟩

theorem block_cases (target : Target) (session : SessionServer τ) (answer : Answer) (opens : Bool) (elapsed : Int)
    (origin : τ) (block : FileDataMessage) :
    ∃ after effects, session.availableMessage target answer opens elapsed origin (.fileData block) = .ok (after, effects) ∧
      after.outbox = session.outbox ∧
      (after.fileTransfer = session.fileTransfer ∨
        (session.isReceivingFile_ = true ∧
          ((∃ handle, after.fileTransfer = { session.fileTransfer with handle := some handle }) ∨
            ((block.isLast = true ∨ (session.fileTransferHandle_ = none ∧ opens = false)) ∧
              after.fileTransfer = .disabled)))) := by
  cases receiving : session.isReceivingFile_ with
  | false =>
    refine ⟨session, [], ?_, rfl, Or.inl rfl⟩
    simp [availableMessage, receiving]
  | true =>
    simp only [availableMessage, receiving, Bool.not_true, Bool.false_eq_true, if_false]
    rcases saveData_cases receiving opens block.buffer (block.fileOffset target) with
      ⟨handle, effects, saved⟩ | ⟨closed, failed, saved⟩
    · rw [saved]
      cases last : block.isLast with
      | true =>
        simp only [FileDataMessage.isLastBlock, last, if_true]
        exact ⟨_, _, rfl, rfl, Or.inr ⟨trivial, Or.inr ⟨Or.inl trivial, fileTransfer_disable _⟩⟩⟩
      | false =>
        simp only [FileDataMessage.isLastBlock, last, Bool.false_eq_true, if_false]
        exact ⟨_, _, rfl, rfl, Or.inr ⟨trivial, Or.inl ⟨handle, rfl⟩⟩⟩
    · rw [saved]
      cases last : block.isLast with
      | true =>
        simp only [FileDataMessage.isLastBlock, last, if_true]
        exact ⟨_, _, rfl, rfl, Or.inr ⟨trivial, Or.inr ⟨Or.inl trivial, fileTransfer_disable _⟩⟩⟩
      | false =>
        simp only [FileDataMessage.isLastBlock, last, Bool.false_eq_true, if_false]
        exact ⟨_, _, rfl, rfl, Or.inr ⟨trivial, Or.inr ⟨Or.inr ⟨closed, failed⟩, fileTransfer_disable _⟩⟩⟩

end SessionServer

def Answer.status : Answer → StatusCode
  | refuse | cancelName => .rejectFileTransfer
  | accept _ => .acceptFileTransfer

theorem Answer.statusAnswers (answer : Answer) : Server.StatusAnswers answer.status := by
  cases answer with
  | accept => exact Or.inl rfl
  | _ => exact Or.inr rfl

namespace Connection

def upstream (connection : Connection) : List (Letter Nat) :=
  transferLetters (connection.up ++ connection.client.outbox.sendingQueue_)

inductive Acts (target : Target) (connection next : Connection) : ClientEvent → Prop
  | quiet {event : ClientEvent} (client : next.client.fileTransfer = connection.client.fileTransfer)
      (up : next.upstream = connection.upstream)
      (down : transferLetters next.down = transferLetters connection.down)
      (journal : next.journal = connection.journal) (alive : next.aborted = false)
      (prompt : next.choosing = true → connection.choosing = true ∨ connection.client.isSendingFile_ = false) :
      Acts target connection next event
  | requested {fileName : FileName}
      (client : next.client.fileTransfer =
        { connection.client.fileTransfer with sending := true, fileName := fileName.text })
      (up : Queued connection.upstream next.upstream (some ⟨.fileRequest (.ofFileName fileName.text), 0⟩))
      (down : next.down = connection.down) (journal : next.journal = connection.journal)
      (alive : next.aborted = false) (prompt : connection.choosing = true) (closed : next.choosing = false) :
      Acts target connection next (.sendFile fileName)
  | cycled {raw : FileDataMessage} {fopen : Option Readable} (sending : connection.client.isSendingFile_ = true)
      (started : connection.client.hasFileTransferStarted_ = true) (sent : List (Letter Nat))
      (client : SessionServer.Cycled connection.client.fileTransfer next.client.fileTransfer 0 sent)
      (up : next.upstream = connection.upstream ++ sent) (down : next.down = connection.down)
      (journal : next.journal = connection.journal) (alive : next.aborted = false)
      (prompt : next.choosing = connection.choosing) : Acts target connection next (.cycle raw fopen)
  | handled {answer : Answer} {opens : Bool} {elapsed : Int} (letter : Letter Nat) (rest : List (Letter Nat))
      (down : connection.down = letter :: rest) (transfers : letter.message.ofTransfer = true)
      (handled : connection.handle target answer opens elapsed letter rest = some next) :
      Acts target connection next (.readData answer opens elapsed)

variable {target : Target} {connection next : Connection}

theorem alive_of_step {event : ClientEvent} (stepped : connection.step target event = some next) :
    connection.aborted = false := by
  unfold step at stepped
  by_cases gone : connection.aborted = true
  · simp [gone] at stepped
  · exact Bool.eq_false_of_not_eq_true gone

theorem choosing_of_handle {answer : Answer} {opens : Bool} {elapsed : Int} {letter : Letter Nat} {rest : List (Letter Nat)}
    (handled : connection.handle target answer opens elapsed letter rest = some next) :
    next.choosing = connection.choosing := by
  unfold handle at handled
  split at handled
  · cases handled
    rfl
  · cases handled
    rfl
  · cases handled

theorem quiet_of_handle {answer : Answer} {opens : Bool} {elapsed : Int} {letter : Letter Nat} {rest : List (Letter Nat)}
    (other : letter.message.ofTransfer = false)
    (handled : connection.handle target answer opens elapsed letter rest = some next) :
    next.client.fileTransfer = connection.client.fileTransfer ∧ next.client.outbox = connection.client.outbox ∧
      next.up = connection.up ∧ next.down = rest ∧ next.journal = connection.journal ∧
      next.aborted = connection.aborted := by
  obtain ⟨message, origin⟩ := letter
  cases message with
  | status message =>
    obtain ⟨code⟩ := message
    cases code with
    | acceptFileTransfer | rejectFileTransfer | fileTransferCanceled => cases other
    | _ =>
      cases handled
      exact ⟨rfl, rfl, rfl, rfl, rfl, rfl⟩
  | fileRequest message => cases other
  | fileData message => cases other
  | chat message =>
    unfold handle at handled
    split at handled
    · rename_i client effects read
      cases handled
      cases (SessionServer.same_of_chat read).1
      exact ⟨rfl, rfl, rfl, rfl, rfl, rfl⟩
    · rename_i fatal
      simp only [SessionServer.availableMessage] at fatal
      split at fatal <;> cases fatal
    · cases handled
  | _ =>
    cases handled
    exact ⟨rfl, rfl, rfl, rfl, rfl, rfl⟩

theorem upstream_send (connection : Connection) (letter : Letter Nat) (other : letter.message.ofTransfer = false) :
    { connection with client := connection.client.send letter }.upstream = connection.upstream := by
  simp only [upstream, SessionServer.send, transferLetters_append, Outbox.transferLetters_send _ _ other]

theorem acts_of_step {event : ClientEvent} (stepped : connection.step target event = some next) :
    Acts target connection next event := by
  have alive := alive_of_step stepped
  unfold step at stepped
  simp only at stepped
  split at stepped
  · cases stepped
  · cases event with
    | chooseFile =>
      simp only at stepped
      split at stepped
      · cases stepped
      · rename_i free
        cases stepped
        simp only [SessionServer.hasFileTransfer, Bool.or_eq_true, not_or, Bool.not_eq_true] at free
        exact Acts.quiet rfl rfl rfl rfl alive fun _ => Or.inr free.2
    | leavePrompt =>
      cases stepped
      exact Acts.quiet rfl rfl rfl rfl alive fun open_ => by cases open_
    | sendFile fileName =>
      simp only at stepped
      split at stepped
      · rename_i open_
        cases stepped
        apply Acts.requested
        · exact SessionServer.fileTransfer_sendFile _ _ _
        · simp only [upstream, transferLetters_append]
          exact (connection.client.outbox.queued_send _ rfl).behind _
        · rfl
        · rfl
        · exact alive
        · exact open_
        · rfl
      · cases stepped
    | chat raw message =>
      rcases Option.map_eq_some_iff.mp stepped with ⟨client, chatted, rfl⟩
      cases SessionServer.chat_some chatted
      exact Acts.quiet rfl (upstream_send connection _ rfl) rfl rfl alive Or.inl
    | setNickName nickName =>
      cases stepped
      exact Acts.quiet rfl (upstream_send connection _ rfl) rfl rfl alive Or.inl
    | disconnect =>
      cases stepped
      refine Acts.quiet rfl ?_ rfl rfl alive Or.inl
      simp only [upstream, SessionServer.disconnect, transferLetters_append, Outbox.transferLetters_disconnect]
    | cycle raw fopen =>
      cases stepped
      rcases connection.client.cycle_cycled raw fopen 0 with same | ⟨sending, started, sent, queue, cycled⟩
      · rw [same]
        exact Acts.quiet rfl rfl rfl rfl alive Or.inl
      · refine Acts.cycled sending started sent cycled ?_ rfl rfl alive rfl
        simp only [upstream, transferLetters_append, queue, List.append_assoc]
    | writeData =>
      cases stepped
      refine Acts.quiet rfl ?_ rfl rfl alive Or.inl
      obtain ⟨⟨⟨queue, flag⟩, _, _, _, _, _, _, _, _⟩, up, down, choosing, aborted, journal⟩ := connection
      cases queue <;> simp [upstream, Outbox.writeData]
    | readData answer opens elapsed =>
      simp only at stepped
      split at stepped
      · cases stepped
      · rename_i letter rest waiting
        cases transfers : letter.message.ofTransfer with
        | true => exact Acts.handled letter rest waiting transfers stepped
        | false =>
          obtain ⟨client, outbox, up, down, journal, aborted⟩ := quiet_of_handle transfers stepped
          have prompt := choosing_of_handle stepped
          refine Acts.quiet client ?_ ?_ journal (aborted.trans alive) fun open_ => Or.inl (prompt ▸ open_)
          · simp only [upstream, outbox, up]
          · rw [down, waiting, transferLetters, transferLetters, List.filter_cons_of_neg (by simp [transfers])]

inductive Handles (target : Target) (connection next : Connection) (answer : Answer) (opens : Bool) :
    Letter Nat → Prop
  | aborts {code : StatusCode} {origin : Nat} (why : connection.client.isSendingFile_ = false ∨
        (Server.StatusAnswers code ∧ connection.client.fileName_.text = []))
      (client : next.client = connection.client) (up : next.up = connection.up)
      (journal : next.journal = connection.journal) (aborted : next.aborted = true) :
      Handles target connection next answer opens ⟨.status ⟨code⟩, origin⟩
  | starts {origin : Nat} (sending : connection.client.isSendingFile_ = true)
      (client : next.client.fileTransfer = { connection.client.fileTransfer with started := true })
      (up : next.upstream = connection.upstream) (journal : next.journal = connection.journal)
      (alive : next.aborted = connection.aborted) :
      Handles target connection next answer opens ⟨.status ⟨.acceptFileTransfer⟩, origin⟩
  | stops {code : StatusCode} {origin : Nat} (turnedDown : code = .rejectFileTransfer ∨ code = .fileTransferCanceled)
      (sending : connection.client.isSendingFile_ = true) (client : next.client.fileTransfer = .disabled)
      (up : next.upstream = connection.upstream) (journal : next.journal = connection.journal)
      (alive : next.aborted = connection.aborted) :
      Handles target connection next answer opens ⟨.status ⟨code⟩, origin⟩
  | asks {file : FileTransferMessage} {origin : Nat}
      (client : next.client.fileTransfer = answer.applied connection.client.fileTransfer)
      (up : Queued connection.upstream next.upstream (some ⟨.status ⟨answer.status⟩, origin⟩))
      (journal : next.journal = connection.journal.record connection.client answer opens ⟨.fileRequest file, origin⟩ [])
      (alive : next.aborted = connection.aborted) :
      Handles target connection next answer opens ⟨.fileRequest file, origin⟩
  | receives {elapsed : Int} {block : FileDataMessage} {origin : Nat} (effects : List FileEffect)
      (result : connection.client.availableMessage target answer opens elapsed origin (.fileData block) =
        .ok (next.client, effects))
      (client : next.client.fileTransfer = connection.client.fileTransfer ∨
        (connection.client.isReceivingFile_ = true ∧
          ((∃ handle, next.client.fileTransfer = { connection.client.fileTransfer with handle := some handle }) ∨
            ((block.isLast = true ∨ (connection.client.fileTransferHandle_ = none ∧ opens = false)) ∧
              next.client.fileTransfer = .disabled))))
      (up : next.upstream = connection.upstream)
      (journal : next.journal =
        connection.journal.record connection.client answer opens ⟨.fileData block, origin⟩ effects)
      (alive : next.aborted = connection.aborted) :
      Handles target connection next answer opens ⟨.fileData block, origin⟩

theorem handles_verdict {answer : Answer} {opens : Bool} {elapsed : Int} {code : StatusCode} {origin : Nat}
    {rest : List (Letter Nat)}
    (transfers : (Message.status ⟨code⟩).ofTransfer = true)
    (handled : connection.handle target answer opens elapsed ⟨.status ⟨code⟩, origin⟩ rest = some next) :
    next.down = rest ∧ Handles target connection next answer opens ⟨.status ⟨code⟩, origin⟩ := by
  unfold handle at handled
  have answers (code : StatusCode) (isAnswer : Server.StatusAnswers code)
      (refused : (!connection.client.isSendingFile_ || connection.client.fileName_.text = []) = true) :
      connection.client.isSendingFile_ = false ∨
        (Server.StatusAnswers code ∧ connection.client.fileName_.text = []) := by
    simp only [Bool.or_eq_true, Bool.not_eq_true', decide_eq_true_eq] at refused
    exact refused.imp_right fun unnamed => ⟨isAnswer, unnamed⟩
  cases code with
  | acceptFileTransfer =>
    simp only [SessionServer.availableMessage] at handled
    by_cases refused : (!connection.client.isSendingFile_ || connection.client.fileName_.text = []) = true
    · simp only [if_pos refused] at handled
      cases handled
      exact ⟨rfl, .aborts (answers _ (Or.inl rfl) refused) rfl rfl rfl rfl⟩
    · simp only [if_neg refused] at handled
      cases handled
      exact ⟨rfl, .starts (SessionServer.sending_of_verdict refused) rfl rfl rfl rfl⟩
  | rejectFileTransfer =>
    simp only [SessionServer.availableMessage] at handled
    by_cases refused : (!connection.client.isSendingFile_ || connection.client.fileName_.text = []) = true
    · simp only [if_pos refused] at handled
      cases handled
      exact ⟨rfl, .aborts (answers _ (Or.inr rfl) refused) rfl rfl rfl rfl⟩
    · simp only [if_neg refused] at handled
      cases handled
      have sending := SessionServer.sending_of_verdict refused
      exact ⟨rfl, .stops (Or.inl rfl) sending (SessionServer.fileTransfer_disable _) rfl rfl rfl⟩
  | fileTransferCanceled =>
    simp only [SessionServer.availableMessage] at handled
    cases sending : connection.client.isSendingFile_ with
    | false =>
      simp only [sending, Bool.not_false, if_true] at handled
      cases handled
      exact ⟨rfl, .aborts (Or.inl sending) rfl rfl rfl rfl⟩
    | true =>
      simp only [sending, Bool.not_true, Bool.false_eq_true, if_false] at handled
      cases handled
      exact ⟨rfl, .stops (Or.inr rfl) sending (SessionServer.fileTransfer_disable _) rfl rfl rfl⟩
  | _ => cases transfers

theorem handles_request {answer : Answer} {opens : Bool} {elapsed : Int} {file : FileTransferMessage} {origin : Nat}
    {rest : List (Letter Nat)}
    (handled : connection.handle target answer opens elapsed ⟨.fileRequest file, origin⟩ rest = some next) :
    next.down = rest ∧ Handles target connection next answer opens ⟨.fileRequest file, origin⟩ := by
  unfold handle at handled
  simp only [SessionServer.availableMessage] at handled
  split at handled
  · rename_i client effects result
    split at result
    · cases result
    · rename_i fits
      cases result
      cases handled
      have short : file.fileName.length < maxPathSize := by omega
      have replied (code : StatusCode) (isAnswer : Server.StatusAnswers code) :
          (Message.status ⟨code⟩).ofTransfer = true := by
        rcases isAnswer with rfl | rfl <;> rfl
      refine ⟨rfl, .asks ?_ ?_ rfl rfl⟩
      · cases answer with
        | refuse => rfl
        | cancelName =>
          simp only [SessionServer.gotFileTransferRequest, Answer.applied, SessionServer.fileTransfer,
            SessionServer.send, SessionServer.text_set_zero]
        | accept targetFileName =>
          simp only [SessionServer.gotFileTransferRequest, Answer.applied, SessionServer.fileTransfer,
            SessionServer.send, SessionServer.text_overwrite _ targetFileName.noNul targetFileName.fits]
      · have reply := (connection.client.outbox.queued_send ⟨.status ⟨answer.status⟩, origin⟩
          (replied _ answer.statusAnswers)).behind (transferLetters connection.up)
        simp only [upstream, transferLetters_append]
        cases answer <;> exact reply
  · cases handled
    rename_i result
    split at result
    · cases result
    · cases result
  · cases handled

theorem handles_block {answer : Answer} {opens : Bool} {elapsed : Int} {block : FileDataMessage} {origin : Nat}
    {rest : List (Letter Nat)}
    (handled : connection.handle target answer opens elapsed ⟨.fileData block, origin⟩ rest = some next) :
    next.down = rest ∧ Handles target connection next answer opens ⟨.fileData block, origin⟩ := by
  obtain ⟨after, effects, result, outbox, client⟩ :=
    SessionServer.block_cases target connection.client answer opens elapsed origin block
  unfold handle at handled
  rw [result] at handled
  cases handled
  refine ⟨rfl, .receives effects result client ?_ rfl rfl⟩
  simp only [upstream, outbox]

theorem handles_of_handle {answer : Answer} {opens : Bool} {elapsed : Int} {letter : Letter Nat} {rest : List (Letter Nat)}
    (transfers : letter.message.ofTransfer = true)
    (handled : connection.handle target answer opens elapsed letter rest = some next) :
    next.down = rest ∧ Handles target connection next answer opens letter := by
  obtain ⟨message, origin⟩ := letter
  cases message with
  | status message =>
    obtain ⟨code⟩ := message
    exact handles_verdict transfers handled
  | fileRequest file => exact handles_request handled
  | fileData block => exact handles_block handled
  | _ => cases transfers

end Connection

end LanMessenger
