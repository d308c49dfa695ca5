import LanMessenger.Server.Effects

namespace LanMessenger

open CMemory

variable {τ : Type}

namespace Message

def answer : Message → Option StatusCode
  | status ⟨.acceptFileTransfer⟩ => some .acceptFileTransfer
  | status ⟨.rejectFileTransfer⟩ => some .rejectFileTransfer
  | _ => none

def ofTransfer : Message → Bool
  | status ⟨.acceptFileTransfer⟩ | status ⟨.rejectFileTransfer⟩ | status ⟨.fileTransferCanceled⟩ => true
  | fileRequest _ | fileData _ => true
  | _ => false

theorem eq_of_answer {message : Message} {code : StatusCode} (answers : message.answer = some code) :
    message = .status ⟨code⟩ ∧ Server.StatusAnswers code := by
  unfold answer at answers
  split at answers
  · cases answers
    exact ⟨rfl, Or.inl rfl⟩
  · cases answers
    exact ⟨rfl, Or.inr rfl⟩
  · cases answers

theorem answer_of_statusAnswers {code : StatusCode} (answers : Server.StatusAnswers code) :
    (Message.status ⟨code⟩).answer = some code := by
  rcases answers with rfl | rfl <;> rfl

theorem answer_eq_none {code : StatusCode} (other : ¬ Server.StatusAnswers code) :
    (Message.status ⟨code⟩).answer = none := by
  unfold answer
  split
  · rename_i same
    cases same
    exact absurd (Or.inl rfl) other
  · rename_i same
    cases same
    exact absurd (Or.inr rfl) other
  · rfl

end Message

def transferLetters (letters : List (Letter τ)) : List (Letter τ) :=
  letters.filter fun letter => letter.message.ofTransfer

@[simp] theorem transferLetters_append (front back : List (Letter τ)) :
    transferLetters (front ++ back) = transferLetters front ++ transferLetters back := List.filter_append _ _

/-- A queue after `sendMessage` was called for one letter at most; it may have refused it. -/
def Queued (before after : List (Letter τ)) (letter : Option (Letter τ)) : Prop :=
  after = before ∨ ∃ sent, letter = some sent ∧ after = before ++ [sent]

theorem Queued.refl (queue : List (Letter τ)) (letter : Option (Letter τ)) : Queued queue queue letter := Or.inl rfl

theorem Queued.behind {before after : List (Letter τ)} {letter : Option (Letter τ)} (queued : Queued before after letter)
    (front : List (Letter τ)) : Queued (front ++ before) (front ++ after) letter := by
  rcases queued with rfl | ⟨sent, offered, rfl⟩
  · exact .refl _ _
  · exact Or.inr ⟨sent, offered, by rw [List.append_assoc]⟩

theorem Outbox.queued_send (outbox : Outbox τ) (letter : Letter τ) (transfers : letter.message.ofTransfer = true) :
    Queued (transferLetters outbox.sendingQueue_) (transferLetters (outbox.send letter).sendingQueue_)
      (some letter) := by
  unfold send sendMessage
  split
  · exact .refl _ _
  · exact Or.inr ⟨letter, rfl, by simp [transferLetters, transfers]⟩

@[simp] theorem Outbox.transferLetters_send (outbox : Outbox τ) (letter : Letter τ)
    (other : letter.message.ofTransfer = false) :
    transferLetters (outbox.send letter).sendingQueue_ = transferLetters outbox.sendingQueue_ := by
  unfold send sendMessage
  split
  · rfl
  · simp [transferLetters, other]

theorem Outbox.transferLetters_disconnect (outbox : Outbox τ) (origin : τ) :
    transferLetters (outbox.disconnect origin).sendingQueue_ = transferLetters outbox.sendingQueue_ := by
  unfold disconnect
  split
  · exact transferLetters_send outbox _ rfl
  · rfl

namespace SessionData

def transferQueue (data : SessionData τ) : List (Letter τ) := transferLetters data.client.outbox.sendingQueue_

theorem queued_send (data : SessionData τ) (letter : Letter τ) (transfers : letter.message.ofTransfer = true) :
    Queued data.transferQueue (data.send letter).transferQueue (some letter) :=
  data.client.outbox.queued_send letter transfers

theorem transferQueue_send (data : SessionData τ) (letter : Letter τ) (other : letter.message.ofTransfer = false) :
    (data.send letter).transferQueue = data.transferQueue := data.client.outbox.transferLetters_send letter other

@[simp] theorem transferQueue_changeState (data : SessionData τ) (origin : τ) (messageType : MessageType) :
    (data.changeState origin messageType).transferQueue = data.transferQueue := by
  unfold changeState
  split
  · rfl
  · split
    · exact data.client.outbox.transferLetters_disconnect origin
    · rfl

end SessionData

namespace Server

/-- The decision that handling the message brings, and the sender it goes to. -/
def verdict (server : Server τ) (client : SessionId) (message : Message) : Option (SessionId × StatusCode) :=
  match message.answer with
  | none => none
  | some code =>
    let answered := server.modify client fun data => data.setStatus code
    if !server.fileTransferModeActive_ || answered.sessions_.size = 1 then none else answered.decision client

def decisionLetter (origin : τ) (verdict : Option (SessionId × StatusCode)) (peer : SessionId) : Option (Letter τ) :=
  match verdict with
  | some (sender, code) => if peer = sender then some ⟨.status ⟨code⟩, origin⟩ else none
  | none => none

theorem decisionLetter_some {origin : τ} {verdict : Option (SessionId × StatusCode)} {peer : SessionId}
    {letter : Letter τ} (told : decisionLetter origin verdict peer = some letter) :
    ∃ code, verdict = some (peer, code) ∧ letter = ⟨.status ⟨code⟩, origin⟩ := by
  unfold decisionLetter at told
  split at told
  · rename_i sender code
    split at told
    · rename_i own
      exact ⟨code, by rw [own], (Option.some.inj told).symm⟩
    · cases told
  · cases told

def accepts (server : Server τ) : Message → Bool
  | .fileRequest _ => !server.fileTransferModeActive_ && server.sessions_.size ≠ 1
  | _ => false

theorem refused_quiet {server : Server τ} {message : Message} (why : (message.answer.isSome = true ∧ server.fileTransferModeActive_ = false) ∨
    ((∃ file, message = .fileRequest file) ∧ server.fileTransferModeActive_ = true)) :
    server.accepts message = false ∧ (message.answer = none ∨ server.fileTransferModeActive_ = false) := by
  rcases why with ⟨answers, idle⟩ | ⟨⟨file, rfl⟩, active⟩
  · obtain ⟨code, answer⟩ := Option.isSome_iff_exists.mp answers
    rw [(Message.eq_of_answer answer).1]
    exact ⟨rfl, Or.inr idle⟩
  · exact ⟨by simp [accepts, active], Or.inl rfl⟩

/-- What one step makes of the transfer letters, the status and the sender's mark of each session. -/
structure Spreads (server next : Server τ) (letter : SessionId → SessionData τ → Option (Letter τ))
    (status : SessionId → StatusCode → StatusCode) (sender : SessionId → Bool → Bool) : Prop where
  each : ∀ peer data, server.findSession peer = some data → ∃ after, next.findSession peer = some after ∧
    Queued data.transferQueue after.transferQueue (letter peer data) ∧
    after.client.fileTransferStatus_ = status peer data.client.fileTransferStatus_ ∧
    after.isFileTransferSender = sender peer data.isFileTransferSender
  none : ∀ peer, server.findSession peer = none → next.findSession peer = none

inductive Reaction (target : Target) (memory : Memory) (origin : τ) (server : Server τ) (client : SessionId)
    (next : Server τ) : Message → Prop
  | quiet {message : Message} (noAnswer : message.answer = none) (noBlock : ∀ data, message ≠ .fileData data)
      (notAccepted : server.accepts message = false)
      (mode : next.fileTransferModeActive_ = server.fileTransferModeActive_)
      (spreads : Spreads server next (fun _ _ => none) (fun _ status => status) (fun _ sender => sender)) :
      Reaction target memory origin server client next message
  | refused {message : Message} (why : (message.answer.isSome = true ∧ server.fileTransferModeActive_ = false) ∨
        ((∃ file, message = .fileRequest file) ∧ server.fileTransferModeActive_ = true))
      (mode : next.fileTransferModeActive_ = server.fileTransferModeActive_)
      (spreads : Spreads server next
        (fun peer _ => if peer = client then some ⟨.status ⟨.fileTransferCanceled⟩, origin⟩ else none)
        (fun _ status => status) (fun _ sender => sender)) :
      Reaction target memory origin server client next message
  | answered {message : Message} {code : StatusCode} (answer : message.answer = some code)
      (active : server.fileTransferModeActive_ = true)
      (mode : next.fileTransferModeActive_ = server.fileTransferModeActive_)
      (decided : ∀ sender verdict, server.verdict client message = some (sender, verdict) →
        sender ≠ client ∧ StatusAnswers verdict ∧
        (∃ data, server.findSession sender = some data ∧ data.isFileTransferSender = true) ∧
        ∀ peer data, server.findSession peer = some data → peer ≠ client →
          data.client.fileTransferStatus_ ≠ .fileTransferCanceled)
      (spreads : Spreads server next
        (fun peer _ => decisionLetter origin (server.verdict client message) peer)
        (fun peer status => if peer = client then code else status) (fun _ sender => sender)) :
      Reaction target memory origin server client next message
  | accepted {file : FileTransferMessage} (idle : server.fileTransferModeActive_ = false)
      (accepts : server.accepts (.fileRequest file) = true) (mode : next.fileTransferModeActive_ = true)
      (current : SessionData τ)
      (spreads : Spreads server next
        (fun peer data => if peer = client then none else requestLetter origin current file peer data)
        (fun peer status => if peer = client then .acceptFileTransfer else status)
        (fun peer sender => if peer = client then true else sender)) :
      Reaction target memory origin server client next (.fileRequest file)
  | relayed {block : FileDataMessage}
      (mode : next.fileTransferModeActive_ = (server.fileTransferModeActive_ && !block.isLastBlock))
      (spreads : Spreads server next
        (fun peer data => if peer = client then none else dataLetter target memory origin block peer data)
        (fun peer status => if peer = client && block.isLastBlock then .fileTransferCanceled else status)
        (fun peer sender => if peer = client && block.isLastBlock then false else sender)) :
      Reaction target memory origin server client next (.fileData block)
  | spent {block : FileDataMessage} (mode : next.fileTransferModeActive_ = server.fileTransferModeActive_)
      (spreads : Spreads server next (fun _ _ => none)
        (fun peer status => if peer = client && block.isLastBlock then .fileTransferCanceled else status)
        (fun _ sender => sender)) :
      Reaction target memory origin server client next (.fileData block)

variable {server next : Server τ} {target : Target} {memory : Memory} {origin : τ} {client : SessionId}

theorem Spreads.before {letter : SessionId → SessionData τ → Option (Letter τ)} {status : SessionId → StatusCode → StatusCode}
    {sender : SessionId → Bool → Bool} (spreads : Spreads server next letter status sender) {peer : SessionId}
    {after : SessionData τ} (later : next.findSession peer = some after) :
    ∃ data, server.findSession peer = some data ∧ Queued data.transferQueue after.transferQueue (letter peer data) ∧
      after.client.fileTransferStatus_ = status peer data.client.fileTransferStatus_ ∧
      after.isFileTransferSender = sender peer data.isFileTransferSender := by
  cases there : server.findSession peer with
  | none =>
    rw [spreads.none peer there] at later
    cases later
  | some data =>
    obtain ⟨now, found, changed⟩ := spreads.each peer data there
    rw [later] at found
    cases found
    exact ⟨data, rfl, changed⟩

theorem Rewrites.spreads {change : SessionId → SessionData τ → SessionData τ} (rewrites : Rewrites server next change)
    {letter : SessionId → SessionData τ → Option (Letter τ)} {status : SessionId → StatusCode → StatusCode}
    {sender : SessionId → Bool → Bool}
    (each : ∀ peer data, server.findSession peer = some data →
      Queued data.transferQueue (change peer data).transferQueue (letter peer data) ∧
      (change peer data).client.fileTransferStatus_ = status peer data.client.fileTransferStatus_ ∧
      (change peer data).isFileTransferSender = sender peer data.isFileTransferSender) :
    Spreads server next letter status sender := by
  constructor
  · intro peer data there
    refine ⟨change peer data, ?_, each peer data there⟩
    rw [rewrites.find, there, Option.map_some]
  · intro peer absent
    rw [rewrites.find, absent, Option.map_none]

theorem Rewrites.spreads_quiet {change : SessionData τ → SessionData τ}
    (rewrites : Rewrites server next fun peer data => if peer = client then change data else data)
    (same : ∀ data, (change data).transferQueue = data.transferQueue ∧
      (change data).client.fileTransferStatus_ = data.client.fileTransferStatus_ ∧
      (change data).isFileTransferSender = data.isFileTransferSender) :
    Spreads server next (fun _ _ => none) (fun _ status => status) (fun _ sender => sender) := by
  apply rewrites.spreads
  intro peer data there
  by_cases own : peer = client
  · simp only [if_pos own]
    obtain ⟨queue, status, sender⟩ := same data
    exact ⟨Or.inl queue, status, sender⟩
  · simp only [if_neg own]
    exact ⟨.refl _ _, trivial, trivial⟩

theorem spreads_send (server : Server τ) (client : SessionId) (letter : Letter τ)
    (transfers : letter.message.ofTransfer = true) :
    Spreads server (server.send client letter) (fun peer _ => if peer = client then some letter else none)
      (fun _ status => status) (fun _ sender => sender) := by
  apply (rewrites_modify server client _).spreads
  intro peer data there
  by_cases own : peer = client
  · simp only [if_pos own]
    exact ⟨data.queued_send letter transfers, rfl, rfl⟩
  · simp only [if_neg own]
    exact ⟨.refl _ _, trivial, trivial⟩

theorem reaction_nickname {message : NicknameMessage}
    (handled : server.availableMessage target memory origin client (.nickname message) = .ok next) :
    Reaction target memory origin server client next (.nickname message) := by
  obtain ⟨accepted, -, mode, rewrites⟩ := nickname_ok handled
  refine Reaction.quiet rfl (fun _ same => by cases same) rfl mode ?_
  apply rewrites.spreads_quiet
  intro data
  cases accepted with
  | false =>
    refine ⟨?_, SessionData.status_changeState _ _ _, SessionData.isFileTransferSender_changeState _ _ _⟩
    exact (SessionData.transferQueue_send _ _ rfl).trans (data.transferQueue_changeState origin .nickname)
  | true =>
    refine ⟨?_, SessionData.status_changeState _ _ _, SessionData.isFileTransferSender_changeState _ _ _⟩
    exact (SessionData.transferQueue_send _ _ rfl).trans (data.transferQueue_changeState origin .nickname)

theorem verdict_some {message : Message} {sender : SessionId} {code : StatusCode}
    (decided : server.verdict client message = some (sender, code)) :
    sender ≠ client ∧ StatusAnswers code ∧
      (∃ data, server.findSession sender = some data ∧ data.isFileTransferSender = true) ∧
      ∀ peer data, server.findSession peer = some data → peer ≠ client →
        data.client.fileTransferStatus_ ≠ .fileTransferCanceled := by
  unfold verdict at decided
  split at decided
  · cases decided
  · rename_i given _
    simp only at decided
    split at decided
    · cases decided
    · obtain ⟨answered, ⟨data, there, other, marked⟩, answers⟩ := decision_some decided
      rw [findSession_modify, if_neg other] at there
      refine ⟨other, answers, ⟨data, there, marked⟩, ?_⟩
      intro peer current found different
      apply answered peer current _ different
      rw [findSession_modify, if_neg different, found]

theorem reaction_answer {message : Message} {code : StatusCode} (answers : message.answer = some code)
    (active : server.fileTransferModeActive_ = true)
    (handled : server.availableMessage target memory origin client message = .ok next) :
    Reaction target memory origin server client next message := by
  obtain ⟨current, found⟩ := availableMessage_found handled
  obtain ⟨rfl, isAnswer⟩ := Message.eq_of_answer answers
  rw [answer_active found isAnswer active] at handled
  cases handled
  refine Reaction.answered answers active (mode_afterAnswer _ _ _ _) ?_ ?_
  · intro sender verdict decided
    exact verdict_some decided
  · have marked := rewrites_modify server client fun data => data.setStatus code
    -- without a decision nothing is sent
    have silent : server.verdict client (.status ⟨code⟩) = none →
        Spreads server (server.modify client fun data => data.setStatus code)
          (fun peer _ => decisionLetter origin (server.verdict client (.status ⟨code⟩)) peer)
          (fun peer status => if peer = client then code else status) fun _ sender => sender := by
      intro none
      apply marked.spreads
      intro peer data there
      by_cases own : peer = client
      · simp only [none, if_pos own]
        exact ⟨.refl _ _, rfl, rfl⟩
      · simp only [none, if_neg own]
        exact ⟨.refl _ _, trivial, trivial⟩
    unfold afterAnswer
    simp only
    by_cases alone : (server.modify client fun data => data.setStatus code).sessions_.size = 1
    · rw [if_pos alone]
      apply silent
      simp [verdict, answers, alone]
    · have verdict_eq : server.verdict client (.status ⟨code⟩) =
          (server.modify client fun data => data.setStatus code).decision client := by
        simp [verdict, answers, alone, active]
      rw [if_neg alone]
      split
      · rename_i none
        exact silent (verdict_eq.trans none)
      · rename_i sender verdict decided
        rw [verdict_eq, decided]
        apply (marked.trans (rewrites_modify _ sender _)).spreads
        intro peer data there
        by_cases chosen : peer = sender
        · subst chosen
          have other := (verdict_some (verdict_eq.trans decided)).1
          simp only [decisionLetter, if_neg other, if_true]
          refine ⟨data.queued_send _ ?_, rfl, rfl⟩
          rcases (verdict_some (verdict_eq.trans decided)).2.1 with rfl | rfl <;> rfl
        · by_cases own : peer = client
          · simp only [decisionLetter, if_neg chosen, if_pos own]
            exact ⟨.refl _ _, rfl, rfl⟩
          · simp only [decisionLetter, if_neg chosen, if_neg own]
            exact ⟨.refl _ _, trivial, trivial⟩

theorem reaction_status {code : StatusCode}
    (handled : server.availableMessage target memory origin client (.status ⟨code⟩) = .ok next) :
    Reaction target memory origin server client next (.status ⟨code⟩) := by
  obtain ⟨answers, active, -⟩ | ⟨answers, inactive, rfl⟩ | ⟨other, rfl⟩ := status_ok handled
  · exact reaction_answer (Message.answer_of_statusAnswers answers) active handled
  · have answer : (Message.status ⟨code⟩).answer = some code := Message.answer_of_statusAnswers answers
    exact Reaction.refused (Or.inl ⟨by rw [answer]; rfl, inactive⟩) rfl (spreads_send _ _ _ rfl)
  · refine Reaction.quiet (Message.answer_eq_none other) (fun _ same => by cases same) rfl rfl ?_
    apply (Rewrites.refl next).spreads
    intro peer data there
    exact ⟨.refl _ _, rfl, rfl⟩

theorem reaction_chat {message : ChatMessage}
    (handled : server.availableMessage target memory origin client (.chat message) = .ok next) :
    Reaction target memory origin server client next (.chat message) := by
  obtain ⟨current, -, mode, ⟨-, rfl⟩ | ⟨-, rewrites⟩⟩ := chat_ok handled
  · refine Reaction.quiet rfl (fun _ same => by cases same) rfl rfl ?_
    apply (rewrites_modify server client _).spreads_quiet
    intro data
    exact ⟨data.transferQueue_send _ rfl, rfl, rfl⟩
  · refine Reaction.quiet rfl (fun _ same => by cases same) rfl mode ?_
    apply rewrites.spreads
    intro peer data there
    by_cases own : peer = client
    · simp only [if_pos own]
      exact ⟨.refl _ _, trivial, trivial⟩
    · simp only [if_neg own]
      exact ⟨Or.inl (data.transferQueue_send _ rfl), SessionData.status_sendSome _ _,
        SessionData.isFileTransferSender_sendSome _ _⟩

theorem reaction_fileRequest {file : FileTransferMessage}
    (handled : server.availableMessage target memory origin client (.fileRequest file) = .ok next) :
    Reaction target memory origin server client next (.fileRequest file) := by
  obtain ⟨current, -, ⟨active, rfl⟩ | ⟨idle, alone, rfl⟩ | ⟨idle, several, mode, rewrites⟩⟩ := fileRequest_ok handled
  · exact Reaction.refused (Or.inr ⟨⟨file, rfl⟩, active⟩) rfl (spreads_send _ _ _ rfl)
  · refine Reaction.quiet rfl (fun _ same => by cases same) (by simp [accepts, alone]) rfl ?_
    apply (rewrites_modify server client _).spreads_quiet
    intro data
    exact ⟨data.transferQueue_send _ rfl, rfl, rfl⟩
  · refine Reaction.accepted idle (by simp [accepts, idle, several]) mode current ?_
    apply rewrites.spreads
    intro peer data there
    by_cases own : peer = client
    · simp only [if_pos own]
      exact ⟨.refl _ _, rfl, trivial⟩
    · simp only [if_neg own]
      exact ⟨data.queued_send _ rfl, rfl, rfl⟩

theorem reaction_fileData {block : FileDataMessage}
    (handled : server.availableMessage target memory origin client (.fileData block) = .ok next) :
    Reaction target memory origin server client next (.fileData block) := by
  obtain ⟨current, -, ⟨-, mode, rewrites⟩ | ⟨-, mode, rewrites⟩⟩ := fileData_ok handled
  · refine Reaction.spent mode ?_
    apply rewrites.spreads
    intro peer data there
    by_cases own : peer = client
    · simp only [own, decide_true, Bool.true_and]
      cases block.isLastBlock <;> exact ⟨.refl _ _, rfl, rfl⟩
    · simp only [own, decide_false, Bool.false_and, if_false]
      exact ⟨.refl _ _, rfl, trivial⟩
  · refine Reaction.relayed mode ?_
    apply rewrites.spreads
    intro peer data there
    by_cases own : peer = client
    · simp only [own, decide_true, Bool.true_and]
      cases block.isLastBlock <;> exact ⟨.refl _ _, rfl, rfl⟩
    · simp only [own, decide_false, Bool.false_and, if_false]
      refine ⟨?_, SessionData.status_sendSome _ _, SessionData.isFileTransferSender_sendSome _ _⟩
      unfold dataLetter
      by_cases accepted : data.client.fileTransferStatus_ ≠ .acceptFileTransfer
      · rw [if_pos accepted]
        exact .refl _ _
      · rw [if_neg accepted]
        exact data.queued_send _ rfl

theorem availableMessage_reaction {message : Message}
    (handled : server.availableMessage target memory origin client message = .ok next) :
    Reaction target memory origin server client next message := by
  cases message with
  | hello =>
    obtain ⟨mode, rewrites⟩ := hello_ok handled
    refine Reaction.quiet rfl (fun _ same => by cases same) rfl mode ?_
    apply rewrites.spreads_quiet
    intro data
    refine ⟨?_, SessionData.status_changeState _ _ _, SessionData.isFileTransferSender_changeState _ _ _⟩
    exact (SessionData.transferQueue_send _ _ rfl).trans (data.transferQueue_changeState origin .hello)
  | bye =>
    obtain ⟨mode, rewrites⟩ := bye_ok handled
    refine Reaction.quiet rfl (fun _ same => by cases same) rfl mode ?_
    apply rewrites.spreads_quiet
    intro data
    exact ⟨data.transferQueue_changeState origin .bye, SessionData.status_changeState _ _ _,
      SessionData.isFileTransferSender_changeState _ _ _⟩
  | nickname message => exact reaction_nickname handled
  | status message => exact reaction_status handled
  | chat message => exact reaction_chat handled
  | fileRequest message => exact reaction_fileRequest handled
  | fileData message => exact reaction_fileData handled

end Server

/-- The `Accept` and `Reject` letters that wait in the session's queue. -/
def SessionData.decisionQueue (data : SessionData τ) : List (Letter τ) :=
  data.client.outbox.sendingQueue_.filter fun letter => letter.message.answer.isSome

theorem SessionData.decisionQueue_eq (data : SessionData τ) :
    data.decisionQueue = data.transferQueue.filter fun letter => letter.message.answer.isSome := by
  rw [decisionQueue, transferQueue, transferLetters, List.filter_filter]
  congr 1
  funext letter
  rcases answer : letter.message.answer with - | code
  · rfl
  · rw [(Message.eq_of_answer answer).1]
    rcases (Message.eq_of_answer answer).2 with rfl | rfl <;> rfl

namespace Server

def decisionQueue (server : Server τ) (session : SessionId) : List (Letter τ) :=
  ((server.findSession session).map SessionData.decisionQueue).getD []

/-- The `Accept` and `Reject` letters that were queued for the session from one state to the other. -/
def told (server next : Server τ) (session : SessionId) : List (Letter τ) :=
  (next.decisionQueue session).drop (server.decisionQueue session).length

variable {server next : Server τ} {target : Target} {memory : Memory} {origin : τ} {client session : SessionId}
  {message : Message}

theorem told_of_le (fewer : (next.decisionQueue session).length ≤ (server.decisionQueue session).length) :
    server.told next session = [] := List.drop_eq_nil_of_le fewer

theorem Spreads.told {letter : SessionId → SessionData τ → Option (Letter τ)} {status : SessionId → StatusCode → StatusCode}
    {sender : SessionId → Bool → Bool} (spreads : Spreads server next letter status sender) (session : SessionId) :
    server.told next session = [] ∨ ∃ data sent, server.findSession session = some data ∧ letter session data = some sent ∧
      sent.message.answer.isSome = true ∧ server.told next session = [sent] := by
  cases there : server.findSession session with
  | none =>
    left
    apply told_of_le
    rw [decisionQueue, spreads.none session there]
    exact Nat.zero_le _
  | some data =>
    obtain ⟨after, found, queued, -⟩ := spreads.each session data there
    simp only [Server.told, decisionQueue, there, found, Option.map_some, Option.getD_some, SessionData.decisionQueue_eq]
    rcases queued with same | ⟨sent, offered, appended⟩
    · left
      rw [same, List.drop_length]
    · rw [appended, List.filter_append, List.drop_left, List.filter_singleton]
      cases answers : sent.message.answer.isSome with
      | false => exact Or.inl rfl
      | true => exact Or.inr ⟨data, sent, rfl, offered, answers, rfl⟩

/-- Handling a message queues one `Accept` or `Reject` at most, and only where it brings the decision. -/
theorem told_of_message (handled : server.availableMessage target memory origin client message = .ok next)
    (session : SessionId) : server.told next session = [] ∨ ∃ code,
      server.verdict client message = some (session, code) ∧ server.told next session = [⟨.status ⟨code⟩, origin⟩] := by
  cases availableMessage_reaction handled with
  | quiet _ _ _ _ spreads | spent _ spreads =>
    rcases spreads.told session with none | ⟨_, _, -, offered, -⟩
    · exact Or.inl none
    · cases offered
  | refused _ _ spreads =>
    rcases spreads.told session with none | ⟨_, _, -, offered, answers, -⟩
    · exact Or.inl none
    · split at offered <;> cases offered
      cases answers
  | answered _ _ _ _ spreads =>
    rcases spreads.told session with none | ⟨_, _, -, offered, -, one⟩
    · exact Or.inl none
    · obtain ⟨code, decided, rfl⟩ := decisionLetter_some offered
      exact Or.inr ⟨code, decided, one⟩
  | accepted _ _ _ _ spreads =>
    rcases spreads.told session with none | ⟨_, _, -, offered, answers, -⟩
    · exact Or.inl none
    · split at offered <;> cases offered
      cases answers
  | relayed _ spreads =>
    rcases spreads.told session with none | ⟨_, _, -, offered, answers, -⟩
    · exact Or.inl none
    · split at offered
      · cases offered
      · cases dataLetter_some offered
        cases answers

end Server

end LanMessenger
