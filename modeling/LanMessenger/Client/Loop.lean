import LanMessenger.Client.SessionServer
import LanMessenger.Session.PollForData
import LanMessenger.Transition.Runs

namespace LanMessenger

open CMemory Transition

variable {τ : Type}

/-- What the user answers to a message, if it asks, and what opening the target file comes to, if it is tried. -/
structure Reaction (τ : Type) where
  answer : Answer
  opens : Bool
  elapsed : Int
  origin : τ

def SessionServer.availableMessages (target : Target) :
    (Nat → Reaction τ) → SessionServer τ → List Message → Except Fault (SessionServer τ × List FileEffect)
  | _, session, [] => .ok (session, [])
  | reactions, session, message :: messages =>
    let reaction := reactions 0
    match session.availableMessage target reaction.answer reaction.opens reaction.elapsed reaction.origin message with
    | .error fault => .error fault
    | .ok (session, effects) =>
      match availableMessages target (fun turn => reactions (turn + 1)) session messages with
      | .error fault => .error fault
      | .ok (session, more) => .ok (session, effects ++ more)

deriving instance DecidableEq for Revents

/-- Where the client's thread stands in the loop of `pollForData`. -/
inductive Phase
  | polls
  | reads (revents : Revents)
  | writes (revents : Revents)
  | settles
deriving DecidableEq

structure ClientLoop (τ : Type) where
  inbox : Inbox
  session : SessionServer τ
  hasError : Bool
  phase : Phase

namespace ClientLoop

/-- The user's thread calls `chat`, `setNickName`, `sendFile` and `disconnect` wherever the loop stands. -/
inductive Event (τ : Type)
  | poll (polled : Ready) (revents : Revents)
  | readData (heap : Heap) (recv : Option (List Byte)) (reactions : Nat → Reaction τ)
  | writeData
  | settle (raw : FileDataMessage) (fopen : Option Readable) (origin : τ)
  | chat (raw : ChatMessage) (origin : τ) (message : List Byte)
  | setNickName (origin : τ) (nickName : List Byte)
  | sendFile (origin : τ) (fileName : FileName)
  | disconnect (origin : τ)

def start (buffer_ : Field maxMessageSize) (session : SessionServer τ) : ClientLoop τ := ⟨.new buffer_, session, false, .polls⟩

def goesOn (loop : ClientLoop τ) : Bool :=
  !loop.hasError && (loop.session.outbox.isConnected || !loop.session.outbox.sendingQueue_.isEmpty)

def poll (polled : Ready) (revents : Revents) (loop : ClientLoop τ) : ClientLoop τ :=
  if polled = .timeout then loop
  else { loop with
    hasError := loop.hasError || polled = .failure || revents.pollErr || revents.pollHup || revents.pollNval
    phase := .reads revents }

/-- There is no next state when the client is ended by `Common::fatal`, or its behaviour is undefined. -/
def readData (target : Target) (revents : Revents) (heap : Heap) (recv : Option (List Byte)) (reactions : Nat → Reaction τ)
    (loop : ClientLoop τ) : Option (ClientLoop τ) :=
  if !revents.pollIn then some { loop with phase := .writes revents }
  else
    match loop.inbox.readData heap recv with
    | .error _ => none
    | .ok (hasError, handled, inbox) =>
      match loop.session.availableMessages target reactions handled with
      | .error _ => none
      | .ok (session, _) => some { inbox, session, hasError, phase := .writes revents }

def writeData (revents : Revents) (loop : ClientLoop τ) : ClientLoop τ :=
  if revents.pollOut then { loop with session.outbox := loop.session.outbox.writeData.2, hasError := false, phase := .settles }
  else { loop with phase := .settles }

def settle (target : Target) (raw : FileDataMessage) (fopen : Option Readable) (origin : τ) (loop : ClientLoop τ) :
    ClientLoop τ :=
  if loop.hasError then { loop with session.outbox.disconnectionFlag_ := true, phase := .polls }
  else if loop.session.outbox.isConnected then
    { loop with session := loop.session.cycle target raw fopen origin, phase := .polls }
  else { loop with phase := .polls }

def step (target : Target) (loop : ClientLoop τ) : Event τ → Option (ClientLoop τ)
  | .poll polled revents =>
    match loop.phase with
    | .polls => if loop.goesOn then some (loop.poll polled revents) else none
    | _ => none
  | .readData heap recv reactions =>
    match loop.phase with
    | .reads revents => loop.readData target revents heap recv reactions
    | _ => none
  | .writeData =>
    match loop.phase with
    | .writes revents => some (loop.writeData revents)
    | _ => none
  | .settle raw fopen origin =>
    match loop.phase with
    | .settles => some (loop.settle target raw fopen origin)
    | _ => none
  | .chat raw origin message => (loop.session.chat raw origin message).map fun session => { loop with session }
  | .setNickName origin nickName => some { loop with session := loop.session.setNickName origin nickName }
  | .sendFile origin fileName => some { loop with session := loop.session.sendFile origin fileName }
  | .disconnect origin => some { loop with session := loop.session.disconnect origin }

def base (loop : ClientLoop τ) (dispatched : List Message) : PollLoop τ :=
  ⟨loop.inbox, loop.session.outbox, loop.hasError, dispatched⟩

variable {target : Target} {loop middle : ClientLoop τ} {polled : Ready} {revents : Revents} {heap : Heap}
  {recv : Option (List Byte)} {reactions : Nat → Reaction τ}

theorem base_settle (middle : ClientLoop τ) (dispatched : List Message) (raw : FileDataMessage) (fopen : Option Readable) (origin : τ) :
    (middle.base dispatched).settle ⟨polled, revents, heap, recv, fun _ _ => middle.session.outbox,
        fun _ => ((middle.writeData revents).settle target raw fopen origin).session.outbox⟩ =
      ((middle.writeData revents).settle target raw fopen origin).base dispatched := by
  unfold PollLoop.settle settle writeData
  cases revents.pollOut with
  | true =>
    simp only [if_true, PollLoop.writeData, base, Bool.false_eq_true, if_false]
    split <;> rfl
  | false =>
    simp only [Bool.false_eq_true, if_false, base]
    split
    · rfl
    · split <;> rfl

theorem base_pollForData (goes : polled ≠ .timeout) (dispatched : List Message) (raw : FileDataMessage)
    (fopen : Option Readable) (origin : τ)
    (read : (loop.poll polled revents).readData target revents heap recv reactions = some middle) :
    ∃ handled, (loop.base dispatched).pollForData ⟨polled, revents, heap, recv, fun _ _ => middle.session.outbox,
        fun _ => ((middle.writeData revents).settle target raw fopen origin).session.outbox⟩ =
      .ok (((middle.writeData revents).settle target raw fopen origin).base (dispatched ++ handled)) := by
  simp only [poll, if_neg goes, readData] at read
  simp only [PollLoop.pollForData, if_neg goes]
  cases pollIn : revents.pollIn with
  | false =>
    simp only [pollIn, Bool.not_false, if_true, Option.some.injEq] at read
    subst read
    refine ⟨[], ?_⟩
    rw [List.append_nil]
    exact congrArg Except.ok (base_settle _ dispatched raw fopen origin)
  | true =>
    simp only [pollIn, Bool.not_true, Bool.false_eq_true, if_false] at read
    simp only [if_true, PollLoop.readData, base]
    cases received : Inbox.readData heap loop.inbox recv with
    | error undefined =>
      rw [received] at read
      cases read
    | ok outcome =>
      obtain ⟨hasError, handled, inbox⟩ := outcome
      rw [received] at read
      simp only at read
      split at read
      · cases read
      · rename_i session effects answered
        cases read
        refine ⟨handled, ?_⟩
        have queue : (if handled = [] then loop.session.outbox else session.outbox) = session.outbox := by
          split
          · rename_i nothing
            subst nothing
            cases answered
            rfl
          · rfl
        simp only [queue]
        exact congrArg Except.ok (base_settle ⟨inbox, session, hasError, .writes revents⟩ (dispatched ++ handled)
          raw fopen origin)

end ClientLoop

theorem Outbox.send_ne_nil (outbox : Outbox τ) (letter : Letter τ) : (outbox.send letter).sendingQueue_ ≠ [] := by
  unfold send sendMessage
  split
  · rename_i full
    exact List.ne_nil_of_length_pos (Nat.zero_lt_of_lt full)
  · simp

namespace SessionServer

/-- While a file is being sent something waits to be written. -/
def Moves (session : SessionServer τ) : Prop :=
  session.outbox.isConnected = true → session.isSendingFile_ = true ∧ session.hasFileTransferStarted_ = true →
    session.outbox.sendingQueue_ ≠ []

variable {target : Target} {session : SessionServer τ}

theorem moves_send (letter : Letter τ) : (session.send letter).Moves :=
  fun _ _ => session.outbox.send_ne_nil letter

theorem moves_disable : session.disableFileTransferMode.Moves := by
  intro _ going
  cases going.1

theorem moves_sendBlock (raw : FileDataMessage) (origin : τ) (handle : FileHandle) :
    (session.sendBlock target raw origin handle).Moves := by
  unfold sendBlock
  simp only
  split
  · exact moves_send _
  · exact moves_send _

/-- `cycle` ends the transfer, puts a block into the queue, or finds the queue full. -/
theorem moves_cycle (raw : FileDataMessage) (fopen : Option Readable) (origin : τ) :
    (session.cycle target raw fopen origin).Moves := by
  unfold cycle
  split
  · rename_i idle
    intro _ going
    rw [going.1, going.2] at idle
    cases idle
  · split
    · exact moves_disable
    · split
      · rename_i full
        intro _ _ empty
        rw [Outbox.canSendMessages, show session.outbox.sendingQueue_ = [] from empty] at full
        cases full
      · exact moves_sendBlock raw origin _

theorem moves_disconnect (moves : session.Moves) (origin : τ) : (session.disconnect origin).Moves := by
  unfold disconnect Outbox.disconnect
  split
  · intro connected
    cases connected
  · exact moves

end SessionServer

namespace ClientLoop

/-- A transfer moves at each return to the head of the loop. -/
def MovesAtHead (loop : ClientLoop τ) : Prop := loop.phase = .polls → loop.session.Moves

variable {target : Target} {loop next : ClientLoop τ}

theorem movesAtHead_poll (moves : loop.MovesAtHead) (polled : Ready) (revents : Revents) :
    (loop.poll polled revents).MovesAtHead := by
  unfold poll
  split
  · exact moves
  · intro head
    cases head

theorem movesAtHead_readData {revents : Revents} {heap : Heap} {recv : Option (List Byte)} {reactions : Nat → Reaction τ}
    (read : loop.readData target revents heap recv reactions = some next) : next.MovesAtHead := by
  intro head
  unfold readData at read
  split at read
  · cases read
    cases head
  · split at read
    · cases read
    · split at read
      · cases read
      · cases read
        cases head

theorem movesAtHead_writeData (revents : Revents) : (loop.writeData revents).MovesAtHead := by
  intro head
  unfold writeData at head
  split at head <;> cases head

theorem movesAtHead_settle (raw : FileDataMessage) (fopen : Option Readable) (origin : τ) :
    (loop.settle target raw fopen origin).MovesAtHead := by
  intro _
  unfold settle
  split
  · intro connected
    cases connected
  · split
    · exact SessionServer.moves_cycle raw fopen origin
    · rename_i disconnected
      exact fun connected => absurd connected disconnected

theorem MovesAtHead.step (moves : loop.MovesAtHead) {event : Event τ} (stepped : loop.step target event = some next) :
    next.MovesAtHead := by
  cases event with
  | poll polled revents =>
    simp only [ClientLoop.step] at stepped
    split at stepped
    · split at stepped
      · cases stepped
        exact movesAtHead_poll moves polled revents
      · cases stepped
    · cases stepped
  | readData heap recv reactions =>
    simp only [ClientLoop.step] at stepped
    split at stepped
    · exact movesAtHead_readData stepped
    · cases stepped
  | writeData =>
    simp only [ClientLoop.step] at stepped
    split at stepped
    · cases stepped
      exact movesAtHead_writeData _
    · cases stepped
  | settle raw fopen origin =>
    simp only [ClientLoop.step] at stepped
    split at stepped
    · cases stepped
      exact movesAtHead_settle raw fopen origin
    · cases stepped
  | chat raw origin message =>
    rcases Option.map_eq_some_iff.mp stepped with ⟨session, chatted, rfl⟩
    cases SessionServer.chat_some chatted
    exact fun _ => SessionServer.moves_send _
  | setNickName origin nickName =>
    cases stepped
    exact fun _ => SessionServer.moves_send _
  | sendFile origin fileName =>
    cases stepped
    exact fun _ => SessionServer.moves_send _
  | disconnect origin =>
    cases stepped
    exact fun head => SessionServer.moves_disconnect (moves head) origin

/-- At the head of the loop, whatever came before, a started transfer of a connected client has a message to write. -/
theorem startedTransfer_queued {buffer fileTransferBuffer : Field maxMessageSize} {fileName : Field maxPathSize}
    {nickName : Field maxNicknameSize} {origin : τ} {events : List (Event τ)}
    (run : Run (ClientLoop.step target) Always (start buffer (.new fileTransferBuffer fileName nickName origin)) events loop)
    (head : loop.phase = .polls) (connected : loop.session.outbox.disconnectionFlag_ = false)
    (sending : loop.session.isSendingFile_ = true) (started : loop.session.hasFileTransferStarted_ = true) :
    loop.session.outbox.sendingQueue_ ≠ [] := by
  have moves : loop.MovesAtHead := by
    refine run.invariant MovesAtHead ?_ fun _ _ _ moves _ stepped => moves.step stepped
    intro _ _ going
    cases going.1
  exact moves head (by rw [Outbox.isConnected, connected]; rfl) ⟨sending, started⟩

/-- The own request and the block behind it wait when the server's verdict was handled. -/
theorem startedTransfer_queued_accepted :
    ∃ loop : ClientLoop Unit, exec (ClientLoop.step .m64)
        (start (Field.zero _) (.new (Field.zero _) (Field.zero _) (Field.zero _) ()))
        [.sendFile () ⟨ascii ['f'], by decide, by decide, by decide⟩,
          .poll .ready ⟨false, false, false, true, true⟩,
          .readData .zeroed (some (Message.status ⟨.acceptFileTransfer⟩).frame) (fun _ => ⟨.refuse, false, 0, ()⟩),
          .writeData,
          .settle Heap.zeroed.fileData (some fun _ _ => .byte 65#8) ()] = some loop ∧
      loop.session.outbox.sendingQueue_ ≠ [] := by
  have outcome : (exec (ClientLoop.step .m64)
      (start (Field.zero _) (.new (Field.zero _) (Field.zero _) (Field.zero _) ()))
      [.sendFile () ⟨ascii ['f'], by decide, by decide, by decide⟩,
        .poll .ready ⟨false, false, false, true, true⟩,
        .readData .zeroed (some (Message.status ⟨.acceptFileTransfer⟩).frame) (fun _ => ⟨.refuse, false, 0, ()⟩),
        .writeData,
        .settle Heap.zeroed.fileData (some fun _ _ => .byte 65#8) ()]).map (fun loop =>
          (loop.phase, loop.session.outbox.disconnectionFlag_, loop.session.isSendingFile_,
            loop.session.hasFileTransferStarted_)) = some (.polls, false, true, true) := by
    decide +kernel
  rcases Option.map_eq_some_iff.mp outcome with ⟨loop, ran, reached⟩
  simp only [Prod.mk.injEq] at reached
  rcases reached with ⟨head, connected, sending, started⟩
  exact ⟨loop, ran, startedTransfer_queued (run_of_exec ran) head connected sending started⟩

end ClientLoop

end LanMessenger
