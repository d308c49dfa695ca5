import LanMessenger.Network.Moves
import LanMessenger.Server.Greeting
import LanMessenger.Server.NickNameReplies

namespace LanMessenger

open CMemory Transition

namespace SessionServer

variable {τ : Type}

def takeNickName (nickName_ : Field maxNicknameSize) (nickNameMessage : NicknameMessage) : Field maxNicknameSize :=
  (nickName_.overwrite (List.replicate maxNicknameSize 0#8)).overwrite
    (strncpy (nickNameMessage.nickName []) (maxNicknameSize - 1))

theorem takeNickName_ofNickName (nickName_ : Field maxNicknameSize) {text : List Byte} (nonzero : 0#8 ∉ text)
    (short : text.length < maxNicknameSize) : (takeNickName nickName_ (.ofNickName text)).text = text := by
  rw [takeNickName, NicknameMessage.nickName_ofNickName nonzero short, text_copyNickName, cString_of_not_mem nonzero]
  exact List.take_of_length_le (Nat.le_sub_one_of_lt short)

theorem nickName_availableMessage {target : Target} {answer : Answer} {opens : Bool} {elapsed : Int}
    {session next : SessionServer τ} {letter : Letter τ} {effects : List FileEffect}
    (handled : session.availableMessage target answer opens elapsed letter.origin letter.message = .ok (next, effects)) :
    next.nickName_ = (nickNames [letter]).foldl takeNickName session.nickName_ := by
  obtain ⟨message, origin⟩ := letter
  cases message with
  | nickname name =>
    cases handled
    rfl
  | status message =>
    obtain ⟨code⟩ := message
    simp only [availableMessage] at handled
    split at handled
    · split at handled <;> cases handled
      rfl
    · split at handled <;> cases handled
      rfl
    · split at handled <;> cases handled
      rfl
    · cases handled
      rfl
  | fileRequest file =>
    simp only [availableMessage] at handled
    split at handled
    · cases handled
    · cases handled
      cases answer <;> rfl
  | fileData block =>
    simp only [availableMessage] at handled
    have kept : (session.saveData opens block.buffer (block.fileOffset target)).1.nickName_ = session.nickName_ := by
      unfold saveData
      repeat' split
      all_goals rfl
    split at handled
    · cases handled
      rfl
    · split at handled <;> cases handled
      · exact kept
      · exact kept
  | chat chat =>
    rw [(same_of_chat handled).1]
    rfl
  | hello | bye =>
    cases handled
    rfl

theorem status_of_fatal {target : Target} {answer : Answer} {opens : Bool} {elapsed : Int} {session : SessionServer τ}
    {origin : τ} {message : Message} (fatal : session.availableMessage target answer opens elapsed origin message = .error .fatal) :
    ∃ code, message = .status ⟨code⟩ := by
  cases message with
  | status message =>
    obtain ⟨code⟩ := message
    exact ⟨code, rfl⟩
  | fileRequest file =>
    simp only [availableMessage] at fatal
    split at fatal <;> cases fatal
  | fileData block =>
    simp only [availableMessage] at fatal
    split at fatal
    · cases fatal
    · split at fatal <;> cases fatal
  | chat chat =>
    simp only [availableMessage] at fatal
    split at fatal <;> cases fatal
  | hello | bye | nickname name => cases fatal

theorem nickName_cycle (target : Target) (raw : FileDataMessage) (fopen : Option Readable) (origin : τ)
    (session : SessionServer τ) : (session.cycle target raw fopen origin).nickName_ = session.nickName_ := by
  unfold cycle
  split
  · rfl
  · split
    · rfl
    · split
      · rfl
      · unfold sendBlock
        dsimp only
        split <;> rfl

end SessionServer

namespace Connection

/-- The name a client holds once it has handled all that is on its way to it from its session. -/
def settledNickName (connection : Connection) (data : SessionData Nat) : List Byte :=
  ((nickNames (connection.down ++ data.client.outbox.sendingQueue_)).foldl SessionServer.takeNickName
    connection.client.nickName_).text

variable {target : Target} {connection next : Connection} {data : SessionData Nat}

theorem settledNickName_congr (down : next.down = connection.down)
    (name : next.client.nickName_ = connection.client.nickName_) :
    next.settledNickName data = connection.settledNickName data := by
  rw [settledNickName, settledNickName, down, name]

theorem settledNickName_cons {letter : Letter Nat} (waiting : connection.down = letter :: next.down)
    (name : next.client.nickName_ = (nickNames [letter]).foldl SessionServer.takeNickName connection.client.nickName_) :
    next.settledNickName data = connection.settledNickName data := by
  have front : nickNames (letter :: (next.down ++ data.client.outbox.sendingQueue_)) =
      nickNames [letter] ++ nickNames (next.down ++ data.client.outbox.sendingQueue_) := nickNames_append [letter] _
  rw [settledNickName, settledNickName, name, waiting, List.cons_append, front, List.foldl_append]

theorem settledNickName_eq (connection : Connection) (data : SessionData Nat) :
    connection.settledNickName data = (data.nickNameQueue.foldl SessionServer.takeNickName
      ((nickNames connection.down).foldl SessionServer.takeNickName connection.client.nickName_)).text := by
  rw [settledNickName, nickNames_append, List.foldl_append]
  rfl

theorem settledNickName_last {text : List Byte} {before : List NicknameMessage}
    (told : data.nickNameQueue = before ++ [.ofNickName text]) (nonzero : 0#8 ∉ text)
    (short : text.length < maxNicknameSize) : connection.settledNickName data = text := by
  rw [settledNickName_eq, told, List.foldl_append]
  exact SessionServer.takeNickName_ofNickName _ nonzero short

theorem settledNickName_writeData (connection : Connection) (data : SessionData Nat) :
    settledNickName { connection with down := connection.down ++ data.client.outbox.writeData.1.toList }
      { data with client.outbox := data.client.outbox.writeData.2 } = connection.settledNickName data := by
  obtain ⟨⟨⟨queue, flag⟩, status, name⟩, state, sender⟩ := data
  cases queue with
  | nil => simp [settledNickName, Outbox.writeData]
  | cons letter rest => simp [settledNickName, Outbox.writeData]

theorem settledNickName_step {event : ClientEvent} (stepped : connection.step target event = some next) :
    next.settledNickName data = connection.settledNickName data := by
  unfold step at stepped
  simp only at stepped
  split at stepped
  · cases stepped
  · cases event with
    | readData answer opens elapsed =>
      simp only at stepped
      split at stepped
      · cases stepped
      · rename_i letter rest waiting
        unfold handle at stepped
        split at stepped
        · rename_i handled
          cases stepped
          exact settledNickName_cons waiting (SessionServer.nickName_availableMessage handled)
        · rename_i fatal
          cases stepped
          obtain ⟨code, status⟩ := SessionServer.status_of_fatal fatal
          refine settledNickName_cons waiting ?_
          simp only [nickNames, List.filterMap_cons, status, Message.nickNameMessage, List.filterMap_nil, List.foldl_nil]
        · cases stepped
    | cycle raw fopen =>
      cases stepped
      exact settledNickName_congr rfl (SessionServer.nickName_cycle _ _ _ _ _)
    | chooseFile =>
      simp only at stepped
      split at stepped <;> cases stepped
      exact settledNickName_congr rfl rfl
    | sendFile fileName =>
      simp only at stepped
      split at stepped <;> cases stepped
      exact settledNickName_congr rfl rfl
    | chat raw message =>
      rcases Option.map_eq_some_iff.mp stepped with ⟨client, chatted, rfl⟩
      cases SessionServer.chat_some chatted
      exact settledNickName_congr rfl rfl
    | _ =>
      cases stepped
      exact settledNickName_congr rfl rfl

end Connection

namespace Network

def RepliesQueued (network : Network) : Event → Prop
  | .message client _ =>
    match network.front client, network.server.findSession client with
    | some letter, some data => letter.message.type = .hello ∨ letter.message.type = .nickname →
      (data.changeState 0 letter.message.type).client.outbox.canSendMessages = true
    | _, _ => True
  | _ => True

instance (network : Network) (event : Event) : Decidable (network.RepliesQueued event) := by
  unfold RepliesQueued
  split
  · split <;> infer_instance
  · infer_instance

variable {target : Target} {network next : Network} {client peer : SessionId}

theorem canSend_changeState {data : SessionData Nat} (origin : Nat) (messageType : MessageType) :
    (data.changeState origin messageType).client.outbox.canSendMessages =
      (data.changeState 0 messageType).client.outbox.canSendMessages := by
  unfold SessionData.changeState
  split
  · rfl
  · split
    · unfold SessionData.disconnect Outbox.disconnect Outbox.send Outbox.sendMessage Outbox.canSendMessages
      split
      · split <;> simp
      · rfl
    · rfl

theorem update_some {connections : SessionId → Option Connection} {changed connection : Connection}
    (there : Function.update connections client (some changed) peer = some connection) :
    (peer = client ∧ connection = changed) ∨ (peer ≠ client ∧ connections peer = some connection) := by
  by_cases own : peer = client
  · rw [own, Function.update_self] at there
    exact Or.inl ⟨own, (Option.some.inj there).symm⟩
  · rw [Function.update_of_ne own] at there
    exact Or.inr ⟨own, there⟩

inductive Renames (network : Network) (peer : SessionId) (connection : Connection) (after : SessionData Nat) : Prop
  | joined (fresh : network.connections peer = none) (short : after.client.nickName.length < maxNicknameSize)
  | kept (before : Connection) (data : SessionData Nat) (there : network.connections peer = some before)
      (session : network.server.findSession peer = some data)
      (settled : connection.settledNickName after = before.settledNickName data)
      (name : after.client.nickName_ = data.client.nickName_)
  | told (before : Connection) (data : SessionData Nat) (there : network.connections peer = some before)
      (session : network.server.findSession peer = some data) (names : List NicknameMessage)
      (told : after.nickNameQueue = names ++ [.ofNickName after.client.nickName])
      (name : after.client.nickName_ = data.client.nickName_ ∨ after.client.nickName.length < maxNicknameSize)

theorem renames_of_step {event : Event} (queued : network.RepliesQueued event)
    (stepped : network.step target event = some next) {connection : Connection} {after : SessionData Nat}
    (there : next.connections peer = some connection) (session : next.server.findSession peer = some after) :
    Renames network peer connection after := by
  cases steps_of_step stepped with
  | @connect client _ _ _ sessionNickName_ unused unknown =>
    rw [Server.addSession_find] at session
    rcases update_some there with ⟨own, -⟩ | ⟨own, there⟩
    · rw [if_pos own] at session
      cases session
      refine .joined (own ▸ unused) ?_
      have cut : ((SessionClient.new (τ := Nat) sessionNickName_).setNickName
          (defaultNickName (network.server.connectionsCounter_ + 1))).nickName.length ≤ maxNicknameSize - 1 := by
        rw [SessionClient.nickName_setNickName]
        exact List.length_take_le _ _
      exact Nat.lt_of_le_of_lt cut (by decide)
    · rw [if_neg own] at session
      exact .kept connection after there session rfl rfl
  | client known acts =>
    rcases update_some there with ⟨rfl, rfl⟩ | ⟨-, there⟩
    · exact .kept _ after known session (Connection.settledNickName_step acts) rfl
    · exact .kept connection after there session rfl rfl
  | @message client _ current letter rest _ known waiting handled connections =>
    obtain ⟨before, was, down, name⟩ : ∃ before, network.connections peer = some before ∧
        connection.down = before.down ∧ connection.client.nickName_ = before.client.nickName_ := by
      rw [connections] at there
      rcases update_some there with ⟨rfl, rfl⟩ | ⟨-, there⟩
      · exact ⟨current, known, rfl, rfl⟩
      · exact ⟨connection, there, rfl, rfl⟩
    obtain ⟨data, found⟩ : ∃ data, network.server.findSession peer = some data := by
      rw [← Option.isSome_iff_exists, ← Server.isSome_message handled peer]
      exact Option.isSome_iff_exists.mpr ⟨after, session⟩
    have room : peer = client → letter.message.type = .hello ∨ letter.message.type = .nickname →
        (data.changeState (network.poll.hear network.server client letter).transfer
          letter.message.type).client.outbox.canSendMessages = true := by
      rintro rfl replies
      have front : network.front peer = some letter := by
        rw [front, known, Option.bind_some, waiting, List.head?_cons]
      simp only [RepliesQueued, front, found] at queued
      rw [canSend_changeState]
      exact queued replies
    obtain ⟨later, found', ⟨sameName, sameQueue⟩ | ⟨shorter, told⟩⟩ := Server.nickNames_message found room handled
    · rw [found'] at session
      cases session
      refine .kept before data was found ?_ sameName
      rw [Connection.settledNickName_congr down name, Connection.settledNickName_eq, Connection.settledNickName_eq,
        sameQueue]
    · rw [found'] at session
      cases session
      exact .told before data was found _ told shorter
  | @writeData client before data known found =>
    rw [Server.findSession_modify] at session
    rcases update_some there with ⟨rfl, rfl⟩ | ⟨own, there⟩
    · rw [if_pos rfl, found] at session
      cases session
      exact .kept before data known found (Connection.settledNickName_writeData before data) rfl
    · rw [if_neg own] at session
      exact .kept connection after there session rfl rfl
  | removeSession removed =>
    obtain ⟨current, -, -, -, sessions⟩ := Server.removeSession_ok removed
    rw [sessions] at session
    split at session
    · cases session
    · exact .kept connection after there session rfl rfl

/-- The name of the client's session leaves room for its terminator. -/
def ShortNickName (network : Network) (client : SessionId) : Prop :=
  ∀ connection data, network.connections client = some connection → network.server.findSession client = some data →
    data.client.nickName.length < maxNicknameSize

theorem ShortNickName.step (short : network.ShortNickName client) {event : Event} (queued : network.RepliesQueued event)
    (stepped : network.step target event = some next) : next.ShortNickName client := by
  intro connection after there session
  cases renames_of_step queued stepped there session with
  | joined fresh given => exact given
  | kept before data was found settled name =>
    rw [SessionClient.nickName, name]
    exact short before data was found
  | told before data was found names told name =>
    rcases name with name | given
    · rw [SessionClient.nickName, name]
      exact short before data was found
    · exact given

/-- As long as both are there, the client will hold the name that its session has. -/
structure Agrees (network : Network) (client : SessionId) : Prop where
  known : (network.connections client).isSome = true
  short : network.ShortNickName client
  same : ∀ connection data, network.connections client = some connection →
    network.server.findSession client = some data → connection.settledNickName data = data.client.nickName

theorem Agrees.step (agrees : network.Agrees client) {event : Event} (queued : network.RepliesQueued event)
    (stepped : network.step target event = some next) : next.Agrees client := by
  have short := agrees.short.step queued stepped
  refine ⟨isSome_connections_step stepped agrees.known, short, fun connection after there session => ?_⟩
  cases renames_of_step queued stepped there session with
  | joined fresh given =>
    have known := agrees.known
    rw [fresh] at known
    cases known
  | kept before data was found settled name =>
    rw [settled, agrees.same before data was found, SessionClient.nickName, SessionClient.nickName, name]
  | told before data was found names told name =>
    exact Connection.settledNickName_last told (zero_not_mem_cString _) (short connection after there session)

theorem agrees_hello {memory : Memory} {letter : Letter Nat} (short : network.ShortNickName client)
    (front : network.front client = some letter) (hello : letter.message = .hello)
    (queued : network.RepliesQueued (.message client memory))
    (stepped : network.step target (.message client memory) = some next) : next.Agrees client := by
  have shortAfter := short.step queued stepped
  have known : (network.connections client).isSome = true := by
    unfold Network.front at front
    cases there : network.connections client with
    | none =>
      rw [there] at front
      cases front
    | some connection => rfl
  refine ⟨isSome_connections_step stepped known, shortAfter, fun connection after there session => ?_⟩
  obtain ⟨data, found⟩ : ∃ data, network.server.findSession client = some data := by
    cases moves_of_step stepped with
    | quiet parties sessions =>
      have same := sessions client
      rw [standing, standing, session] at same
      exact Option.isSome_iff_exists.mp (by rw [← isSome_standing, standing, ← same]; rfl)
    | hears _ _ known _ => exact Option.isSome_iff_exists.mp known
  cases steps_of_step stepped with
  | @message _ _ current first rest _ was waiting handled =>
    have same : first = letter := by
      rw [Network.front, was, Option.bind_some, waiting, List.head?_cons] at front
      exact Option.some.inj front
    subst same
    rw [hello] at handled
    simp only [RepliesQueued, front, found] at queued
    have room := queued (Or.inl (by rw [hello]; rfl))
    rw [← canSend_changeState, hello] at room
    obtain ⟨later, there', name, told⟩ := Server.nickNameQueue_hello found room handled
    rw [there'] at session
    cases session
    exact Connection.settledNickName_last told (zero_not_mem_cString _) (shortAfter connection after there there')

theorem shortNickName_run {events : List Event} (run : Run (Network.step target) RepliesQueued start events network)
    (client : SessionId) : network.ShortNickName client := by
  refine run.invariant (fun network => network.ShortNickName client) (fun connection data there => ?_) ?_
  · cases there
  · exact fun _ _ _ short queued stepped => short.step queued stepped

/-- From the moment its `HELLO` is handled, a client that has handled what is on its way to it holds the name of its
    session. -/
theorem agreedNickNames {before after : List Event} {greeted final : Network} {memory : Memory} {letter : Letter Nat}
    (earlier : Run (Network.step target) RepliesQueued start before network)
    (front : network.front client = some letter) (hello : letter.message = .hello)
    (queued : network.RepliesQueued (.message client memory))
    (handled : network.step target (.message client memory) = some greeted)
    (later : Run (Network.step target) RepliesQueued greeted after final) {connection : Connection}
    {data : SessionData Nat} (there : final.connections client = some connection)
    (session : final.server.findSession client = some data) :
    connection.settledNickName data = data.client.nickName := by
  have started := agrees_hello (shortNickName_run earlier client) front hello queued handled
  have kept : final.Agrees client := later.invariant (fun network => network.Agrees client) started
    fun _ _ _ agrees queued stepped => agrees.step queued stepped
  exact kept.same connection data there session

def requesting : List Event :=
  [.client 1 (.setNickName (ascii ['a', 'b'])), .client 1 .writeData, .message 1 .zeroed]

/-- A client that has not read anything yet was renamed. -/
theorem agreedNickNames_renamed :
    ∃ (network greeted final : Network) (connection : Connection) (data : SessionData Nat),
      exec (Network.step .m64) start ((joining 1).take 2) = some network ∧
        network.step .m64 (.message 1 .zeroed) = some greeted ∧
        exec (Network.step .m64) greeted requesting = some final ∧ final.connections 1 = some connection ∧ final.server.findSession 1 = some data ∧
        data.client.nickName = ascii ['a', 'b'] ∧ connection.client.nickName_.text = [] ∧
        connection.settledNickName data = data.client.nickName := by
  have outcome : ((execMeets (Network.step .m64) (fun network event => decide (network.RepliesQueued event)) start
      ((joining 1).take 2)).bind fun network =>
      (network.front 1).bind fun letter => (network.step .m64 (.message 1 .zeroed)).bind fun greeted =>
        (execMeets (Network.step .m64) (fun network event => decide (network.RepliesQueued event)) greeted requesting).bind fun final =>
          (final.connections 1).bind fun connection => (final.server.findSession 1).map fun data =>
            (decide (letter.message = .hello), decide (network.RepliesQueued (.message 1 .zeroed)),
              connection.client.nickName_.text, data.client.nickName)) =
      some (true, true, [], ascii ['a', 'b']) := by
    decide +kernel
  simp only [Option.bind_eq_some_iff, Option.map_eq_some_iff, Prod.mk.injEq, decide_eq_true_eq] at outcome
  obtain ⟨network, earlier, letter, front, greeted, handled, final, later, connection, there, data, session, hello, queued,
    empty, name⟩ := outcome
  refine ⟨network, greeted, final, connection, data, exec_of_execMeets earlier, handled, exec_of_execMeets later, there,
    session, name, empty, ?_⟩
  exact agreedNickNames (run_of_execDecide earlier) front hello queued handled
    (run_of_execDecide later) there session

end Network

end LanMessenger
