import LanMessenger.Conversation.Room
import LanMessenger.Network.Limits
import LanMessenger.Transition.Simulation

namespace LanMessenger

open CMemory Transition

def ChatMessage.row (message : ChatMessage) : List Byte × List Byte := (message.sender, message.message)

theorem ChatMessage.row_relayed (raw message : ChatMessage) (nickName_ : Field maxNicknameSize)
    (short : message.message.length < maxChatMessageSize) :
    ((ChatMessage.ofMessage raw message.message).setSender nickName_.text).row = (nickName_.text, message.message) := by
  have text : (ChatMessage.ofMessage raw message.message).message = cString message.message :=
    message_setMessage raw (lt_of_le_of_lt (strlen_le_length _) short)
  have name : (cString nickName_.text).take maxNicknameSize = nickName_.text := by
    rw [Field.text, cString_cString]
    exact List.take_of_length_le nickName_.length_text_le
  have same : cString message.message = message.message := cString_cString _
  rw [row, sender, setSender, text_setText, name]
  exact congrArg (Prod.mk nickName_.text) (text.trans same)

/-- The texts sent from a client, how much had been said when it connected, and the chat messages that it has handled. -/
structure ChatLog where
  typed : List (List Byte)
  joined : Nat
  heard : List (List Byte × List Byte)

/-- The network, with what its users say to each other. -/
structure Conversation where
  network : Network
  said : List (Room.Saying SessionId (List Byte) (List Byte))
  logs : SessionId → ChatLog

def Network.waiting (network : Network) (client : SessionId) : Option (List ChatMessage) :=
  (network.server.findSession client).map fun data => chats data.client.outbox.sendingQueue_

def Server.saying (server : Server Nat) (client : SessionId) (message : Message) :
    Option (Room.Saying SessionId (List Byte) (List Byte)) :=
  message.chat?.bind fun chat =>
    (server.findSession client).map fun data => ⟨client, data.client.nickName, chat.message⟩

namespace Conversation

def start : Conversation := ⟨.start, [], fun _ => ⟨[], 0, []⟩⟩

def nextSaid (network : Network) (client : SessionId) : Option (Room.Saying SessionId (List Byte) (List Byte)) :=
  (network.front client).bind fun letter => network.server.saying client letter.message

def nextHeard (network : Network) (client : SessionId) : Option (List Byte × List Byte) :=
  (network.connections client).bind fun connection => connection.down.head?.bind fun letter =>
    letter.message.chat?.map ChatMessage.row

def recordSaid (conversation : Conversation) : Network.Event → List (Room.Saying SessionId (List Byte) (List Byte))
  | .message client _ => conversation.said ++ (nextSaid conversation.network client).toList
  | _ => conversation.said

def recordLogs (conversation : Conversation) : Network.Event → SessionId → ChatLog
  | .connect client _ _ _ _ => Function.update conversation.logs client ⟨[], conversation.said.length, []⟩
  | .client client (.chat raw message) =>
    let log := conversation.logs client
    Function.update conversation.logs client
      { log with typed := log.typed ++ [(ChatMessage.ofMessage raw message).message] }
  | .client client (.readData _ _ _) =>
    let log := conversation.logs client
    Function.update conversation.logs client
      { log with heard := log.heard ++ (nextHeard conversation.network client).toList }
  | _ => conversation.logs

def step (target : Target) (conversation : Conversation) (event : Network.Event) : Option Conversation :=
  (conversation.network.step target event).map fun network =>
    ⟨network, conversation.recordSaid event, conversation.recordLogs event⟩

def Brief (conversation : Conversation) (event : Network.Event) : Prop := conversation.network.Brief event

/-- No queue refuses a chat message: not the client's own, and not those that the server relays it to. -/
def QueuesTake (conversation : Conversation) : Network.Event → Prop
  | .client client (.chat _ _) => ∀ connection, conversation.network.connections client = some connection →
      connection.client.outbox.canSendMessages = true
  | .message client _ => ∀ peer data, conversation.network.server.findSession peer = some data → peer ≠ client →
      (nextSaid conversation.network client).isSome = true → data.client.outbox.canSendMessages = true
  | _ => True

instance (conversation : Conversation) (event : Network.Event) : Decidable (conversation.Brief event) :=
  inferInstanceAs (Decidable (conversation.network.Brief event))

instance (conversation : Conversation) (event : Network.Event) : Decidable (conversation.QueuesTake event) :=
  match event with
  | .client client (.chat _ _) => Option.decidableForallMem (conversation.network.connections client)
  | .message client _ => inferInstanceAs (Decidable (∀ peer data, conversation.network.server.findSession peer = some data →
      peer ≠ client → (nextSaid conversation.network client).isSome = true → data.client.outbox.canSendMessages = true))
  | .client _ .chooseFile | .client _ .leavePrompt | .client _ (.sendFile _) | .client _ (.setNickName _)
  | .client _ .disconnect | .client _ (.cycle _ _) | .client _ .writeData | .client _ (.readData _ _ _)
  | .connect _ _ _ _ _ | .writeData _ | .removeSession _ => instDecidableTrue

def member (connection : Connection) (waiting : Option (List ChatMessage)) (log : ChatLog) :
    Room.Member (List Byte) (List Byte) where
  typed := log.typed
  way := (chats connection.outgoing).map ChatMessage.message
  present := waiting.isSome
  joined := log.joined
  due := (chats connection.down ++ waiting.getD []).map ChatMessage.row
  heard := log.heard

def room (conversation : Conversation) : Room.State SessionId (List Byte) (List Byte) where
  said := conversation.said
  members client := (conversation.network.connections client).map fun connection =>
    member connection (conversation.network.waiting client) (conversation.logs client)

variable {target : Target} {conversation next : Conversation} {client peer : SessionId} {connection : Connection}

theorem room_of_connection (there : conversation.network.connections client = some connection) :
    conversation.room.members client =
      some (member connection (conversation.network.waiting client) (conversation.logs client)) := by
  simp only [room, there, Option.map_some]

theorem members_congr (connections : next.network.connections peer = conversation.network.connections peer)
    (waiting : next.network.waiting peer = conversation.network.waiting peer)
    (logs : next.logs peer = conversation.logs peer) : next.room.members peer = conversation.room.members peer := by
  simp only [room, connections, waiting, logs]

theorem room_put (said : next.said = conversation.said) {acted : Connection}
    (connections : next.network.connections = Function.update conversation.network.connections client (some acted))
    (waiting : ∀ peer, peer ≠ client → next.network.waiting peer = conversation.network.waiting peer)
    (logs : ∀ peer, peer ≠ client → next.logs peer = conversation.logs peer) :
    next.room = conversation.room.put client (member acted (next.network.waiting client) (next.logs client)) := by
  ext1
  · exact said
  · funext peer
    rw [Room.State.members_put]
    split
    · rename_i own
      subst own
      exact room_of_connection (by rw [connections, Function.update_self])
    · rename_i own
      exact members_congr (by rw [connections, Function.update_of_ne own]) (waiting peer own) (logs peer own)

theorem room_same (said : next.said = conversation.said) {acted : Connection}
    (there : conversation.network.connections client = some connection)
    (connections : next.network.connections = Function.update conversation.network.connections client (some acted))
    (waiting : ∀ peer, peer ≠ client → next.network.waiting peer = conversation.network.waiting peer)
    (logs : ∀ peer, peer ≠ client → next.logs peer = conversation.logs peer)
    (same : member acted (next.network.waiting client) (next.logs client) =
      member connection (conversation.network.waiting client) (conversation.logs client)) :
    next.room = conversation.room := by
  rw [room_put said connections waiting logs, same]
  ext1
  · rfl
  · rw [← Function.update_eq_self client conversation.room.members, room_of_connection there]
    rfl

theorem room_enters {fileTransferBuffer_ : Field maxMessageSize} {fileName_ : Field maxPathSize}
    {nickName_ sessionNickName_ : Field maxNicknameSize} (unused : conversation.network.connections client = none)
    (server : next.network.server = conversation.network.server.addSession client sessionNickName_)
    (connections : next.network.connections = Function.update conversation.network.connections client
      (some ⟨.new fileTransferBuffer_ fileName_ nickName_ 0, [], [], false, false, .empty⟩))
    (said : next.said = conversation.said)
    (logs : next.logs = Function.update conversation.logs client ⟨[], conversation.said.length, []⟩) :
    conversation.room.step (.enter client) = some next.room := by
  have unknown : conversation.room.members client = none := by simp only [room, unused, Option.map_none]
  have own : next.network.waiting client = some [] := by
    rw [Network.waiting, server, Server.addSession_find, if_pos rfl]
    rfl
  have others : ∀ peer, peer ≠ client → next.network.waiting peer = conversation.network.waiting peer := by
    intro peer other
    rw [Network.waiting, server, Server.addSession_find, if_neg other]
    rfl
  have put := room_put said connections others fun peer other => by rw [logs, Function.update_of_ne other]
  rw [own, logs, Function.update_self] at put
  rw [put, Room.State.step, unknown]
  rfl

theorem room_types {connection acted : Connection} {raw : ChatMessage} {message : List Byte}
    (there : conversation.network.connections client = some connection) (up : acted.up = connection.up)
    (outbox : acted.client.outbox = connection.client.outbox.send ⟨.chat (ChatMessage.ofMessage raw message), 0⟩)
    (down : acted.down = connection.down) (server : next.network.server = conversation.network.server)
    (connections : next.network.connections = Function.update conversation.network.connections client (some acted))
    (said : next.said = conversation.said)
    (logs : next.logs = Function.update conversation.logs client { conversation.logs client with
      typed := (conversation.logs client).typed ++ [(ChatMessage.ofMessage raw message).message] }) :
    conversation.room.step (.type client (ChatMessage.ofMessage raw message).message
      connection.client.outbox.canSendMessages) = some next.room := by
  have waiting : next.network.waiting = conversation.network.waiting := by
    funext peer
    rw [Network.waiting, server, Network.waiting]
  have put := room_put said connections (fun peer _ => by rw [waiting]) fun peer other => by
    rw [logs, Function.update_of_ne other]
  have way : (chats acted.outgoing).map ChatMessage.message =
      if connection.client.outbox.canSendMessages = true then
        (chats connection.outgoing).map ChatMessage.message ++ [(ChatMessage.ofMessage raw message).message]
      else (chats connection.outgoing).map ChatMessage.message := by
    rw [Connection.outgoing, Connection.outgoing, up, outbox, chats_append, Outbox.chats_send, chats_append]
    split
    · simp only [Message.chat?, Option.toList_some, List.map_append, List.append_assoc, List.map_singleton]
    · rw [List.append_nil]
  rw [put, Room.State.step, room_of_connection there, waiting, logs, Function.update_self]
  simp only [member, way, down, Option.map_some]

theorem room_reads {connection acted : Connection} {letter : Letter Nat}
    (there : conversation.network.connections client = some connection) (waits : connection.down = letter :: acted.down)
    (outgoing : chats acted.outgoing = chats connection.outgoing) (server : next.network.server = conversation.network.server)
    (connections : next.network.connections = Function.update conversation.network.connections client (some acted))
    (said : next.said = conversation.said)
    (logs : next.logs = Function.update conversation.logs client { conversation.logs client with
      heard := (conversation.logs client).heard ++ (nextHeard conversation.network client).toList }) :
    next.room = conversation.room ∨ conversation.room.step (.hear client) = some next.room := by
  have waiting : next.network.waiting = conversation.network.waiting := by
    funext peer
    rw [Network.waiting, server, Network.waiting]
  have others : ∀ peer, peer ≠ client → next.logs peer = conversation.logs peer := by
    intro peer other
    rw [logs, Function.update_of_ne other]
  have heard : nextHeard conversation.network client = letter.message.chat?.map ChatMessage.row := by
    rw [nextHeard, there, Option.bind_some, waits]
    rfl
  cases chat : letter.message.chat? with
  | none =>
    left
    refine room_same said there connections (fun peer _ => by rw [waiting]) others ?_
    have due : chats connection.down = chats acted.down := by rw [waits]; exact List.filterMap_cons_none chat
    rw [waiting, logs, Function.update_self, heard, chat]
    simp only [member, outgoing, due, Option.map_none, Option.toList_none, List.append_nil]
  | some message =>
    right
    have due : chats connection.down = message :: chats acted.down := by rw [waits]; exact List.filterMap_cons_some chat
    have put := room_put said connections (fun peer _ => by rw [waiting]) others
    rw [put, Room.State.step, room_of_connection there, waiting, logs, Function.update_self, heard, chat]
    simp only [member, outgoing, due, List.cons_append, List.map_cons, Option.map_some, Option.toList_some]

theorem room_plain {connection acted : Connection} (there : conversation.network.connections client = some connection)
    (outgoing : chats acted.outgoing = chats connection.outgoing) (down : acted.down = connection.down)
    (server : next.network.server = conversation.network.server)
    (connections : next.network.connections = Function.update conversation.network.connections client (some acted))
    (said : next.said = conversation.said) (logs : next.logs = conversation.logs) : next.room = conversation.room := by
  have waiting : next.network.waiting = conversation.network.waiting := by
    funext peer
    rw [Network.waiting, server, Network.waiting]
  refine room_same said there connections (fun peer _ => by rw [waiting]) (fun peer _ => by rw [logs]) ?_
  simp only [member, waiting, logs, outgoing, down]

theorem room_ignores {letter : Letter Nat} {rest : List (Letter Nat)} {memory : Memory} {origin : Nat}
    (there : conversation.network.connections client = some connection) (waits : connection.up = letter :: rest)
    (other : letter.message.chat? = none)
    (handled : conversation.network.server.availableMessage target memory origin client letter.message =
      .ok next.network.server)
    (connections : next.network.connections =
      Function.update conversation.network.connections client (some { connection with up := rest }))
    (said : next.said = conversation.said) (logs : next.logs = conversation.logs) : next.room = conversation.room := by
  have waiting : next.network.waiting = conversation.network.waiting :=
    funext fun peer => Server.chats_of_message handled other peer
  have way : chats connection.outgoing = chats (rest ++ connection.client.outbox.sendingQueue_) := by
    rw [Connection.outgoing, waits]
    exact List.filterMap_cons_none other
  refine room_same said there connections (fun peer _ => by rw [waiting]) (fun peer _ => by rw [logs]) ?_
  rw [waiting, logs, member, member, way]
  rfl

def takes (network : Network) (client peer : SessionId) : Bool :=
  peer = client || (network.server.findSession peer).all fun data => data.client.outbox.canSendMessages

theorem room_speaks {message : ChatMessage} {origin : Nat} {rest : List (Letter Nat)} {memory : Memory} {transfer : Nat}
    (there : conversation.network.connections client = some connection)
    (waits : connection.up = ⟨.chat message, origin⟩ :: rest) (short : message.message.length < maxChatMessageSize)
    (handled : conversation.network.server.availableMessage target memory transfer client (.chat message) =
      .ok next.network.server)
    (connections : next.network.connections =
      Function.update conversation.network.connections client (some { connection with up := rest }))
    (said : next.said = conversation.said ++ (nextSaid conversation.network client).toList)
    (logs : next.logs = conversation.logs) :
    (nextSaid conversation.network client).isSome = true ∧ ∃ name, conversation.room.step
      (.say client name (takes conversation.network client)) = some next.room := by
  rcases Server.chats_of_chat handled with ⟨current, found, queues⟩
  have spoken : nextSaid conversation.network client = some ⟨client, current.client.nickName, message.message⟩ := by
    rw [nextSaid, Network.front, there, Option.bind_some, waits, List.head?_cons, Option.bind_some, Server.saying, found]
    rfl
  refine ⟨by rw [spoken]; rfl, current.client.nickName, ?_⟩
  have present : conversation.network.waiting client = some (chats current.client.outbox.sendingQueue_) := by
    rw [Network.waiting, found, Option.map_some]
  have own : next.network.waiting client = conversation.network.waiting client := by
    rw [Network.waiting, queues]
    simp only [ne_eq, not_true_eq_false, false_and, if_false, List.append_nil, Network.waiting]
  have way : chats connection.outgoing = message :: chats (rest ++ connection.client.outbox.sendingQueue_) := by
    rw [Connection.outgoing, waits]
    rfl
  have stepped : conversation.room.step (.say client current.client.nickName (takes conversation.network client)) =
      some (conversation.room.hears client current.client.nickName message.message (takes conversation.network client)
        (member { connection with up := rest } (conversation.network.waiting client) (conversation.logs client))) := by
    rw [Room.State.step, room_of_connection there, present]
    simp only [member, way, List.map_cons, Option.isSome_some]
    rfl
  rw [stepped]
  refine congrArg some (Room.State.ext ?_ (funext fun peer => ?_))
  · rw [room, room, said, spoken]
    rfl
  · simp only [Room.State.hears]
    split
    · rename_i same
      subst same
      rw [room_of_connection (by rw [connections, Function.update_self]), own, logs]
    · rename_i other
      simp only [room, connections, Function.update_of_ne other, logs, Option.map_map]
      congr 1
      funext listener
      have queued := queues peer
      rw [Function.comp_apply, Room.Member.told, Network.waiting, Network.waiting]
      rw [queued]
      cases session : conversation.network.server.findSession peer with
      | none => rfl
      | some data =>
        by_cases room : data.client.outbox.canSendMessages = true
        · have row := ChatMessage.row_relayed (memory.heap peer).chat message current.client.nickName_ short
          simp only [member, Option.map_some, Option.isSome_some, takes, session, other, room, Option.all_some, decide_false,
            Bool.false_or, Bool.and_self, if_true, ne_eq, not_false_eq_true, and_self, Option.getD_some, List.map_append,
            List.map_singleton, SessionClient.nickName, row, List.append_assoc]
        · simp only [member, Option.map_some, Option.isSome_some, takes, session, other, room, Option.all_some, decide_false,
            Bool.false_or, Bool.and_false, Bool.false_eq_true, if_false, and_false, Option.getD_some, List.append_nil]

theorem room_writes {data : SessionData Nat} (there : conversation.network.connections client = some connection)
    (session : conversation.network.server.findSession client = some data)
    (server : next.network.server = conversation.network.server.modify client fun current =>
      { current with client.outbox := data.client.outbox.writeData.2 })
    (connections : next.network.connections = Function.update conversation.network.connections client
      (some { connection with down := connection.down ++ data.client.outbox.writeData.1.toList }))
    (said : next.said = conversation.said) (logs : next.logs = conversation.logs) : next.room = conversation.room := by
  have others : ∀ peer, peer ≠ client → next.network.waiting peer = conversation.network.waiting peer := by
    intro peer other
    rw [Network.waiting, server, Server.findSession_modify_of_ne _ other, Network.waiting]
  refine room_same said there connections others (fun peer _ => by rw [logs]) ?_
  have before : conversation.network.waiting client = some (chats data.client.outbox.sendingQueue_) := by
    rw [Network.waiting, session, Option.map_some]
  have after : next.network.waiting client = some (chats data.client.outbox.writeData.2.sendingQueue_) := by
    rw [Network.waiting, server, Server.findSession_modify, if_pos rfl, session, Option.map_some, Option.map_some]
  have due : chats (connection.down ++ data.client.outbox.writeData.1.toList) ++
      chats data.client.outbox.writeData.2.sendingQueue_ = chats connection.down ++ chats data.client.outbox.sendingQueue_ := by
    rw [chats_append, List.append_assoc, ← chats_append]
    cases queue : data.client.outbox.sendingQueue_ <;> simp only [Outbox.writeData, queue] <;> rfl
  rw [before, after, logs]
  simp only [member, Option.getD_some, due, Option.isSome_some]
  rfl

theorem room_leaves {server : Server Nat} {origin : Nat}
    (removed : conversation.network.server.removeSession origin client = .ok server)
    (now : next.network = { conversation.network with server }) (said : next.said = conversation.said)
    (logs : next.logs = conversation.logs) :
    next.room = conversation.room ∨ ∃ kept, conversation.room.step (.leave client kept) = some next.room := by
  rcases Server.removeSession_ok removed with ⟨current, found, -, -, left⟩
  have waiting : ∀ peer, next.network.waiting peer = if peer = client then none else conversation.network.waiting peer := by
    intro peer
    rw [Network.waiting, now]
    simp only [left]
    split
    · rfl
    · rfl
  cases there : conversation.network.connections client with
  | none =>
    left
    ext1
    · exact said
    · funext peer
      by_cases own : peer = client
      · simp only [room, now, own, there, Option.map_none]
      · exact members_congr (by rw [now]) (by rw [waiting, if_neg own]) (by rw [logs])
  | some connection =>
    right
    refine ⟨(chats connection.down).length, ?_⟩
    have connections : next.network.connections =
        Function.update conversation.network.connections client (some connection) := by
      rw [now, ← there, Function.update_eq_self]
    have put := room_put said connections (fun peer other => by rw [waiting, if_neg other]) fun peer _ => by rw [logs]
    rw [put, waiting, if_pos rfl, logs, Room.State.step, room_of_connection there]
    simp only [member, Option.map_some, Option.isSome_none, Option.getD_none, List.append_nil, List.map_append]
    rw [List.take_left' (List.length_map _)]

/-- The texts on their way to the server are the texts that were typed, and those are short. -/
structure Heard (conversation : Conversation) : Prop where
  ordered : conversation.room.Ordered
  short : ∀ client, ∀ text ∈ (conversation.logs client).typed, text.length < maxChatMessageSize

theorem Heard.way (heard : conversation.Heard) (there : conversation.network.connections client = some connection) :
    ∀ message ∈ chats connection.outgoing, message.message.length < maxChatMessageSize := by
  intro message member
  have heeds := heard.ordered.heeds client _ (room_of_connection there)
  have typed : message.message ∈ (conversation.logs client).typed :=
    heeds.way.subset (List.mem_append_right _ (List.mem_map_of_mem member))
  exact heard.short client message.message typed

/-- What the room makes of a step: nothing, or a step of its own, with which nothing is lost unless a queue refuses it. -/
def Matched (conversation next : Conversation) (event : Network.Event) : Prop :=
  next.room = conversation.room ∨ ∃ happens, conversation.room.step happens = some next.room ∧
    (conversation.QueuesTake event → Room.Lossless conversation.room happens)

theorem step_ok {event : Network.Event} (stepped : conversation.step target event = some next) :
    conversation.network.step target event = some next.network ∧ next.said = conversation.recordSaid event ∧
      next.logs = conversation.recordLogs event := by
  rcases Option.map_eq_some_iff.mp stepped with ⟨network, moved, rfl⟩
  exact ⟨moved, rfl, rfl⟩

theorem projects (target : Target) : Simulates (step target) Brief (Network.step target) Network.Brief
    fun conversation network => conversation.network = network := by
  apply Simulates.of_step
  rintro conversation _ event next rfl brief stepped
  exact Or.inr ⟨event, next.network, brief, (step_ok stepped).1, rfl⟩

theorem matched_of_step (heard : conversation.Heard) {event : Network.Event}
    (stepped : conversation.step target event = some next) : Matched conversation next event := by
  rcases step_ok stepped with ⟨moved, said, logs⟩
  obtain ⟨after, now⟩ : ∃ after, next.network = after := ⟨_, rfl⟩
  rw [now] at moved
  cases Network.steps_of_step moved with
  | connect unused unknown => exact Or.inr ⟨_, room_enters unused (by rw [now]) (by rw [now]) said logs, fun _ => trivial⟩
  | client there acts =>
    have server : next.network.server = conversation.network.server := by rw [now]
    cases Connection.carries_of_step acts with
    | types raw message up outbox down =>
      exact Or.inr ⟨_, room_types there up outbox down server (by rw [now]) said logs, fun takes => takes _ there⟩
    | offers fileName up client down =>
      exact Or.inl (room_plain there (Connection.chats_outgoing_sendFile up client) down server (by rw [now]) said logs)
    | cycles raw fopen up client down =>
      exact Or.inl (room_plain there (Connection.chats_outgoing_cycle up client) down server (by rw [now]) said logs)
    | reads answer opens elapsed letter waits up extended handled =>
      rcases room_reads there waits extended.chats server (by rw [now]) said logs with same | hears
      · exact Or.inl same
      · exact Or.inr ⟨_, hears, fun _ => trivial⟩
    | plain other extended down =>
      refine Or.inl (room_plain there extended.chats down server (by rw [now]) said (logs.trans ?_))
      unfold recordLogs
      split
      · rename_i same
        cases same
      · rename_i same
        cases same
        cases other
      · rename_i same
        cases same
        cases other
      · rfl
  | @message client memory connection letter rest _ there waits handled connections poll decisions =>
    subst now
    cases chat : letter.message.chat? with
    | none =>
      have silent : nextSaid conversation.network client = none := by
        rw [nextSaid, Network.front, there, Option.bind_some, waits, List.head?_cons, Option.bind_some, Server.saying, chat]
        rfl
      rw [recordSaid, silent, Option.toList_none, List.append_nil] at said
      exact Or.inl (room_ignores there waits chat handled connections said logs)
    | some message =>
      rcases letter with ⟨letter, origin⟩
      cases letter with
      | chat text =>
        have short : text.message.length < maxChatMessageSize := by
          refine heard.way there text ?_
          rw [Connection.outgoing, waits]
          exact List.mem_cons_self
        rcases room_speaks there waits short handled connections said logs with ⟨spoken, name, speaks⟩
        refine Or.inr ⟨_, speaks, fun takes peer => ?_⟩
        by_cases own : peer = client
        · rw [Conversation.takes, decide_eq_true own, Bool.true_or]
        · cases session : conversation.network.server.findSession peer with
          | none => rw [Conversation.takes, session, Option.all_none, Bool.or_true]
          | some data =>
            rw [Conversation.takes, session, Option.all_some, takes peer data session own spoken, Bool.or_true]
      | _ => cases chat
  | writeData there session => exact Or.inl (room_writes there session (by rw [now]) (by rw [now]) said logs)
  | removeSession removed =>
    rcases room_leaves removed now said logs with same | ⟨kept, leaves⟩
    · exact Or.inl same
    · exact Or.inr ⟨_, leaves, fun _ => trivial⟩

theorem Heard.step (heard : conversation.Heard) {event : Network.Event} (brief : conversation.Brief event)
    (stepped : conversation.step target event = some next) : next.Heard := by
  constructor
  · rcases matched_of_step heard stepped with same | ⟨happens, step, -⟩
    · rw [same]
      exact heard.ordered
    · exact heard.ordered.step step
  · rcases step_ok stepped with ⟨-, -, logs⟩
    intro client text member
    rw [logs] at member
    unfold recordLogs at member
    split at member
    · rw [Function.update_apply] at member
      split at member
      · cases member
      · exact heard.short client text member
    · rw [Function.update_apply] at member
      split at member
      · rcases List.mem_append.mp member with earlier | now
        · exact heard.short _ text earlier
        · rw [List.mem_singleton.mp now]
          exact lt_of_eq_of_lt (congrArg List.length (ChatMessage.message_setMessage _ brief)) brief
      · exact heard.short client text member
    · rw [Function.update_apply] at member
      split at member
      · exact heard.short _ text member
      · exact heard.short client text member
    · exact heard.short client text member

theorem heard_start : start.Heard :=
  ⟨Room.State.ordered_empty, fun _ _ none => (List.not_mem_nil none).elim⟩

def Shows (conversation : Conversation) (room : Room.State SessionId (List Byte) (List Byte)) : Prop :=
  conversation.room = room ∧ conversation.Heard

theorem shows_start : start.Shows .empty := ⟨rfl, heard_start⟩

/-- The network is a room in which everyone hears the others in one order. -/
theorem simulates (target : Target) : Simulates (step target) Brief Room.State.step Always Shows := by
  apply Simulates.of_step
  rintro conversation _ event next ⟨rfl, heard⟩ brief stepped
  have after := heard.step brief stepped
  rcases matched_of_step heard stepped with same | ⟨happens, moved, -⟩
  · exact Or.inl ⟨same, after⟩
  · exact Or.inr ⟨happens, next.room, trivial, moved, rfl, after⟩

/-- Where no queue refuses a chat message, the room loses none. -/
theorem simulates_lossless (target : Target) :
    Simulates (step target) (fun conversation event => conversation.Brief event ∧ conversation.QueuesTake event)
      Room.State.step Room.Lossless Shows := by
  apply Simulates.of_step
  rintro conversation _ event next ⟨rfl, heard⟩ ⟨brief, takes⟩ stepped
  have after := heard.step brief stepped
  rcases matched_of_step heard stepped with same | ⟨happens, moved, lossless⟩
  · exact Or.inl ⟨same, after⟩
  · exact Or.inr ⟨happens, next.room, lossless takes, moved, rfl, after⟩

def due (conversation : Conversation) (client : SessionId) (connection : Connection) : List (List Byte × List Byte) :=
  (chats connection.down ++ (conversation.network.waiting client).getD []).map ChatMessage.row

/-- One order for all: what a client has handled, with what is on its way to it, is a part of what the others have said
since it connected, in the order in which the server heard it; and what the server heard from a client is a part of what
was typed there. -/
theorem oneOrder {events : List Network.Event} (run : Run (step target) Brief start events conversation)
    (there : conversation.network.connections client = some connection) :
    ((conversation.logs client).heard ++ conversation.due client connection).Sublist
        (conversation.room.others client (conversation.logs client).joined) ∧
      (conversation.room.words client ++ (chats connection.outgoing).map ChatMessage.message).Sublist
        (conversation.logs client).typed := by
  rcases (simulates target).run shows_start run with ⟨happens, _, abstract, rfl, -⟩
  have heeds := (Room.ordered_run abstract).heeds client _ (room_of_connection there)
  exact ⟨heeds.due, heeds.way⟩

open Network in
/-- The first user writes to the second, who is shown the text, and writes again. -/
def talk : List Network.Event :=
  joining 1 ++ joining 2 ++ [.client 1 (.chat Heap.zeroed.chat (ascii ['h', 'i']))] ++ speaking 1 ++ hearing 2 .refuse ++
    [.client 1 (.chat Heap.zeroed.chat (ascii ['y', 'o']))]

theorem oneOrder_talk :
    ∃ conversation connection, exec (step .m64) start talk = some conversation ∧
      conversation.network.connections 2 = some connection ∧
      (conversation.logs 2).heard = [(defaultNickName 1, ascii ['h', 'i'])] ∧
      ((conversation.logs 2).heard ++ conversation.due 2 connection).Sublist
        (conversation.room.others 2 (conversation.logs 2).joined) := by
  have outcome : ((execMeets (step .m64) (fun conversation event => decide (conversation.Brief event)) start talk).bind
      fun conversation => (conversation.network.connections 2).map fun _ => (conversation.logs 2).heard) =
        some [(defaultNickName 1, ascii ['h', 'i'])] := by
    decide +kernel
  obtain ⟨conversation, executed, outcome⟩ := Option.bind_eq_some_iff.mp outcome
  obtain ⟨connection, there, heard⟩ := Option.map_eq_some_iff.mp outcome
  exact ⟨conversation, connection, exec_of_execMeets executed, there, heard, (oneOrder (run_of_execDecide executed) there).1⟩

/-- Nothing that is said is lost, as long as no queue refuses it. -/
theorem allHeard {events : List Network.Event}
    (run : Run (step target) (fun conversation event => conversation.Brief event ∧ conversation.QueuesTake event) start
      events conversation)
    (there : conversation.network.connections client = some connection) :
    conversation.room.words client ++ (chats connection.outgoing).map ChatMessage.message =
        (conversation.logs client).typed ∧
      ((conversation.network.server.findSession client).isSome = true →
        (conversation.logs client).heard ++ conversation.due client connection =
          conversation.room.others client (conversation.logs client).joined) := by
  rcases (simulates_lossless target).run shows_start run with ⟨happens, _, abstract, rfl, -⟩
  have complete := Room.whole_run abstract client _ (room_of_connection there)
  refine ⟨complete.way, fun connected => complete.due ?_⟩
  rw [member, Network.waiting, Option.isSome_map]
  exact connected

open Network in
/-- Behind the second text the third user joins; then the second one answers, and the first has it shown. -/
def chatter : List Network.Event :=
  talk ++ speaking 1 ++ joining 3 ++ [.client 2 (.chat Heap.zeroed.chat (ascii ['h', 'o']))] ++ speaking 2 ++ hearing 1 .refuse

theorem allHeard_chatter :
    ∃ conversation first second, exec (step .m64) start chatter = some conversation ∧
      conversation.network.connections 1 = some first ∧ conversation.network.connections 2 = some second ∧
      (conversation.logs 1).typed = [ascii ['h', 'i'], ascii ['y', 'o']] ∧
      conversation.room.words 1 ++ (chats first.outgoing).map ChatMessage.message = (conversation.logs 1).typed ∧
      (conversation.logs 2).heard = [(defaultNickName 1, ascii ['h', 'i'])] ∧
      conversation.due 2 second = [(defaultNickName 1, ascii ['y', 'o'])] ∧
      (conversation.logs 2).heard ++ conversation.due 2 second =
        conversation.room.others 2 (conversation.logs 2).joined := by
  have outcome : ((execMeets (step .m64) (fun conversation event =>
      decide (conversation.Brief event ∧ conversation.QueuesTake event)) start chatter).bind fun conversation =>
        (conversation.network.connections 1).bind fun _ => (conversation.network.connections 2).map fun second =>
          (((conversation.network.server.findSession 2).isSome, (conversation.logs 1).typed),
            (conversation.logs 2).heard, conversation.due 2 second)) =
          some ((true, [ascii ['h', 'i'], ascii ['y', 'o']]), [(defaultNickName 1, ascii ['h', 'i'])],
            [(defaultNickName 1, ascii ['y', 'o'])]) := by
    decide +kernel
  obtain ⟨conversation, executed, outcome⟩ := Option.bind_eq_some_iff.mp outcome
  obtain ⟨first, there, outcome⟩ := Option.bind_eq_some_iff.mp outcome
  obtain ⟨second, thereToo, outcome⟩ := Option.map_eq_some_iff.mp outcome
  simp only [Prod.mk.injEq] at outcome
  obtain ⟨⟨connected, typed⟩, heard, due⟩ := outcome
  exact ⟨conversation, first, second, exec_of_execMeets executed, there, thereToo, typed,
    (allHeard (run_of_execDecide executed) there).1, heard, due, (allHeard (run_of_execDecide executed) thereToo).2 connected⟩

end Conversation

end LanMessenger
