import LanMessenger.Wire.Received

namespace LanMessenger

open CMemory Transition

namespace Connection

variable {target : Target} {connection acted after : Connection}

theorem step_alone {event : ClientEvent} (alone : event.whileConnected = true) (up down : List (Letter Nat))
    (stepped : connection.step target event = some acted) :
    { connection with up, down }.step target event = some { acted with up, down } ∧ acted.aborted = connection.aborted ∧
      acted.journal = connection.journal := by
  unfold step at stepped ⊢
  simp only at stepped ⊢
  split at stepped
  · cases stepped
  · rename_i going
    rw [if_neg going]
    cases event with
    | chooseFile =>
      simp only at stepped ⊢
      split at stepped
      · cases stepped
      · rename_i free
        cases stepped
        rw [if_neg free]
        exact ⟨rfl, rfl, rfl⟩
    | sendFile fileName =>
      simp only at stepped ⊢
      split at stepped
      · rename_i choosing
        cases stepped
        rw [if_pos choosing]
        exact ⟨rfl, rfl, rfl⟩
      · cases stepped
    | writeData => cases alone
    | readData answer opens elapsed => cases alone
    | chat raw message =>
      rcases Option.map_eq_some_iff.mp stepped with ⟨client, chatted, rfl⟩
      simp only [chatted, Option.map_some, and_self]
    | _ =>
      cases stepped
      exact ⟨rfl, rfl, rfl⟩

theorem handle_alone {answer : Answer} {opens : Bool} {elapsed : Int} {letter : Letter Nat} {left : List (Letter Nat)}
    (up down rest : List (Letter Nat)) (handled : connection.handle target answer opens elapsed letter left = some after) :
    { connection with up, down }.handle target answer opens elapsed letter rest = some { after with up, down := rest } ∧
      after.choosing = connection.choosing := by
  unfold handle at handled ⊢
  simp only at handled ⊢
  split at handled
  · cases handled
    exact ⟨rfl, rfl⟩
  · cases handled
    exact ⟨rfl, rfl⟩
  · cases handled

end Connection

structure Line.Shows (line : Line) (connection : Connection) (log : ChatLog) : Prop where
  state : connection = line.connection connection.up connection.down
  up : line.up.Carries connection.up
  down : line.down.Carries connection.down
  log : line.log = log

namespace Wire

structure Shows (wire : Wire) (conversation : Conversation) : Prop where
  server : conversation.network.server = wire.server
  poll : conversation.network.poll = wire.poll
  decisions : conversation.network.decisions = wire.decisions
  said : conversation.said = wire.said
  lines : ∀ client, Option.Rel (fun line connection => line.Shows connection (conversation.logs client)) (wire.lines client)
    (conversation.network.connections client)
  measured : conversation.network.Measured

variable {target : Target} {wire next : Wire} {conversation : Conversation} {client : SessionId} {line : Line}
  {connection : Connection}

theorem shows_start : start.Shows .start := ⟨rfl, rfl, rfl, rfl, fun _ => .none, Network.measured_start⟩

theorem Shows.there (shown : wire.Shows conversation) (there : wire.lines client = some line) :
    ∃ up down, conversation.network.connections client = some (line.connection up down) ∧
      line.Shows (line.connection up down) (conversation.logs client) := by
  have related := shown.lines client
  rw [there] at related
  cases found : conversation.network.connections client with
  | none =>
    rw [found] at related
    cases related
  | some connection =>
    rw [found] at related
    rcases related with ⟨own⟩
    exact ⟨connection.up, connection.down, congrArg some own.state, own.state ▸ own⟩

theorem Shows.absent (shown : wire.Shows conversation) (absent : wire.lines client = none) :
    conversation.network.connections client = none := by
  have related := shown.lines client
  rw [absent] at related
  cases found : conversation.network.connections client with
  | none => rfl
  | some connection =>
    rw [found] at related
    cases related

theorem Shows.lines_update (shown : wire.Shows conversation) {log : ChatLog} (own : line.Shows connection log)
    (client peer : SessionId) :
    Option.Rel (fun line connection => line.Shows connection (Function.update conversation.logs client log peer))
      (Function.update wire.lines client (some line) peer)
      (Function.update conversation.network.connections client (some connection) peer) := by
  simp only [Function.update_apply]
  split
  · exact .some own
  · exact shown.lines peer

theorem Shows.lines_same (shown : wire.Shows conversation) (own : line.Shows connection (conversation.logs client))
    (peer : SessionId) :
    Option.Rel (fun line connection => line.Shows connection (conversation.logs peer))
      (Function.update wire.lines client (some line) peer)
      (Function.update conversation.network.connections client (some connection) peer) := by
  have updated := shown.lines_update own client peer
  rwa [Function.update_eq_self] at updated

theorem Shows.put_same (shown : wire.Shows conversation) (found : conversation.network.connections client = some connection)
    (own : line.Shows connection (conversation.logs client)) : (wire.put client line).Shows conversation := by
  refine ⟨shown.server, shown.poll, shown.decisions, shown.said, fun peer => ?_, shown.measured⟩
  have updated := shown.lines_same own peer
  rwa [← found, Function.update_eq_self] at updated

def Follows (target : Target) (next : Wire) (conversation : Conversation) (event : Network.Event) : Prop :=
  ∃ after, conversation.step target event = some after ∧ next.Shows after

theorem follows_of_step {event : Network.Event} {network : Network} (shown : wire.Shows conversation)
    (brief : conversation.Brief event) (moved : conversation.network.step target event = some network)
    (server : network.server = next.server) (poll : network.poll = next.poll) (decisions : network.decisions = next.decisions)
    (said : conversation.recordSaid event = next.said)
    (lines : ∀ client, Option.Rel (fun line connection => line.Shows connection (conversation.recordLogs event client))
      (next.lines client) (network.connections client)) : Follows target next conversation event := by
  refine ⟨⟨network, conversation.recordSaid event, conversation.recordLogs event⟩, ?_, server, poll, decisions, said, lines,
    shown.measured.step brief moved⟩
  rw [Conversation.step, moved]
  rfl

theorem Shows.connect (shown : wire.Shows conversation) {fileTransferBuffer_ : Field maxMessageSize}
    {fileName_ : Field maxPathSize} {nickName_ sessionNickName_ : Field maxNicknameSize}
    {buffer_ sessionBuffer_ : Field maxMessageSize}
    (stepped : wire.step target (.connect client fileTransferBuffer_ fileName_ nickName_ sessionNickName_ buffer_
      sessionBuffer_) = some next) :
    Follows target next conversation (.connect client fileTransferBuffer_ fileName_ nickName_ sessionNickName_) := by
  simp only [step] at stepped
  split at stepped
  · cases stepped
  · rename_i free
    cases stepped
    simp only [Bool.or_eq_true, not_or, Option.not_isSome_iff_eq_none] at free
    have moved : conversation.network.step target
        (.connect client fileTransferBuffer_ fileName_ nickName_ sessionNickName_) = some { conversation.network with
          server := wire.server.addSession client sessionNickName_
          connections := Function.update conversation.network.connections client
            (some ⟨.new fileTransferBuffer_ fileName_ nickName_ 0, [], [], false, false, .empty⟩) } := by
      rw [Network.step, shown.absent free.1, shown.server, free.2]
      rfl
    refine follows_of_step shown trivial moved rfl shown.poll shown.decisions shown.said ?_
    apply shown.lines_update
    exact ⟨rfl, Cable.carries_new _, Cable.carries_new _, by rw [shown.said]⟩

theorem Shows.acted (shown : wire.Shows conversation) {event : ClientEvent}
    (brief : conversation.Brief (.client client event))
    (found : conversation.network.connections client = some connection) {acted : Connection}
    (acts : connection.step target event = some acted)
    (own : line.Shows acted (conversation.recordLogs (.client client event) client))
    (others : ∀ peer, peer ≠ client → conversation.recordLogs (.client client event) peer = conversation.logs peer) :
    Follows target (wire.put client line) conversation (.client client event) := by
  have moved : conversation.network.step target (.client client event) = some { conversation.network with
      connections := Function.update conversation.network.connections client (some acted) } := by
    rw [Network.step, found]
    simp only [acts, Option.map_some]
  have logs : conversation.recordLogs (.client client event) = Function.update conversation.logs client
      (conversation.recordLogs (.client client event) client) := by
    funext peer
    rw [Function.update_apply]
    split
    · rename_i same
      rw [same]
    · rename_i other
      exact others peer other
  refine follows_of_step shown brief moved shown.server shown.poll shown.decisions ?_ ?_
  · cases event <;> exact shown.said
  · rw [logs]
    exact shown.lines_update own client

theorem recordLogs_client (client : SessionId) (conversation : Conversation) {event : ClientEvent}
    (alone : event.whileConnected = true) :
    conversation.recordLogs (.client client event) =
      Function.update conversation.logs client ((conversation.logs client).types event) := by
  cases event with
  | readData answer opens elapsed => cases alone
  | chat raw message => rfl
  | _ => exact (Function.update_eq_self ..).symm

theorem Shows.act (shown : wire.Shows conversation) {event : ClientEvent} (sound : wire.Sound (.client client event))
    (stepped : wire.step target (.client client event) = some next) :
    Follows target next conversation (.client client event) := by
  simp only [step, Option.bind_eq_some_iff, Option.map_eq_some_iff] at stepped
  rcases stepped with ⟨line, there, changed, acts, rfl⟩
  rcases shown.there there with ⟨up, down, found, own⟩
  unfold Line.act at acts
  split at acts
  · cases acts
  · rename_i alone
    have alone : event.whileConnected = true := by simpa using alone
    rcases Option.map_eq_some_iff.mp acts with ⟨acted, moved, rfl⟩
    rcases Connection.step_alone alone up down moved with ⟨acts, aborted, journal⟩
    have brief : conversation.Brief (.client client event) := by
      cases event <;> exact sound
    have logs := recordLogs_client client conversation alone
    refine shown.acted brief found acts ?_ ?_
    · rw [logs, Function.update_self]
      refine ⟨?_, own.up, own.down, by rw [own.log]⟩
      have aborted : acted.aborted = line.aborted := aborted
      have journal : acted.journal = line.journal := journal
      simp only [Line.connection, aborted, journal]
    · intro peer other
      rw [logs, Function.update_of_ne other]

theorem Shows.clientWriteData (shown : wire.Shows conversation) {sent : Nat}
    (sound : wire.Sound (.clientWriteData client sent)) (stepped : wire.step target (.clientWriteData client sent) = some next) :
    Follows target next conversation (.client client .writeData) := by
  simp only [step, Option.bind_eq_some_iff, Option.map_eq_some_iff] at stepped
  rcases stepped with ⟨line, there, changed, wrote, rfl⟩
  rcases shown.there there with ⟨up, down, found, own⟩
  unfold Line.writeData at wrote
  split at wrote
  · cases wrote
  · rename_i alive
    have moved : (line.connection up down).step target .writeData = some (({ line with
        client := { line.client with outbox := line.client.outbox.writeData.2 } } : Line).connection
          (up ++ line.client.outbox.writeData.1.toList) down) := by
      rw [Connection.step, if_neg (by simpa [ClientEvent.whileConnected, Line.connection] using alive)]
      rfl
    refine shown.acted trivial found moved ?_ fun peer other => rfl
    have limits := shown.measured.outgoing client _ found
    have taken := sound line there
    rcases written : line.client.outbox.writeData with ⟨letter, outbox⟩
    rw [written] at wrote taken
    cases letter with
    | none =>
      cases wrote
      have same : outbox = line.client.outbox := by
        have kept : line.client.outbox.writeData.2 = line.client.outbox := Outbox.writeData_none (by rw [written])
        rwa [written] at kept
      rw [same, Option.toList_none, List.append_nil]
      exact own
    | some letter =>
      cases wrote
      have within : letter.message.WithinLimits := by
        refine limits letter (List.mem_append_right _ (Outbox.mem_of_writeData ?_))
        show line.client.outbox.writeData.1 = some letter
        rw [written]
      exact ⟨rfl, own.up.writeData within (taken letter rfl), own.down, own.log⟩

theorem Shows.clientReadData (shown : wire.Shows conversation) {heap : Heap} {count : Nat} {answer : Answer} {opens : Bool}
    {elapsed : Int}
    (stepped : wire.step target (.clientReadData client heap count answer opens elapsed) = some next) :
    next.Shows conversation ∨ Follows target next conversation (.client client (.readData answer opens elapsed)) := by
  simp only [step, Option.bind_eq_some_iff, Option.map_eq_some_iff] at stepped
  rcases stepped with ⟨line, there, changed, read, rfl⟩
  rcases shown.there there with ⟨up, down, found, own⟩
  unfold Line.readData at read
  split at read
  · cases read
  · rename_i ready
    simp only [Bool.or_eq_true, not_or, Bool.not_eq_true, Bool.not_eq_false', decide_eq_true_eq] at ready
    rcases own.down.readData heap ready.2 with ⟨none, carries⟩ | ⟨letter, rest, waits, handled, carries⟩
    · left
      simp only [none, List.foldlM_nil] at read
      cases read
      refine shown.put_same found ?_
      exact ⟨rfl, own.up, carries, own.log⟩
    · right
      subst waits
      simp only [handled, List.foldlM_cons, List.foldlM_nil, bind_pure] at read
      rcases Option.map_eq_some_iff.mp read with ⟨after, took, rfl⟩
      have limits := own.down.limits letter List.mem_cons_self
      rw [Connection.handle_received target _ answer opens elapsed heap [] limits] at took
      rcases Connection.handle_alone up (letter :: rest) rest took with ⟨took, choosing⟩
      have moved : (line.connection up (letter :: rest)).step target (.readData answer opens elapsed) =
          some { after with up, down := rest } := by
        rw [Connection.step, if_neg (by simpa [ClientEvent.whileConnected, Line.connection] using ready.1)]
        exact took
      have heard : Conversation.nextHeard conversation.network client = letter.message.chat?.map ChatMessage.row := by
        rw [Conversation.nextHeard, found]
        rfl
      refine shown.acted trivial found moved ?_ fun peer other => Function.update_of_ne other _ _
      have choosing : after.choosing = line.choosing := choosing
      refine ⟨?_, own.up, carries, ?_⟩
      · simp only [Line.connection, choosing]
      · rw [ChatLog.hears_received _ heap limits]
        simp only [ChatLog.hears, Conversation.recordLogs, Function.update_self, heard, own.log]

theorem step_message {network : Network} {connection : Connection} {letter : Letter Nat} {rest : List (Letter Nat)}
    {memory : Memory} {server : Server Nat} (there : network.connections client = some connection)
    (waits : connection.up = letter :: rest)
    (handled : network.server.availableMessage target memory (network.poll.hear network.server client letter).transfer client
      letter.message = .ok server) :
    network.step target (.message client memory) = some {
      server
      connections := Function.update network.connections client (some { connection with up := rest })
      poll := network.poll.hear network.server client letter
      decisions := match network.server.verdict client letter.message with
        | none => network.decisions
        | some _ => network.decisions ++ [⟨(network.poll.hear network.server client letter).transfer,
            (network.poll.hear network.server client letter).missing network.server⟩] } := by
  simp only [Network.step, there, waits]
  unfold Network.handle
  simp only
  split
  · rename_i failed
    rw [handled] at failed
    cases failed
  · rename_i after succeeded
    rw [handled] at succeeded
    cases succeeded
    rfl

theorem Shows.readData (shown : wire.Shows conversation) {heap : Heap} {count : Nat} {memory : Memory}
    (stepped : wire.step target (.readData client heap count memory) = some next) :
    next.Shows conversation ∨ Follows target next conversation (.message client memory) := by
  simp only [step, Option.bind_eq_some_iff] at stepped
  rcases stepped with ⟨line, there, read⟩
  rcases shown.there there with ⟨up, down, found, own⟩
  unfold Wire.readData at read
  split at read
  · cases read
  · rename_i ready
    simp only [Bool.or_eq_true, not_or, Bool.not_eq_true, Bool.not_eq_false', decide_eq_true_eq] at ready
    rcases own.up.readData heap ready.1 with ⟨none, carries⟩ | ⟨letter, rest, waits, handled, carries⟩
    · left
      simp only [none, List.foldlM_nil] at read
      cases read
      refine shown.put_same found ?_
      exact ⟨rfl, carries, own.down, own.log⟩
    · right
      subst waits
      have limits := own.up.limits letter List.mem_cons_self
      simp only [handled, List.foldlM_cons, List.foldlM_nil, bind_pure, hear, Server.availableMessage_received _ _ _ _ _ _ limits,
        Server.saying_received _ _ _ limits, Server.verdict_received _ _ _ limits, Poll.hear_received _ _ _ _ limits] at read
      split at read
      · cases read
      · rename_i server served
        cases read
        have handled : conversation.network.server.availableMessage target memory
            (conversation.network.poll.hear conversation.network.server client letter).transfer client letter.message =
              .ok server := by
          rw [shown.poll, shown.server]
          exact served
        have moved := step_message found rfl handled
        rw [shown.server, shown.poll, shown.decisions] at moved
        have said : Conversation.nextSaid conversation.network client = wire.server.saying client letter.message := by
          rw [Conversation.nextSaid, Network.front, found, shown.server]
          rfl
        refine follows_of_step shown trivial moved rfl rfl rfl ?_ ?_
        · rw [Conversation.recordSaid, said, shown.said]
          rfl
        · apply shown.lines_same
          exact ⟨rfl, carries, own.down, own.log⟩

theorem Shows.writeData (shown : wire.Shows conversation) {sent : Nat} (sound : wire.Sound (.writeData client sent))
    (stepped : wire.step target (.writeData client sent) = some next) :
    next.Shows conversation ∨ Follows target next conversation (.writeData client) := by
  simp only [step, Option.bind_eq_some_iff, Option.map_eq_some_iff] at stepped
  rcases stepped with ⟨line, there, data, session, rfl⟩
  rcases shown.there there with ⟨up, down, found, own⟩
  have taken := sound data session
  unfold Wire.writeData
  rcases written : data.client.outbox.writeData with ⟨letter, outbox⟩
  rw [written] at taken
  cases letter with
  | none => exact Or.inl shown
  | some letter =>
    right
    have within : letter.message.WithinLimits := by
      refine shown.measured.queues client data (by rw [shown.server, session]) letter (Outbox.mem_of_writeData ?_)
      rw [written]
    have moved : conversation.network.step target (.writeData client) = some { conversation.network with
        server := wire.server.modify client fun data => { data with client.outbox := outbox }
        connections := Function.update conversation.network.connections client
          (some (line.connection up (down ++ [letter]))) } := by
      simp only [Network.step, found, shown.server, session, written, Line.connection, Option.toList_some]
    refine follows_of_step shown trivial moved rfl shown.poll shown.decisions shown.said ?_
    apply shown.lines_same
    exact ⟨rfl, own.up, own.down.writeData within (taken letter rfl), own.log⟩

theorem Shows.removeSession (shown : wire.Shows conversation) (stepped : wire.step target (.removeSession client) = some next) :
    Follows target next conversation (.removeSession client) := by
  simp only [step, Option.map_eq_some_iff] at stepped
  rcases stepped with ⟨server, removed, rfl⟩
  have moved : conversation.network.step target (.removeSession client) = some { conversation.network with server } := by
    simp only [Network.step, shown.server, shown.poll, removed, Option.map_some]
  exact follows_of_step shown trivial moved rfl shown.poll shown.decisions shown.said shown.lines

/-- Bytes in chunks of any lengths do what whole letters in order do. -/
theorem simulates (target : Target) : Simulates (step target) Sound (Conversation.step target) Conversation.Brief Shows := by
  apply Simulates.of_step
  intro wire conversation event next shown sound stepped
  have follows : next.Shows conversation ∨
      ∃ event, conversation.Brief event ∧ Follows target next conversation event := by
    cases event with
    | connect client fileTransferBuffer_ fileName_ nickName_ sessionNickName_ buffer_ sessionBuffer_ =>
      refine Or.inr ⟨.connect client fileTransferBuffer_ fileName_ nickName_ sessionNickName_, trivial, ?_⟩
      exact shown.connect stepped
    | client client event =>
      refine Or.inr ⟨.client client event, ?_, shown.act sound stepped⟩
      cases event <;> exact sound
    | clientWriteData client sent =>
      exact Or.inr ⟨.client client .writeData, trivial, shown.clientWriteData sound stepped⟩
    | clientReadData client heap count answer opens elapsed =>
      exact (shown.clientReadData stepped).imp_right fun follows =>
        ⟨.client client (.readData answer opens elapsed), trivial, follows⟩
    | readData client heap count memory =>
      exact (shown.readData stepped).imp_right fun follows => ⟨.message client memory, trivial, follows⟩
    | writeData client sent =>
      exact (shown.writeData sound stepped).imp_right fun follows => ⟨.writeData client, trivial, follows⟩
    | removeSession client => exact Or.inr ⟨.removeSession client, trivial, shown.removeSession stepped⟩
  rcases follows with same | ⟨event, brief, after, moved, shows⟩
  · exact Or.inl same
  · exact Or.inr ⟨event, after, brief, moved, shows⟩

/-- Every run with bytes is a run with letters, in which server and clients are in the same states and the bytes under way
are the frames of the letters under way; and no session's reception fails. -/
theorem refines {events : List Event} (run : Run (step target) Sound start events wire) :
    (∃ events conversation, Run (Network.step target) Network.Brief .start events conversation.network ∧
      wire.Shows conversation) ∧
      ∀ client line, wire.lines client = some line → line.up.failed = false ∧ line.down.failed = false := by
  rcases (simulates target).run shows_start run with ⟨happens, conversation, abstract, shown⟩
  rcases (Conversation.projects target).run rfl abstract with ⟨letters, network, projected, rfl⟩
  refine ⟨⟨letters, conversation, projected, shown⟩, fun client line there => ?_⟩
  rcases shown.there there with ⟨up, down, -, own⟩
  exact ⟨own.up.succeeded, own.down.succeeded⟩

/-- A client connects; its `HELLO` arrives in two pieces. -/
def entering (client : SessionId) : List Event :=
  [.connect client (Field.zero _) (Field.zero _) (Field.zero _) (Field.zero _) (Field.zero _) (Field.zero _),
    .clientWriteData client 8, .readData client Heap.zeroed 3 .zeroed, .readData client Heap.zeroed 5 .zeroed,
    .writeData client 45, .clientReadData client Heap.zeroed 45 .refuse true 0]

/-- Two clients connect, and what the first writes reaches the server, and then the second, in two pieces. -/
def whispering : List Event :=
  entering 1 ++ entering 2 ++ [.client 1 (.chat Heap.zeroed.chat (ascii ['h', 'i'])), .clientWriteData 1 50,
    .readData 1 Heap.zeroed 7 .zeroed, .readData 1 Heap.zeroed 43 .zeroed, .writeData 2 50,
    .clientReadData 2 Heap.zeroed 49 .refuse true 0, .clientReadData 2 Heap.zeroed 1 .refuse true 0]

theorem whispered :
    ∃ wire line, execMeets (step .m64) (fun wire event => decide (wire.Sound event)) start whispering = some wire ∧
      wire.lines 2 = some line ∧ line.log.heard = [(defaultNickName 1, ascii ['h', 'i'])] := by
  have outcome : ((execMeets (step .m64) (fun wire event => decide (wire.Sound event)) start whispering).bind fun wire =>
      (wire.lines 2).map fun line => line.log.heard) = some [(defaultNickName 1, ascii ['h', 'i'])] := by
    decide +kernel
  rcases Option.bind_eq_some_iff.mp outcome with ⟨wire, executed, outcome⟩
  rcases Option.map_eq_some_iff.mp outcome with ⟨line, there, heard⟩
  exact ⟨wire, line, executed, there, heard⟩

theorem refines_whispering :
    ∃ wire, exec (step .m64) start whispering = some wire ∧ (∃ events conversation,
      Run (Network.step .m64) Network.Brief .start events conversation.network ∧ wire.Shows conversation) := by
  rcases whispered with ⟨wire, line, executed, -, -⟩
  exact ⟨wire, exec_of_execMeets executed, (refines (run_of_execDecide executed)).1⟩

/-- What a client has handled is a part of what the others have said since it connected, in the order in which the server
handled it, which is for each of them the order in which it was typed. -/
theorem bytesInOneOrder {events : List Event} (run : Run (step target) Sound start events wire)
    (there : wire.lines client = some line) :
    line.log.heard.Sublist
        (((wire.said.drop line.log.joined).filter fun saying => saying.author ≠ client).map Room.Saying.row) ∧
      ((wire.said.filter fun saying => saying.author = client).map Room.Saying.text).Sublist line.log.typed := by
  have simulated := (simulates target).trans (Conversation.simulates target)
  rcases simulated.run ⟨.start, shows_start, Conversation.shows_start⟩ run with
    ⟨happens, room, abstract, conversation, shown, rfl, -⟩
  rcases shown.there there with ⟨up, down, found, own⟩
  have heeds := (Room.ordered_run abstract).heeds client _ (Conversation.room_of_connection found)
  rw [← shown.said, own.log]
  exact ⟨(List.sublist_append_left _ _).trans heeds.due, (List.sublist_append_left _ _).trans heeds.way⟩

theorem bytesInOneOrder_whispering :
    ∃ wire line, exec (step .m64) start whispering = some wire ∧ wire.lines 2 = some line ∧
      line.log.heard = [(defaultNickName 1, ascii ['h', 'i'])] ∧ line.log.heard.Sublist
        (((wire.said.drop line.log.joined).filter fun saying => saying.author ≠ 2).map Room.Saying.row) := by
  rcases whispered with ⟨wire, line, executed, there, heard⟩
  exact ⟨wire, line, exec_of_execMeets executed, there, heard, (bytesInOneOrder (run_of_execDecide executed) there).1⟩

end Wire

end LanMessenger
