import LanMessenger.Network.Parties

namespace LanMessenger

open CMemory

def SessionData.standing {τ : Type} (data : SessionData τ) : StatusCode × Bool :=
  (data.client.fileTransferStatus_, data.isFileTransferSender)

/-- A client with its session, as file transfers see them: the state of the client, the letters on their
    way, and the session's status and mark while it is connected. -/
structure Party where
  client : FileTransfer
  aborted : Bool
  upstream : List (Letter Nat)
  downstream : List (Letter Nat)
  session : Option (StatusCode × Bool)
  journal : Journal

namespace Connection

def downstream (connection : Connection) : Option (SessionData Nat) → List (Letter Nat)
  | none => transferLetters connection.down
  | some data => transferLetters connection.down ++ data.transferQueue

def party (connection : Connection) (session : Option (SessionData Nat)) : Party where
  client := connection.client.fileTransfer
  aborted := connection.aborted
  upstream := connection.upstream
  downstream := connection.downstream session
  session := session.map SessionData.standing
  journal := connection.journal

variable {connection next : Connection} (session : Option (SessionData Nat))

theorem downstream_cons {letter : Letter Nat} {rest : List (Letter Nat)} (waiting : connection.down = letter :: rest)
    (transfers : letter.message.ofTransfer = true) (left : next.down = rest) :
    connection.downstream session = letter :: next.downstream session := by
  cases session <;> simp [downstream, waiting, left, transferLetters, transfers]

theorem downstream_congr (down : next.down = connection.down) :
    next.downstream session = connection.downstream session := by
  cases session <;> simp only [downstream, down]

theorem party_quiet (client : next.client.fileTransfer = connection.client.fileTransfer)
    (up : next.upstream = connection.upstream) (down : transferLetters next.down = transferLetters connection.down)
    (journal : next.journal = connection.journal) (aborted : next.aborted = connection.aborted) :
    next.party session = connection.party session := by
  cases session <;> simp only [party, client, up, journal, aborted, downstream, down]

end Connection

namespace Network

def party (network : Network) (client : SessionId) : Option Party :=
  (network.connections client).map fun connection => connection.party (network.server.findSession client)

def standing (network : Network) (client : SessionId) : Option (StatusCode × Bool) :=
  (network.server.findSession client).map SessionData.standing

variable {target : Target} {network next : Network} {client peer : SessionId}

theorem isSome_standing (network : Network) (peer : SessionId) :
    (network.standing peer).isSome = (network.server.findSession peer).isSome := Option.isSome_map

theorem party_eq {party : Party} (there : network.party peer = some party) :
    ∃ connection, network.connections peer = some connection ∧
      party = connection.party (network.server.findSession peer) := by
  obtain ⟨connection, found, rfl⟩ := Option.map_eq_some_iff.mp there
  exact ⟨connection, found, rfl⟩

theorem party_of_connection {connection : Connection} (there : network.connections client = some connection) :
    network.party client = some (connection.party (network.server.findSession client)) := by
  rw [party, there]
  rfl

theorem party_update {connection : Connection} (server : next.server = network.server)
    (connections : next.connections = Function.update network.connections client (some connection)) (peer : SessionId) :
    next.party peer =
      if peer = client then some (connection.party (network.server.findSession client)) else network.party peer := by
  rw [party, connections, server]
  by_cases own : peer = client
  · rw [if_pos own, own, Function.update_self]
    rfl
  · rw [if_neg own, Function.update_of_ne own]
    rfl

def front (network : Network) (client : SessionId) : Option (Letter Nat) :=
  (network.connections client).bind fun connection => connection.up.head?

/-- The client's session handles the letter: how the parties looked before, from how they look after it. -/
structure Serves (network next : Network) (client : SessionId) (letter : Letter Nat)
    (sent : SessionId → SessionData Nat → Option (Letter Nat)) (status : SessionId → StatusCode → StatusCode)
    (sender : SessionId → Bool → Bool) : Prop where
  parties : ∀ peer after, next.party peer = some after → ∃ before, network.party peer = some before ∧
    after.client = before.client ∧ after.aborted = before.aborted ∧ after.journal = before.journal ∧
    before.upstream = (if peer = client then transferLetters [letter] else []) ++ after.upstream ∧
    ((before.session = none ∧ after.session = none ∧ after.downstream = before.downstream) ∨
      ∃ data, network.server.findSession peer = some data ∧ before.session = some data.standing ∧
        after.session = some (status peer data.standing.1, sender peer data.standing.2) ∧
        Queued before.downstream after.downstream (sent peer data))
  stays : ∀ peer, (network.party peer).isSome = true → (next.party peer).isSome = true
  standing : ∀ peer, next.standing peer = (network.standing peer).map fun old => (status peer old.1, sender peer old.2)

theorem isSome_party (network : Network) (peer : SessionId) :
    (network.party peer).isSome = (network.connections peer).isSome := Option.isSome_map

theorem serves_of_spreads {sent : SessionId → SessionData Nat → Option (Letter Nat)}
    {status : SessionId → StatusCode → StatusCode} {sender : SessionId → Bool → Bool} {connection : Connection}
    {letter : Letter Nat} {rest : List (Letter Nat)} (there : network.connections client = some connection)
    (waiting : connection.up = letter :: rest)
    (connections : next.connections = Function.update network.connections client (some { connection with up := rest }))
    (spreads : Server.Spreads network.server next.server sent status sender) :
    Serves network next client letter sent status sender := by
  constructor
  · intro peer after found
    obtain ⟨current, known, rfl⟩ := party_eq found
    have before : ∃ old, network.connections peer = some old ∧ current.client = old.client ∧
        current.aborted = old.aborted ∧ current.journal = old.journal ∧ current.down = old.down ∧
        old.upstream = (if peer = client then transferLetters [letter] else []) ++ current.upstream := by
      rw [connections] at known
      by_cases own : peer = client
      · subst own
        rw [Function.update_self] at known
        cases known
        refine ⟨connection, there, rfl, rfl, rfl, rfl, ?_⟩
        rw [if_pos rfl, Connection.upstream, waiting, List.cons_append, ← List.singleton_append, transferLetters_append]
        rfl
      · rw [Function.update_of_ne own] at known
        exact ⟨current, known, rfl, rfl, rfl, rfl, by rw [if_neg own, List.nil_append]⟩
    obtain ⟨old, was, client, aborted, journal, down, upstream⟩ := before
    refine ⟨old.party (network.server.findSession peer), by rw [party, was]; rfl, ?_, aborted, journal, upstream, ?_⟩
    · exact congrArg SessionServer.fileTransfer client
    · cases session : network.server.findSession peer with
      | none =>
        left
        have gone := spreads.none peer session
        refine ⟨rfl, ?_, ?_⟩
        · simp only [Connection.party, gone, Option.map_none]
        · simp only [Connection.party, gone, Connection.downstream, down]
      | some data =>
        right
        obtain ⟨later, still, queued, statusAfter, senderAfter⟩ := spreads.each peer data session
        refine ⟨data, rfl, rfl, ?_, ?_⟩
        · simp only [Connection.party, still, Option.map_some, SessionData.standing, statusAfter, senderAfter]
        · simp only [Connection.party, still, Connection.downstream, down]
          exact queued.behind _
  · intro peer known
    rw [isSome_party] at known ⊢
    rw [connections]
    by_cases own : peer = client
    · rw [own, Function.update_self]
      rfl
    · rw [Function.update_of_ne own]
      exact known
  · intro peer
    rw [Network.standing, Network.standing]
    cases session : network.server.findSession peer with
    | none =>
      rw [spreads.none peer session]
      rfl
    | some data =>
      obtain ⟨after, there, -, statusAfter, senderAfter⟩ := spreads.each peer data session
      rw [there]
      simp only [Option.map_some, SessionData.standing, statusAfter, senderAfter]

theorem Serves.isSome_eq {letter : Letter Nat} {sent : SessionId → SessionData Nat → Option (Letter Nat)}
    {status : SessionId → StatusCode → StatusCode} {sender : SessionId → Bool → Bool}
    (serves : Serves network next client letter sent status sender) (peer : SessionId) :
    (next.server.findSession peer).isSome = (network.server.findSession peer).isSome := by
  rw [← isSome_standing, serves.standing, Option.isSome_map, isSome_standing]

theorem party_new (fileTransferBuffer_ : Field maxMessageSize) (fileName_ : Field maxPathSize)
    (nickName_ sessionNickName_ : Field maxNicknameSize) (count : Nat) :
    Connection.party ⟨.new fileTransferBuffer_ fileName_ nickName_ 0, [], [], false, false, .empty⟩
        (some (Server.newSession count sessionNickName_)) =
      ⟨.disabled, false, [], [], some (.fileTransferCanceled, false), .empty⟩ := by
  have disabled : (SessionServer.new fileTransferBuffer_ fileName_ nickName_ 0).fileTransfer = .disabled := by
    simp only [SessionServer.fileTransfer, SessionServer.new, SessionServer.text_set_zero, FileTransfer.disabled]
  simp only [Connection.party, disabled]
  rfl

theorem party_writeData (connection : Connection) (data : SessionData Nat) :
    Connection.party { connection with down := connection.down ++ data.client.outbox.writeData.1.toList }
        (some { data with client.outbox := data.client.outbox.writeData.2 }) = connection.party (some data) := by
  obtain ⟨⟨⟨queue, flag⟩, status, name⟩, state, sender⟩ := data
  cases queue with
  | nil => simp [Connection.party, Connection.downstream, Connection.upstream, Outbox.writeData,
      SessionData.transferQueue, SessionData.standing]
  | cons letter rest =>
    simp only [Connection.party, Connection.downstream, Connection.upstream, Outbox.writeData,
      SessionData.transferQueue, SessionData.standing, Option.toList_some, Option.map_some,
      List.append_assoc, ← transferLetters_append, List.singleton_append]

section Poll

variable {server : Server Nat} {poll : Poll} {letter : Letter Nat}

theorem hear_quiet (notAccepted : server.accepts letter.message = false)
    (silent : letter.message.answer = none ∨ server.fileTransferModeActive_ = false) :
    poll.hear server client letter = poll := by
  unfold Poll.hear
  rw [notAccepted, if_neg Bool.false_ne_true]
  rcases silent with noAnswer | idle
  · simp [noAnswer]
  · simp [Server.isFileTransferModeActive, idle]

theorem hear_accepted (accepts : server.accepts letter.message = true) :
    poll.hear server client letter =
      ⟨poll.transfer + 1, fun peer => peer ≠ client && (server.findSession peer).isSome, fun _ => false⟩ := by
  rw [Poll.hear, if_pos accepts]

theorem hear_transfer (notAccepted : server.accepts letter.message = false) :
    (poll.hear server client letter).transfer = poll.transfer := by
  rw [Poll.hear, notAccepted, if_neg Bool.false_ne_true]
  split <;> rfl

theorem verdict_silent {message : Message}
    (silent : message.answer = none ∨ server.fileTransferModeActive_ = false) :
    server.verdict client message = none := by
  unfold Server.verdict
  rcases silent with noAnswer | idle
  · rw [noAnswer]
  · split
    · rfl
    · simp [idle]

theorem hears_quiet (heard : next.poll = network.poll.hear network.server client letter)
    (decisions : next.decisions = match network.server.verdict client letter.message with
      | none => network.decisions
      | some _ => network.decisions ++ [⟨next.poll.transfer, next.poll.missing network.server⟩])
    (notAccepted : network.server.accepts letter.message = false)
    (silent : letter.message.answer = none ∨ network.server.fileTransferModeActive_ = false) :
    next.poll = network.poll ∧ next.decisions = network.decisions := by
  rw [verdict_silent silent] at decisions
  exact ⟨heard.trans (hear_quiet notAccepted silent), decisions⟩

end Poll

inductive Hears (target : Target) (memory : Memory) (network next : Network) (client : SessionId) : Letter Nat → Prop
  | passes {letter : Letter Nat} {status : SessionId → StatusCode → StatusCode}
      (mode : next.server.fileTransferModeActive_ = network.server.fileTransferModeActive_)
      (serves : Serves network next client letter (fun _ _ => none) status fun _ mark => mark)
      (poll : next.poll = network.poll) (decisions : next.decisions = network.decisions) :
      Hears target memory network next client letter
  | refused {letter : Letter Nat} (why : (letter.message.answer.isSome = true ∧
          network.server.fileTransferModeActive_ = false) ∨
        ((∃ file, letter.message = .fileRequest file) ∧ network.server.fileTransferModeActive_ = true))
      (mode : next.server.fileTransferModeActive_ = network.server.fileTransferModeActive_)
      (serves : Serves network next client letter
        (fun peer _ => if peer = client then some ⟨.status ⟨.fileTransferCanceled⟩, network.poll.transfer⟩ else none)
        (fun _ status => status) fun _ mark => mark)
      (poll : next.poll = network.poll) (decisions : next.decisions = network.decisions) :
      Hears target memory network next client letter
  | answered {letter : Letter Nat} {code : StatusCode} (answer : letter.message.answer = some code)
      (active : network.server.fileTransferModeActive_ = true)
      (mode : next.server.fileTransferModeActive_ = network.server.fileTransferModeActive_)
      (decided : ∀ sender verdict, network.server.verdict client letter.message = some (sender, verdict) →
        (∃ data, network.server.findSession sender = some data ∧ data.isFileTransferSender = true) ∧
        ∀ peer data, network.server.findSession peer = some data → peer ≠ client →
          data.client.fileTransferStatus_ ≠ .fileTransferCanceled)
      (serves : Serves network next client letter
        (fun peer _ => Server.decisionLetter network.poll.transfer (network.server.verdict client letter.message) peer)
        (fun peer status => if peer = client then code else status) fun _ mark => mark)
      (poll : next.poll = network.poll.hear network.server client letter)
      (transfer : next.poll.transfer = network.poll.transfer)
      (decisions : next.decisions = match network.server.verdict client letter.message with
        | none => network.decisions
        | some _ => network.decisions ++ [⟨next.poll.transfer, next.poll.missing network.server⟩]) :
      Hears target memory network next client letter
  | accepted {file : FileTransferMessage} {origin : Nat} (idle : network.server.fileTransferModeActive_ = false)
      (accepts : network.server.accepts (.fileRequest file) = true) (mode : next.server.fileTransferModeActive_ = true)
      (current : SessionData Nat)
      (serves : Serves network next client ⟨.fileRequest file, origin⟩
        (fun peer data => if peer = client then none
          else Server.requestLetter (network.poll.transfer + 1) current file peer data)
        (fun peer status => if peer = client then .acceptFileTransfer else status)
        fun peer mark => if peer = client then true else mark)
      (poll : next.poll = ⟨network.poll.transfer + 1,
        fun peer => peer ≠ client && (network.server.findSession peer).isSome, fun _ => false⟩)
      (decisions : next.decisions = network.decisions) :
      Hears target memory network next client ⟨.fileRequest file, origin⟩
  | relayed {block : FileDataMessage} {origin : Nat}
      (mode : next.server.fileTransferModeActive_ = (network.server.fileTransferModeActive_ && !block.isLastBlock))
      (serves : Serves network next client ⟨.fileData block, origin⟩
        (fun peer data => if peer = client then none
          else Server.dataLetter target memory network.poll.transfer block peer data)
        (fun peer status => if peer = client && block.isLastBlock then .fileTransferCanceled else status)
        fun peer mark => if peer = client && block.isLastBlock then false else mark)
      (poll : next.poll = network.poll) (decisions : next.decisions = network.decisions) :
      Hears target memory network next client ⟨.fileData block, origin⟩

theorem hears_of_reaction {memory : Memory} {letter : Letter Nat}
    (reaction : Server.Reaction target memory (network.poll.hear network.server client letter).transfer network.server
      client next.server letter.message)
    (serves : ∀ sent status sender, Server.Spreads network.server next.server sent status sender →
      Serves network next client letter sent status sender)
    (poll : next.poll = network.poll.hear network.server client letter)
    (decisions : next.decisions = match network.server.verdict client letter.message with
      | none => network.decisions
      | some _ => network.decisions ++ [⟨next.poll.transfer, next.poll.missing network.server⟩]) :
    Hears target memory network next client letter := by
  obtain ⟨message, origin⟩ := letter
  cases reaction with
  | quiet noAnswer noBlock notAccepted mode spreads =>
    obtain ⟨poll, decisions⟩ := hears_quiet poll decisions notAccepted (Or.inl noAnswer)
    exact Hears.passes mode (serves _ _ _ spreads) poll decisions
  | refused why mode spreads =>
    obtain ⟨notAccepted, silent⟩ := Server.refused_quiet why
    rw [hear_transfer notAccepted] at spreads
    obtain ⟨poll, decisions⟩ := hears_quiet poll decisions notAccepted silent
    exact Hears.refused why mode (serves _ _ _ spreads) poll decisions
  | answered answer active mode decided spreads =>
    have notAccepted : network.server.accepts message = false := by
      rw [show message = .status ⟨_⟩ from (Message.eq_of_answer answer).1]
      rfl
    have transfer : (network.poll.hear network.server client ⟨message, origin⟩).transfer = network.poll.transfer :=
      hear_transfer notAccepted
    rw [transfer] at spreads
    refine Hears.answered answer active mode ?_ (serves _ _ _ spreads) poll (by rw [poll, transfer]) decisions
    exact fun sender verdict told => (decided sender verdict told).2.2
  | accepted idle accepts mode current spreads =>
    rw [hear_accepted accepts] at poll spreads
    exact Hears.accepted idle accepts mode current (serves _ _ _ spreads) poll decisions
  | relayed mode spreads =>
    rw [hear_transfer rfl] at spreads
    obtain ⟨poll, decisions⟩ := hears_quiet poll decisions rfl (Or.inl rfl)
    exact Hears.relayed mode (serves _ _ _ spreads) poll decisions
  | spent mode spreads =>
    obtain ⟨poll, decisions⟩ := hears_quiet poll decisions rfl (Or.inl rfl)
    exact Hears.passes mode (serves _ _ _ spreads) poll decisions

inductive Moves (target : Target) (network next : Network) : Event → Prop
  | quiet {event : Event} (parties : ∀ peer, next.party peer = network.party peer)
      (sessions : ∀ peer, next.standing peer = network.standing peer)
      (mode : next.server.fileTransferModeActive_ = network.server.fileTransferModeActive_)
      (poll : next.poll = network.poll) (decisions : next.decisions = network.decisions) :
      Moves target network next event
  | joins {client : SessionId} {fileTransferBuffer_ : Field maxMessageSize} {fileName_ : Field maxPathSize}
      {nickName_ sessionNickName_ : Field maxNicknameSize} (fresh : network.party client = none)
      (vacant : network.standing client = none)
      (parties : ∀ peer, next.party peer = if peer = client then
        some ⟨.disabled, false, [], [], some (.fileTransferCanceled, false), .empty⟩ else network.party peer)
      (sessions : ∀ peer, next.standing peer =
        if peer = client then some (.fileTransferCanceled, false) else network.standing peer)
      (mode : next.server.fileTransferModeActive_ = network.server.fileTransferModeActive_)
      (poll : next.poll = network.poll) (decisions : next.decisions = network.decisions) :
      Moves target network next (.connect client fileTransferBuffer_ fileName_ nickName_ sessionNickName_)
  | acts {client : SessionId} {event : ClientEvent} (connection acted : Connection)
      (there : network.connections client = some connection) (alive : connection.aborted = false)
      (acts : connection.Acts target acted event)
      (parties : ∀ peer, next.party peer =
        if peer = client then some (acted.party (network.server.findSession client)) else network.party peer)
      (server : next.server = network.server) (poll : next.poll = network.poll)
      (decisions : next.decisions = network.decisions) : Moves target network next (.client client event)
  | hears {client : SessionId} {memory : Memory} (letter : Letter Nat) (front : network.front client = some letter)
      (known : (network.server.findSession client).isSome = true)
      (hears : Hears target memory network next client letter) : Moves target network next (.message client memory)
  | leaves {client : SessionId} (current : SessionData Nat) (there : network.server.findSession client = some current)
      (connections : next.connections = network.connections)
      (sessions : ∀ peer, next.server.findSession peer =
        if peer = client then none else network.server.findSession peer)
      (mode : next.server.fileTransferModeActive_ =
        (network.server.fileTransferModeActive_ && !current.isFileTransferSender))
      (poll : next.poll = network.poll) (decisions : next.decisions = network.decisions) :
      Moves target network next (.removeSession client)

inductive Steps (target : Target) (network : Network) : Event → Network → Prop
  | connect {client : SessionId} {fileTransferBuffer_ : Field maxMessageSize} {fileName_ : Field maxPathSize}
      {nickName_ sessionNickName_ : Field maxNicknameSize} (unused : network.connections client = none)
      (unknown : network.server.findSession client = none) :
      Steps target network (.connect client fileTransferBuffer_ fileName_ nickName_ sessionNickName_) { network with
        server := network.server.addSession client sessionNickName_
        connections := Function.update network.connections client
          (some ⟨.new fileTransferBuffer_ fileName_ nickName_ 0, [], [], false, false, .empty⟩) }
  | client {client : SessionId} {event : ClientEvent} {connection acted : Connection}
      (there : network.connections client = some connection) (acts : connection.step target event = some acted) :
      Steps target network (.client client event)
        { network with connections := Function.update network.connections client (some acted) }
  | message {client : SessionId} {memory : Memory} {connection : Connection} {letter : Letter Nat}
      {rest : List (Letter Nat)} {next : Network} (there : network.connections client = some connection)
      (waiting : connection.up = letter :: rest)
      (handled : network.server.availableMessage target memory (network.poll.hear network.server client letter).transfer
        client letter.message = .ok next.server)
      (connections : next.connections = Function.update network.connections client (some { connection with up := rest }))
      (poll : next.poll = network.poll.hear network.server client letter)
      (decisions : next.decisions = match network.server.verdict client letter.message with
        | none => network.decisions
        | some _ => network.decisions ++ [⟨next.poll.transfer, next.poll.missing network.server⟩]) :
      Steps target network (.message client memory) next
  | writeData {client : SessionId} {connection : Connection} {data : SessionData Nat}
      (there : network.connections client = some connection) (session : network.server.findSession client = some data) :
      Steps target network (.writeData client) { network with
        server := network.server.modify client fun current => { current with client.outbox := data.client.outbox.writeData.2 }
        connections := Function.update network.connections client
          (some { connection with down := connection.down ++ data.client.outbox.writeData.1.toList }) }
  | removeSession {client : SessionId} {server : Server Nat}
      (removed : network.server.removeSession network.poll.transfer client = .ok server) :
      Steps target network (.removeSession client) { network with server }

theorem steps_of_step {event : Event} (stepped : network.step target event = some next) :
    Steps target network event next := by
  cases event with
  | connect client fileTransferBuffer_ fileName_ nickName_ sessionNickName_ =>
    simp only [step] at stepped
    split at stepped
    · cases stepped
    · rename_i absent
      simp only [Bool.or_eq_true, not_or, Option.not_isSome_iff_eq_none] at absent
      cases stepped
      exact .connect absent.1 absent.2
  | client client event =>
    simp only [step] at stepped
    split at stepped
    · cases stepped
    · rename_i connection there
      obtain ⟨acted, took, rfl⟩ := Option.map_eq_some_iff.mp stepped
      exact .client there took
  | message client memory =>
    simp only [step] at stepped
    split at stepped
    · cases stepped
    · rename_i connection there
      split at stepped
      · cases stepped
      · rename_i letter rest waiting
        unfold handle at stepped
        simp only at stepped
        split at stepped
        · cases stepped
        · rename_i server handled
          cases stepped
          exact .message there waiting handled rfl rfl rfl
  | writeData client =>
    simp only [step] at stepped
    split at stepped
    · rename_i connection data there session
      cases stepped
      exact .writeData there session
    · cases stepped
  | removeSession client =>
    simp only [step] at stepped
    obtain ⟨server, removed, rfl⟩ := Option.map_eq_some_iff.mp stepped
    exact .removeSession (toOption_some removed)

theorem moves_of_step {event : Event} (stepped : network.step target event = some next) :
    Moves target network next event := by
  cases steps_of_step stepped with
  | @connect client _ _ _ _ unused unknown =>
    refine Moves.joins (by rw [party, unused]; rfl) (by rw [standing, unknown]; rfl) ?_ ?_ rfl rfl rfl <;> intro peer
    · by_cases own : peer = client
      · subst own
        simp only [party, Server.addSession_find, Function.update_self, if_true]
        exact congrArg some (party_new _ _ _ _ _)
      · simp only [party, Server.addSession_find, Function.update_of_ne own, if_neg own]
    · rw [standing, Server.addSession_find]
      split <;> rfl
  | @client client event connection acted there acts =>
    exact Moves.acts connection acted there (Connection.alive_of_step acts) (Connection.acts_of_step acts)
      (party_update rfl rfl) rfl rfl rfl
  | message there waiting handled connections poll decisions =>
    have known := Option.isSome_iff_exists.mpr (Server.availableMessage_found handled)
    refine Moves.hears _ ?_ known (hears_of_reaction (Server.availableMessage_reaction handled) ?_ poll decisions)
    · rw [front, there, Option.bind_some, waiting, List.head?_cons]
    · intro sent status sender spreads
      exact serves_of_spreads there waiting connections spreads
  | @writeData client connection data there session =>
    refine Moves.quiet ?_ ?_ rfl rfl rfl <;> intro peer
    · by_cases own : peer = client
      · subst own
        simp only [party, Server.findSession_modify, Function.update_self, if_true, there, session]
        exact congrArg some (party_writeData connection data)
      · simp only [party, Server.findSession_modify, Function.update_of_ne own, if_neg own]
    · rw [standing, Server.findSession_modify]
      split
      · exact Option.map_map ..
      · rfl
  | removeSession removed =>
    obtain ⟨current, there, mode, -, sessions⟩ := Server.removeSession_ok removed
    exact Moves.leaves current there rfl sessions mode rfl rfl

theorem isSome_connections_step {event : Event} (stepped : network.step target event = some next)
    (known : (network.connections peer).isSome = true) : (next.connections peer).isSome = true := by
  have updated : ∀ client (connection : Connection),
      (Function.update network.connections client (some connection) peer).isSome = true := by
    intro client connection
    by_cases own : peer = client
    · rw [own, Function.update_self]
      rfl
    · rwa [Function.update_of_ne own]
  cases steps_of_step stepped with
  | connect => exact updated _ _
  | client => exact updated _ _
  | message _ _ _ connections =>
    rw [connections]
    exact updated _ _
  | writeData => exact updated _ _
  | removeSession => exact known

end Network

end LanMessenger
