import LanMessenger.Server.Effects
import LanMessenger.Transition.Runs

namespace LanMessenger

open CMemory Transition

namespace SessionData

variable {τ : Type}

def relayedQueue (data : SessionData τ) : List (Letter τ) :=
  data.client.outbox.sendingQueue_.filter fun letter => letter.message.isRelayed

theorem relayedQueue_send_own (data : SessionData τ) (letter : Letter τ) (own : letter.message.isRelayed = false) :
    (data.send letter).relayedQueue = data.relayedQueue := by
  simp only [relayedQueue, send, Outbox.send, Outbox.sendMessage]
  split
  · rfl
  · simp [own]

theorem relayedQueue_send_relayed (data : SessionData τ) {letter : Letter τ} (relayed : letter.message.isRelayed = true)
    (room : data.client.outbox.canSendMessages = true) :
    (data.send letter).relayedQueue = data.relayedQueue ++ [letter] := by
  simp only [relayedQueue, send, Outbox.send_of_room room]
  simp [relayed]

theorem relayedQueue_changeState (data : SessionData τ) (origin : τ) (messageType : MessageType) :
    (data.changeState origin messageType).relayedQueue = data.relayedQueue := by
  unfold changeState
  split
  · rfl
  · split
    · have own := relayedQueue_send_own data ⟨.bye, origin⟩ rfl
      simp only [disconnect, Outbox.disconnect]
      split
      · exact own
      · rfl
    · rfl

end SessionData

namespace Server

variable {τ : Type} {server next : Server τ} {target : Target} {client : SessionId} {memory : Memory} {origin : τ}

theorem stable_relayedQueue : Stable (SessionData.relayedQueue (τ := τ)) where
  send := SessionData.relayedQueue_send_own
  setStatus _ _ := rfl
  changeState := SessionData.relayedQueue_changeState

def relayLetter (target : Target) (memory : Memory) (origin : τ) (server : Server τ) (current : SessionData τ)
    (message : Message) (peer : SessionId) (data : SessionData τ) : Option (Letter τ) :=
  if server.sessions_.size = 1 then none
  else
    match message with
    | .chat message => chatLetter memory origin current message peer data
    | .fileRequest message =>
      if server.fileTransferModeActive_ then none else requestLetter origin current message peer data
    | .fileData message => dataLetter target memory origin message peer data
    | _ => none

/-- What one message does to the relayed letters in every queue. -/
theorem message_relays {message : Message}
    (handled : server.availableMessage target memory origin client message = .ok next) :
    ∃ current, server.findSession client = some current ∧
      ∀ peer, (next.findSession peer).map SessionData.relayedQueue = (server.findSession peer).map fun data =>
        if peer = client then data.relayedQueue
        else (data.sendSome (relayLetter target memory origin server current message peer data)).relayedQueue := by
  obtain ⟨current, found⟩ := availableMessage_found handled
  refine ⟨current, found, fun peer => ?_⟩
  -- where no peer is addressed, what is kept is all there is to say
  have unaddressed : Keeps SessionData.relayedQueue server next →
      (∀ peer data, relayLetter target memory origin server current message peer data = none) →
      (next.findSession peer).map SessionData.relayedQueue = (server.findSession peer).map fun data =>
        if peer = client then data.relayedQueue
        else (data.sendSome (relayLetter target memory origin server current message peer data)).relayedQueue := by
    intro keeps none
    simp only [keeps peer, none, SessionData.sendSome, ite_self]
  -- a handler that relays sends each peer what `relayLetter` says
  have addressed : ∀ change, Rewrites server next change →
      (∀ data, (change client data).relayedQueue = data.relayedQueue) →
      (∀ peer data, peer ≠ client →
        change peer data = data.sendSome (relayLetter target memory origin server current message peer data)) →
      (next.findSession peer).map SessionData.relayedQueue = (server.findSession peer).map fun data =>
        if peer = client then data.relayedQueue
        else (data.sendSome (relayLetter target memory origin server current message peer data)).relayedQueue := by
    intro change rewrites own others
    rw [rewrites.find, Option.map_map]
    congr 1
    funext data
    by_cases same : peer = client
    · subst same
      simp only [Function.comp_apply, if_pos, own]
    · simp only [Function.comp_apply, if_neg same, others peer data same]
  cases message with
  | hello =>
    refine unaddressed (stable_relayedQueue.keeps_hello handled) fun _ _ => ?_
    simp only [relayLetter, ite_self]
  | bye =>
    refine unaddressed (stable_relayedQueue.keeps_bye handled) fun _ _ => ?_
    simp only [relayLetter, ite_self]
  | status message =>
    refine unaddressed (stable_relayedQueue.keeps_status handled) fun _ _ => ?_
    simp only [relayLetter, ite_self]
  | nickname message =>
    obtain ⟨accepted, -, -, rewrites⟩ := nickname_ok handled
    refine unaddressed (rewrites.keeps fun peer data => ?_) fun _ _ => by simp only [relayLetter, ite_self]
    split
    · cases accepted
      · exact (SessionData.relayedQueue_send_own _ _ rfl).trans (SessionData.relayedQueue_changeState _ _ _)
      · exact (SessionData.relayedQueue_send_own _ _ rfl).trans (SessionData.relayedQueue_changeState _ origin .nickname)
    · rfl
  | chat message =>
    obtain ⟨sender, there, -, ⟨alone, rfl⟩ | ⟨several, rewrites⟩⟩ := chat_ok handled
    · refine unaddressed (keeps_modify _ _ fun data => SessionData.relayedQueue_send_own data _ rfl) fun _ _ => ?_
      simp only [relayLetter, if_pos alone]
    · rw [found] at there
      cases there
      refine addressed _ rewrites (fun data => by rw [if_pos rfl]) fun peer data other => ?_
      simp only [relayLetter, if_neg several, if_neg other]
  | fileRequest message =>
    obtain ⟨sender, there, ⟨active, rfl⟩ | ⟨-, alone, rfl⟩ | ⟨inactive, several, -, rewrites⟩⟩ := fileRequest_ok handled
    · refine unaddressed (keeps_modify _ _ fun data => SessionData.relayedQueue_send_own data _ rfl) fun _ _ => ?_
      simp only [relayLetter, active, if_true, ite_self]
    · refine unaddressed (keeps_modify _ _ fun data => SessionData.relayedQueue_send_own data _ rfl) fun _ _ => ?_
      simp only [relayLetter, if_pos alone]
    · rw [found] at there
      cases there
      refine addressed _ rewrites (fun data => by rw [if_pos rfl]; rfl) fun peer data other => ?_
      simp only [relayLetter, if_neg several, if_neg other, inactive, Bool.false_eq_true, if_false]
  | fileData message =>
    obtain ⟨-, -, ⟨alone, -, rewrites⟩ | ⟨several, -, rewrites⟩⟩ := fileData_ok handled
    · refine unaddressed (rewrites.keeps fun peer data => ?_) fun _ _ => by simp only [relayLetter, if_pos alone]
      repeat' split
      all_goals rfl
    · refine addressed _ rewrites (fun data => ?_) fun peer data other => ?_
      · rw [if_pos rfl]
        split <;> rfl
      · simp only [relayLetter, if_neg several, if_neg other]

theorem relayLetter_some {message : Message} {current data : SessionData τ} {peer : SessionId} {letter : Letter τ}
    (relayed : relayLetter target memory origin server current message peer data = some letter) :
    letter.origin = origin ∧ letter.message.isRelayed = true := by
  unfold relayLetter at relayed
  split at relayed
  · cases relayed
  · cases message with
    | chat message =>
      cases relayed
      exact ⟨rfl, rfl⟩
    | fileRequest message =>
      dsimp only at relayed
      split at relayed
      · cases relayed
      · cases relayed
        exact ⟨rfl, rfl⟩
    | fileData message =>
      rw [dataLetter_some relayed]
      exact ⟨rfl, rfl⟩
    | _ => cases relayed

end Server

/-- A server, the number of messages it has received, and for each session the relayed letters
    `sendMessage` was called with and those `writeData` has handed to `send`. -/
structure Relay where
  server : Server Nat
  received : Nat
  addressed : SessionId → List (Letter Nat)
  transmitted : SessionId → List (Letter Nat)

namespace Relay

open Server

def start : Relay := ⟨.new, 0, fun _ => [], fun _ => []⟩

/-- The letter a message from the client is relayed to the peer in. It bears the message's number. -/
def addressedTo (target : Target) (relay : Relay) (client : SessionId) (memory : Memory) (message : Message)
    (peer : SessionId) : Option (Letter Nat) :=
  if peer = client then none
  else
    match relay.server.findSession client, relay.server.findSession peer with
    | some current, some data => relayLetter target memory relay.received relay.server current message peer data
    | _, _ => none

def nextLetter (relay : Relay) (client : SessionId) : Option (Letter Nat) :=
  (relay.server.findSession client).bind fun data => data.client.outbox.writeData.1

def step (target : Target) (relay : Relay) : Event Unit → Option Relay
  | .addSession client nickName_ =>
    (relay.server.step target (.addSession client nickName_)).map fun server => { relay with
      server
      addressed := Function.update relay.addressed client []
      transmitted := Function.update relay.transmitted client [] }
  | .removeSession client _ =>
    (relay.server.step target (.removeSession client relay.received)).map fun server => { relay with server }
  | .message client memory _ message =>
    (relay.server.step target (.message client memory relay.received message)).map fun server => { relay with
      server
      received := relay.received + 1
      addressed := fun peer => relay.addressed peer ++ (relay.addressedTo target client memory message peer).toList }
  | .writeData client =>
    (relay.server.step target (.writeData client)).map fun server => { relay with
      server
      transmitted := Function.update relay.transmitted client (relay.transmitted client ++
        ((relay.nextLetter client).filter fun letter => letter.message.isRelayed).toList) }

/-- Every peer that a message is relayed to has room in its queue. -/
def RoomForRelays (target : Target) (relay : Relay) : Event Unit → Prop
  | .message client memory _ message => ∀ peer data, relay.server.findSession peer = some data →
      (relay.addressedTo target client memory message peer).isSome = true →
        data.client.outbox.canSendMessages = true
  | _ => True

instance (target : Target) (relay : Relay) (event : Event Unit) : Decidable (relay.RoomForRelays target event) :=
  match event with
  | .message _ _ _ _ =>
    inferInstanceAs (Decidable (∀ peer data, relay.server.findSession peer = some data → (_ = true → _ = true)))
  | .addSession _ _ | .removeSession _ _ | .writeData _ => instDecidableTrue

/-- What was relayed to a session that is connected has been transmitted or is in its queue, in the
    order of the messages. -/
structure Accounted (relay : Relay) : Prop where
  queued : ∀ peer data, relay.server.findSession peer = some data →
    relay.transmitted peer ++ data.relayedQueue = relay.addressed peer
  ordered : ∀ peer, (relay.addressed peer).Pairwise fun first second => first.origin < second.origin
  numbered : ∀ peer, ∀ letter ∈ relay.addressed peer, letter.origin < relay.received

theorem accounted_start : start.Accounted where
  queued peer data there := by simp [start] at there
  ordered _ := .nil
  numbered peer letter member := by simp [start] at member

variable {target : Target} {relay next : Relay} {client : SessionId} {memory : Memory} {message : Message}

theorem addressedTo_some {peer : SessionId} {letter : Letter Nat}
    (addressed : relay.addressedTo target client memory message peer = some letter) :
    letter.origin = relay.received ∧ letter.message.isRelayed = true := by
  unfold addressedTo at addressed
  split at addressed
  · cases addressed
  · split at addressed
    · exact relayLetter_some addressed
    · cases addressed

theorem Accounted.handled (accounted : relay.Accounted)
    (room : relay.RoomForRelays target (.message client memory () message))
    (stepped : relay.step target (.message client memory () message) = some next) : next.Accounted := by
  obtain ⟨server, handled, rfl⟩ := Option.map_eq_some_iff.mp stepped
  obtain ⟨current, found, relays⟩ := message_relays (toOption_some handled)
  refine ⟨fun peer data there => ?_, fun peer => ?_, fun peer letter member => ?_⟩
  · have queue := relays peer
    change server.findSession peer = some data at there
    rw [there, Option.map_some, eq_comm, Option.map_eq_some_iff] at queue
    obtain ⟨before, thereBefore, queue⟩ := queue
    rw [← queue]
    dsimp only
    rw [← accounted.queued peer before thereBefore, List.append_assoc]
    congr 1
    have sent := room peer before thereBefore
    by_cases own : peer = client
    · simp [addressedTo, own]
    · have letter : relay.addressedTo target client memory message peer =
          relayLetter target memory relay.received relay.server current message peer before := by
        simp only [addressedTo, if_neg own, found, thereBefore]
      rw [if_neg own, letter]
      rw [letter] at sent
      cases relayed : relayLetter target memory relay.received relay.server current message peer before with
      | none => simp [SessionData.sendSome]
      | some letter =>
        rw [relayed] at sent
        exact SessionData.relayedQueue_send_relayed before (relayLetter_some relayed).2 (sent rfl)
  · cases addressed : relay.addressedTo target client memory message peer with
    | none => simpa [addressed] using accounted.ordered peer
    | some letter =>
      simp only [addressed, Option.toList_some, List.pairwise_append]
      refine ⟨accounted.ordered peer, by simp, ?_⟩
      intro earlier member last memberLast
      rw [List.mem_singleton.mp memberLast, (addressedTo_some addressed).1]
      exact accounted.numbered peer earlier member
  · rcases List.mem_append.mp member with before | now
    · exact Nat.lt_succ_of_lt (accounted.numbered peer letter before)
    · rw [Option.mem_toList] at now
      exact (addressedTo_some now).1 ▸ Nat.lt_succ_self _

theorem Accounted.writeData (accounted : relay.Accounted) (stepped : relay.step target (.writeData client) = some next) :
    next.Accounted := by
  obtain ⟨server, written, rfl⟩ := Option.map_eq_some_iff.mp stepped
  refine ⟨fun peer data there => ?_, accounted.ordered, accounted.numbered⟩
  cases steps_of_step written with
  | writeData =>
    simp only [findSession_modify] at there
    by_cases own : peer = client
    · subst own
      rw [if_pos rfl, Option.map_eq_some_iff] at there
      obtain ⟨before, thereBefore, rfl⟩ := there
      rw [← accounted.queued peer before thereBefore]
      simp only [Function.update_self, nextLetter, thereBefore, Option.bind_some, SessionData.relayedQueue]
      obtain ⟨⟨⟨queue, flag⟩, status, name⟩, state, sender⟩ := before
      cases queue with
      | nil => simp [Outbox.writeData]
      | cons letter rest =>
        cases relayed : letter.message.isRelayed <;> simp [Outbox.writeData, relayed, Option.filter]
    · rw [if_neg own] at there
      simp only [Function.update_of_ne own]
      exact accounted.queued peer data there

theorem Accounted.addSession (accounted : relay.Accounted) {nickName_ : Field maxNicknameSize}
    (stepped : relay.step target (.addSession client nickName_) = some next) : next.Accounted := by
  obtain ⟨server, added, rfl⟩ := Option.map_eq_some_iff.mp stepped
  cases steps_of_step added with
  | addSession =>
    refine ⟨fun peer data there => ?_, fun peer => ?_, fun peer letter member => ?_⟩
    · simp only [addSession_find] at there
      by_cases own : peer = client
      · subst own
        rw [if_pos rfl] at there
        cases there
        simp only [Function.update_self]
        rfl
      · rw [if_neg own] at there
        simp only [Function.update_of_ne own]
        exact accounted.queued peer data there
    · by_cases own : peer = client
      · subst own
        simp only [Function.update_self, List.Pairwise.nil]
      · simp only [Function.update_of_ne own]
        exact accounted.ordered peer
    · by_cases own : peer = client
      · subst own
        simp [Function.update_self] at member
      · simp only [Function.update_of_ne own] at member
        exact accounted.numbered peer letter member

theorem Accounted.step (accounted : relay.Accounted) {event : Event Unit} (room : relay.RoomForRelays target event)
    (stepped : relay.step target event = some next) : next.Accounted := by
  cases event with
  | addSession client nickName_ => exact accounted.addSession stepped
  | message client memory origin message => exact accounted.handled room stepped
  | writeData client => exact accounted.writeData stepped
  | removeSession client origin =>
    obtain ⟨server, removed, rfl⟩ := Option.map_eq_some_iff.mp stepped
    refine ⟨fun peer data there => ?_, accounted.ordered, accounted.numbered⟩
    exact accounted.queued peer data (find_removeSession (toOption_some removed) there)

theorem drained (target : Target) {peer : SessionId} {data : SessionData Nat}
    (there : relay.server.findSession peer = some data) :
    ∃ last, Run (Relay.step target) (RoomForRelays target) relay
        (List.replicate data.client.outbox.sendingQueue_.length (.writeData peer)) last ∧
      last.transmitted peer = relay.transmitted peer ++ data.relayedQueue := by
  obtain ⟨⟨⟨queue, flag⟩, status, name⟩, state, sender⟩ := data
  induction queue generalizing relay with
  | nil => exact ⟨relay, .nil, by simp [SessionData.relayedQueue]⟩
  | cons letter rest ih =>
    have connected : (relay.server.findSession peer).isSome = true := by rw [there]; rfl
    have written : ∃ middle, relay.step target (.writeData peer) = some middle ∧
        middle.server.findSession peer = some ⟨⟨⟨rest, flag⟩, status, name⟩, state, sender⟩ ∧
        middle.transmitted peer =
          relay.transmitted peer ++ ((some letter).filter fun letter => letter.message.isRelayed).toList := by
      refine ⟨_, by rw [Relay.step, Server.step, if_pos connected]; rfl, ?_, ?_⟩
      · simp only [findSession_modify, if_true, there, Option.map_some]
        rfl
      · simp only [Function.update_self, nextLetter, there, Option.bind_some, Outbox.writeData]
    obtain ⟨middle, stepped, thereNext, transmitted⟩ := written
    obtain ⟨last, run, all⟩ := ih thereNext
    have first : Run (Relay.step target) (RoomForRelays target) relay [.writeData peer] middle :=
      .snoc .nil trivial stepped
    refine ⟨last, first.trans run, ?_⟩
    rw [all, transmitted, List.append_assoc]
    cases relayed : letter.message.isRelayed <;> simp [SessionData.relayedQueue, relayed, Option.filter]

/-- While every peer addressed has room, nothing relayed to a session that is connected is lost,
    doubled or overtaken, and its `writeData` calls bring all of it out. -/
theorem relays {events : List (Event Unit)} (run : Run (Relay.step target) (RoomForRelays target) start events relay)
    {peer : SessionId} {data : SessionData Nat} (there : relay.server.findSession peer = some data) :
    relay.transmitted peer ++ data.relayedQueue = relay.addressed peer ∧
      ((relay.addressed peer).Pairwise fun first second => first.origin < second.origin) ∧
      ∃ last, Run (Relay.step target) (RoomForRelays target) relay
          (List.replicate data.client.outbox.sendingQueue_.length (.writeData peer)) last ∧
        last.transmitted peer = relay.addressed peer := by
  have accounted : relay.Accounted := run.invariant Accounted accounted_start
    fun _ _ _ accounted room stepped => accounted.step room stepped
  obtain ⟨last, drain, all⟩ := drained target there
  exact ⟨accounted.queued peer data there, accounted.ordered peer, last, drain, by rw [all, accounted.queued peer data there]⟩

def hello : Message := .chat (ChatMessage.ofMessage Heap.zeroed.chat (ascii ['h', 'e', 'l', 'l', 'o']))

/-- Session 2 is greeted; then it is sent two messages by session 1 and one by session 3, and writes in between. -/
def talk : List (Event Unit) := [.addSession 1 (Field.zero _), .addSession 2 (Field.zero _), .message 2 Memory.zeroed () .hello,
  .addSession 3 (Field.zero _), .message 1 Memory.zeroed () hello, .writeData 2, .message 3 Memory.zeroed () hello,
  .writeData 2, .message 1 Memory.zeroed () hello]

theorem relays_talk :
    ∃ relay data, exec (Relay.step .m64) start talk = some relay ∧ relay.server.findSession 2 = some data ∧
      (relay.addressed 2).length = 3 ∧ (relay.transmitted 2).length = 1 ∧
      relay.transmitted 2 ++ data.relayedQueue = relay.addressed 2 ∧
      ((relay.addressed 2).Pairwise fun first second => first.origin < second.origin) ∧
      ∃ last, Run (Relay.step .m64) (RoomForRelays .m64) relay
          (List.replicate data.client.outbox.sendingQueue_.length (.writeData 2)) last ∧
        last.transmitted 2 = relay.addressed 2 := by
  have outcome : ((execMeets (Relay.step .m64) (fun relay event => decide (relay.RoomForRelays .m64 event)) start
      talk).bind fun relay => (relay.server.findSession 2).map fun _ =>
        ((relay.addressed 2).length, (relay.transmitted 2).length)) = some (3, 1) := by
    decide +kernel
  obtain ⟨relay, executed, counted⟩ := Option.bind_eq_some_iff.mp outcome
  obtain ⟨data, there, lengths⟩ := Option.map_eq_some_iff.mp counted
  rw [Prod.mk.injEq] at lengths
  exact ⟨relay, data, exec_of_execMeets executed, there, lengths.1, lengths.2, relays (run_of_execDecide executed) there⟩

/-- Forty-two messages to a session whose thread does not get to write. -/
theorem relays_slowReader :
    ∃ relay data, exec (Relay.step .m64) start ([.addSession 1 (Field.zero _), .addSession 2 (Field.zero _)] ++
        List.replicate 42 (.message 1 Memory.zeroed () hello)) = some relay ∧
      relay.server.findSession 2 = some data ∧
      (relay.addressed 2).length = 42 ∧ (relay.transmitted 2 ++ data.relayedQueue).length = 41 := by
  have outcome : ((exec (Relay.step .m64) start ([.addSession 1 (Field.zero _), .addSession 2 (Field.zero _)] ++
      List.replicate 42 (.message 1 Memory.zeroed () hello))).bind fun relay =>
        (relay.server.findSession 2).map fun data =>
          ((relay.addressed 2).length, (relay.transmitted 2 ++ data.relayedQueue).length)) = some (42, 41) := by
    decide +kernel
  obtain ⟨relay, executed, counted⟩ := Option.bind_eq_some_iff.mp outcome
  obtain ⟨data, there, lengths⟩ := Option.map_eq_some_iff.mp counted
  rw [Prod.mk.injEq] at lengths
  exact ⟨relay, data, executed, there, lengths.1, lengths.2⟩

end Relay

end LanMessenger
