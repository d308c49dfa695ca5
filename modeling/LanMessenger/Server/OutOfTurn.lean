import LanMessenger.Server.NickNames

namespace LanMessenger

open CMemory Transition

variable {τ : Type}

namespace Outbox

theorem disconnect_eq_iff (outbox : Outbox τ) (origin : τ) :
    outbox.disconnect origin = ⟨outbox.sendingQueue_ ++ [⟨.bye, origin⟩], true⟩ ↔
      outbox.isConnected = true ∧ outbox.sendingQueue_.length ≤ maxNetworkMessageQueue := by
  rcases outbox with ⟨sendingQueue_, disconnectionFlag_⟩
  cases disconnectionFlag_ with
  | true => simp [disconnect, isConnected]
  | false =>
    by_cases full : sendingQueue_.length > maxNetworkMessageQueue
    · simp only [disconnect, isConnected, send, sendMessage, if_pos full]
      simpa using full
    · simp only [disconnect, isConnected, send, sendMessage, if_neg full]
      simpa using full

/-- A letter sent behind the `BYE` is dropped where the `BYE` has taken the last place. -/
theorem send_disconnect_eq_iff (outbox : Outbox τ) (origin : τ) {letter : Letter τ} (reply : letter.message ≠ .bye) :
    (outbox.disconnect origin).send letter = ⟨outbox.sendingQueue_ ++ [⟨.bye, origin⟩], true⟩ ↔
      outbox.isConnected = true ∧ outbox.sendingQueue_.length = maxNetworkMessageQueue := by
  have differs : letter ≠ ⟨.bye, origin⟩ := by
    rintro rfl
    exact reply rfl
  by_cases told : outbox.disconnect origin = ⟨outbox.sendingQueue_ ++ [⟨.bye, origin⟩], true⟩
  · obtain ⟨connected, room⟩ := (disconnect_eq_iff outbox origin).mp told
    rw [told]
    by_cases last : outbox.sendingQueue_.length = maxNetworkMessageQueue
    · simp [send, sendMessage, connected, last]
    · have behind : ¬ outbox.sendingQueue_.length + 1 > maxNetworkMessageQueue := by omega
      simp [send, sendMessage, last, behind]
  · refine iff_of_false (fun same => ?_) fun room =>
      told ((disconnect_eq_iff outbox origin).mpr ⟨room.1, room.2.le⟩)
    -- the last letter of the queue is the `BYE`, and so none was sent behind it
    unfold send sendMessage at same
    split at same
    · exact told same
    · have lasts := congrArg List.getLast? (congrArg sendingQueue_ same)
      simp only [List.getLast?_concat, Option.some.injEq] at lasts
      exact differs lasts

end Outbox

theorem SessionClient.bytes_setNickName (client : SessionClient τ) (newNickName : List Byte) :
    (client.setNickName newNickName).nickName_.bytes = strncpy newNickName (maxNicknameSize - 1) ++ [0#8] := by
  have zeroed : (client.nickName_.overwrite (List.replicate maxNicknameSize 0#8)).bytes =
      List.replicate maxNicknameSize 0#8 := Field.overwrite_whole _ (by simp)
  rw [setNickName, Field.overwrite_bytes _ (by simp), zeroed, strncpy_length]
  rfl

namespace SessionData

/-- `checkSessionStateChange` finds that the message may not come in the state the session is in. -/
def Forbids (data : SessionData τ) (messageType : MessageType) : Prop :=
  ∃ change, Server.stateChange messageType = some change ∧ data.state ∉ change.1

theorem changeState_of_forbids {data : SessionData τ} {messageType : MessageType} (forbids : data.Forbids messageType)
    (origin : τ) : data.changeState origin messageType = data.disconnect origin := by
  rcases forbids with ⟨⟨expectedStates, nextState⟩, changes, unexpected⟩
  simp only [changeState, changes]
  exact if_pos unexpected

/-- The disconnection flag is set and one `BYE` is queued. -/
def dismissed (data : SessionData τ) (origin : τ) : SessionData τ :=
  { data with client.outbox := ⟨data.client.outbox.sendingQueue_ ++ [⟨.bye, origin⟩], true⟩ }

end SessionData

namespace Server

variable {server next : Server τ} {target : Target} {client : SessionId} {memory : Memory} {origin : τ}
  {current : SessionData τ}

/-- The flag of the session is set and one `BYE` is queued for it; nothing else changes in it, in the others or in the
    server's own fields. -/
structure OnlyDisconnects (origin : τ) (client : SessionId) (server next : Server τ) : Prop where
  mode : next.fileTransferModeActive_ = server.fileTransferModeActive_
  counter : next.connectionsCounter_ = server.connectionsCounter_
  others : ∀ peer, peer ≠ client → next.findSession peer = server.findSession peer
  own : next.findSession client = (server.findSession client).map (·.dismissed origin)

/-- The session has not been told to disconnect before, and there is a place for its `BYE`. There is none behind it for
    the reply to a `HELLO` or to a `NICKNAME`; and the name fits its buffer, and is refused or is the one the session has
    already, padded with NULs. -/
def Mute (memory : Memory) (server : Server τ) (client : SessionId) (current : SessionData τ) (message : Message) : Prop :=
  current.client.outbox.isConnected = true ∧
    match message with
    | .hello => current.client.outbox.sendingQueue_.length = maxNetworkMessageQueue
    | .nickname name =>
      let requested := name.nickName memory.beyond
      current.client.outbox.sendingQueue_.length = maxNetworkMessageQueue ∧ requested.length < maxNicknameSize ∧
        (server.Refuses memory client requested ∨
          current.client.nickName_.bytes = strncpy requested (maxNicknameSize - 1) ++ [0#8])
    | _ => current.client.outbox.sendingQueue_.length ≤ maxNetworkMessageQueue

theorem checkSessionStateChange_forbids {messageType : MessageType} (found : server.findSession client = some current)
    (forbids : current.Forbids messageType) :
    server.checkSessionStateChange origin client messageType =
      .ok (server.modify client fun data => data.disconnect origin) := by
  rcases forbids with ⟨⟨expectedStates, nextState⟩, changes, unexpected⟩
  simp only [checkSessionStateChange, found, changes]
  exact if_pos unexpected

theorem onlyDisconnects_iff (origin : τ) {change : SessionData τ → SessionData τ}
    (found : server.findSession client = some current)
    (mode : next.fileTransferModeActive_ = server.fileTransferModeActive_)
    (rewrites : Rewrites server next fun peer data => if peer = client then change data else data) :
    OnlyDisconnects origin client server next ↔ change current = current.dismissed origin := by
  have own := rewrites.find client
  rw [found, Option.map_some, if_pos rfl] at own
  constructor
  · intro only
    have dismissed := only.own
    rw [own, found, Option.map_some] at dismissed
    exact Option.some.inj dismissed
  · intro same
    refine ⟨mode, rewrites.counter, fun peer other => ?_, ?_⟩
    · rw [rewrites.find]
      simp only [if_neg other, Option.map_id']
    · rw [own, found, same, Option.map_some]

theorem send_disconnect_eq_dismissed_iff (current : SessionData τ) (origin : τ) {letter : Letter τ}
    (reply : letter.message ≠ .bye) :
    (current.disconnect origin).send letter = current.dismissed origin ↔
      current.client.outbox.isConnected = true ∧ current.client.outbox.sendingQueue_.length = maxNetworkMessageQueue := by
  rw [← Outbox.send_disconnect_eq_iff current.client.outbox origin reply]
  constructor
  · intro same
    exact congrArg (fun data : SessionData τ => data.client.outbox) same
  · intro same
    rw [SessionData.dismissed, ← same]
    rfl

theorem clientChangedNickName_short (memory : Memory) {name : NicknameMessage}
    (found : server.findSession client = some current)
    (short : (name.nickName memory.beyond).length < maxNicknameSize) :
    ∃ accepted, server.clientChangedNickName memory client name = .ok accepted := by
  simp only [clientChangedNickName, found, if_neg (not_le.mpr short)]
  exact ⟨_, rfl⟩

theorem clientChangedNickName_long {name : NicknameMessage} (found : server.findSession client = some current)
    (long : maxNicknameSize ≤ (name.nickName memory.beyond).length) :
    server.clientChangedNickName memory client name = .error (.undefined .outOfBounds) := by
  simp only [clientChangedNickName, found, if_pos long]

theorem availableMessage_of_forbids (target : Target) (memory : Memory) (origin : τ) (message : Message)
    (found : server.findSession client = some current) (forbids : current.Forbids message.type)
    (short : ∀ name, message = .nickname name → (name.nickName memory.beyond).length < maxNicknameSize) :
    ∃ next, server.availableMessage target memory origin client message = .ok next := by
  have checked : server.checkSessionStateChange origin client message.type =
      .ok (server.modify client fun data => data.disconnect origin) := checkSessionStateChange_forbids found forbids
  cases message with
  | hello | bye =>
    simp only [availableMessage, checked, bind, Except.bind]
    exact ⟨_, rfl⟩
  | nickname name =>
    have there : (server.modify client fun data => data.disconnect origin).findSession client =
        some (current.disconnect origin) := by
      rw [findSession_modify, if_pos rfl, found, Option.map_some]
    obtain ⟨accepted, named⟩ := clientChangedNickName_short memory there (short name rfl)
    simp only [availableMessage, checked, bind, Except.bind, named]
    cases accepted <;> exact ⟨_, rfl⟩
  | status | chat | fileRequest | fileData =>
    obtain ⟨change, changes, -⟩ := forbids
    cases changes

theorem hello_outOfTurn (found : server.findSession client = some current) (forbids : current.Forbids .hello) :
    (∃ next, server.availableMessage target memory origin client .hello = .ok next ∧
        OnlyDisconnects origin client server next) ↔ server.Mute memory client current .hello := by
  obtain ⟨next, handled⟩ := availableMessage_of_forbids target memory origin .hello found forbids (by simp)
  rcases hello_ok handled with ⟨mode, rewrites⟩
  simp only [handled, Except.ok.injEq, exists_eq_left', onlyDisconnects_iff origin found mode rewrites,
    SessionData.changeState_of_forbids forbids]
  exact send_disconnect_eq_dismissed_iff current origin (by simp)

theorem bye_outOfTurn (found : server.findSession client = some current) (forbids : current.Forbids .bye) :
    (∃ next, server.availableMessage target memory origin client .bye = .ok next ∧
        OnlyDisconnects origin client server next) ↔ server.Mute memory client current .bye := by
  obtain ⟨next, handled⟩ := availableMessage_of_forbids target memory origin .bye found forbids (by simp)
  rcases bye_ok handled with ⟨mode, rewrites⟩
  simp only [handled, Except.ok.injEq, exists_eq_left', onlyDisconnects_iff origin found mode rewrites,
    SessionData.changeState_of_forbids forbids]
  refine Iff.trans ⟨fun same => ?_, fun same => ?_⟩ (Outbox.disconnect_eq_iff current.client.outbox origin)
  · exact congrArg (fun data : SessionData τ => data.client.outbox) same
  · rw [SessionData.disconnect, same, SessionData.dismissed]

theorem renamed_of_forbids {name : NicknameMessage} (forbids : current.Forbids .nickname) (accepted : Bool) :
    renamed memory origin name accepted current = current.dismissed origin ↔
      (current.client.outbox.isConnected = true ∧ current.client.outbox.sendingQueue_.length = maxNetworkMessageQueue) ∧
        (accepted = true →
          current.client.nickName_.bytes = strncpy (name.nickName memory.beyond) (maxNicknameSize - 1) ++ [0#8]) := by
  unfold renamed
  rw [SessionData.changeState_of_forbids forbids]
  cases accepted with
  | false =>
    simp only [Bool.false_eq_true, if_false, false_implies, and_true]
    exact send_disconnect_eq_dismissed_iff current origin (by simp)
  | true =>
    simp only [if_true, true_implies]
    rw [← SessionClient.bytes_setNickName current.client]
    constructor
    · intro same
      refine ⟨(Outbox.send_disconnect_eq_iff current.client.outbox origin (by simp)).mp
        (congrArg (fun data : SessionData τ => data.client.outbox) same), ?_⟩
      exact congrArg (fun data : SessionData τ => data.client.nickName_.bytes) same.symm
    · rintro ⟨room, bytes⟩
      have unnamed : (current.disconnect origin).client.setNickName (name.nickName memory.beyond) =
          (current.disconnect origin).client := by
        have name : current.client.nickName_ = (current.client.setNickName (name.nickName memory.beyond)).nickName_ :=
          Field.ext bytes
        unfold SessionClient.setNickName at name ⊢
        rw [SessionClient.mk.injEq]
        exact ⟨rfl, rfl, name.symm⟩
      rw [unnamed]
      exact (send_disconnect_eq_dismissed_iff current origin (by simp)).mpr room

theorem nickname_outOfTurn {name : NicknameMessage} (found : server.findSession client = some current)
    (forbids : current.Forbids .nickname) :
    (∃ next, server.availableMessage target memory origin client (.nickname name) = .ok next ∧
        OnlyDisconnects origin client server next) ↔ server.Mute memory client current (.nickname name) := by
  by_cases long : maxNicknameSize ≤ (name.nickName memory.beyond).length
  · refine iff_of_false ?_ fun mute => absurd mute.2.2.1 (not_lt.mpr long)
    rintro ⟨next, handled, -⟩
    have there : (server.modify client fun data => data.disconnect origin).findSession client =
        some (current.disconnect origin) := by
      rw [findSession_modify, if_pos rfl, found, Option.map_some]
    simp only [availableMessage, Message.type, checkSessionStateChange_forbids found forbids, bind, Except.bind,
      clientChangedNickName_long there long] at handled
    cases handled
  · have short := not_le.mp long
    have fits : ∀ other, Message.nickname name = .nickname other →
        (other.nickName memory.beyond).length < maxNicknameSize := by
      intro other same
      cases same
      exact short
    obtain ⟨next, handled⟩ := availableMessage_of_forbids target memory origin (.nickname name) found forbids fits
    rcases nickname_ok handled with ⟨accepted, free, mode, rewrites⟩
    have refused : accepted = true ↔ ¬ server.Refuses memory client (name.nickName memory.beyond) := by
      rw [refuses_iff, not_not]
      exact free
    simp only [handled, Except.ok.injEq, exists_eq_left', onlyDisconnects_iff origin found mode rewrites,
      renamed_of_forbids forbids, refused, Mute, and_assoc, short, true_and, ← Classical.or_iff_not_imp_left]

/-- A message that is refused has no effect but the disconnection. -/
def Heeds (target : Target) (server : Server τ) : Event τ → Prop
  | .message client memory origin message => ∀ current, server.findSession client = some current →
    current.Forbids message.type → ∃ next, server.availableMessage target memory origin client message = .ok next ∧
      OnlyDisconnects origin client server next
  | _ => True

def Muted (server : Server τ) : Event τ → Prop
  | .message client memory _ message => ∀ current, server.findSession client = some current →
    current.Forbids message.type → server.Mute memory client current message
  | _ => True

theorem heeds_iff_muted (target : Target) (server : Server τ) (event : Event τ) :
    server.Heeds target event ↔ server.Muted event := by
  cases event with
  | message client memory origin message =>
    refine forall_congr' fun current => forall_congr' fun found => forall_congr' fun forbids => ?_
    have changes : stateChange message.type ≠ none := by
      rcases forbids with ⟨change, changes, -⟩
      rw [changes]
      exact Option.some_ne_none change
    cases message with
    | hello => exact hello_outOfTurn found forbids
    | nickname name => exact nickname_outOfTurn found forbids
    | bye => exact bye_outOfTurn found forbids
    | status | chat | fileRequest | fileData => exact absurd rfl changes
  | addSession | removeSession | writeData => exact Iff.rfl

/-- The refused messages without other effects, one by one and over whole runs. -/
theorem refusedMessages (target : Target) :
    (∀ (server : Server τ) (event : Event τ), server.Heeds target event ↔ server.Muted event) ∧
      ∀ (events : List (Event τ)) (server : Server τ), Run (step target) (Heeds target) new events server ↔
        Run (step target) Muted new events server :=
  ⟨heeds_iff_muted target, fun _ _ => Run.congr fun server event _ _ => heeds_iff_muted target server event⟩

/-- A `NICKNAME` before any `HELLO`: the session gets its new name all the same. -/
theorem refusedMessages_early :
    ∃ server : Server Unit, ∃ current, exec (step .m64) new [.addSession 1 (Field.zero _)] = some server ∧
      server.findSession 1 = some current ∧ current.Forbids .nickname ∧
      ¬ server.Heeds .m64 (.message 1 Memory.zeroed () (.nickname (.ofNickName (ascii ['B', 'o', 'b'])))) := by
  have outcome : (exec (step .m64) (new : Server Unit) [.addSession 1 (Field.zero _)]).map (fun server =>
      (server.findSession 1).map fun data => (data.state, data.client.outbox.sendingQueue_.length)) =
        some (some (.start, 0)) := by
    decide +kernel
  rcases Option.map_eq_some_iff.mp outcome with ⟨server, ran, facts⟩
  rcases Option.map_eq_some_iff.mp facts with ⟨current, found, facts⟩
  rw [Prod.mk.injEq] at facts
  have forbids : current.Forbids .nickname := ⟨_, rfl, by rw [facts.1]; decide⟩
  refine ⟨server, current, ran, found, forbids, fun heeds => ?_⟩
  have mute := (nickname_outOfTurn found forbids).mp (heeds current found forbids)
  have full : current.client.outbox.sendingQueue_.length = maxNetworkMessageQueue := mute.2.1
  rw [facts.2] at full
  cases full

end Server

end LanMessenger
