import LanMessenger.Server.Server

namespace LanMessenger

open CMemory

theorem bind_ok {ε α β : Type} {first : Except ε α} {next : α → Except ε β} {result : β}
    (done : first >>= next = .ok result) : ∃ value, first = .ok value ∧ next value = .ok result := by
  cases first with
  | error fault => cases done
  | ok value => exact ⟨value, rfl, done⟩

theorem toOption_some {ε α : Type} {result : Except ε α} {value : α} (some : result.toOption = some value) :
    result = .ok value := by
  cases result with
  | error fault => cases some
  | ok value => cases some; rfl

def Message.isRelayed : Message → Bool
  | chat _ | fileRequest _ | fileData _ => true
  | _ => false

variable {τ : Type}

namespace SessionData

/-- What `checkSessionStateChange` makes of the session that sent the message. -/
def changeState (data : SessionData τ) (origin : τ) (messageType : MessageType) : SessionData τ :=
  match Server.stateChange messageType with
  | none => data
  | some (expectedStates, nextState) =>
    if data.state ∉ expectedStates then data.disconnect origin else { data with state := nextState }

variable (data : SessionData τ) (origin : τ) (messageType : MessageType) (letter : Letter τ)

@[simp] theorem nickName_changeState : (data.changeState origin messageType).client.nickName_ = data.client.nickName_ := by
  unfold changeState
  split
  · rfl
  · split <;> rfl

@[simp] theorem status_changeState :
    (data.changeState origin messageType).client.fileTransferStatus_ = data.client.fileTransferStatus_ := by
  unfold changeState
  split
  · rfl
  · split <;> rfl

@[simp] theorem isFileTransferSender_changeState :
    (data.changeState origin messageType).isFileTransferSender = data.isFileTransferSender := by
  unfold changeState
  split
  · rfl
  · split <;> rfl

end SessionData

namespace Server

variable {server middle next : Server τ} {client : SessionId} {origin : τ}

/-- Every session of `next` is the one of `server` at the same address, changed on its own. -/
structure Rewrites (server next : Server τ) (change : SessionId → SessionData τ → SessionData τ) : Prop where
  find : ∀ peer, next.findSession peer = (server.findSession peer).map (change peer)
  counter : next.connectionsCounter_ = server.connectionsCounter_

theorem Rewrites.refl (server : Server τ) : Rewrites server server fun _ data => data :=
  ⟨fun peer => by simp, rfl⟩

theorem Rewrites.trans {first second : SessionId → SessionData τ → SessionData τ}
    (before : Rewrites server middle first) (after : Rewrites middle next second) :
    Rewrites server next fun peer data => second peer (first peer data) := by
  refine ⟨fun peer => ?_, after.counter.trans before.counter⟩
  rw [after.find, before.find, Option.map_map]
  rfl

theorem Rewrites.congr {first second : SessionId → SessionData τ → SessionData τ}
    (rewrites : Rewrites server next first)
    (same : ∀ peer data, server.findSession peer = some data → first peer data = second peer data) :
    Rewrites server next second := by
  refine ⟨fun peer => ?_, rewrites.counter⟩
  rw [rewrites.find]
  cases there : server.findSession peer with
  | none => rfl
  | some data => rw [Option.map_some, Option.map_some, same peer data there]

theorem rewrites_modify (server : Server τ) (client : SessionId) (change : SessionData τ → SessionData τ) :
    Rewrites server (server.modify client change) fun peer data => if peer = client then change data else data := by
  refine ⟨fun peer => ?_, rfl⟩
  rw [findSession_modify]
  by_cases own : peer = client
  · simp only [if_pos own]
  · simp only [if_neg own, Option.map_id']

theorem rewrites_sendToPeers (server : Server τ) (client : SessionId)
    (letter : SessionId → SessionData τ → Option (Letter τ)) :
    Rewrites server (server.sendToPeers client letter) fun peer data =>
      if peer = client then data
      else data.sendSome (letter peer data) :=
  ⟨fun peer => findSession_sendToPeers server client peer letter, rfl⟩

/-- A part of each session's data that is as it was. -/
def Keeps {β : Type} (field : SessionData τ → β) (server next : Server τ) : Prop :=
  ∀ peer, (next.findSession peer).map field = (server.findSession peer).map field

section Keeps

variable {β : Type} {field : SessionData τ → β}

theorem Keeps.refl (server : Server τ) : Keeps field server server := fun _ => rfl

theorem Keeps.trans (before : Keeps field server middle) (after : Keeps field middle next) :
    Keeps field server next := fun peer => (after peer).trans (before peer)

theorem Rewrites.keeps {change : SessionId → SessionData τ → SessionData τ} (rewrites : Rewrites server next change)
    (same : ∀ peer data, field (change peer data) = field data) : Keeps field server next := by
  intro peer
  rw [rewrites.find, Option.map_map]
  congr 1
  funext data
  exact same peer data

theorem keeps_modify (server : Server τ) (client : SessionId) {change : SessionData τ → SessionData τ}
    (same : ∀ data, field (change data) = field data) : Keeps field server (server.modify client change) :=
  (rewrites_modify server client change).keeps fun peer data => by
    by_cases own : peer = client
    · rw [if_pos own, same]
    · rw [if_neg own]

theorem keeps_sendToPeers (server : Server τ) (client : SessionId)
    (letter : SessionId → SessionData τ → Option (Letter τ)) (same : ∀ data letter, field (data.send letter) = field data) :
    Keeps field server (server.sendToPeers client letter) :=
  (rewrites_sendToPeers server client letter).keeps fun peer data => by
    by_cases own : peer = client
    · rw [if_pos own]
    · rw [if_neg own]
      cases letter peer data with
      | none => rfl
      | some letter => exact same data letter

end Keeps

theorem own_congr {current : SessionData τ} (found : server.findSession client = some current)
    (change other : SessionData τ → SessionData τ) (same : change current = other current) (peer : SessionId)
    (data : SessionData τ) (there : server.findSession peer = some data) :
    (if peer = client then change data else data) = if peer = client then other data else data := by
  by_cases own : peer = client
  · subst own
    rw [found] at there
    cases there
    rw [if_pos rfl, if_pos rfl, same]
  · rw [if_neg own, if_neg own]

theorem checkSessionStateChange_ok {messageType : MessageType}
    (checked : server.checkSessionStateChange origin client messageType = .ok next) :
    next.fileTransferModeActive_ = server.fileTransferModeActive_ ∧
      Rewrites server next fun peer data =>
        if peer = client then data.changeState origin messageType else data := by
  unfold checkSessionStateChange at checked
  cases found : server.findSession client with
  | none => simp [found] at checked
  | some current =>
    have agrees (change : SessionData τ → SessionData τ) := own_congr found change (·.changeState origin messageType)
    have unchanged : current = current.changeState origin messageType →
        Rewrites server server fun peer data => if peer = client then data.changeState origin messageType else data :=
      fun same => (Rewrites.refl server).congr fun peer data there => by
        rw [← agrees id same peer data there, id, ite_self]
    simp only [found] at checked
    cases change : stateChange messageType with
    | none =>
      simp only [change] at checked
      cases checked
      exact ⟨rfl, unchanged (by simp only [SessionData.changeState, change])⟩
    | some states =>
      obtain ⟨expectedStates, nextState⟩ := states
      simp only [change] at checked
      split at checked
      · rename_i unexpected
        cases checked
        exact ⟨rfl, (rewrites_modify _ _ _).congr (agrees _ (by
          simp only [SessionData.changeState, change, if_pos unexpected]))⟩
      · rename_i expected
        split at checked
        · rename_i already
          cases checked
          refine ⟨rfl, unchanged ?_⟩
          simp only [SessionData.changeState, change, if_neg expected, ← already]
        · cases checked
          exact ⟨rfl, (rewrites_modify _ _ _).congr (agrees _ (by
            simp only [SessionData.changeState, change, if_neg expected]))⟩

theorem checkSessionStateChange_none {current : SessionData τ} {messageType : MessageType}
    (found : server.findSession client = some current) (stays : stateChange messageType = none) :
    server.checkSessionStateChange origin client messageType = .ok server := by
  simp only [checkSessionStateChange, found, stays]

theorem clientChangedNickName_ok {memory : Memory} {message : NicknameMessage} {accepted : Bool}
    (checked : server.clientChangedNickName memory client message = .ok accepted) :
    accepted = true ↔ ∀ peer data, server.findSession peer = some data → peer ≠ client →
      strcaseEq (verifiedNickName memory (message.nickName memory.beyond)) data.client.nickName = false := by
  simp only [clientChangedNickName] at checked
  split at checked
  · cases checked
  · split at checked
    · cases checked
    · cases checked
      simp only [List.all_eq_true, Bool.or_eq_true, decide_eq_true_eq, Bool.not_eq_true']
      constructor
      · intro all peer data there other
        exact (all (peer, data) (mem_sessions.mpr there)).resolve_left other
      · rintro free ⟨peer, data⟩ member
        by_cases own : peer = client
        · exact Or.inl own
        · exact Or.inr (free peer data (mem_sessions.mp member) own)

variable {target : Target} {memory : Memory} {current : SessionData τ}

theorem availableMessage_found {message : Message}
    (handled : server.availableMessage target memory origin client message = .ok next) :
    ∃ current, server.findSession client = some current := by
  obtain ⟨middle, checked, -⟩ := bind_ok handled
  unfold checkSessionStateChange at checked
  cases found : server.findSession client with
  | none => simp [found] at checked
  | some current => exact ⟨current, rfl⟩

theorem hello_ok (handled : server.availableMessage target memory origin client .hello = .ok next) :
    next.fileTransferModeActive_ = server.fileTransferModeActive_ ∧
      Rewrites server next fun peer data =>
        if peer = client then
          (data.changeState origin .hello).send ⟨.nickname (.ofNickName data.client.nickName), origin⟩
        else data := by
  obtain ⟨middle, checked, done⟩ := bind_ok handled
  cases done
  obtain ⟨mode, rewrites⟩ := checkSessionStateChange_ok checked
  refine ⟨mode, (rewrites.trans (rewrites_modify _ _ _)).congr fun peer data _ => ?_⟩
  by_cases own : peer = client
  · simp only [if_pos own, SessionClient.nickName, SessionData.nickName_changeState]
    rfl
  · simp only [if_neg own]

def NickNameFree (memory : Memory) (server : Server τ) (client : SessionId) (name : NicknameMessage) : Prop :=
  ∀ peer data, server.findSession peer = some data → peer ≠ client →
    strcaseEq (verifiedNickName memory (name.nickName memory.beyond)) data.client.nickName = false

instance (memory : Memory) (server : Server τ) (client : SessionId) (name : NicknameMessage) :
    Decidable (NickNameFree memory server client name) :=
  inferInstanceAs (Decidable (∀ peer data, server.findSession peer = some data → peer ≠ client → _ = false))

def renamed (memory : Memory) (origin : τ) (message : NicknameMessage) (accepted : Bool) (data : SessionData τ) :
    SessionData τ :=
  let data := data.changeState origin .nickname
  if accepted then
    let data := { data with client := data.client.setNickName (message.nickName memory.beyond) }
    data.send ⟨.nickname (.ofNickName data.client.nickName), origin⟩
  else data.send ⟨.status ⟨.nickNameAlreadyRegistered⟩, origin⟩

theorem nickname_ok {message : NicknameMessage}
    (handled : server.availableMessage target memory origin client (.nickname message) = .ok next) :
    ∃ accepted,
      (accepted = true ↔ ∀ peer data, server.findSession peer = some data → peer ≠ client →
        strcaseEq (verifiedNickName memory (message.nickName memory.beyond)) data.client.nickName = false) ∧
      next.fileTransferModeActive_ = server.fileTransferModeActive_ ∧
      Rewrites server next fun peer data => if peer = client then renamed memory origin message accepted data else data := by
  obtain ⟨middle, checked, after⟩ := bind_ok handled
  obtain ⟨accepted, unique, done⟩ := bind_ok after
  obtain ⟨mode, rewrites⟩ := checkSessionStateChange_ok checked
  refine ⟨accepted, ?_, ?_⟩
  · rw [clientChangedNickName_ok unique]
    constructor
    · intro free peer data there other
      have moved := rewrites.find peer
      rw [there, Option.map_some, if_neg other] at moved
      exact free peer data moved other
    · intro free peer data there other
      rw [rewrites.find, Option.map_eq_some_iff] at there
      obtain ⟨before, there, rfl⟩ := there
      rw [if_neg other]
      exact free peer before there other
  · cases accepted with
    | true =>
      cases done
      refine ⟨mode, (rewrites.trans (rewrites_modify _ _ _)).congr fun peer data _ => ?_⟩
      by_cases own : peer = client
      · simp only [if_pos own]
        rfl
      · simp only [if_neg own]
    | false =>
      cases done
      refine ⟨mode, (rewrites.trans (rewrites_modify _ _ _)).congr fun peer data _ => ?_⟩
      by_cases own : peer = client
      · simp only [if_pos own]
        rfl
      · simp only [if_neg own]

theorem bye_ok (handled : server.availableMessage target memory origin client .bye = .ok next) :
    next.fileTransferModeActive_ = server.fileTransferModeActive_ ∧
      Rewrites server next fun peer data => if peer = client then data.changeState origin .bye else data := by
  obtain ⟨middle, checked, done⟩ := bind_ok handled
  cases done
  exact checkSessionStateChange_ok checked

def afterAnswer (origin : τ) (server : Server τ) (client : SessionId) (code : StatusCode) : Server τ :=
  let server := server.modify client fun data => data.setStatus code
  if server.sessions_.size = 1 then server
  else
    match server.decision client with
    | none => server
    | some (sender, code) => server.send sender ⟨.status ⟨code⟩, origin⟩

theorem clientSentFileTransferResponse_eq (origin : τ) (found : server.findSession client = some current) :
    ∃ relayed, server.clientSentFileTransferResponse origin client = .ok (relayed,
      if server.sessions_.size = 1 then server
      else
        match server.decision client with
        | none => server
        | some (sender, code) => server.send sender ⟨.status ⟨code⟩, origin⟩) := by
  simp only [clientSentFileTransferResponse, found]
  by_cases alone : server.sessions_.size = 1
  · exact ⟨false, by simp only [if_pos alone]⟩
  · refine ⟨true, ?_⟩
    simp only [if_neg alone]
    cases server.decision client <;> rfl

def StatusAnswers (code : StatusCode) : Prop := code = .acceptFileTransfer ∨ code = .rejectFileTransfer

instance (code : StatusCode) : Decidable (StatusAnswers code) := inferInstanceAs (Decidable (_ ∨ _))

theorem answer_active (found : server.findSession client = some current) {code : StatusCode}
    (answer : StatusAnswers code) (active : server.fileTransferModeActive_ = true) :
    server.availableMessage target memory origin client (.status ⟨code⟩) = .ok (server.afterAnswer origin client code) := by
  have checked : server.checkSessionStateChange origin client .status = .ok server :=
    checkSessionStateChange_none found rfl
  have kept : (server.modify client fun data => data.setStatus code).findSession client =
      some (current.setStatus code) := by
    rw [findSession_modify, if_pos rfl, found, Option.map_some]
  obtain ⟨relayed, responded⟩ := clientSentFileTransferResponse_eq origin kept
  rcases answer with rfl | rfl <;>
    simp [availableMessage, Message.type, checked, isFileTransferModeActive, active, bind, Except.bind, responded,
      afterAnswer, pure, Except.pure]

theorem answer_inactive (found : server.findSession client = some current) {code : StatusCode}
    (answer : StatusAnswers code) (inactive : server.fileTransferModeActive_ = false) :
    server.availableMessage target memory origin client (.status ⟨code⟩) =
      .ok (server.send client ⟨.status ⟨.fileTransferCanceled⟩, origin⟩) := by
  have checked : server.checkSessionStateChange origin client .status = .ok server :=
    checkSessionStateChange_none found rfl
  rcases answer with rfl | rfl <;>
    simp [availableMessage, Message.type, checked, isFileTransferModeActive, inactive, bind, Except.bind]

theorem status_ignored (found : server.findSession client = some current) {code : StatusCode}
    (other : ¬ StatusAnswers code) :
    server.availableMessage target memory origin client (.status ⟨code⟩) = .ok server := by
  have checked : server.checkSessionStateChange origin client .status = .ok server :=
    checkSessionStateChange_none found rfl
  simp only [StatusAnswers, not_or] at other
  simp only [availableMessage, Message.type, checked, bind, Except.bind]
  split
  · exact absurd rfl other.1
  · exact absurd rfl other.2
  · rfl

theorem status_ok {code : StatusCode}
    (handled : server.availableMessage target memory origin client (.status ⟨code⟩) = .ok next) :
    (StatusAnswers code ∧ server.fileTransferModeActive_ = true ∧ next = server.afterAnswer origin client code) ∨
    (StatusAnswers code ∧ server.fileTransferModeActive_ = false ∧
      next = server.send client ⟨.status ⟨.fileTransferCanceled⟩, origin⟩) ∨
    (¬ StatusAnswers code ∧ next = server) := by
  obtain ⟨current, found⟩ := availableMessage_found handled
  by_cases answer : StatusAnswers code
  · cases active : server.fileTransferModeActive_ with
    | true =>
      rw [answer_active found answer active] at handled
      cases handled
      exact Or.inl ⟨answer, rfl, rfl⟩
    | false =>
      rw [answer_inactive found answer active] at handled
      cases handled
      exact Or.inr (Or.inl ⟨answer, rfl, rfl⟩)
  · rw [status_ignored found answer] at handled
    cases handled
    exact Or.inr (Or.inr ⟨answer, rfl⟩)

def chatLetter (memory : Memory) (origin : τ) (current : SessionData τ) (message : ChatMessage) (peer : SessionId)
    (_ : SessionData τ) : Option (Letter τ) :=
  some ⟨.chat ((ChatMessage.ofMessage (memory.heap peer).chat message.message).setSender current.client.nickName), origin⟩

theorem chat_eq (found : server.findSession client = some current) (message : ChatMessage) :
    server.availableMessage target memory origin client (.chat message) =
      if server.sessions_.size = 1 then .ok (server.send client ⟨.status ⟨.chattingAlone⟩, origin⟩)
      else if ∃ buffer ∈ chatRelayed memory.elapsed current.client.nickName message.message, ¬ buffer.Fits then
        .error (.undefined .outOfBounds)
      else .ok (server.sendToPeers client (chatLetter memory origin current message)) := by
  have checked : server.checkSessionStateChange origin client .chat = .ok server :=
    checkSessionStateChange_none found rfl
  simp only [availableMessage, Message.type, checked, bind, Except.bind, clientSentChatMessage, found]
  by_cases alone : server.sessions_.size = 1
  · simp [alone]
  · by_cases overrun : ∃ buffer ∈ chatRelayed memory.elapsed current.client.nickName message.message, ¬ buffer.Fits
    · simp only [if_neg alone, if_pos overrun]
    · simp only [if_neg alone, if_neg overrun, if_true]
      rfl

theorem chat_ok {message : ChatMessage}
    (handled : server.availableMessage target memory origin client (.chat message) = .ok next) :
    ∃ current, server.findSession client = some current ∧
      next.fileTransferModeActive_ = server.fileTransferModeActive_ ∧
      ((server.sessions_.size = 1 ∧ next = server.send client ⟨.status ⟨.chattingAlone⟩, origin⟩) ∨
        (server.sessions_.size ≠ 1 ∧
          Rewrites server next fun peer data =>
            if peer = client then data
            else data.sendSome (chatLetter memory origin current message peer data))) := by
  obtain ⟨current, found⟩ := availableMessage_found handled
  refine ⟨current, found, ?_⟩
  rw [chat_eq found] at handled
  split at handled
  · rename_i alone
    cases handled
    exact ⟨rfl, Or.inl ⟨alone, rfl⟩⟩
  · rename_i more
    split at handled
    · cases handled
    · cases handled
      exact ⟨rfl, Or.inr ⟨more, rewrites_sendToPeers _ _ _⟩⟩

def requestLetter (origin : τ) (current : SessionData τ) (message : FileTransferMessage) (_ : SessionId)
    (_ : SessionData τ) : Option (Letter τ) :=
  some ⟨.fileRequest ((FileTransferMessage.ofFileName (basename message.fileName)).setSender current.client.nickName),
    origin⟩

theorem fileRequest_eq (found : server.findSession client = some current) (message : FileTransferMessage) :
    server.availableMessage target memory origin client (.fileRequest message) = .ok (
      if server.isFileTransferModeActive then server.send client ⟨.status ⟨.fileTransferCanceled⟩, origin⟩
      else if server.sessions_.size = 1 then server.send client ⟨.status ⟨.chattingAlone⟩, origin⟩
      else
        let server := { server with fileTransferModeActive_ := true }
        ((server.sendToPeers client (requestLetter origin current message)).markSender client).modify client
          fun data => data.setStatus .acceptFileTransfer) := by
  have checked : server.checkSessionStateChange origin client .fileRequest = .ok server :=
    checkSessionStateChange_none found rfl
  simp only [availableMessage, Message.type, checked, bind, Except.bind]
  by_cases active : server.isFileTransferModeActive = true
  · simp only [if_pos active]
  · simp only [if_neg active, clientSentFileTransferRequest, enableFileTransfer, found]
    by_cases alone : server.sessions_.size = 1
    · simp [alone]
    · simp only [if_neg alone, if_true]
      rfl

theorem fileRequest_ok {message : FileTransferMessage}
    (handled : server.availableMessage target memory origin client (.fileRequest message) = .ok next) :
    ∃ current, server.findSession client = some current ∧
      ((server.fileTransferModeActive_ = true ∧ next = server.send client ⟨.status ⟨.fileTransferCanceled⟩, origin⟩) ∨
        (server.fileTransferModeActive_ = false ∧ server.sessions_.size = 1 ∧
          next = server.send client ⟨.status ⟨.chattingAlone⟩, origin⟩) ∨
        (server.fileTransferModeActive_ = false ∧ server.sessions_.size ≠ 1 ∧ next.fileTransferModeActive_ = true ∧
          Rewrites server next fun peer data =>
            if peer = client then { data.setStatus .acceptFileTransfer with isFileTransferSender := true }
            else data.sendSome (requestLetter origin current message peer data))) := by
  obtain ⟨current, found⟩ := availableMessage_found handled
  refine ⟨current, found, ?_⟩
  rw [fileRequest_eq found] at handled
  cases handled
  cases active : server.fileTransferModeActive_ with
  | true => exact Or.inl ⟨rfl, if_pos active⟩
  | false =>
    have idle : ¬ server.isFileTransferModeActive = true := by simp [isFileTransferModeActive, active]
    rw [if_neg idle]
    by_cases alone : server.sessions_.size = 1
    · exact Or.inr (Or.inl ⟨rfl, alone, if_pos alone⟩)
    · refine Or.inr (Or.inr ⟨rfl, alone, ?_, ?_⟩)
      · rw [if_neg alone]
        rfl
      · rw [if_neg alone]
        have enabled : Rewrites server { server with fileTransferModeActive_ := true } fun _ data => data :=
          ⟨fun peer => by simp [findSession], rfl⟩
        refine (((enabled.trans (rewrites_sendToPeers _ client _)).trans (rewrites_modify _ client _)).trans
          (rewrites_modify _ client _)).congr fun peer data _ => ?_
        by_cases own : peer = client
        · simp only [if_pos own]
          rfl
        · simp only [if_neg own]

def dataLetter (target : Target) (memory : Memory) (origin : τ) (message : FileDataMessage) (peer : SessionId)
    (data : SessionData τ) : Option (Letter τ) :=
  if data.client.fileTransferStatus_ ≠ .acceptFileTransfer then none
  else some ⟨.fileData (copyFileData target (memory.heap peer).fileData message), origin⟩

theorem dataLetter_some {message : FileDataMessage} {peer : SessionId} {data : SessionData τ} {letter : Letter τ}
    (relayed : dataLetter target memory origin message peer data = some letter) :
    letter = ⟨.fileData (copyFileData target (memory.heap peer).fileData message), origin⟩ := by
  unfold dataLetter at relayed
  split at relayed
  · cases relayed
  · exact (Option.some.inj relayed).symm

theorem fileData_eq (found : server.findSession client = some current) (message : FileDataMessage) :
    server.availableMessage target memory origin client (.fileData message) = .ok (
      let relayed :=
        if server.sessions_.size = 1 then server
        else
          let server := server.sendToPeers client (dataLetter target memory origin message)
          if message.isLastBlock then
            { server.modify client fun current => { current with isFileTransferSender := false } with
              fileTransferModeActive_ := false }
          else server
      if message.isLastBlock then relayed.modify client fun data => data.setStatus .fileTransferCanceled else relayed) := by
  have checked : server.checkSessionStateChange origin client .fileData = .ok server :=
    checkSessionStateChange_none found rfl
  simp only [availableMessage, Message.type, checked, bind, Except.bind, clientSentFileData, found]
  by_cases alone : server.sessions_.size = 1
  · by_cases last : message.isLastBlock = true
    · simp only [if_pos alone, if_pos last]
    · simp only [if_pos alone, if_neg last]
  · by_cases last : message.isLastBlock = true
    · simp only [if_neg alone, if_pos last]
      rfl
    · simp only [if_neg alone, if_neg last]
      rfl

theorem fileData_ok {message : FileDataMessage}
    (handled : server.availableMessage target memory origin client (.fileData message) = .ok next) :
    ∃ current, server.findSession client = some current ∧
      ((server.sessions_.size = 1 ∧ next.fileTransferModeActive_ = server.fileTransferModeActive_ ∧
          Rewrites server next fun peer data =>
            if peer = client then
              if message.isLastBlock then data.setStatus .fileTransferCanceled else data
            else data) ∨
        (server.sessions_.size ≠ 1 ∧
          next.fileTransferModeActive_ = (server.fileTransferModeActive_ && !message.isLastBlock) ∧
          Rewrites server next fun peer data =>
            if peer = client then
              if message.isLastBlock then
                { data.setStatus .fileTransferCanceled with isFileTransferSender := false }
              else data
            else data.sendSome (dataLetter target memory origin message peer data))) := by
  obtain ⟨current, found⟩ := availableMessage_found handled
  refine ⟨current, found, ?_⟩
  rw [fileData_eq found] at handled
  cases handled
  by_cases alone : server.sessions_.size = 1
  · refine Or.inl ⟨alone, ?_⟩
    simp only [if_pos alone]
    by_cases last : message.isLastBlock = true
    · simp only [if_pos last]
      exact ⟨rfl, rewrites_modify _ _ _⟩
    · simp only [if_neg last, ite_self]
      exact ⟨trivial, Rewrites.refl server⟩
  · refine Or.inr ⟨alone, ?_⟩
    simp only [if_neg alone]
    have relayed := rewrites_sendToPeers server client (dataLetter target memory origin message)
    by_cases last : message.isLastBlock = true
    · simp only [if_pos last]
      refine ⟨by simp [last], ?_⟩
      have ended : Rewrites server
          { (server.sendToPeers client (dataLetter target memory origin message)).modify client
              fun current => { current with isFileTransferSender := false } with fileTransferModeActive_ := false } _ :=
        ⟨(relayed.trans (rewrites_modify _ client _)).find, rfl⟩
      refine (ended.trans (rewrites_modify _ client _)).congr fun peer data _ => ?_
      by_cases own : peer = client
      · simp only [if_pos own]
        rfl
      · simp only [if_neg own]
    · simp only [if_neg last]
      refine ⟨by simp [last], relayed.congr fun peer data _ => ?_⟩
      by_cases own : peer = client
      · simp only [if_pos own]
      · simp only [if_neg own]

theorem scanAnswers_done {sessions : List (SessionId × SessionData τ)} {canStart start : Bool}
    {sender chosen : Option SessionId} (done : scanAnswers client sessions canStart sender = (true, start, chosen)) :
    (∀ session ∈ sessions, session.1 ≠ client → session.2.client.fileTransferStatus_ ≠ .fileTransferCanceled) ∧
      (chosen = sender ∨
        ∃ session ∈ sessions, session.1 ≠ client ∧ session.2.isFileTransferSender = true ∧ chosen = some session.1) := by
  induction sessions generalizing canStart sender with
  | nil =>
    cases done
    exact ⟨by simp, Or.inl rfl⟩
  | cons session rest ih =>
    obtain ⟨peer, data⟩ := session
    rw [scanAnswers] at done
    split at done
    · rename_i own
      obtain ⟨answered, found⟩ := ih done
      refine ⟨?_, ?_⟩
      · intro session member other
        rcases List.mem_cons.mp member with rfl | later
        · exact absurd own other
        · exact answered session later other
      · rcases found with same | ⟨session, member, found⟩
        · exact Or.inl same
        · exact Or.inr ⟨session, List.mem_cons_of_mem _ member, found⟩
    · rename_i other
      split at done
      · cases done
      · rename_i answer
        obtain ⟨answered, found⟩ := ih done
        refine ⟨?_, ?_⟩
        · intro session member different
          rcases List.mem_cons.mp member with rfl | later
          · exact answer
          · exact answered session later different
        · rcases found with same | ⟨session, member, found⟩
          · split at same
            · rename_i flagged
              exact Or.inr ⟨_, List.mem_cons_self, other, flagged, same⟩
            · exact Or.inl same
          · exact Or.inr ⟨session, List.mem_cons_of_mem _ member, found⟩

theorem decision_some {sender : SessionId} {code : StatusCode} (decided : server.decision client = some (sender, code)) :
    (∀ peer data, server.findSession peer = some data → peer ≠ client →
        data.client.fileTransferStatus_ ≠ .fileTransferCanceled) ∧
      (∃ data, server.findSession sender = some data ∧ sender ≠ client ∧ data.isFileTransferSender = true) ∧
      StatusAnswers code := by
  unfold decision at decided
  split at decided
  · rename_i canStart chosen done
    obtain ⟨answered, found⟩ := scanAnswers_done done
    cases decided
    refine ⟨fun peer data there other => ?_, ?_, ?_⟩
    · exact answered (peer, data) (mem_sessions.mpr there) other
    · rcases found with none | ⟨⟨peer, data⟩, member, other, flagged, same⟩
      · cases none
      · cases same
        exact ⟨data, mem_sessions.mp member, other, flagged⟩
    · cases canStart
      · exact Or.inr rfl
      · exact Or.inl rfl
  · cases decided

theorem addSession_find (server : Server τ) (client peer : SessionId) (nickName_ : Field maxNicknameSize) :
    (server.addSession client nickName_).findSession peer =
      if peer = client then some (newSession (server.connectionsCounter_ + 1) nickName_)
      else server.findSession peer := by
  simp only [findSession, addSession, Std.TreeMap.getElem?_insert, compare_eq_iff_eq]
  by_cases same : peer = client
  · rw [if_pos same, if_pos same.symm]
  · rw [if_neg same, if_neg (Ne.symm same)]

theorem foldl_send (sessions : List (SessionId × SessionData τ)) (client : SessionId) (letter : Letter τ)
    (server : Server τ) :
    let last := sessions.foldl (fun server session =>
      if session.1 = client then server else server.send client letter) server
    last.fileTransferModeActive_ = server.fileTransferModeActive_ ∧
      last.connectionsCounter_ = server.connectionsCounter_ ∧
      ∀ peer, peer ≠ client → last.findSession peer = server.findSession peer := by
  induction sessions generalizing server with
  | nil => exact ⟨rfl, rfl, fun _ _ => rfl⟩
  | cons session rest ih =>
    rw [List.foldl_cons]
    split
    · exact ih server
    · obtain ⟨mode, counter, others⟩ := ih (server.send client letter)
      refine ⟨mode, counter, fun peer other => ?_⟩
      rw [others peer other, send, findSession_modify, if_neg other]

theorem removeSession_ok (removed : server.removeSession origin client = .ok next) :
    ∃ current, server.findSession client = some current ∧
      next.fileTransferModeActive_ = (server.fileTransferModeActive_ && !current.isFileTransferSender) ∧
      next.connectionsCounter_ = server.connectionsCounter_ ∧
      ∀ peer, next.findSession peer = if peer = client then none else server.findSession peer := by
  unfold removeSession at removed
  cases found : server.findSession client with
  | none => simp [found] at removed
  | some current =>
    simp only [found, Except.ok.injEq] at removed
    refine ⟨current, rfl, ?_⟩
    have erased : ∀ (left : Server τ) (peer : SessionId), (∀ peer, peer ≠ client →
        left.findSession peer = server.findSession peer) →
        ({ left with sessions_ := left.sessions_.erase client } : Server τ).findSession peer =
          if peer = client then none else server.findSession peer := by
      intro left peer others
      simp only [findSession, Std.TreeMap.getElem?_erase, compare_eq_iff_eq]
      by_cases same : peer = client
      · rw [if_pos same, if_pos same.symm]
      · rw [if_neg same, if_neg (Ne.symm same)]
        exact others peer same
    subst removed
    by_cases sending : (server.fileTransferModeActive_ && current.isFileTransferSender) = true
    · obtain ⟨mode, counter, others⟩ := foldl_send server.sessions_.toList client
        ⟨.status ⟨.fileTransferCanceled⟩, origin⟩ { server with fileTransferModeActive_ := false }
      simp only [if_pos sending]
      refine ⟨?_, counter, fun peer => erased _ peer others⟩
      simp only [Bool.and_eq_true] at sending
      rw [mode, sending.1, sending.2]
      rfl
    · simp only [if_neg sending]
      refine ⟨?_, trivial, fun peer => erased server peer fun _ _ => rfl⟩
      cases active : server.fileTransferModeActive_ <;> cases flag : current.isFileTransferSender <;>
        simp [active, flag] at sending ⊢

theorem find_removeSession (removed : server.removeSession origin client = .ok next) {peer : SessionId}
    {data : SessionData τ} (there : next.findSession peer = some data) : server.findSession peer = some data := by
  obtain ⟨current, -, -, -, left⟩ := removeSession_ok removed
  rw [left] at there
  split at there
  · cases there
  · exact there

inductive Steps (target : Target) (server : Server τ) : Event τ → Server τ → Prop
  | addSession {client : SessionId} {nickName_ : Field maxNicknameSize} (unknown : server.findSession client = none) :
      Steps target server (.addSession client nickName_) (server.addSession client nickName_)
  | removeSession {client : SessionId} {origin : τ} {next : Server τ}
      (removed : server.removeSession origin client = .ok next) :
      Steps target server (.removeSession client origin) next
  | message {client : SessionId} {memory : Memory} {origin : τ} {message : Message} {next : Server τ}
      (handled : server.availableMessage target memory origin client message = .ok next) :
      Steps target server (.message client memory origin message) next
  | writeData {client : SessionId} (connected : (server.findSession client).isSome = true) :
      Steps target server (.writeData client)
        (server.modify client fun data => { data with client.outbox := data.client.outbox.writeData.2 })

theorem steps_of_step {event : Event τ} (stepped : server.step target event = some next) :
    Steps target server event next := by
  cases event with
  | addSession client nickName_ =>
    simp only [step] at stepped
    split at stepped
    · cases stepped
    · rename_i unknown
      cases stepped
      exact .addSession (Option.not_isSome_iff_eq_none.mp unknown)
  | removeSession client origin => exact .removeSession (toOption_some stepped)
  | message client memory origin message => exact .message (toOption_some stepped)
  | writeData client =>
    simp only [step] at stepped
    split at stepped
    · rename_i connected
      cases stepped
      exact .writeData connected
    · cases stepped

/-- A part of the data that neither the server's own letters nor answers nor changes of state touch. -/
structure Stable {β : Type} (field : SessionData τ → β) : Prop where
  send : ∀ data letter, letter.message.isRelayed = false → field (data.send letter) = field data
  setStatus : ∀ data code, field (data.setStatus code) = field data
  changeState : ∀ data origin messageType, field (data.changeState origin messageType) = field data

theorem mode_afterAnswer (server : Server τ) (client : SessionId) (origin : τ) (code : StatusCode) :
    (server.afterAnswer origin client code).fileTransferModeActive_ = server.fileTransferModeActive_ := by
  simp only [afterAnswer]
  split
  · rfl
  · split <;> rfl

theorem mode_status {message : StatusMessage}
    (handled : server.availableMessage target memory origin client (.status message) = .ok next) :
    next.fileTransferModeActive_ = server.fileTransferModeActive_ := by
  obtain ⟨code⟩ := message
  obtain ⟨-, -, rfl⟩ | ⟨-, -, rfl⟩ | ⟨-, rfl⟩ := status_ok handled
  · exact mode_afterAnswer server client origin code
  · rfl
  · rfl

section Stable

variable {β : Type} {field : SessionData τ → β}

theorem keeps_status (send : ∀ data code, field (data.send ⟨.status ⟨code⟩, origin⟩) = field data)
    (setStatus : ∀ data code, field (data.setStatus code) = field data) {message : StatusMessage}
    (handled : server.availableMessage target memory origin client (.status message) = .ok next) :
    Keeps field server next := by
  obtain ⟨code⟩ := message
  obtain ⟨-, -, rfl⟩ | ⟨-, -, rfl⟩ | ⟨-, rfl⟩ := status_ok handled
  · have answered : Keeps field server (server.modify client fun data => data.setStatus code) :=
      keeps_modify server client fun data => setStatus data code
    simp only [afterAnswer]
    split
    · exact answered
    · split
      · exact answered
      · exact answered.trans (keeps_modify _ _ fun data => send data _)
  · exact keeps_modify _ _ fun data => send data _
  · exact Keeps.refl _

/-- The messages that do not change the state of a session are answered or relayed in letters that are no `NICKNAME`. -/
theorem keeps_unchanging (send : ∀ data letter, letter.message.type ≠ .nickname → field (data.send letter) = field data)
    (setStatus : ∀ data code, field (data.setStatus code) = field data)
    (mark : ∀ (data : SessionData τ) flag, field { data with isFileTransferSender := flag } = field data)
    {message : Message} (unchanging : stateChange message.type = none)
    (handled : server.availableMessage target memory origin client message = .ok next) : Keeps field server next := by
  have sendSome : ∀ data letter, (∀ sent, letter = some sent → sent.message.type ≠ .nickname) →
      field (data.sendSome letter) = field data := by
    intro data letter other
    cases letter with
    | none => rfl
    | some letter => exact send data letter (other letter rfl)
  cases message with
  | hello => cases unchanging
  | nickname name => cases unchanging
  | bye => cases unchanging
  | status status => exact keeps_status (fun data _ => send data _ fun type => by cases type) setStatus handled
  | chat chat =>
    obtain ⟨current, -, -, ⟨-, rfl⟩ | ⟨-, rewrites⟩⟩ := chat_ok handled
    · exact keeps_modify _ _ fun data => send data _ fun type => by cases type
    · refine rewrites.keeps fun peer data => ?_
      split
      · rfl
      · refine sendSome data _ fun sent same => ?_
        cases same
        exact fun type => by cases type
  | fileRequest file =>
    obtain ⟨current, -, ⟨-, rfl⟩ | ⟨-, -, rfl⟩ | ⟨-, -, -, rewrites⟩⟩ := fileRequest_ok handled
    · exact keeps_modify _ _ fun data => send data _ fun type => by cases type
    · exact keeps_modify _ _ fun data => send data _ fun type => by cases type
    · refine rewrites.keeps fun peer data => ?_
      split
      · rw [mark, setStatus]
      · refine sendSome data _ fun sent same => ?_
        cases same
        exact fun type => by cases type
  | fileData block =>
    obtain ⟨current, -, ⟨-, -, rewrites⟩ | ⟨-, -, rewrites⟩⟩ := fileData_ok handled
    · refine rewrites.keeps fun peer data => ?_
      split
      · split
        · exact setStatus data _
        · rfl
      · rfl
    · refine rewrites.keeps fun peer data => ?_
      split
      · split
        · rw [mark, setStatus]
        · rfl
      · refine sendSome data _ fun sent same => ?_
        rw [dataLetter_some same]
        exact fun type => by cases type

theorem Stable.keeps_hello (stable : Stable field)
    (handled : server.availableMessage target memory origin client .hello = .ok next) : Keeps field server next := by
  refine (hello_ok handled).2.keeps fun peer data => ?_
  split
  · rw [stable.send _ _ rfl, stable.changeState]
  · rfl

theorem Stable.keeps_bye (stable : Stable field)
    (handled : server.availableMessage target memory origin client .bye = .ok next) : Keeps field server next := by
  refine (bye_ok handled).2.keeps fun peer data => ?_
  split
  · exact stable.changeState data origin .bye
  · rfl

theorem Stable.keeps_status (stable : Stable field) {message : StatusMessage}
    (handled : server.availableMessage target memory origin client (.status message) = .ok next) :
    Keeps field server next :=
  Server.keeps_status (fun data _ => stable.send data _ rfl) stable.setStatus handled

end Stable

end Server

end LanMessenger
