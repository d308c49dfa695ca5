import LanMessenger.Common.Debug
import LanMessenger.Server.Sessions

namespace LanMessenger

open CMemory

/-- The bytes the handlers meet without having written them: in fresh objects, behind the field of a
    nickname message, and from the start of `verifiedNickName` on. `elapsed` is the time that a line of
    the log begins with. -/
structure Memory where
  heap : SessionId → Heap
  beyond : List Byte
  stack : List Byte
  elapsed : Int

def Memory.zeroed : Memory := ⟨fun _ => Heap.zeroed, [0#8], List.replicate maxNicknameSize 0#8, 0⟩

/-- GNU `basename`: what stands behind the last slash. -/
def basename (path : List Byte) : List Byte := (path.reverse.takeWhile (· ≠ 47#8)).reverse

def defaultNickName (connectionsCounter : Nat) : List Byte :=
  ascii (['U', 's', 'e', 'r', ' '] ++ Nat.toDigits 10 connectionsCounter)

namespace Server

variable {τ : Type}

def newSession (connectionsCounter_ : Nat) (nickName_ : Field maxNicknameSize) : SessionData τ where
  client := (SessionClient.new nickName_).setNickName (defaultNickName connectionsCounter_)
  state := .start
  isFileTransferSender := false

/-- The new object lies at an address that no other session has. -/
def addSession (server : Server τ) (client : SessionId) (nickName_ : Field maxNicknameSize) : Server τ :=
  let connectionsCounter_ := server.connectionsCounter_ + 1
  { server with
    connectionsCounter_
    sessions_ := server.sessions_.insert client (newSession connectionsCounter_ nickName_) }

/-- The states in which a message may come, and the one it leads to; `none` where the message does
    not change the state. -/
def stateChange : MessageType → Option (List ClientState × ClientState)
  | .hello => some ([.start], .identify)
  | .nickname => some ([.identify, .ready], .ready)
  | .bye => some ([.start, .identify, .ready], .invalid)
  | _ => none

def checkSessionStateChange (origin : τ) (server : Server τ) (client : SessionId) (messageType : MessageType) :
    Except Fault (Server τ) :=
  match server.findSession client with
  | none => .error .fatal
  | some current =>
    match stateChange messageType with
    | none => .ok server
    | some (expectedStates, nextState) =>
      -- the caller goes on with the message in any case
      if current.state ∉ expectedStates then .ok (server.modify client fun data => data.disconnect origin)
      else if current.state = nextState then .ok server
      else .ok (server.modify client fun data => { data with state := nextState })

/-- The loop runs up to and including the terminator, which is not printable. -/
def verifiedNickName (memory : Memory) (newNickName : List Byte) : List Byte :=
  (newNickName ++ [0#8]).map (fun byte => if isprint byte then byte else 32#8) ++
    memory.stack.drop (newNickName.length + 1)

def clientChangedNickName (memory : Memory) (server : Server τ) (client : SessionId) (message : NicknameMessage) :
    Except Fault Bool :=
  match server.findSession client with
  | none => .error .fatal
  | some _ =>
    let newNickName := message.nickName memory.beyond
    if maxNicknameSize ≤ newNickName.length then .error (.undefined .outOfBounds)
    else
      .ok (server.sessions_.toList.all fun session =>
        session.1 = client || !strcaseEq (verifiedNickName memory newNickName) session.2.client.nickName)

/-- The call of `debug` in `clientSentChatMessage`. -/
def chatRelayed (elapsed : Int) (sender chatMessage : List Byte) : List Formatted :=
  Common.debug elapsed "Session \"%s\" sent message \"%s\"" [.string sender, .string chatMessage]

theorem fits_chatRelayed_iff (elapsed : Int) (sender chatMessage : List Byte) :
    (∀ buffer ∈ chatRelayed elapsed sender chatMessage, buffer.Fits) ↔
      Common.elapsedWidth elapsed + sender.length + chatMessage.length ≤ 482 := by
  have printed : (sprintf "Session \"%s\" sent message \"%s\"" [.string sender, .string chatMessage]).length =
      26 + (sender.length + chatMessage.length) :=
    length_sprintf (by rfl) (by decide)
  rw [chatRelayed, Common.fits_debug_iff, printed]
  omega

def clientSentChatMessage (memory : Memory) (origin : τ) (server : Server τ) (client : SessionId)
    (message : ChatMessage) : Except Fault (Bool × Server τ) :=
  match server.findSession client with
  | none => .error .fatal
  | some current =>
    if server.sessions_.size = 1 then .ok (false, server)
    else if ∃ buffer ∈ chatRelayed memory.elapsed current.client.nickName message.message, ¬ buffer.Fits then
      .error (.undefined .outOfBounds)
    else .ok (true, server.sendToPeers client fun peer _ =>
      some ⟨.chat ((ChatMessage.ofMessage (memory.heap peer).chat message.message).setSender
        current.client.nickName), origin⟩)

def copyFileData (target : Target) (raw message : FileDataMessage) : FileDataMessage :=
  let dataMessage := ((FileDataMessage.new raw).setBuffer message.buffer).setFileOffset target (message.fileOffset target)
  if message.isLastBlock then dataMessage.markLastBlock else dataMessage

def clientSentFileData (target : Target) (memory : Memory) (origin : τ) (server : Server τ) (client : SessionId)
    (message : FileDataMessage) : Except Fault (Server τ) :=
  match server.findSession client with
  | none => .error .fatal
  | some _ =>
    if server.sessions_.size = 1 then .ok server
    else
      let server := server.sendToPeers client fun peer data =>
        if data.client.fileTransferStatus_ ≠ .acceptFileTransfer then none
        else some ⟨.fileData (copyFileData target (memory.heap peer).fileData message), origin⟩
      if message.isLastBlock then
        .ok { server.modify client fun current => { current with isFileTransferSender := false } with
          fileTransferModeActive_ := false }
      else .ok server

/-- `clientSentFileTransferRequest` up to the end of its loop. -/
def enableFileTransfer (origin : τ) (server : Server τ) (client : SessionId) (message : FileTransferMessage) :
    Except Fault (Bool × Server τ) :=
  match server.findSession client with
  | none => .error .fatal
  | some current =>
    if server.sessions_.size = 1 then .ok (false, server)
    else
      let fileName := basename message.fileName
      let server := { server with fileTransferModeActive_ := true }
      .ok (true, server.sendToPeers client fun _ _ =>
        some ⟨.fileRequest ((FileTransferMessage.ofFileName fileName).setSender current.client.nickName), origin⟩)

def markSender (server : Server τ) (client : SessionId) : Server τ :=
  server.modify client fun current => { current with isFileTransferSender := true }

def clientSentFileTransferRequest (origin : τ) (server : Server τ) (client : SessionId)
    (message : FileTransferMessage) : Except Fault (Bool × Server τ) :=
  match server.enableFileTransfer origin client message with
  | .ok (true, server) => .ok (true, server.markSender client)
  | result => result

/-- The loop of `clientSentFileTransferResponse` over the sessions from here on: whether it came to
    the end, `canStart` and `sender`. -/
def scanAnswers (client : SessionId) :
    List (SessionId × SessionData τ) → Bool → Option SessionId → Bool × Bool × Option SessionId
  | [], canStart, sender => (true, canStart, sender)
  | (peer, peerData) :: rest, canStart, sender =>
    if peer = client then scanAnswers client rest canStart sender
    else if peerData.client.fileTransferStatus_ = .fileTransferCanceled then (false, canStart, sender)
    else
      scanAnswers client rest (canStart || peerData.client.fileTransferStatus_ = .acceptFileTransfer)
        (if peerData.isFileTransferSender then some peer else sender)

def decision (server : Server τ) (client : SessionId) : Option (SessionId × StatusCode) :=
  match scanAnswers client server.sessions_.toList false none with
  | (true, canStart, some sender) => some (sender, if canStart then .acceptFileTransfer else .rejectFileTransfer)
  | _ => none

def clientSentFileTransferResponse (origin : τ) (server : Server τ) (client : SessionId) :
    Except Fault (Bool × Server τ) :=
  match server.findSession client with
  | none => .error .fatal
  | some _ =>
    if server.sessions_.size = 1 then .ok (false, server)
    else
      match server.decision client with
      | none => .ok (true, server)
      | some (sender, code) => .ok (true, server.send sender ⟨.status ⟨code⟩, origin⟩)

def removeSession (origin : τ) (server : Server τ) (client : SessionId) : Except Fault (Server τ) :=
  match server.findSession client with
  | none => .error .fatal
  | some current =>
    let server :=
      if server.fileTransferModeActive_ && current.isFileTransferSender then
        -- each turn of the loop addresses the session that leaves
        server.sessions_.toList.foldl (fun server session =>
            if session.1 = client then server
            else server.send client ⟨.status ⟨.fileTransferCanceled⟩, origin⟩)
          { server with fileTransferModeActive_ := false }
      else server
    .ok { server with sessions_ := server.sessions_.erase client }

/-- One turn of the loop of `SessionClient::availableMessages`. -/
def availableMessage (target : Target) (memory : Memory) (origin : τ) (server : Server τ) (client : SessionId)
    (message : Message) : Except Fault (Server τ) := do
  let server ← server.checkSessionStateChange origin client message.type
  match message with
  | .hello => .ok (server.modify client fun data =>
      data.send ⟨.nickname (.ofNickName data.client.nickName), origin⟩)
  | .nickname nickNameMessage =>
    if ← server.clientChangedNickName memory client nickNameMessage then
      .ok (server.modify client fun data =>
        let data := { data with client := data.client.setNickName (nickNameMessage.nickName memory.beyond) }
        data.send ⟨.nickname (.ofNickName data.client.nickName), origin⟩)
    else .ok (server.send client ⟨.status ⟨.nickNameAlreadyRegistered⟩, origin⟩)
  | .status statusMessage =>
    match statusMessage.status with
    | .acceptFileTransfer | .rejectFileTransfer =>
      if !server.isFileTransferModeActive then
        .ok (server.send client ⟨.status ⟨.fileTransferCanceled⟩, origin⟩)
      else
        let server := server.modify client fun data => data.setStatus statusMessage.status
        return (← server.clientSentFileTransferResponse origin client).2
    | _ => .ok server
  | .chat chatMessage =>
    let (relayed, server) ← server.clientSentChatMessage memory origin client chatMessage
    if relayed then .ok server else .ok (server.send client ⟨.status ⟨.chattingAlone⟩, origin⟩)
  | .fileRequest fileMessage =>
    if server.isFileTransferModeActive then .ok (server.send client ⟨.status ⟨.fileTransferCanceled⟩, origin⟩)
    else
      let (relayed, server) ← server.clientSentFileTransferRequest origin client fileMessage
      if relayed then .ok (server.modify client fun data => data.setStatus .acceptFileTransfer)
      else .ok (server.send client ⟨.status ⟨.chattingAlone⟩, origin⟩)
  | .fileData dataMessage =>
    let server ← server.clientSentFileData target memory origin client dataMessage
    if dataMessage.isLastBlock then
      .ok (server.modify client fun data => data.setStatus .fileTransferCanceled)
    else .ok server
  | .bye => .ok server

inductive Event (τ : Type)
  | addSession (client : SessionId) (nickName_ : Field maxNicknameSize)
  | removeSession (client : SessionId) (origin : τ)
  | message (client : SessionId) (memory : Memory) (origin : τ) (message : Message)
  | writeData (client : SessionId)

/-- No step is taken into an undefined operation, nor past `Common::fatal`. -/
def step (target : Target) (server : Server τ) : Event τ → Option (Server τ)
  | .addSession client nickName_ =>
    if (server.findSession client).isSome then none else some (server.addSession client nickName_)
  | .removeSession client origin => (server.removeSession origin client).toOption
  | .message client memory origin message => (server.availableMessage target memory origin client message).toOption
  | .writeData client =>
    if (server.findSession client).isSome then
      some (server.modify client fun data => { data with client.outbox := data.client.outbox.writeData.2 })
    else none

end Server

end LanMessenger
