import LanMessenger.Client.SessionServer
import LanMessenger.Server.Reactions

namespace LanMessenger

open CMemory

/-! The server and its clients. Messages travel whole and in order. A letter of the server, and the
answer to one, carries the number of the transfer it belongs to. -/

/-- A block that reached a client, the name chosen for its transfer, whether the file of that name could not
    be opened, and what the client did. -/
structure Arrival where
  transfer : Nat
  block : FileDataMessage
  chosen : Option (List Byte)
  unopened : Bool
  effects : List FileEffect

/-- The transfers a client accepted, the last one first, with the names chosen for them; those whose file could
    not be opened; and the blocks that came. -/
structure Journal where
  accepted : List (Nat × List Byte)
  unopened : List Nat
  arrivals : List Arrival

def Journal.empty : Journal := ⟨[], [], []⟩

def Journal.record (journal : Journal) (client : SessionServer Nat) (answer : Answer) (opens : Bool)
    (letter : Letter Nat) (effects : List FileEffect) : Journal :=
  match letter.message, answer with
  | .fileRequest _, .accept targetFileName =>
    { journal with accepted := (letter.origin, targetFileName.text) :: journal.accepted }
  | .fileData block, _ =>
    let unopened := if client.isReceivingFile_ && client.fileTransferHandle_.isNone && !opens then
      letter.origin :: journal.unopened else journal.unopened
    { journal with
      unopened
      arrivals := journal.arrivals ++
        [⟨letter.origin, block, journal.accepted.lookup letter.origin, letter.origin ∈ unopened, effects⟩] }
  | _, _ => journal

/-- A client and the messages on their way to and from it. `choosing` says that the user is asked for
    the file to send, which `Client::run` does after it has tested `hasFileTransfer`. -/
structure Connection where
  client : SessionServer Nat
  up : List (Letter Nat)
  down : List (Letter Nat)
  choosing : Bool
  aborted : Bool
  journal : Journal

inductive ClientEvent
  | chooseFile
  | leavePrompt
  | sendFile (fileName : FileName)
  | chat (raw : ChatMessage) (message : List Byte)
  | setNickName (nickName : List Byte)
  | disconnect
  | cycle (raw : FileDataMessage) (fopen : Option Readable)
  | writeData
  | readData (answer : Answer) (opens : Bool) (elapsed : Int)

/-- The queue is still written, and what has come is still read, after `disconnect`. -/
def ClientEvent.whileConnected : ClientEvent → Bool
  | .writeData | .readData _ _ _ => false
  | _ => true

namespace Connection

def handle (target : Target) (connection : Connection) (answer : Answer) (opens : Bool) (elapsed : Int) (letter : Letter Nat)
    (rest : List (Letter Nat)) : Option Connection :=
  match connection.client.availableMessage target answer opens elapsed letter.origin letter.message with
  | .ok (client, effects) => some { connection with
      client
      down := rest
      journal := connection.journal.record connection.client answer opens letter effects }
  | .error .fatal => some { connection with down := rest, aborted := true }
  | .error (.undefined _) => none

def step (target : Target) (connection : Connection) (event : ClientEvent) : Option Connection :=
  let client := connection.client
  if connection.aborted || (event.whileConnected && !client.outbox.isConnected) then none
  else
    match event with
    | .chooseFile => if client.hasFileTransfer then none else some { connection with choosing := true }
    | .leavePrompt => some { connection with choosing := false }
    | .sendFile fileName =>
      if connection.choosing then some { connection with client := client.sendFile 0 fileName, choosing := false }
      else none
    | .chat raw message => (client.chat raw 0 message).map fun client => { connection with client }
    | .setNickName nickName => some { connection with client := client.setNickName 0 nickName }
    | .disconnect => some { connection with client := client.disconnect 0 }
    | .cycle raw fopen => some { connection with client := client.cycle target raw fopen 0 }
    | .writeData =>
      let (letter, outbox) := client.outbox.writeData
      some { connection with client := { client with outbox }, up := connection.up ++ letter.toList }
    | .readData answer opens elapsed =>
      match connection.down with
      | [] => none
      | letter :: rest => connection.handle target answer opens elapsed letter rest

end Connection

/-- The transfer accepted last, the sessions its request went to, and those that answered it. -/
structure Poll where
  transfer : Nat
  asked : SessionId → Bool
  answered : SessionId → Bool

namespace Poll

def hear (server : Server Nat) (client : SessionId) (letter : Letter Nat) (poll : Poll) : Poll :=
  if server.accepts letter.message then
    { transfer := poll.transfer + 1
      asked := fun peer => peer ≠ client && (server.findSession peer).isSome
      answered := fun _ => false }
  else if server.isFileTransferModeActive && letter.message.answer.isSome && letter.origin = poll.transfer then
    { poll with answered := Function.update poll.answered client true }
  else poll

/-- The connected sessions that have the request and have not answered it. -/
def missing (server : Server Nat) (poll : Poll) : List SessionId :=
  (server.sessions_.toList.map Prod.fst).filter fun peer => poll.asked peer && !poll.answered peer

end Poll

/-- A `STATUS` with which the server told the sender of a transfer to start it or not. -/
structure Decision where
  transfer : Nat
  missing : List SessionId
deriving DecidableEq

structure Network where
  server : Server Nat
  connections : SessionId → Option Connection
  poll : Poll
  decisions : List Decision

namespace Network

inductive Event
  | connect (client : SessionId) (fileTransferBuffer_ : Field maxMessageSize) (fileName_ : Field maxPathSize)
      (nickName_ sessionNickName_ : Field maxNicknameSize)
  | client (client : SessionId) (event : ClientEvent)
  | message (client : SessionId) (memory : Memory)
  | writeData (client : SessionId)
  | removeSession (client : SessionId)

def start : Network := ⟨.new, fun _ => none, ⟨0, fun _ => false, fun _ => false⟩, []⟩

def handle (target : Target) (network : Network) (client : SessionId) (connection : Connection) (memory : Memory)
    (letter : Letter Nat) (rest : List (Letter Nat)) : Option Network :=
  let poll := network.poll.hear network.server client letter
  match network.server.availableMessage target memory poll.transfer client letter.message with
  | .error _ => none
  | .ok server => some {
      server
      connections := Function.update network.connections client (some { connection with up := rest })
      poll
      decisions := match network.server.verdict client letter.message with
        | none => network.decisions
        | some _ => network.decisions ++ [⟨poll.transfer, poll.missing network.server⟩] }

/-- A client's name in the network, the address of its session, is not used for another one. -/
def step (target : Target) (network : Network) : Event → Option Network
  | .connect client fileTransferBuffer_ fileName_ nickName_ sessionNickName_ =>
    if (network.connections client).isSome || (network.server.findSession client).isSome then none
    else some { network with
      server := network.server.addSession client sessionNickName_
      connections := Function.update network.connections client (some {
        client := .new fileTransferBuffer_ fileName_ nickName_ 0
        up := []
        down := []
        choosing := false
        aborted := false
        journal := .empty }) }
  | .client client event =>
    match network.connections client with
    | none => none
    | some connection => (connection.step target event).map fun connection =>
        { network with connections := Function.update network.connections client (some connection) }
  | .message client memory =>
    match network.connections client with
    | none => none
    | some connection =>
      match connection.up with
      | [] => none
      | letter :: rest => network.handle target client connection memory letter rest
  | .writeData client =>
    match network.connections client, network.server.findSession client with
    | some connection, some data =>
      let (letter, outbox) := data.client.outbox.writeData
      some { network with
        server := network.server.modify client fun data => { data with client.outbox := outbox }
        connections := Function.update network.connections client
          (some { connection with down := connection.down ++ letter.toList }) }
    | _, _ => none
  | .removeSession client =>
    (network.server.removeSession network.poll.transfer client).toOption.map fun server => { network with server }

/-! Short courses of events, to put runs together from. -/

def aFile : FileName := ⟨ascii ['f'], by decide, by decide, by decide⟩

def joining (client : SessionId) : List Event :=
  [.connect client (Field.zero _) (Field.zero _) (Field.zero _) (Field.zero _), .client client .writeData,
    .message client .zeroed, .writeData client, .client client (.readData .refuse true 0)]

def speaking (client : SessionId) : List Event := [.client client .writeData, .message client .zeroed]

def offering (client : SessionId) : List Event :=
  [.client client .chooseFile, .client client (.sendFile aFile)] ++ speaking client

def hearing (client : SessionId) (answer : Answer) : List Event :=
  [.writeData client, .client client (.readData answer true 0)]

def uploading (client : SessionId) : List Event :=
  .client client (.cycle Heap.zeroed.fileData (some fun _ _ => .endOfFile)) :: speaking client

end Network

end LanMessenger
