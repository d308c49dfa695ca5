import LanMessenger.Network.Conversation
import LanMessenger.Wire.Cable

namespace LanMessenger

open CMemory Transition

structure Line where
  client : SessionServer Nat
  up : Cable
  down : Cable
  choosing : Bool
  aborted : Bool
  journal : Journal
  log : ChatLog

/-- The server and its clients, which send each other bytes. -/
structure Wire where
  server : Server Nat
  lines : SessionId → Option Line
  poll : Poll
  decisions : List Decision
  said : List (Room.Saying SessionId (List Byte) (List Byte))

def ChatLog.types (log : ChatLog) : ClientEvent → ChatLog
  | .chat raw message => { log with typed := log.typed ++ [(ChatMessage.ofMessage raw message).message] }
  | _ => log

def ChatLog.hears (log : ChatLog) (message : Message) : ChatLog :=
  { log with heard := log.heard ++ (message.chat?.map ChatMessage.row).toList }

namespace Line

def connection (line : Line) (up down : List (Letter Nat)) : Connection :=
  ⟨line.client, up, down, line.choosing, line.aborted, line.journal⟩

def act (target : Target) (line : Line) (event : ClientEvent) : Option Line :=
  if !event.whileConnected then none
  else ((line.connection [] []).step target event).map fun acted =>
    { line with client := acted.client, choosing := acted.choosing, log := line.log.types event }

def writeData (line : Line) (sent : Nat) : Option Line :=
  if line.aborted then none
  else
    match line.client.outbox.writeData with
    | (none, _) => some line
    | (some letter, outbox) => some { line with client := { line.client with outbox }, up := line.up.writeData letter sent }

def hear (target : Target) (answer : Answer) (opens : Bool) (elapsed : Int) (line : Line) (letter : Letter Nat) : Option Line :=
  ((line.connection [] []).handle target answer opens elapsed letter []).map fun after =>
    { line with
      client := after.client
      aborted := after.aborted
      journal := after.journal
      log := line.log.hears letter.message }

def readData (target : Target) (heap : Heap) (count : Nat) (answer : Answer) (opens : Bool) (elapsed : Int) (line : Line) :
    Option Line :=
  if line.aborted || !line.down.Permits count then none
  else
    let (letters, down) := line.down.readData heap count
    letters.foldlM (hear target answer opens elapsed) { line with down }

end Line

namespace Wire

inductive Event
  | connect (client : SessionId) (fileTransferBuffer_ : Field maxMessageSize) (fileName_ : Field maxPathSize)
      (nickName_ sessionNickName_ : Field maxNicknameSize) (buffer_ sessionBuffer_ : Field maxMessageSize)
  | client (client : SessionId) (event : ClientEvent)
  | clientWriteData (client : SessionId) (sent : Nat)
  | clientReadData (client : SessionId) (heap : Heap) (count : Nat) (answer : Answer) (opens : Bool) (elapsed : Int)
  | readData (client : SessionId) (heap : Heap) (count : Nat) (memory : Memory)
  | writeData (client : SessionId) (sent : Nat)
  | removeSession (client : SessionId)

def start : Wire := ⟨.new, fun _ => none, ⟨0, fun _ => false, fun _ => false⟩, [], []⟩

def put (wire : Wire) (client : SessionId) (line : Line) : Wire :=
  { wire with lines := Function.update wire.lines client (some line) }

def hear (target : Target) (memory : Memory) (client : SessionId) (wire : Wire) (letter : Letter Nat) : Option Wire :=
  let poll := wire.poll.hear wire.server client letter
  match wire.server.availableMessage target memory poll.transfer client letter.message with
  | .error _ => none
  | .ok server => some { wire with
      server
      poll
      decisions := match wire.server.verdict client letter.message with
        | none => wire.decisions
        | some _ => wire.decisions ++ [⟨poll.transfer, poll.missing wire.server⟩]
      said := wire.said ++ (wire.server.saying client letter.message).toList }

def readData (target : Target) (wire : Wire) (client : SessionId) (heap : Heap) (count : Nat) (memory : Memory)
    (line : Line) : Option Wire :=
  if !line.up.Permits count || (wire.server.findSession client).isNone then none
  else
    let (letters, up) := line.up.readData heap count
    letters.foldlM (hear target memory client) (wire.put client { line with up })

def writeData (wire : Wire) (client : SessionId) (sent : Nat) (line : Line) (data : SessionData Nat) : Wire :=
  match data.client.outbox.writeData with
  | (none, _) => wire
  | (some letter, outbox) => { wire.put client { line with down := line.down.writeData letter sent } with
      server := wire.server.modify client fun data => { data with client.outbox := outbox } }

def step (target : Target) (wire : Wire) : Event → Option Wire
  | .connect client fileTransferBuffer_ fileName_ nickName_ sessionNickName_ buffer_ sessionBuffer_ =>
    if (wire.lines client).isSome || (wire.server.findSession client).isSome then none
    else some { wire.put client {
        client := .new fileTransferBuffer_ fileName_ nickName_ 0
        up := .new sessionBuffer_
        down := .new buffer_
        choosing := false
        aborted := false
        journal := .empty
        log := ⟨[], wire.said.length, []⟩ } with
      server := wire.server.addSession client sessionNickName_ }
  | .client client event => (wire.lines client).bind fun line => (line.act target event).map (wire.put client)
  | .clientWriteData client sent => (wire.lines client).bind fun line => (line.writeData sent).map (wire.put client)
  | .clientReadData client heap count answer opens elapsed => (wire.lines client).bind fun line =>
      (line.readData target heap count answer opens elapsed).map (wire.put client)
  | .readData client heap count memory => (wire.lines client).bind (wire.readData target client heap count memory)
  | .writeData client sent => (wire.lines client).bind fun line =>
      (wire.server.findSession client).map (wire.writeData client sent line)
  | .removeSession client => (wire.server.removeSession wire.poll.transfer client).toOption.map fun server =>
      { wire with server }

def Taken (written : Option (Letter Nat)) (sent : Nat) : Prop :=
  ∀ letter, written = some letter → letter.message.frame.length ≤ sent

instance (written : Option (Letter Nat)) (sent : Nat) : Decidable (Taken written sent) := Option.decidableForallMem written

/-- The users type texts shorter than `MAX_CHATMESSAGE_SIZE`, and no frame is cut short. -/
def Sound (wire : Wire) : Event → Prop
  | .client _ (.chat _ message) => strlen message < maxChatMessageSize
  | .clientWriteData client sent =>
    ∀ line, wire.lines client = some line → Taken line.client.outbox.writeData.1 sent
  | .writeData client sent =>
    ∀ data, wire.server.findSession client = some data → Taken data.client.outbox.writeData.1 sent
  | _ => True

instance (wire : Wire) (event : Event) : Decidable (wire.Sound event) := by
  unfold Sound
  split
  · infer_instance
  · exact Option.decidableForallMem _
  · exact Option.decidableForallMem _
  · infer_instance

end Wire

end LanMessenger
