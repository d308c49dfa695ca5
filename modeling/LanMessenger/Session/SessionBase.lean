import LanMessenger.Messages.Message

namespace LanMessenger

open CMemory

/-- The receiving side of a `SessionBase`. `bufferOffset_` is an `int`: the code never tests that
    it stays above zero. -/
structure Inbox where
  buffer_ : Field maxMessageSize
  bufferOffset_ : Int
  receivingQueue_ : List Message

/-- `parseMessage` returns NULL, a `Message` of type `MSG_INVALID`, or a message it has taken out
    of the buffer. -/
inductive Parsed
  | null
  | invalid
  | message (message : Message) (inbox : Inbox)

namespace Inbox

/-- The buffer is not initialised by the constructor. -/
def new (buffer : Field maxMessageSize) : Inbox := ⟨buffer, 0, []⟩

def unread (inbox : Inbox) : List Byte := inbox.buffer_.bytes.take inbox.bufferOffset_.toNat

def shift (inbox : Inbox) (messageOffset_ : Nat) : Inbox :=
  { inbox with
    buffer_ := Field.ofBytes maxMessageSize (inbox.buffer_.bytes.drop messageOffset_)
    bufferOffset_ := inbox.bufferOffset_ - messageOffset_ }

def parseMessage (heap : Heap) (inbox : Inbox) : Except Undefined Parsed :=
  let messageHeader := MessageHeader.ofBytes inbox.buffer_.bytes
  match messageHeader.type with
  | none => .ok .invalid
  | some type =>
    if messageHeader.size > maxPayloadSize then .ok .invalid
    else if inbox.bufferOffset_ - messageHeaderSize < messageHeader.size then .ok .null
    else
      match Message.fromRawBytes heap type (inbox.buffer_.bytes.drop messageHeaderSize) messageHeader.size with
      | .error undefined => .error undefined
      | .ok none => .ok .null
      | .ok (some message) => .ok (.message message (inbox.shift (messageHeaderSize + message.size)))

def receiveMessage (inbox : Inbox) : Option Message × Inbox :=
  match inbox.receivingQueue_.getLast? with
  | none => (none, inbox)
  | some message => (some message, { inbox with receivingQueue_ := inbox.receivingQueue_.dropLast })

/-- The loop of both `availableMessages`: the messages in the order they are handled. -/
def availableMessagesLoop : Nat → Inbox → List Message × Inbox
  | 0, inbox => ([], inbox)
  | fuel + 1, inbox =>
    match inbox.receiveMessage with
    | (none, inbox) => ([], inbox)
    | (some message, inbox) =>
      let (messages, inbox) := availableMessagesLoop fuel inbox
      (message :: messages, inbox)

def availableMessages (inbox : Inbox) : List Message × Inbox :=
  availableMessagesLoop inbox.receivingQueue_.length inbox

def receive (inbox : Inbox) (chunk : List Byte) : Inbox :=
  { inbox with
    buffer_ := inbox.buffer_.overwrite (inbox.buffer_.bytes.take inbox.bufferOffset_.toNat ++ chunk)
    bufferOffset_ := inbox.bufferOffset_ + chunk.length }

/-- `recv` returned -1 (`none`), or stored the bytes of the chunk and returned their number. The
    result is the error flag, the messages handled and the session after the call. -/
def readData (heap : Heap) (inbox : Inbox) (recv : Option (List Byte)) :
    Except Undefined (Bool × List Message × Inbox) :=
  match recv with
  | none => .ok (true, [], inbox)
  | some [] => .ok (true, [], inbox)
  | some chunk =>
    if inbox.bufferOffset_ < 0 ∨ maxMessageSize < inbox.bufferOffset_ + chunk.length then .error .outOfBounds
    else
      let inbox := inbox.receive chunk
      if inbox.bufferOffset_ < messageHeaderSize then .ok (false, [], inbox)
      else
        match inbox.parseMessage heap with
        | .error undefined => .error undefined
        | .ok .null => .ok (false, [], inbox)
        | .ok .invalid => .ok (true, [], inbox)
        | .ok (.message message inbox) =>
          let (handled, inbox) :=
            { inbox with receivingQueue_ := inbox.receivingQueue_ ++ [message] }.availableMessages
          .ok (false, handled, inbox)

theorem availableMessages_eq (inbox : Inbox) :
    inbox.availableMessages = (inbox.receivingQueue_.reverse, { inbox with receivingQueue_ := [] }) := by
  obtain ⟨buffer, offset, queue⟩ := inbox
  unfold availableMessages
  induction queue using List.reverseRecOn with
  | nil => rfl
  | append_singleton queue message ih =>
    simp [availableMessagesLoop, receiveMessage, ih]

def header (inbox : Inbox) : MessageHeader := MessageHeader.ofBytes inbox.buffer_.bytes

def payload (inbox : Inbox) : List Byte := inbox.buffer_.bytes.drop messageHeaderSize

section Parsing

variable {heap : Heap} {inbox : Inbox} {type : MessageType}

theorem parseMessage_unknown (unknown : inbox.header.type = none) : inbox.parseMessage heap = .ok .invalid := by
  unfold header at unknown
  simp only [parseMessage, unknown]

theorem parseMessage_large (large : maxPayloadSize < inbox.header.size) : inbox.parseMessage heap = .ok .invalid := by
  unfold header at large
  unfold parseMessage
  cases known : (MessageHeader.ofBytes inbox.buffer_.bytes).type with
  | none => simp only [known]
  | some type => simp only [known, if_pos large]

theorem parseMessage_incomplete (heap : Heap) (waits : inbox.bufferOffset_ - messageHeaderSize < inbox.header.size) :
    inbox.parseMessage heap = .ok .invalid ∨ inbox.parseMessage heap = .ok .null := by
  unfold header at waits
  unfold parseMessage
  cases known : (MessageHeader.ofBytes inbox.buffer_.bytes).type with
  | none => simp only [known, true_or]
  | some type =>
    simp only [known, if_pos waits]
    split
    · exact Or.inl rfl
    · exact Or.inr rfl

variable (known : inbox.header.type = some type) (small : inbox.header.size ≤ maxPayloadSize)
include known small

theorem parseMessage_waits (waits : inbox.bufferOffset_ - messageHeaderSize < inbox.header.size) :
    inbox.parseMessage heap = .ok .null := by
  unfold header at known small waits
  simp only [parseMessage, known, if_neg (not_lt.mpr small), if_pos waits]

variable (complete : inbox.header.size ≤ inbox.bufferOffset_ - messageHeaderSize)
include complete

theorem parseMessage_undefined {undefined : Undefined}
    (decoded : Message.fromRawBytes heap type inbox.payload inbox.header.size = .error undefined) :
    inbox.parseMessage heap = .error undefined := by
  unfold payload header at decoded
  unfold header at known small complete
  simp only [parseMessage, known, if_neg (not_lt.mpr small), if_neg (not_lt.mpr complete), decoded]

theorem parseMessage_refused (decoded : Message.fromRawBytes heap type inbox.payload inbox.header.size = .ok none) :
    inbox.parseMessage heap = .ok .null := by
  unfold payload header at decoded
  unfold header at known small complete
  simp only [parseMessage, known, if_neg (not_lt.mpr small), if_neg (not_lt.mpr complete), decoded]

theorem parseMessage_accepted {message : Message}
    (decoded : Message.fromRawBytes heap type inbox.payload inbox.header.size = .ok (some message)) :
    inbox.parseMessage heap = .ok (.message message (inbox.shift (messageHeaderSize + message.size))) := by
  unfold payload header at decoded
  unfold header at known small complete
  simp only [parseMessage, known, if_neg (not_lt.mpr small), if_neg (not_lt.mpr complete), decoded]

end Parsing

end Inbox

/-- A message object in a queue. `origin` is a mark for proofs: the code never reads it. -/
structure Letter (τ : Type) where
  message : Message
  origin : τ

structure Outbox (τ : Type) where
  sendingQueue_ : List (Letter τ)
  disconnectionFlag_ : Bool

namespace Outbox

variable {τ : Type}

def new : Outbox τ := ⟨[], false⟩

def canSendMessages (outbox : Outbox τ) : Bool := outbox.sendingQueue_.length ≤ maxNetworkMessageQueue

def isConnected (outbox : Outbox τ) : Bool := !outbox.disconnectionFlag_

def sendMessage (outbox : Outbox τ) (letter : Letter τ) : Bool × Outbox τ :=
  if outbox.sendingQueue_.length > maxNetworkMessageQueue then (false, outbox)
  else (true, { outbox with sendingQueue_ := outbox.sendingQueue_ ++ [letter] })

/-- `sendMessage` where the caller drops the result. -/
def send (outbox : Outbox τ) (letter : Letter τ) : Outbox τ := (outbox.sendMessage letter).2

theorem send_of_room {outbox : Outbox τ} (room : outbox.canSendMessages = true) (letter : Letter τ) :
    outbox.send letter = { outbox with sendingQueue_ := outbox.sendingQueue_ ++ [letter] } := by
  have notFull : ¬ outbox.sendingQueue_.length > maxNetworkMessageQueue := by
    simpa [canSendMessages] using room
  simp only [send, sendMessage, if_neg notFull]

theorem send_eq_iff (outbox : Outbox τ) (letter : Letter τ) :
    (outbox.send letter).sendingQueue_ = outbox.sendingQueue_ ↔ outbox.canSendMessages = false := by
  unfold send sendMessage canSendMessages
  split
  · rename_i full
    simpa using full
  · rename_i room
    simpa using room

/-- The letter whose frame `writeData` hands to `send`, if any. -/
def writeData (outbox : Outbox τ) : Option (Letter τ) × Outbox τ :=
  match outbox.sendingQueue_ with
  | [] => (none, outbox)
  | letter :: rest => (some letter, { outbox with sendingQueue_ := rest })

theorem sendingQueue_writeData (outbox : Outbox τ) : outbox.writeData.2.sendingQueue_ = outbox.sendingQueue_.tail := by
  unfold writeData
  split
  · rename_i empty
    rw [empty, List.tail_nil]
  · rename_i waiting
    rw [waiting, List.tail_cons]

def disconnect (outbox : Outbox τ) (origin : τ) : Outbox τ :=
  if outbox.isConnected then { outbox.send ⟨.bye, origin⟩ with disconnectionFlag_ := true } else outbox

end Outbox

end LanMessenger
