import LanMessenger.Session.Reception
import LanMessenger.Transition.Runs

namespace LanMessenger

open CMemory Transition

abbrev Sendable := { message : Message // message.WithinLimits }

namespace Sendable

def toFrame (sendable : Sendable) : Frame := sendable.1.toFrame sendable.2

def frame (sendable : Sendable) : List Byte := sendable.1.frame

theorem bytes_map_toFrame (messages : List Sendable) :
    Stream.bytes Frame.bytes (messages.map toFrame) = Stream.bytes frame messages := by
  induction messages with
  | nil => rfl
  | cons message rest ih =>
    rw [List.map_cons, Stream.bytes_cons, Stream.bytes_cons, ih, toFrame, Message.toFrame_bytes, frame]

theorem contents_eq_of_decodesTo {sendable : Sendable} {message : Message} (decodes : sendable.toFrame.DecodesTo message) :
    message.contents = sendable.1.contents := by
  obtain ⟨heap, behind, decoded⟩ := decodes
  have payload : ((sendable.toFrame.payload.length : Nat) : Int) = sendable.1.size := by
    simp [toFrame, Message.toFrame]
  rw [payload] at decoded
  simp only [toFrame, Message.toFrame, Message.fromRawBytes_toRawBytes heap sendable.2] at decoded
  cases decoded
  exact Message.contents_received heap sendable.2

theorem contents_of_decodesTo {sent : List Sendable} {messages : List Message}
    (decoded : List.Forall₂ Frame.DecodesTo (sent.map toFrame) messages) :
    messages.map Message.contents = sent.map fun message => message.1.contents := by
  induction sent generalizing messages with
  | nil =>
    cases decoded
    rfl
  | cons message rest ih =>
    rcases decoded with _ | ⟨first, later⟩
    rw [List.map_cons, List.map_cons, contents_eq_of_decodesTo first, ih later]

end Sendable

/-- One direction of a connection. `accepted` records the messages `sendMessage` accepted. -/
structure Link where
  outbox : Outbox Unit
  reception : Reception
  accepted : List Sendable

namespace Link

inductive Event
  | sendMessage (message : Sendable)
  | writeData
  | readData (heap : Heap) (count : Nat)

def start (buffer : Field maxMessageSize) : Link := ⟨.new, .start buffer [], []⟩

def sendMessage (link : Link) (message : Sendable) : Link :=
  let (accepted, outbox) := link.outbox.sendMessage ⟨message.1, ()⟩
  { link with outbox, accepted := if accepted then link.accepted ++ [message] else link.accepted }

/-- `send` takes the whole frame. -/
def writeData (link : Link) : Link :=
  match link.outbox.writeData with
  | (none, outbox) => { link with outbox }
  | (some letter, outbox) => { link with outbox, reception := link.reception.arrive letter.message.frame }

def step (link : Link) : Event → Option Link
  | .sendMessage message => some (link.sendMessage message)
  | .writeData => some link.writeData
  | .readData heap count =>
    if link.reception.Permits count then some { link with reception := link.reception.readData heap count } else none

def queued (link : Link) : List Byte := link.outbox.sendingQueue_.flatMap fun letter => letter.message.frame

/-- `front` are the accepted messages that were dispatched, `remaining` the others. -/
structure Tracks (link : Link) (front remaining : List Sendable) (unread : List Byte) : Prop where
  accepted : link.accepted = front ++ remaining
  reception : link.reception.Tracks (front.map Sendable.toFrame) (remaining.map Sendable.toFrame) unread link.queued

theorem tracks_start (buffer : Field maxMessageSize) : (start buffer).Tracks [] [] [] :=
  ⟨rfl, Reception.tracks_start buffer []⟩

variable {link : Link} {front remaining : List Sendable} {unread : List Byte}

theorem Tracks.sendMessage (tracks : link.Tracks front remaining unread) (message : Sendable) :
    ∃ remaining, (link.sendMessage message).Tracks front remaining unread := by
  by_cases full : link.outbox.sendingQueue_.length > maxNetworkMessageQueue
  · have same : link.sendMessage message = link := by
      simp only [Link.sendMessage, Outbox.sendMessage, if_pos full]
      rfl
    exact ⟨remaining, by rwa [same]⟩
  · refine ⟨remaining ++ [message], ?_⟩
    simp only [Link.sendMessage, Outbox.sendMessage, if_neg full]
    refine ⟨by simp [tracks.accepted], ?_⟩
    have behind := tracks.reception.behind (message.toFrame)
    rw [List.map_append]
    simpa [queued, Sendable.toFrame, Message.toFrame_bytes] using behind

theorem Tracks.writeData (tracks : link.Tracks front remaining unread) :
    link.writeData.Tracks front remaining unread := by
  obtain ⟨outbox, reception, accepted⟩ := link
  obtain ⟨queue, flag⟩ := outbox
  cases queue with
  | nil => exact tracks
  | cons letter rest => exact ⟨tracks.accepted, tracks.reception.arrive List.flatMap_cons⟩

theorem Tracks.readData (tracks : link.Tracks front remaining unread) (heap : Heap) {count : Nat}
    (permitted : link.reception.Permits count) :
    ∃ front remaining unread,
      { link with reception := link.reception.readData heap count }.Tracks front remaining unread := by
  obtain ⟨left, ⟨waiting, -, -⟩ | ⟨frame, rest, frames, -, taken⟩⟩ := tracks.reception.readData heap permitted
  · exact ⟨front, remaining, left, tracks.accepted, waiting⟩
  · obtain ⟨first, others, rfl, rfl, rfl⟩ := List.map_eq_cons_iff.mp frames
    refine ⟨front ++ [first], others, left, by simp [tracks.accepted], ?_⟩
    rw [List.map_append]
    exact taken

theorem Tracks.step {link next : Link} {event : Event}
    (tracks : ∃ front remaining unread, link.Tracks front remaining unread) (stepped : link.step event = some next) :
    ∃ front remaining unread, next.Tracks front remaining unread := by
  obtain ⟨front, remaining, unread, tracks⟩ := tracks
  cases event with
  | sendMessage message =>
    cases stepped
    obtain ⟨remaining, tracks⟩ := tracks.sendMessage message
    exact ⟨front, remaining, unread, tracks⟩
  | writeData =>
    cases stepped
    exact ⟨front, remaining, unread, tracks.writeData⟩
  | readData heap count =>
    simp only [Link.step] at stepped
    split at stepped
    · rename_i permitted
      cases stepped
      exact tracks.readData heap permitted
    · cases stepped

/-- In-order delivery without loss or duplicate, for every way the stream is cut into chunks. -/
theorem delivery {buffer : Field maxMessageSize} {events : List Event} {link : Link}
    (run : Run step Always (start buffer) events link) :
    link.reception.dispatched.map Message.contents =
        (link.accepted.take link.reception.dispatched.length).map (fun message => message.1.contents) ∧
      link.reception.inbox.unread ++ (link.reception.wire ++ link.queued) =
        Stream.bytes Sendable.frame (link.accepted.drop link.reception.dispatched.length) ∧
      link.reception.failed = false ∧
      link.reception.inbox.bufferOffset_ = link.reception.inbox.unread.length ∧
      link.reception.inbox.bufferOffset_ < maxMessageSize := by
  obtain ⟨front, remaining, unread, accepted, tracks⟩ := run.invariant
    (fun link => ∃ front remaining unread, link.Tracks front remaining unread)
    ⟨[], [], [], tracks_start buffer⟩ fun _ _ _ tracks _ stepped => Tracks.step tracks stepped
  have contents := Sendable.contents_of_decodesTo tracks.dispatched
  have length : link.reception.dispatched.length = front.length := by
    simpa using congrArg List.length contents
  have short := tracks.short
  rw [tracks.holds.unread_eq, accepted, length]
  refine ⟨by simpa using contents, ?_, tracks.succeeded, tracks.holds.2.1, ?_⟩
  · rw [List.drop_left' rfl, ← Sendable.bytes_map_toFrame, ← tracks.stream, List.append_assoc]
  · rw [tracks.holds.2.1]
    omega

/-- The second chunk ends the `HELLO` and begins the `STATUS`; the `BYE` still waits in the queue. -/
def threeMessages : List Event := [.sendMessage ⟨.hello, trivial⟩, .sendMessage ⟨.status ⟨.ok⟩, trivial⟩, .writeData,
  .readData Heap.zeroed 3, .writeData, .sendMessage ⟨.bye, trivial⟩, .readData Heap.zeroed 7]

theorem delivery_threeMessages :
    ∃ link, exec step (start (Field.zero _)) threeMessages = some link ∧
      link.reception.dispatched = [.hello] ∧ link.reception.inbox.unread = ascii ['S', 'T'] ∧ link.accepted.length = 3 ∧
      link.reception.dispatched.map Message.contents =
        (link.accepted.take link.reception.dispatched.length).map (fun message => message.1.contents) ∧
      link.reception.inbox.unread ++ (link.reception.wire ++ link.queued) =
        Stream.bytes Sendable.frame (link.accepted.drop link.reception.dispatched.length) ∧
      link.reception.failed = false ∧
      link.reception.inbox.bufferOffset_ = link.reception.inbox.unread.length ∧
      link.reception.inbox.bufferOffset_ < maxMessageSize := by
  have outcome : (exec step (start (Field.zero _)) threeMessages).map (fun link =>
      (link.reception.dispatched, link.reception.inbox.unread, link.accepted.length)) =
        some ([.hello], ascii ['S', 'T'], 3) := by
    decide +kernel
  obtain ⟨link, executed, counted⟩ := Option.map_eq_some_iff.mp outcome
  simp only [Prod.mk.injEq] at counted
  obtain ⟨dispatched, unread, accepted⟩ := counted
  exact ⟨link, executed, dispatched, unread, accepted, delivery (run_of_exec executed)⟩

end Link

end LanMessenger
