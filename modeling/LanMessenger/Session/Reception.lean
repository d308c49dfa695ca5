import LanMessenger.Session.Frames

namespace LanMessenger

open CMemory

def Frame.DecodesTo (frame : Frame) (message : Message) : Prop :=
  ∃ (heap : Heap) (behind : List Byte),
    Message.fromRawBytes heap frame.type (frame.payload ++ behind) frame.payload.length = .ok (some message)

/-- The receiving end of a connection: `wire` holds the bytes sent and not yet received, and
    `dispatched` records the messages handled so far. -/
structure Reception where
  inbox : Inbox
  wire : List Byte
  dispatched : List Message
  failed : Bool

namespace Reception

def start (buffer : Field maxMessageSize) (wire : List Byte) : Reception := ⟨.new buffer, wire, [], false⟩

def arrive (reception : Reception) (sent : List Byte) : Reception :=
  { reception with wire := reception.wire ++ sent }

def readData (reception : Reception) (heap : Heap) (count : Nat) : Reception :=
  match reception.inbox.readData heap (some (reception.wire.take count)) with
  | .error _ => { reception with failed := true }
  | .ok (error, handled, inbox) =>
    { inbox
      wire := reception.wire.drop count
      dispatched := reception.dispatched ++ handled
      failed := reception.failed || error }

/-- `recv` returns between one byte and as many as are there and as it was asked for. -/
def Permits (reception : Reception) (count : Nat) : Prop :=
  0 < count ∧ count ≤ reception.wire.length ∧ reception.inbox.bufferOffset_ + count ≤ maxMessageSize

instance (reception : Reception) (count : Nat) : Decidable (reception.Permits count) :=
  inferInstanceAs (Decidable (_ ∧ _ ∧ _))

/-- The frames of `front` were dispatched; those that `remaining` is made of are unread, on the
    wire or, in `future`, not yet sent. -/
structure Tracks (reception : Reception) (front remaining : List Frame) (unread future : List Byte) : Prop where
  dispatched : List.Forall₂ Frame.DecodesTo front reception.dispatched
  stream : unread ++ reception.wire ++ future = Stream.bytes Frame.bytes remaining
  holds : reception.inbox.Holds unread
  short : unread.length < maxMessageSize
  succeeded : reception.failed = false

variable {reception : Reception} {front remaining : List Frame} {unread future : List Byte}

theorem tracks_start (buffer : Field maxMessageSize) (frames : List Frame) :
    (start buffer (Stream.bytes Frame.bytes frames)).Tracks [] frames [] [] where
  dispatched := .nil
  stream := by simp [start]
  holds := Inbox.holds_new buffer
  short := by decide
  succeeded := rfl

/-- One chunk: either no frame is whole yet, or the first of the remaining ones is dispatched. -/
theorem Tracks.readData (tracks : reception.Tracks front remaining unread future) (heap : Heap) {count : Nat}
    (permitted : reception.Permits count) :
    ∃ left, ((reception.readData heap count).Tracks front remaining left future ∧
        left.length = unread.length + count ∧ Stream.completed Frame.bytes remaining left.length = 0) ∨
      ∃ frame rest, remaining = frame :: rest ∧ unread.length + count = frame.bytes.length + left.length ∧
        (reception.readData heap count).Tracks (front ++ [frame]) rest left future := by
  obtain ⟨dispatched, stream, holds, short, succeeded⟩ := tracks
  obtain ⟨positive, available, room⟩ := permitted
  have chunk : (reception.wire.take count).length = count := by simpa using available
  have split : unread ++ reception.wire.take count ++ (reception.wire.drop count ++ future) =
      Stream.bytes Frame.bytes remaining := by
    rw [← stream]
    simp only [List.append_assoc, ← List.append_assoc (reception.wire.take count), List.take_append_drop]
  obtain ⟨handled, next, left, read, nextHolds, leftShort, outcome⟩ :=
    Inbox.readData_frames heap holds (List.ne_nil_of_length_pos (by omega))
      (by rw [holds.2.1] at room; omega) split
  refine ⟨left, ?_⟩
  unfold Reception.readData
  rw [read]
  rcases outcome with ⟨rfl, rfl, none⟩ | ⟨frame, rest, message, behind, rfl, whole, decoded, rfl⟩
  · refine Or.inl ⟨⟨by simpa using dispatched, ?_, nextHolds, leftShort, by simpa using succeeded⟩, ?_, none⟩
    · rw [← split, List.append_assoc (unread ++ reception.wire.take count)]
    · rw [List.length_append, chunk]
  · refine Or.inr ⟨frame, rest, rfl, ?_, ?_, ?_, nextHolds, leftShort, by simpa using succeeded⟩
    · rw [← List.length_append, ← whole, List.length_append, chunk]
    · exact List.rel_append dispatched (.cons ⟨heap, behind, decoded⟩ .nil)
    · rw [whole, Stream.bytes_cons, List.append_assoc] at split
      simpa using List.append_cancel_left split

theorem Tracks.arrive (tracks : reception.Tracks front remaining unread future) {sent later : List Byte}
    (moved : future = sent ++ later) : (reception.arrive sent).Tracks front remaining unread later := by
  obtain ⟨dispatched, stream, holds, short, succeeded⟩ := tracks
  refine ⟨dispatched, ?_, holds, short, succeeded⟩
  rw [← stream, moved]
  simp only [Reception.arrive, List.append_assoc]

theorem Tracks.behind (tracks : reception.Tracks front remaining unread future) (frame : Frame) :
    reception.Tracks front (remaining ++ [frame]) unread (future ++ frame.bytes) := by
  obtain ⟨dispatched, stream, holds, short, succeeded⟩ := tracks
  refine ⟨dispatched, ?_, holds, short, succeeded⟩
  rw [← List.append_assoc, stream, Stream.bytes_append]
  simp

end Reception

end LanMessenger
