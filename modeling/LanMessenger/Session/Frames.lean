import LanMessenger.Messages.RoundTrip
import LanMessenger.Session.SessionBase
import LanMessenger.Stream.Framing

namespace LanMessenger

open CMemory

/-- A frame whose payload the decoder of its type accepts and consumes whole. -/
structure Frame where
  type : MessageType
  payload : List Byte
  fits : payload.length ≤ maxPayloadSize
  decodes : ∀ (heap : Heap) (behind : List Byte), ∃ message,
    Message.fromRawBytes heap type (payload ++ behind) payload.length = .ok (some message) ∧
      message.size = payload.length

theorem MessageHeader.ofBytes_bytes (header : MessageHeader) (low : -2 ^ 31 ≤ header.size)
    (high : header.size < 2 ^ 31) (rest : List Byte) : ofBytes (header.bytes ++ rest) = header := by
  obtain ⟨command, size⟩ := header
  simp only [ofBytes, bytes, List.append_assoc, Field.ofBytes_append]
  rw [List.drop_left' (by simp), List.take_left' (by simp), int_intBytes size low high]

@[simp] theorem MessageHeader.bytes_length (header : MessageHeader) : header.bytes.length = messageHeaderSize := by
  simp [bytes]

namespace Frame

def bytes (frame : Frame) : List Byte := (frame.type.header frame.payload.length).bytes ++ frame.payload

@[simp] theorem bytes_length (frame : Frame) :
    frame.bytes.length = messageHeaderSize + frame.payload.length := by simp [bytes]

theorem bytes_length_le (frame : Frame) : frame.bytes.length ≤ maxMessageSize := by
  have fits := frame.fits
  simp at fits ⊢
  omega

theorem ofBytes_header (frame : Frame) (rest : List Byte) :
    MessageHeader.ofBytes ((frame.type.header frame.payload.length).bytes ++ rest) =
      frame.type.header frame.payload.length := by
  have fits := frame.fits
  simp at fits
  apply MessageHeader.ofBytes_bytes
  · show -2 ^ 31 ≤ (frame.payload.length : Int)
    omega
  · show (frame.payload.length : Int) < 2 ^ 31
    omega

end Frame

def Message.toFrame (message : Message) (limits : message.WithinLimits) : Frame where
  type := message.type
  payload := message.toRawBytes
  fits := by simpa using size_le_maxPayloadSize limits
  decodes heap behind := ⟨message.received heap, by simpa using fromRawBytes_toRawBytes heap limits behind, by simp⟩

theorem Message.toFrame_bytes (message : Message) (limits : message.WithinLimits) :
    (message.toFrame limits).bytes = message.frame := by
  simp [Frame.bytes, toFrame, frame, header]

namespace Inbox

/-- The unread bytes stand at the start of the buffer. -/
def Stands (inbox : Inbox) (unread : List Byte) : Prop :=
  (∃ stale, inbox.buffer_.bytes = unread ++ stale) ∧ inbox.bufferOffset_ = unread.length

/-- Between two reads: the unread bytes stand at the start of the buffer, and no message waits in
    `receivingQueue_`. -/
def Holds (inbox : Inbox) (unread : List Byte) : Prop :=
  (∃ stale, inbox.buffer_.bytes = unread ++ stale) ∧ inbox.bufferOffset_ = unread.length ∧
    inbox.receivingQueue_ = []

theorem Holds.unread_eq {inbox : Inbox} {unread : List Byte} (holds : inbox.Holds unread) :
    inbox.unread = unread := by
  obtain ⟨⟨stale, buffer⟩, offset, -⟩ := holds
  rw [Inbox.unread, buffer, offset]
  simp

theorem holds_new (buffer : Field maxMessageSize) : (new buffer).Holds [] :=
  ⟨⟨buffer.bytes, rfl⟩, rfl, rfl⟩

theorem Holds.stands {inbox : Inbox} {unread : List Byte} (holds : inbox.Holds unread) : inbox.Stands unread :=
  ⟨holds.1, holds.2.1⟩

theorem Stands.shift {inbox : Inbox} {front rest : List Byte} (stands : inbox.Stands (front ++ rest)) :
    (inbox.shift front.length).Stands rest := by
  obtain ⟨⟨stale, buffer⟩, offset⟩ := stands
  have length := congrArg List.length buffer
  simp only [Field.length_bytes, List.length_append] at length
  refine ⟨⟨stale ++ List.replicate front.length 0#8, ?_⟩, ?_⟩
  · simp only [Inbox.shift, Field.ofBytes, buffer]
    rw [List.append_assoc, List.drop_left' rfl, List.append_assoc, List.take_append,
      List.take_of_length_le (by omega), List.take_append, List.take_of_length_le (by omega), List.take_replicate]
    congr 3
    omega
  · simp only [Inbox.shift, offset, List.length_append]
    omega

theorem Holds.shift {inbox : Inbox} {front rest : List Byte} (holds : inbox.Holds (front ++ rest)) :
    (inbox.shift front.length).Holds rest :=
  ⟨holds.stands.shift.1, holds.stands.shift.2, holds.2.2⟩

theorem header_of_buffer {inbox : Inbox} (frame : Frame) {behind : List Byte}
    (buffer : inbox.buffer_.bytes = (frame.type.header frame.payload.length).bytes ++ behind) :
    inbox.header.type = some frame.type ∧ inbox.header.size = frame.payload.length := by
  rw [header, buffer, frame.ofBytes_header, MessageType.header_type]
  exact ⟨rfl, rfl⟩

theorem parseMessage_frame (heap : Heap) {inbox : Inbox} (frame : Frame) {rest : List Byte}
    (stands : inbox.Stands (frame.bytes ++ rest)) :
    ∃ message behind, Message.fromRawBytes heap frame.type (frame.payload ++ behind) frame.payload.length =
        .ok (some message) ∧
      inbox.parseMessage heap = .ok (.message message (inbox.shift frame.bytes.length)) := by
  obtain ⟨⟨stale, buffer⟩, offset⟩ := stands
  have fits := frame.fits
  obtain ⟨message, decoded, size⟩ := frame.decodes heap (rest ++ stale)
  refine ⟨message, rest ++ stale, decoded, ?_⟩
  have payload : inbox.payload = frame.payload ++ (rest ++ stale) := by
    rw [Inbox.payload, buffer, Frame.bytes, List.append_assoc, List.append_assoc, List.drop_left' (by simp)]
  obtain ⟨known, declared⟩ := header_of_buffer frame (by rw [buffer, Frame.bytes, List.append_assoc, List.append_assoc])
  have complete : inbox.header.size ≤ inbox.bufferOffset_ - messageHeaderSize := by
    rw [declared, offset, List.length_append, Frame.bytes_length]
    push_cast
    omega
  rw [parseMessage_accepted known (by rw [declared]; omega) complete (by rw [payload, declared]; exact decoded), size,
    Frame.bytes_length]

theorem parseMessage_partial (heap : Heap) {inbox : Inbox} (frame : Frame) {unread missing : List Byte}
    (holds : inbox.Holds unread) (front : frame.bytes = unread ++ missing) (nonempty : missing ≠ [])
    (headed : messageHeaderSize ≤ unread.length) : inbox.parseMessage heap = .ok .null := by
  obtain ⟨⟨stale, buffer⟩, offset, -⟩ := holds
  have fits := frame.fits
  have positive := List.length_pos_of_ne_nil nonempty
  have length := congrArg List.length front
  simp only [Frame.bytes_length, List.length_append] at length
  obtain ⟨read, split⟩ : (frame.type.header frame.payload.length).bytes <+: unread :=
    List.prefix_of_prefix_length_le (List.prefix_append _ frame.payload)
      ⟨missing, front.symm⟩ (by simpa using headed)
  obtain ⟨known, declared⟩ := header_of_buffer frame (by rw [buffer, ← split, List.append_assoc])
  exact parseMessage_waits known (by rw [declared]; omega) (by rw [declared, offset]; omega)

theorem Holds.receive {inbox : Inbox} {unread chunk : List Byte} (holds : inbox.Holds unread)
    (room : unread.length + chunk.length ≤ maxMessageSize) : (inbox.receive chunk).Holds (unread ++ chunk) := by
  obtain ⟨⟨stale, buffer⟩, offset, queue⟩ := holds
  have start : inbox.buffer_.bytes.take inbox.bufferOffset_.toNat = unread := by
    rw [offset, Int.toNat_natCast, buffer, List.take_left' rfl]
  refine ⟨⟨inbox.buffer_.bytes.drop (unread ++ chunk).length, ?_⟩, ?_, queue⟩
  · rw [Inbox.receive, start]
    exact Field.overwrite_bytes _ (by simpa using room)
  · simp [Inbox.receive, offset]

theorem readData_chunk (heap : Heap) {inbox : Inbox} {unread chunk : List Byte} (holds : inbox.Holds unread)
    (nonempty : chunk ≠ []) (room : unread.length + chunk.length ≤ maxMessageSize) :
    inbox.readData heap (some chunk) =
      if (inbox.receive chunk).bufferOffset_ < messageHeaderSize then .ok (false, [], inbox.receive chunk)
      else
        match (inbox.receive chunk).parseMessage heap with
        | .error undefined => .error undefined
        | .ok .null => .ok (false, [], inbox.receive chunk)
        | .ok .invalid => .ok (true, [], inbox.receive chunk)
        | .ok (.message message inbox) =>
          .ok (false, message :: inbox.receivingQueue_.reverse, { inbox with receivingQueue_ := [] }) := by
  obtain ⟨head, tail, rfl⟩ := List.exists_cons_of_ne_nil nonempty
  have inside : ¬ (inbox.bufferOffset_ < 0 ∨ maxMessageSize < inbox.bufferOffset_ + (head :: tail).length) := by
    rw [holds.2.1]
    omega
  simp only [readData, if_neg inside]
  by_cases short : (inbox.receive (head :: tail)).bufferOffset_ < messageHeaderSize
  · rw [if_pos short, if_pos short]
  · rw [if_neg short, if_neg short]
    cases (inbox.receive (head :: tail)).parseMessage heap with
    | error undefined => rfl
    | ok parsed =>
      cases parsed with
      | null | invalid => rfl
      | message message inbox => simp only [availableMessages_eq, List.reverse_append, List.reverse_cons, List.reverse_nil,
          List.nil_append, List.cons_append]

/-- One `readData` on a stream of frames. No error; when the first frame is in hand whole it is
    handled, and of the frames behind it none. -/
theorem readData_frames (heap : Heap) {inbox : Inbox} {unread chunk future : List Byte} {frames : List Frame}
    (holds : inbox.Holds unread) (nonempty : chunk ≠ [])
    (room : unread.length + chunk.length ≤ maxMessageSize)
    (stream : unread ++ chunk ++ future = Stream.bytes Frame.bytes frames) :
    ∃ handled next left, inbox.readData heap (some chunk) = .ok (false, handled, next) ∧ next.Holds left ∧
      left.length < maxMessageSize ∧
      ((handled = [] ∧ left = unread ++ chunk ∧ Stream.completed Frame.bytes frames left.length = 0) ∨
        ∃ frame rest message behind, frames = frame :: rest ∧ unread ++ chunk = frame.bytes ++ left ∧
          Message.fromRawBytes heap frame.type (frame.payload ++ behind) frame.payload.length =
            .ok (some message) ∧ handled = [message]) := by
  have received := holds.receive room
  cases frames with
  | nil =>
    simp only [Stream.bytes_nil, List.append_eq_nil_iff] at stream
    exact absurd stream.1.2 nonempty
  | cons frame rest =>
    rw [readData_chunk heap holds nonempty room, received.2.1]
    rcases Stream.front_of_stream stream with ⟨left, whole, -⟩ | ⟨missing, missingSome, whole⟩
    · -- the first frame is whole
      rw [whole] at received
      obtain ⟨message, stale, decoded, parsed⟩ := parseMessage_frame heap frame received.stands
      have after := received.shift
      have length := congrArg List.length whole
      simp only [List.length_append, Frame.bytes_length] at length
      have shorter : left.length < maxMessageSize := by
        simp only [maxMessageSize, messageHeaderSize, commandSize] at length room ⊢
        omega
      refine ⟨[message], (inbox.receive chunk).shift frame.bytes.length, left, ?_, after, shorter,
        Or.inr ⟨frame, rest, message, stale, rfl, whole, decoded, rfl⟩⟩
      rw [if_neg (by simp only [List.length_append]; omega), parsed]
      simp only [after.2.2, List.reverse_nil]
      rw [← after.2.2]
    · -- the first frame is still incomplete
      have positive := List.length_pos_of_ne_nil missingSome
      have length := congrArg List.length whole
      have frameSize := frame.bytes_length_le
      rw [List.length_append] at length
      have none : Stream.completed Frame.bytes (frame :: rest) (unread ++ chunk).length = 0 := by
        rw [Stream.completed, if_neg (by omega)]
      refine ⟨[], inbox.receive chunk, unread ++ chunk, ?_, received, by omega, Or.inl ⟨rfl, rfl, none⟩⟩
      by_cases headed : messageHeaderSize ≤ (unread ++ chunk).length
      · rw [if_neg (by omega), parseMessage_partial heap frame received whole missingSome headed]
      · rw [if_pos (by omega)]

end Inbox

end LanMessenger
