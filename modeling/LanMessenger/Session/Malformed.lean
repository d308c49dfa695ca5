import LanMessenger.Messages.Decoding
import LanMessenger.Session.ConnectionErrors

namespace LanMessenger

open CMemory

namespace Inbox

/-- A frame of which no message can be made. It has arrived whole, or is longer than any the buffer can hold. -/
structure Malformed (heap : Heap) (inbox : Inbox) : Prop where
  whole : inbox.header.size ≤ maxPayloadSize → inbox.header.size ≤ inbox.bufferOffset_ - messageHeaderSize
  unusable : ∀ type, inbox.header.type = some type → inbox.header.size ≤ maxPayloadSize →
    ¬ ∃ message, Message.fromRawBytes heap type inbox.payload inbox.header.size = .ok (some message)

/-- NULL means that the payload has not arrived whole, and a malformed frame is reported: by `parseMessage`, by the
    `readData` whose chunk completes it, and by the end of the session in the turn of that `readData`, which `writes` too
    or does not. -/
structure Reports (heap : Heap) (writes : Bool) (inbox : Inbox) : Prop where
  null : inbox.parseMessage heap = .ok .null → inbox.bufferOffset_ - messageHeaderSize < inbox.header.size
  invalid : inbox.Malformed heap → inbox.parseMessage heap = .ok .invalid
  read : inbox.Malformed heap → ∀ (before : Inbox) (chunk : List Byte), chunk ≠ [] → 0 ≤ before.bufferOffset_ →
    before.bufferOffset_ + chunk.length ≤ maxMessageSize → before.receive chunk = inbox →
    before.readData heap (some chunk) = .ok (true, [], inbox)
  ends : inbox.Malformed heap → ∀ {τ : Type} (loop next : PollLoop τ) (turn : PollTurn τ) (chunk : List Byte),
    turn.ready = .ready → turn.revents.pollIn = true → turn.revents.pollOut = writes → turn.heap = heap →
    turn.recv = some chunk → chunk ≠ [] → 0 ≤ loop.inbox.bufferOffset_ →
    loop.inbox.bufferOffset_ + chunk.length ≤ maxMessageSize → loop.inbox.receive chunk = inbox →
    loop.pollForData turn = .ok next → next.goesOn = false ∧ next.outbox.disconnectionFlag_ = true

/-- The payload of a known type and of a size within the limit is one its decoder takes, once it has arrived. -/
def TakesPayload (inbox : Inbox) : Prop :=
  ∀ type ∈ inbox.header.type, inbox.header.size ≤ maxPayloadSize →
    inbox.header.size ≤ inbox.bufferOffset_ - messageHeaderSize → type.Decodable inbox.payload inbox.header.size

instance (inbox : Inbox) : Decidable inbox.TakesPayload :=
  inferInstanceAs (Decidable (∀ type ∈ inbox.header.type, _ ≤ _ → _ ≤ _ → type.Decodable inbox.payload inbox.header.size))

structure Unreadable (inbox : Inbox) : Prop where
  whole : inbox.header.size ≤ maxPayloadSize → inbox.header.size ≤ inbox.bufferOffset_ - messageHeaderSize
  header : inbox.header.type = none ∨ maxPayloadSize < inbox.header.size

instance (inbox : Inbox) : Decidable inbox.Unreadable :=
  decidable_of_iff (_ ∧ _) ⟨fun parts => ⟨parts.1, parts.2⟩, fun unreadable => ⟨unreadable.whole, unreadable.header⟩⟩

variable {heap : Heap} {writes : Bool} {inbox : Inbox}

theorem Unreadable.malformed (unreadable : inbox.Unreadable) (heap : Heap) : inbox.Malformed heap := by
  refine ⟨unreadable.whole, fun type known small => ?_⟩
  rcases unreadable.header with unknown | large
  · rw [unknown] at known
    cases known
  · exact absurd small (not_le.mpr large)

theorem Malformed.unreadable (malformed : inbox.Malformed heap) (takes : inbox.TakesPayload) : inbox.Unreadable := by
  refine ⟨malformed.whole, ?_⟩
  cases known : inbox.header.type with
  | none => exact Or.inl rfl
  | some type =>
    right
    by_contra small
    have small := not_lt.mp small
    have decodable := takes type known small (malformed.whole small)
    exact malformed.unusable type known small (Message.fromRawBytes_some_iff.mpr decodable)

theorem Unreadable.parseMessage (unreadable : inbox.Unreadable) (heap : Heap) :
    inbox.parseMessage heap = .ok .invalid := by
  rcases unreadable.header with unknown | large
  · exact parseMessage_unknown unknown
  · exact parseMessage_large large

theorem parseMessage_null (takes : inbox.TakesPayload) (null : inbox.parseMessage heap = .ok .null) :
    inbox.bufferOffset_ - messageHeaderSize < inbox.header.size := by
  by_contra complete
  have complete := not_lt.mp complete
  cases known : inbox.header.type with
  | none =>
    rw [parseMessage_unknown known] at null
    cases null
  | some type =>
    by_cases small : inbox.header.size ≤ maxPayloadSize
    · rcases Message.fromRawBytes_some_iff.mpr (takes type known small complete) with ⟨message, decoded⟩
      rw [parseMessage_accepted known small complete decoded] at null
      cases null
    · rw [parseMessage_large (not_le.mp small)] at null
      cases null

theorem readData_invalid {before : Inbox} {chunk : List Byte} (nonempty : chunk ≠ [])
    (nonnegative : 0 ≤ before.bufferOffset_) (room : before.bufferOffset_ + chunk.length ≤ maxMessageSize)
    (headed : messageHeaderSize ≤ (before.receive chunk).bufferOffset_)
    (invalid : (before.receive chunk).parseMessage heap = .ok .invalid) :
    before.readData heap (some chunk) = .ok (true, [], before.receive chunk) := by
  rcases List.exists_cons_of_ne_nil nonempty with ⟨head, tail, rfl⟩
  simp only [readData]
  rw [if_neg (by omega), if_neg (not_lt.mpr headed), invalid]

theorem ends_of_readFails {τ : Type} {loop next : PollLoop τ} {turn : PollTurn τ} (ready : turn.ready = .ready)
    (reads : turn.revents.pollIn = true) (quiet : turn.revents.pollOut = false) (fails : loop.ReadFails turn)
    (polled : loop.pollForData turn = .ok next) : next.goesOn = false ∧ next.outbox.disconnectionFlag_ = true := by
  rcases PollLoop.received_of_pollForData (by rw [ready]; decide) polled with ⟨read, received, rfl⟩
  have error : (read.written turn).hasError = true := by
    rw [PollLoop.hasError_written, (PollLoop.hasError_received received reads).mpr fails, quiet]
    rfl
  rw [PollLoop.settle_of_error error]
  exact ⟨by rw [PollLoop.goesOn, error]; rfl, rfl⟩

theorem exists_receive (nonempty : 0 < inbox.bufferOffset_) (room : inbox.bufferOffset_ ≤ maxMessageSize) :
    ∃ (before : Inbox) (byte : Byte), 0 ≤ before.bufferOffset_ ∧ before.bufferOffset_ + 1 = inbox.bufferOffset_ ∧
      before.receive [byte] = inbox := by
  rcases inbox with ⟨buffer_, bufferOffset_, receivingQueue_⟩
  have inside : (bufferOffset_ - 1).toNat < buffer_.bytes.length := by
    rw [buffer_.length_bytes]
    dsimp only at nonempty room
    omega
  refine ⟨⟨buffer_, bufferOffset_ - 1, receivingQueue_⟩, buffer_.bytes[(bufferOffset_ - 1).toNat], ?_, ?_, ?_⟩
  · exact Int.le_sub_one_of_lt nonempty
  · exact sub_add_cancel bufferOffset_ 1
  · have same : buffer_.overwrite (buffer_.bytes.take ((bufferOffset_ - 1).toNat + 1)) = buffer_ := by
      ext1
      rw [Field.overwrite_bytes _ (by simp), List.length_take_of_le inside, List.take_append_drop]
    simp only [receive, List.take_append_getElem, same, List.length_singleton, Nat.cast_one, sub_add_cancel]

/-- A write behind the read takes the error back: here the queue holds one letter, which is sent. -/
theorem not_reports_writes (unreadable : inbox.Unreadable) (headed : messageHeaderSize ≤ inbox.bufferOffset_)
    (room : inbox.bufferOffset_ ≤ maxMessageSize) : ¬ inbox.Reports heap true := by
  intro reports
  obtain ⟨before, byte, nonnegative, offset, rfl⟩ := exists_receive (lt_of_lt_of_le (by decide) headed) room
  have invalid := readData_invalid (List.cons_ne_nil byte []) nonnegative (by simpa [offset] using room) headed
    (unreadable.parseMessage heap)
  let loop : PollLoop Unit := ⟨before, ⟨[⟨.hello, ()⟩], false⟩, false, []⟩
  let turn : PollTurn Unit := ⟨.ready, ⟨false, false, false, true, true⟩, heap, some [byte], fun _ outbox => outbox, id⟩
  have polled : loop.pollForData turn = .ok ⟨before.receive [byte], ⟨[], false⟩, false, []⟩ := by
    rw [PollLoop.pollForData_eq (by simp [turn])]
    simp only [PollLoop.received, PollLoop.readData, loop, turn, invalid]
    rfl
  have ended := (reports.ends (unreadable.malformed heap) loop _ turn [byte] rfl rfl rfl rfl rfl (List.cons_ne_nil byte [])
    nonnegative (by simpa [loop, offset] using room) rfl polled).1
  cases ended

/-- The buffers on which a frame that cannot be read is reported, and nothing else is taken for an unfinished frame. -/
theorem malformedReported (heap : Heap) (writes : Bool) (inbox : Inbox)
    (headed : messageHeaderSize ≤ inbox.bufferOffset_) :
    inbox.Reports heap writes ↔
      inbox.TakesPayload ∧ (writes = true → inbox.bufferOffset_ ≤ maxMessageSize → ¬ inbox.Unreadable) := by
  constructor
  · intro reports
    refine ⟨fun type known small complete => ?_, fun writing room unreadable => ?_⟩
    · by_contra undecodable
      have unusable : ¬ ∃ message, Message.fromRawBytes heap type inbox.payload inbox.header.size = .ok (some message) :=
        mt Message.fromRawBytes_some_iff.mp undecodable
      have invalid := reports.invalid ⟨fun _ => complete, fun other same _ => by
        rw [known] at same
        cases same
        exact unusable⟩
      cases decoded : Message.fromRawBytes heap type inbox.payload inbox.header.size with
      | error undefined =>
        rw [parseMessage_undefined known small complete decoded] at invalid
        cases invalid
      | ok result =>
        cases result with
        | none =>
          rw [parseMessage_refused known small complete decoded] at invalid
          cases invalid
        | some message => exact unusable ⟨message, decoded⟩
    · subst writing
      exact not_reports_writes unreadable headed room reports
  · rintro ⟨takes, kept⟩
    refine ⟨parseMessage_null takes, fun malformed => (malformed.unreadable takes).parseMessage heap, ?_, ?_⟩
    · rintro malformed before chunk nonempty nonnegative room rfl
      exact readData_invalid nonempty nonnegative room headed ((malformed.unreadable takes).parseMessage heap)
    · rintro malformed τ loop next turn chunk ready reads rfl rfl arrived nonempty nonnegative room rfl polled
      have unreadable := malformed.unreadable takes
      have quiet : turn.revents.pollOut = false := by
        by_contra out
        exact kept (eq_true_of_ne_false out) room unreadable
      have invalid := readData_invalid nonempty nonnegative room headed (unreadable.parseMessage turn.heap)
      exact ends_of_readFails ready reads quiet ⟨[], _, by rw [arrived]; exact invalid⟩ polled

def arrived (frame : List Byte) : Inbox := (new (Field.zero _)).receive frame

def unknownCommand : List Byte := ascii ['F', 'O', 'O'] ++ [0#8] ++ intBytes 0

/-- An unknown command, and a `NICKNAME` that says it has 1441 bytes: both are malformed, and both are reported. -/
theorem malformedReported_unknown :
    ((arrived unknownCommand).Malformed Heap.zeroed ∧ (arrived unknownCommand).Reports Heap.zeroed false) ∧
      (arrived (MessageType.nickname.header 1441).bytes).Malformed Heap.zeroed ∧
      (arrived (MessageType.nickname.header 1441).bytes).Reports Heap.zeroed false := by
  have reported : ∀ frame ∈ [unknownCommand, (MessageType.nickname.header 1441).bytes],
      (arrived frame).Malformed Heap.zeroed ∧ (arrived frame).Reports Heap.zeroed false := by
    have checked : ∀ frame ∈ [unknownCommand, (MessageType.nickname.header 1441).bytes],
        messageHeaderSize ≤ (arrived frame).bufferOffset_ ∧ (arrived frame).Unreadable ∧ (arrived frame).TakesPayload := by
      decide +kernel
    intro frame member
    obtain ⟨headed, unreadable, takes⟩ := checked frame member
    refine ⟨unreadable.malformed Heap.zeroed, ?_⟩
    exact (malformedReported Heap.zeroed false (arrived frame) headed).mpr ⟨takes, fun writes => by cases writes⟩
  exact ⟨reported _ (by simp), reported _ (by simp)⟩

/-- A `NICKNAME` frame with one byte of payload, whole: `parseMessage` returns NULL. -/
theorem malformedReported_shortName :
    ∃ inbox : Inbox, messageHeaderSize ≤ inbox.bufferOffset_ ∧ inbox.Malformed Heap.zeroed ∧
      inbox.parseMessage Heap.zeroed = .ok .null ∧ ∀ writes, ¬ inbox.Reports Heap.zeroed writes := by
  obtain ⟨inbox, same⟩ : ∃ inbox, inbox = arrived ((MessageType.nickname.header 1).bytes ++ [65#8]) := ⟨_, rfl⟩
  have known : inbox.header.type = some .nickname := by
    rw [same]
    decide +kernel
  have size : inbox.header.size = 1 := by
    rw [same]
    decide +kernel
  have offset : inbox.bufferOffset_ = 9 := by
    rw [same]
    decide +kernel
  have complete : inbox.header.size ≤ inbox.bufferOffset_ - messageHeaderSize := by
    rw [size, offset]
    decide
  have refused : Message.fromRawBytes Heap.zeroed .nickname inbox.payload inbox.header.size = .ok none := by
    rw [size]
    rfl
  have null := parseMessage_refused known (by rw [size]; decide) complete refused
  refine ⟨inbox, by rw [offset]; decide, ⟨fun _ => complete, fun type typed _ => ?_⟩, null, fun writes reports => ?_⟩
  · rw [known] at typed
    cases typed
    rw [refused]
    simp
  · exact absurd (reports.null null) (not_lt.mpr complete)

end Inbox

end LanMessenger
