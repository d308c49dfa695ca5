import LanMessenger.Messages.Built
import LanMessenger.Session.Frames

namespace LanMessenger

open CMemory

namespace Message

variable {message : Message}

theorem type_received (heap : Heap) (message : Message) : (message.received heap).type = message.type := by
  cases message <;> rfl

theorem ofBytes_frame (limits : message.WithinLimits) : MessageHeader.ofBytes message.frame = message.header := by
  have fits := size_le_maxPayloadSize limits
  simp only [maxPayloadSize, maxMessageSize, messageHeaderSize, commandSize] at fits
  apply MessageHeader.ofBytes_bytes
  · show -2 ^ 31 ≤ (message.size : Int)
    omega
  · show (message.size : Int) < 2 ^ 31
    omega

theorem parseMessage_of_frame (limits : message.WithinLimits) (later : Heap) {inbox : Inbox} {behind : List Byte}
    (stands : inbox.Stands (message.frame ++ behind)) :
    inbox.parseMessage later = .ok (.message (message.received later) (inbox.shift message.frame.length)) := by
  rw [← toFrame_bytes message limits] at stands ⊢
  rcases Inbox.parseMessage_frame later (message.toFrame limits) stands with ⟨parsed, stale, decoded, result⟩
  have copy : fromRawBytes later message.type (message.toRawBytes ++ stale) message.toRawBytes.length =
      .ok (some (message.received later)) := by
    rw [toRawBytes_length]
    exact fromRawBytes_toRawBytes later limits stale
  have same : some parsed = some (message.received later) := Except.ok.inj (decoded.symm.trans copy)
  rw [result, Option.some.inj same]

end Message

namespace Contents

/-- The frame states the size of its payload, which fits; and what is parsed from the bytes that begin with it has the
    type and the values that the object was built from, while the bytes behind it come to the front of the buffer. -/
structure RoundTrips (target : Target) (heap later : Heap) (beyond : List Byte) (contents : Contents) (inbox : Inbox)
    (behind : List Byte) : Prop where
  stated : (MessageHeader.ofBytes (contents.build target heap).frame).size = (contents.build target heap).size
  small : (contents.build target heap).size ≤ maxPayloadSize
  parsed : ∃ received next, inbox.parseMessage later = .ok (.message received next) ∧
    received.type = (contents.build target heap).type ∧ received.read target beyond = contents ∧
    received.StringsEnd ∧ next.Stands behind

/-- The setters' values are those of the parsed message's getters, for every type of message, both targets and any bytes
    behind the frame, but for a file offset that the setter's and the getter's `long` cannot hold. -/
theorem payloadRoundTrip (target : Target) (heap later : Heap) (beyond : List Byte) (contents : Contents)
    (limits : contents.WithinLimits) (inbox : Inbox) (behind : List Byte)
    (stands : inbox.Stands ((contents.build target heap).frame ++ behind)) :
    contents.RoundTrips target heap later beyond inbox behind ↔ contents.FitsLong target := by
  have built : (contents.build target heap).WithinLimits := withinLimits_build limits
  have parsed := Message.parseMessage_of_frame built later stands
  rw [← passed_eq_iff]
  constructor
  · intro roundTrips
    obtain ⟨received, next, parsedToo, -, same, -⟩ := roundTrips.parsed
    rw [parsed] at parsedToo
    cases parsedToo
    exact (read_received limits later beyond).symm.trans same
  · intro same
    refine ⟨?_, Message.size_le_maxPayloadSize built, _, _, parsed, ?_, ?_, ?_, ?_⟩
    · rw [Message.ofBytes_frame built]
      rfl
    · exact Message.type_received later _
    · rw [read_received limits, same]
    · exact stringsEnd_received limits later
    · exact stands.shift

theorem exists_stands (bytes : List Byte) (fits : bytes.length ≤ maxMessageSize) : ∃ inbox : Inbox, inbox.Stands bytes :=
  ⟨_, ((Inbox.holds_new (Field.zero _)).receive (by simpa using fits)).stands⟩

/-- A block of two bytes at an offset beyond 2^32, with the first byte of the next frame behind it. -/
theorem payloadRoundTrip_block :
    let contents := fileData 0x100000001#64 true [65#8, 0#8]
    ∃ inbox : Inbox, inbox.Stands ((contents.build .m64 Heap.zeroed).frame ++ [66#8]) ∧
      contents.RoundTrips .m64 Heap.zeroed Heap.zeroed [] inbox [66#8] := by
  intro contents
  obtain ⟨inbox, stands⟩ := exists_stands ((contents.build .m64 Heap.zeroed).frame ++ [66#8]) (by decide +kernel)
  exact ⟨inbox, stands,
    (payloadRoundTrip .m64 Heap.zeroed Heap.zeroed [] contents (by decide) inbox [66#8] stands).mpr (by decide)⟩

/-- A block at offset 2^31, on a target whose `long` has 32 bits. -/
theorem payloadRoundTrip_farBlock :
    let contents := fileData 0x80000000#64 false [65#8]
    contents.WithinLimits ∧ ∃ inbox : Inbox, inbox.Stands (contents.build .m32 Heap.zeroed).frame ∧
      ∀ beyond, ¬ contents.RoundTrips .m32 Heap.zeroed Heap.zeroed beyond inbox [] := by
  intro contents
  have limits : contents.WithinLimits := by decide
  obtain ⟨inbox, stands⟩ := exists_stands ((contents.build .m32 Heap.zeroed).frame) (by decide +kernel)
  refine ⟨limits, inbox, stands, fun beyond roundTrips => ?_⟩
  obtain ⟨received, next, parsed, -, same, -⟩ := roundTrips.parsed
  have whole : inbox.Stands ((contents.build .m32 Heap.zeroed).frame ++ []) := by simpa using stands
  rw [Message.parseMessage_of_frame (withinLimits_build limits) Heap.zeroed whole] at parsed
  cases parsed
  rw [read_received limits] at same
  exact absurd same (by decide)

end Contents

end LanMessenger
