import LanMessenger.Session.RoundTrips
import LanMessenger.Session.Delivery

namespace LanMessenger

open CMemory

/-- One direction of a connection: the bytes on the way, and the receiving session. `origins` has the marks of the
letters whose bytes are on the way, which the code does not send. -/
structure Cable where
  wire : List Byte
  inbox : Inbox
  origins : List Nat
  failed : Bool

namespace Cable

def new (buffer_ : Field maxMessageSize) : Cable := ⟨[], .new buffer_, [], false⟩

def writeData (letter : Letter Nat) (sent : Nat) (cable : Cable) : Cable :=
  { cable with
    wire := cable.wire ++ letter.message.frame.take sent
    origins := cable.origins ++ [letter.origin] }

/-- `recv` returns between one byte and as many as are there and as it was asked for. -/
def Permits (cable : Cable) (count : Nat) : Prop :=
  0 < count ∧ count ≤ cable.wire.length ∧ cable.inbox.bufferOffset_ + count ≤ maxMessageSize

instance (cable : Cable) (count : Nat) : Decidable (cable.Permits count) := inferInstanceAs (Decidable (_ ∧ _ ∧ _))

def readData (heap : Heap) (count : Nat) (cable : Cable) : List (Letter Nat) × Cable :=
  match cable.inbox.readData heap (some (cable.wire.take count)) with
  | .error _ => ([], { cable with failed := true })
  | .ok (error, handled, inbox) =>
    (handled.mapIdx fun index message => ⟨message, cable.origins.getD index 0⟩,
      { wire := cable.wire.drop count
        inbox
        origins := cable.origins.drop handled.length
        failed := cable.failed || error })

structure Carries (cable : Cable) (letters : List (Letter Nat)) : Prop where
  limits : ∀ letter ∈ letters, letter.message.WithinLimits
  stream : ∃ unread, cable.inbox.Holds unread ∧ unread.length < maxMessageSize ∧
    unread ++ cable.wire = Stream.bytes Message.frame (letters.map Letter.message)
  origins : cable.origins = letters.map Letter.origin
  succeeded : cable.failed = false

variable {cable : Cable} {letters : List (Letter Nat)}

theorem carries_new (buffer_ : Field maxMessageSize) : (new buffer_).Carries [] :=
  ⟨fun _ member => (List.not_mem_nil member).elim, ⟨[], Inbox.holds_new buffer_, by decide, rfl⟩, rfl, rfl⟩

theorem Carries.writeData (carries : cable.Carries letters) {letter : Letter Nat} (limits : letter.message.WithinLimits)
    {sent : Nat} (whole : letter.message.frame.length ≤ sent) : (cable.writeData letter sent).Carries (letters ++ [letter]) := by
  rcases carries with ⟨before, ⟨unread, holds, short, stream⟩, origins, succeeded⟩
  refine ⟨fun other member => ?_, ⟨unread, holds, short, ?_⟩, ?_, succeeded⟩
  · rcases List.mem_append.mp member with earlier | now
    · exact before other earlier
    · rw [List.mem_singleton.mp now]
      exact limits
  · rw [Cable.writeData, List.take_of_length_le whole, ← List.append_assoc, stream, List.map_append, Stream.bytes_append,
      List.map_singleton, Stream.bytes_cons, Stream.bytes_nil, List.append_nil]
  · rw [Cable.writeData, origins, List.map_append, List.map_singleton]

theorem frames_of_limits (limits : ∀ letter ∈ letters, letter.message.WithinLimits) :
    ∃ frames : List Frame, Stream.bytes Frame.bytes frames = Stream.bytes Message.frame (letters.map Letter.message) ∧
      ∀ letter rest, letters = letter :: rest → ∃ short behind, frames = letter.message.toFrame short :: behind ∧
        Stream.bytes Frame.bytes behind = Stream.bytes Message.frame (rest.map Letter.message) := by
  induction letters with
  | nil => exact ⟨[], rfl, fun letter rest same => by cases same⟩
  | cons letter rest ih =>
    rcases ih fun other member => limits other (List.mem_cons_of_mem _ member) with ⟨behind, same, -⟩
    have short := limits letter List.mem_cons_self
    refine ⟨letter.message.toFrame short :: behind, ?_, fun first others parts => ?_⟩
    · rw [List.map_cons, Stream.bytes_cons, Stream.bytes_cons, same, Message.toFrame_bytes]
    · cases parts
      exact ⟨short, behind, rfl, same⟩

/-- One chunk: either no frame is whole yet, or the first of the letters is handled. -/
theorem Carries.readData (carries : cable.Carries letters) (heap : Heap) {count : Nat} (permitted : cable.Permits count) :
    ((cable.readData heap count).1 = [] ∧ (cable.readData heap count).2.Carries letters) ∨
      ∃ letter rest, letters = letter :: rest ∧
        (cable.readData heap count).1 = [⟨letter.message.received heap, letter.origin⟩] ∧
        (cable.readData heap count).2.Carries rest := by
  rcases carries with ⟨limits, ⟨unread, holds, short, stream⟩, origins, succeeded⟩
  rcases permitted with ⟨positive, available, room⟩
  rcases frames_of_limits limits with ⟨frames, same, parts⟩
  have length : (cable.wire.take count).length = count := List.length_take_of_le available
  have split : unread ++ cable.wire.take count ++ cable.wire.drop count = Stream.bytes Frame.bytes frames := by
    rw [List.append_assoc, List.take_append_drop, stream, same]
  rcases Inbox.readData_frames heap holds (List.ne_nil_of_length_pos (by omega)) (by rw [holds.2.1] at room; omega) split with
    ⟨handled, next, left, read, nextHolds, leftShort, ⟨rfl, whole, -⟩ | ⟨frame, behind, message, stale, parted, whole, decoded, rfl⟩⟩
  · left
    simp only [Cable.readData, read]
    refine ⟨rfl, limits, ⟨left, nextHolds, leftShort, ?_⟩, origins, ?_⟩
    · rw [whole, split, same]
    · rw [succeeded]
      rfl
  · right
    cases letters with
    | nil =>
      rw [same] at split
      have empty : cable.wire.take count = [] := (List.append_eq_nil_iff.mp (List.append_eq_nil_iff.mp split).1).2
      rw [empty, List.length_nil] at length
      omega
    | cons letter rest =>
      rcases parts letter rest rfl with ⟨fits, others, front, later⟩
      rw [front] at parted
      cases parted
      have copy : Message.fromRawBytes heap letter.message.type (letter.message.toRawBytes ++ stale)
          letter.message.toRawBytes.length = .ok (some (letter.message.received heap)) := by
        rw [Message.toRawBytes_length]
        exact Message.fromRawBytes_toRawBytes heap fits stale
      have equal : message = letter.message.received heap := Option.some.inj (Except.ok.inj (decoded.symm.trans copy))
      refine ⟨letter, rest, rfl, ?_⟩
      simp only [Cable.readData, read, equal, origins]
      refine ⟨rfl, fun other member => limits other (List.mem_cons_of_mem _ member), ⟨left, nextHolds, leftShort, ?_⟩, rfl, ?_⟩
      · rw [whole, front, Stream.bytes_cons, List.append_assoc] at split
        rw [List.append_cancel_left split, later]
      · rw [succeeded]
        rfl

end Cable

end LanMessenger
