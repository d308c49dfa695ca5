import LanMessenger.Messages.Decoding
import LanMessenger.Session.SessionBase
import LanMessenger.Transition.Runs

namespace LanMessenger

open CMemory Transition

namespace Inbox

/-- A message that `parseMessage` returns has the size its header declares, and exactly its frame
    has left the buffer. After an undefined operation nothing is promised. -/
def ConsumesDeclared (heap : Heap) (inbox : Inbox) : Prop :=
  match inbox.parseMessage heap with
  | .error _ => False
  | .ok (.message message next) =>
    0 ≤ inbox.header.size ∧ inbox.header.size ≤ maxPayloadSize ∧ message.size = inbox.header.size ∧
      next.bufferOffset_ = inbox.bufferOffset_ - (messageHeaderSize + inbox.header.size) ∧
      next.unread = inbox.unread.drop (messageHeaderSize + inbox.header.size.toNat)
  | .ok _ => True

def DecodesSize (size : Int) : Except Undefined (Option Message) → Prop
  | .error _ => False
  | .ok none => True
  | .ok (some message) => 0 ≤ size ∧ message.size = size

/-- The size that was checked is the one the decoder of the type will consume, or one it refuses. -/
def DecodedLengthAgrees (size : Int) (payload : List Byte) : MessageType → Prop
  | .status | .nickname => True
  | .hello | .bye => size = 0
  | .chat =>
    let inner := int ((payload.drop maxNicknameSize).take 4)
    size = maxNicknameSize + 4 + inner → inner ≤ chatMessageFieldSize
  | .fileRequest => size ≤ FileTransferMessage.size
  | .fileData => 16 ≤ size → size = 16 + int ((payload.drop 12).take 4)

instance (size : Int) (payload : List Byte) (type : MessageType) :
    Decidable (DecodedLengthAgrees size payload type) :=
  match type with
  | .status | .nickname => inferInstanceAs (Decidable True)
  | .hello | .bye => inferInstanceAs (Decidable (size = 0))
  | .chat => inferInstanceAs (Decidable (size = _ → _ ≤ (chatMessageFieldSize : Int)))
  | .fileRequest => inferInstanceAs (Decidable (size ≤ FileTransferMessage.size))
  | .fileData => inferInstanceAs (Decidable (16 ≤ size → size = _))

/-- Once the declared payload is in the buffer, the lengths inside it agree with the declared one. -/
def LengthsAgree (inbox : Inbox) : Prop :=
  inbox.header.size ≤ maxPayloadSize → inbox.header.size ≤ inbox.bufferOffset_ - messageHeaderSize →
    ∀ type ∈ inbox.header.type, DecodedLengthAgrees inbox.header.size inbox.payload type

instance (inbox : Inbox) : Decidable inbox.LengthsAgree :=
  inferInstanceAs (Decidable (_ ≤ _ → _ ≤ _ → ∀ type ∈ inbox.header.type,
    DecodedLengthAgrees inbox.header.size inbox.payload type))

theorem shift_unread {inbox : Inbox} {front : Nat} (within : (front : Int) ≤ inbox.bufferOffset_)
    (bounded : inbox.bufferOffset_ ≤ maxMessageSize) : (inbox.shift front).unread = inbox.unread.drop front := by
  obtain ⟨⟨bytes, length⟩, offset, queue⟩ := inbox
  simp only [maxMessageSize] at within bounded length
  have left : (offset - front).toNat = offset.toNat - front := by omega
  simp only [Inbox.unread, Inbox.shift, Field.ofBytes, left, maxMessageSize]
  rw [List.take_take, Nat.min_eq_left (by omega), List.take_append_of_le_length (by simp; omega), List.drop_take]

theorem consumesDeclared_iff_decodesSize (heap : Heap) {inbox : Inbox} {type : MessageType}
    (bounded : inbox.bufferOffset_ ≤ maxMessageSize) (known : inbox.header.type = some type)
    (small : inbox.header.size ≤ maxPayloadSize)
    (complete : inbox.header.size ≤ inbox.bufferOffset_ - messageHeaderSize) :
    inbox.ConsumesDeclared heap ↔
      DecodesSize inbox.header.size (Message.fromRawBytes heap type inbox.payload inbox.header.size) := by
  unfold ConsumesDeclared
  cases decoded : Message.fromRawBytes heap type inbox.payload inbox.header.size with
  | error undefined =>
    rw [parseMessage_undefined known small complete decoded]
    rfl
  | ok result =>
    cases result with
    | none =>
      rw [parseMessage_refused known small complete decoded]
      rfl
    | some message =>
      rw [parseMessage_accepted known small complete decoded]
      constructor
      · exact fun all => ⟨all.1, all.2.2.1⟩
      · rintro ⟨nonnegative, same⟩
        refine ⟨nonnegative, small, same, ?_, ?_⟩
        · simp only [Inbox.shift]
          omega
        · rw [shift_unread (by omega) bounded]
          congr 1
          omega

theorem decodedLengthAgrees_iff {payload : List Byte} {size : Int} (type : MessageType)
    (long : payload.length = maxPayloadSize) (small : size ≤ maxPayloadSize) :
    DecodedLengthAgrees size payload type ↔
      type.Refused payload size ∨ (type.Decodable payload size ∧ 0 ≤ size ∧ type.decodedSize payload = size) := by
  simp only [maxPayloadSize, maxMessageSize, messageHeaderSize, commandSize] at long small
  cases type with
  | status =>
    simp only [DecodedLengthAgrees, MessageType.Refused, MessageType.Decodable, MessageType.decodedSize,
      StatusMessage.size, true_iff]
    omega
  | nickname =>
    simp only [DecodedLengthAgrees, MessageType.Refused, MessageType.Decodable, MessageType.decodedSize,
      NicknameMessage.size, nicknameFieldSize, maxNicknameSize, true_iff]
    omega
  | hello =>
    simp only [DecodedLengthAgrees, MessageType.Refused, MessageType.Decodable, MessageType.decodedSize, false_or,
      true_and]
    omega
  | bye =>
    simp only [DecodedLengthAgrees, MessageType.Refused, MessageType.Decodable, MessageType.decodedSize, false_or,
      true_and]
    omega
  | chat =>
    show (size = 40 + ChatMessage.innerSize payload → ChatMessage.innerSize payload ≤ chatMessageFieldSize) ↔ _
    simp only [MessageType.Refused, MessageType.Decodable, MessageType.decodedSize, chatMessageFieldSize,
      maxChatMessageSize]
    omega
  | fileRequest =>
    simp only [DecodedLengthAgrees, MessageType.Refused, MessageType.Decodable, MessageType.decodedSize,
      FileTransferMessage.size]
    omega
  | fileData =>
    show (16 ≤ size → size = 16 + FileDataMessage.innerSize payload) ↔ _
    simp only [MessageType.Refused, MessageType.Decodable, MessageType.decodedSize]
    omega

theorem decodesSize_iff (heap : Heap) {payload : List Byte} {size : Int} (type : MessageType)
    (long : payload.length = maxPayloadSize) (small : size ≤ maxPayloadSize) :
    DecodesSize size (Message.fromRawBytes heap type payload size) ↔ DecodedLengthAgrees size payload type := by
  rw [decodedLengthAgrees_iff type long small]
  rcases Message.fromRawBytes_cases heap payload size type with
    ⟨refused, decoded⟩ | ⟨decodable, message, decoded, made⟩ | ⟨passes, undecodable, undefined, decoded⟩
  · rw [decoded]
    exact iff_of_true trivial (Or.inl refused)
  · have passes := MessageType.not_refused_of_decodable decodable
    simp only [decoded, DecodesSize, made, passes, decodable, false_or, true_and]
  · rw [decoded]
    exact iff_of_false id fun agrees => undecodable (agrees.resolve_left passes).1

theorem consumesDeclared_iff_lengthsAgree (heap : Heap) {inbox : Inbox}
    (bounded : inbox.bufferOffset_ ≤ maxMessageSize) : inbox.ConsumesDeclared heap ↔ inbox.LengthsAgree := by
  by_cases small : inbox.header.size ≤ maxPayloadSize
  · by_cases complete : inbox.header.size ≤ inbox.bufferOffset_ - messageHeaderSize
    · cases known : inbox.header.type with
      | none => simp [ConsumesDeclared, LengthsAgree, parseMessage_unknown known, known]
      | some type =>
        rw [consumesDeclared_iff_decodesSize heap bounded known small complete,
          decodesSize_iff heap type (by simp [payload]) small]
        simp only [LengthsAgree, known, small, complete, true_implies, Option.mem_def, Option.some.injEq,
          forall_eq']
    · have agree : inbox.LengthsAgree := fun _ present => absurd present complete
      rcases parseMessage_incomplete heap (not_le.mp complete) with parsed | parsed
      · simp [ConsumesDeclared, parsed, agree]
      · simp [ConsumesDeclared, parsed, agree]
  · have agree : inbox.LengthsAgree := fun declared => absurd declared small
    simp [ConsumesDeclared, parseMessage_large (not_le.mp small), agree]

/-- `recv` fails, or stores no more bytes than `MAX_MESSAGE_SIZE - bufferOffset_`. -/
def Permits (inbox : Inbox) (recv : Option (List Byte)) : Prop :=
  ∀ chunk ∈ recv, inbox.bufferOffset_ + chunk.length ≤ maxMessageSize

instance (inbox : Inbox) (recv : Option (List Byte)) : Decidable (inbox.Permits recv) :=
  inferInstanceAs (Decidable (∀ chunk ∈ recv, inbox.bufferOffset_ + chunk.length ≤ maxMessageSize))

/-- The next `readData`. Nothing follows an undefined operation. -/
def readStep (reader : Except Undefined Inbox) (call : Heap × Option (List Byte)) :
    Option (Except Undefined Inbox) :=
  match reader with
  | .error _ => none
  | .ok inbox =>
    if inbox.Permits call.2 then some ((inbox.readData call.1 call.2).map fun result => result.2.2) else none

/-- If the call gets as far as `parseMessage`, the lengths in the buffer agree. -/
def ReadsAgreeing (reader : Except Undefined Inbox) (call : Heap × Option (List Byte)) : Prop :=
  ∀ inbox chunk, reader = .ok inbox → call.2 = some chunk → chunk ≠ [] →
    messageHeaderSize ≤ (inbox.receive chunk).bufferOffset_ → (inbox.receive chunk).LengthsAgree

def Bounded (inbox : Inbox) : Prop := 0 ≤ inbox.bufferOffset_ ∧ inbox.bufferOffset_ ≤ maxMessageSize

theorem availableMessages_bounded {inbox : Inbox} (bounded : inbox.Bounded) : inbox.availableMessages.2.Bounded := by
  rw [availableMessages_eq]
  exact bounded

theorem parseMessage_bounded {heap : Heap} {inbox next : Inbox} {message : Message} (bounded : inbox.Bounded)
    (agree : inbox.LengthsAgree) (parsed : inbox.parseMessage heap = .ok (.message message next)) :
    next.Bounded := by
  have consumes := (consumesDeclared_iff_lengthsAgree heap bounded.2).mpr agree
  have complete : inbox.header.size ≤ inbox.bufferOffset_ - messageHeaderSize := by
    by_contra waits
    rcases parseMessage_incomplete heap (not_le.mp waits) with unparsed | unparsed
    · rw [unparsed] at parsed
      cases parsed
    · rw [unparsed] at parsed
      cases parsed
  simp only [ConsumesDeclared, parsed] at consumes
  obtain ⟨nonnegative, -, -, offset, -⟩ := consumes
  have upper := bounded.2
  constructor <;> rw [offset] <;> omega

theorem readData_bounded (heap : Heap) {inbox : Inbox} {recv : Option (List Byte)} (bounded : inbox.Bounded)
    (permitted : inbox.Permits recv) (agreeing : ReadsAgreeing (.ok inbox) (heap, recv)) :
    ∃ error handled next, inbox.readData heap recv = .ok (error, handled, next) ∧ next.Bounded := by
  cases recv with
  | none => exact ⟨true, [], inbox, rfl, bounded⟩
  | some chunk =>
    cases chunk with
    | nil => exact ⟨true, [], inbox, rfl, bounded⟩
    | cons first rest =>
      have room := permitted _ rfl
      have inside : ¬ (inbox.bufferOffset_ < 0 ∨
          maxMessageSize < inbox.bufferOffset_ + (first :: rest).length) := by
        have nonnegative := bounded.1
        omega
      have received : (inbox.receive (first :: rest)).Bounded :=
        ⟨Int.add_nonneg bounded.1 (Int.natCast_nonneg _), room⟩
      simp only [readData, if_neg inside]
      by_cases headless : (inbox.receive (first :: rest)).bufferOffset_ < messageHeaderSize
      · exact ⟨false, [], _, by rw [if_pos headless], received⟩
      · have agree := agreeing inbox _ rfl rfl (List.cons_ne_nil _ _) (Int.not_lt.mp headless)
        have consumes := (consumesDeclared_iff_lengthsAgree heap received.2).mpr agree
        rw [if_neg headless]
        cases parsed : (inbox.receive (first :: rest)).parseMessage heap with
        | error undefined => simp [ConsumesDeclared, parsed] at consumes
        | ok outcome =>
          cases outcome with
          | null => exact ⟨false, [], _, rfl, received⟩
          | invalid => exact ⟨true, [], _, rfl, received⟩
          | message message next =>
            have left := parseMessage_bounded received agree parsed
            exact ⟨false, _, _, rfl, availableMessages_bounded left⟩

/-- What the header declares is what is consumed, if and only if the lengths in the buffer agree;
    while they do, the offset stays inside the buffer whatever else the peer sends. -/
theorem consumption (heap : Heap) (inbox : Inbox) (buffer : Field maxMessageSize)
    (calls : List (Heap × Option (List Byte))) (reader : Except Undefined Inbox) :
    (messageHeaderSize ≤ inbox.bufferOffset_ → inbox.bufferOffset_ ≤ maxMessageSize →
        (inbox.ConsumesDeclared heap ↔ inbox.LengthsAgree)) ∧
      (Run readStep ReadsAgreeing (.ok (new buffer)) calls reader →
        ∃ inbox, reader = .ok inbox ∧ 0 ≤ inbox.bufferOffset_ ∧ inbox.bufferOffset_ ≤ maxMessageSize) := by
  constructor
  · intro _ bounded
    exact consumesDeclared_iff_lengthsAgree heap bounded
  · intro run
    apply run.invariant (fun reader => ∃ inbox, reader = .ok inbox ∧ inbox.Bounded)
    · exact ⟨new buffer, rfl, by simp [Bounded, new]⟩
    · rintro _ ⟨heap, recv⟩ next ⟨inbox, rfl, bounded⟩ agreeing stepped
      simp only [readStep] at stepped
      split at stepped
      · rename_i permitted
        obtain ⟨error, handled, after, read, afterBounded⟩ := readData_bounded heap bounded permitted agreeing
        rw [read] at stepped
        cases stepped
        exact ⟨after, rfl, afterBounded⟩
      · cases stepped

/-- A complete `FILE_DATA` frame without data: its inner length is zero, and so the lengths agree. -/
theorem consumption_emptyBlock :
    let frame := (Message.fileData Heap.zeroed.fileData).frame
    ((new (Field.zero _)).receive frame).ConsumesDeclared Heap.zeroed ∧
      ∃ inbox, readStep (.ok (new (Field.zero _))) (Heap.zeroed, some frame) = some (.ok inbox) ∧
        0 ≤ inbox.bufferOffset_ ∧ inbox.bufferOffset_ ≤ maxMessageSize := by
  intro frame
  -- named, so that nothing computes with it while its properties are put together
  obtain ⟨received, same⟩ : ∃ received, received = (new (Field.zero _)).receive frame := ⟨_, rfl⟩
  have agree : received.LengthsAgree := by
    rw [same]
    decide +kernel
  have headed : messageHeaderSize ≤ received.bufferOffset_ := by
    rw [same]
    decide +kernel
  have fits : received.bufferOffset_ ≤ maxMessageSize := by
    rw [same]
    decide +kernel
  obtain ⟨reader, stepped⟩ : ∃ reader, readStep (.ok (new (Field.zero _))) (Heap.zeroed, some frame) = some reader :=
    Option.isSome_iff_exists.mp (by decide +kernel)
  obtain ⟨exactly, bounded⟩ := consumption Heap.zeroed received (Field.zero _) _ reader
  rw [← same]
  refine ⟨(exactly headed fits).mpr agree, ?_⟩
  have agreeing : ReadsAgreeing (.ok (new (Field.zero _))) (Heap.zeroed, some frame) := by
    rintro _ _ ⟨⟩ ⟨⟩ _ _
    exact same ▸ agree
  obtain ⟨inbox, rfl, within⟩ := bounded (.snoc .nil agreeing stepped)
  exact ⟨inbox, stepped, within⟩

/-- The inner length of this `FILE_DATA` frame is 100, the one in its header 16. -/
def disagreeing : List Byte :=
  (MessageType.fileData.header 16).bytes ++ List.replicate 12 0#8 ++ intBytes 100

/-- The frame of 24 bytes is taken for 124: the offset becomes -100. -/
theorem disagreeing_offset :
    (∃ inbox : Inbox, messageHeaderSize ≤ inbox.bufferOffset_ ∧ inbox.bufferOffset_ ≤ maxMessageSize ∧
      ¬ inbox.ConsumesDeclared Heap.zeroed) ∧
    ∃ inbox, readStep (.ok (new (Field.zero _))) (Heap.zeroed, some disagreeing) = some (.ok inbox) ∧
      inbox.bufferOffset_ = -100 := by
  refine ⟨⟨(new (Field.zero _)).receive disagreeing, by decide +kernel, by decide +kernel, ?_⟩, ?_⟩
  · rw [consumesDeclared_iff_lengthsAgree _ (by decide +kernel)]
    decide +kernel
  · have outcome : ((readStep (.ok (new (Field.zero _))) (Heap.zeroed, some disagreeing)).bind
        fun reader => reader.toOption.map bufferOffset_) = some (-100) := by decide +kernel
    cases stepped : readStep (.ok (new (Field.zero _))) (Heap.zeroed, some disagreeing) with
    | none => simp [stepped] at outcome
    | some reader =>
      cases reader with
      | error undefined => simp [stepped, Except.toOption] at outcome
      | ok inbox => exact ⟨inbox, rfl, by simpa [stepped, Except.toOption] using outcome⟩

end Inbox

end LanMessenger
