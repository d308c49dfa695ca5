import LanMessenger.Messages.Decoding
import LanMessenger.Session.PollForData
import LanMessenger.Transition.Runs

namespace LanMessenger

open CMemory Transition

namespace Inbox

variable {inbox : Inbox} {heap : Heap} {chunk : List Byte}

/-- `parseMessage` refuses what stands at the front of the buffer: it calls it invalid, or it returns NULL although
    the payload has arrived whole. -/
structure Refuses (heap : Heap) (inbox : Inbox) : Prop where
  headed : messageHeaderSize ≤ inbox.bufferOffset_
  refused : inbox.parseMessage heap = .ok .invalid ∨
    (inbox.parseMessage heap = .ok .null ∧
      (MessageHeader.ofBytes inbox.buffer_.bytes).size ≤ inbox.bufferOffset_ - messageHeaderSize)

theorem refuses_iff : inbox.Refuses heap ↔ messageHeaderSize ≤ inbox.bufferOffset_ ∧
    (inbox.header.type = none ∨ maxPayloadSize < inbox.header.size ∨
      (inbox.header.size ≤ inbox.bufferOffset_ - messageHeaderSize ∧
        ∃ type, inbox.header.type = some type ∧ type.Refused inbox.payload inbox.header.size)) := by
  constructor
  · rintro ⟨headed, outcome⟩
    refine ⟨headed, ?_⟩
    cases known : inbox.header.type with
    | none => exact Or.inl rfl
    | some type =>
      by_cases small : inbox.header.size ≤ maxPayloadSize
      · have complete : inbox.header.size ≤ inbox.bufferOffset_ - messageHeaderSize := by
          by_contra waits
          rw [parseMessage_waits known small (not_le.mp waits)] at outcome
          rcases outcome with invalid | ⟨-, complete⟩
          · cases invalid
          · exact waits complete
        refine Or.inr (Or.inr ⟨complete, type, rfl, ?_⟩)
        rcases Message.fromRawBytes_cases heap inbox.payload inbox.header.size type with
          ⟨refused, -⟩ | ⟨-, message, decoded, -⟩ | ⟨-, -, undefined, decoded⟩
        · exact refused
        · rw [parseMessage_accepted known small complete decoded] at outcome
          simp at outcome
        · rw [parseMessage_undefined known small complete decoded] at outcome
          simp at outcome
      · exact Or.inr (Or.inl (not_le.mp small))
  · rintro ⟨headed, unknown | large | ⟨complete, type, known, refused⟩⟩
    · exact ⟨headed, Or.inl (parseMessage_unknown unknown)⟩
    · exact ⟨headed, Or.inl (parseMessage_large large)⟩
    · by_cases small : inbox.header.size ≤ maxPayloadSize
      · exact ⟨headed, Or.inr ⟨parseMessage_refused known small complete (Message.fromRawBytes_none_iff.mpr refused),
          complete⟩⟩
      · exact ⟨headed, Or.inl (parseMessage_large (not_le.mp small))⟩

theorem ofBytes_header_of_take {size : Nat} {left right : Field size} (long : messageHeaderSize ≤ size)
    (same : left.bytes.take messageHeaderSize = right.bytes.take messageHeaderSize) :
    MessageHeader.ofBytes left.bytes = MessageHeader.ofBytes right.bytes := by
  simp only [messageHeaderSize, commandSize] at long same
  have command : left.bytes.take commandSize = right.bytes.take commandSize := by
    have both := congrArg (List.take commandSize) same
    simpa only [List.take_take, commandSize, Nat.reduceLeDiff, inf_of_le_left, Nat.reduceAdd] using both
  have number : (left.bytes.drop commandSize).take 4 = (right.bytes.drop commandSize).take 4 := by
    have both := congrArg (List.drop commandSize) same
    rwa [List.drop_take, List.drop_take] at both
  simp only [MessageHeader.ofBytes, MessageHeader.mk.injEq, number, and_true]
  ext1
  rw [Field.ofBytes_bytes (by simp; omega), Field.ofBytes_bytes (by simp; omega), command]

theorem take_receive (room : inbox.bufferOffset_ + chunk.length ≤ maxMessageSize) {count : Nat}
    (received : count ≤ inbox.bufferOffset_) :
    (inbox.receive chunk).buffer_.bytes.take count = inbox.buffer_.bytes.take count := by
  have length := inbox.buffer_.length_bytes
  have front : (inbox.buffer_.bytes.take inbox.bufferOffset_.toNat).length = inbox.bufferOffset_.toNat := by
    rw [List.length_take]
    omega
  rw [receive, Field.overwrite_bytes _ (by rw [List.length_append, front]; omega), List.append_assoc,
    List.take_append_of_le_length (by omega), List.take_take, min_eq_left (by omega)]

theorem Refuses.receive (refuses : inbox.Refuses heap) (room : inbox.bufferOffset_ + chunk.length ≤ maxMessageSize)
    (later : Heap) : (inbox.receive chunk).Refuses later := by
  obtain ⟨headed, why⟩ := refuses_iff.mp refuses
  have front : (inbox.receive chunk).buffer_.bytes.take messageHeaderSize = inbox.buffer_.bytes.take messageHeaderSize :=
    take_receive room headed
  have header : (inbox.receive chunk).header = inbox.header := ofBytes_header_of_take (by decide) front
  have grown : (inbox.receive chunk).bufferOffset_ = inbox.bufferOffset_ + chunk.length := rfl
  refine refuses_iff.mpr ⟨by rw [grown]; omega, ?_⟩
  rw [header, grown]
  rcases why with unknown | large | ⟨complete, type, known, refused⟩
  · exact Or.inl unknown
  · exact Or.inr (Or.inl large)
  · refine Or.inr (Or.inr ⟨by omega, type, known, MessageType.refused_of_take ?_ refused⟩)
    have arrived : ((messageHeaderSize + inbox.header.size.toNat : Nat) : Int) ≤ inbox.bufferOffset_ := by
      simp only [messageHeaderSize, commandSize] at headed complete ⊢
      omega
    have both := congrArg (List.drop messageHeaderSize) (take_receive room arrived)
    rwa [List.drop_take, List.drop_take, Nat.add_sub_cancel_left] at both

theorem Refuses.readData (refuses : inbox.Refuses heap) {later : Heap} {recv : Option (List Byte)} {error : Bool}
    {handled : List Message} {next : Inbox}
    (permitted : ∀ chunk, recv = some chunk → inbox.bufferOffset_ + chunk.length ≤ maxMessageSize)
    (read : inbox.readData later recv = .ok (error, handled, next)) : handled = [] ∧ next.Refuses heap := by
  unfold Inbox.readData at read
  split at read
  · cases read
    exact ⟨rfl, refuses⟩
  · cases read
    exact ⟨rfl, refuses⟩
  · rename_i chunk _
    split at read
    · cases read
    · have received := refuses.receive (permitted chunk rfl)
      simp only [if_neg (not_lt.mpr (received later).headed)] at read
      rcases (received later).refused with invalid | ⟨null, -⟩
      · rw [invalid] at read
        cases read
        exact ⟨rfl, received heap⟩
      · rw [null] at read
        cases read
        exact ⟨rfl, received heap⟩

end Inbox

namespace PollLoop

variable {τ : Type} {loop next final : PollLoop τ} {heap : Heap}

theorem readData_refuses (refuses : loop.inbox.Refuses heap) {turn : PollTurn τ} (permitted : loop.Permits turn)
    (read : loop.readData turn = .ok next) : next.dispatched = loop.dispatched ∧ next.inbox.Refuses heap := by
  unfold readData at read
  split at read
  · cases read
  · rename_i error handled inbox result
    cases read
    obtain ⟨rfl, stays⟩ := refuses.readData permitted result
    exact ⟨List.append_nil _, stays⟩

theorem pollForData_refuses (refuses : loop.inbox.Refuses heap) {turn : PollTurn τ} (permitted : loop.Permits turn)
    (polled : loop.pollForData turn = .ok next) : next.dispatched = loop.dispatched ∧ next.inbox.Refuses heap := by
  unfold pollForData at polled
  split at polled
  · cases polled
    exact ⟨rfl, refuses⟩
  · split at polled
    · dsimp only at polled
      split at polled
      · cases polled
      · rename_i after read
        cases polled
        rw [dispatched_settle, inbox_settle]
        exact readData_refuses refuses permitted read
    · cases polled
      rw [dispatched_settle, inbox_settle]
      exact ⟨rfl, refuses⟩

theorem step_refuses (refuses : loop.inbox.Refuses heap) {event : Event τ} (stepped : loop.step event = some next) :
    next.dispatched = loop.dispatched ∧ next.inbox.Refuses heap := by
  cases event with
  | others change =>
    cases stepped
    exact ⟨rfl, refuses⟩
  | turn turn =>
    simp only [step] at stepped
    split at stepped
    · rename_i permitted
      cases polled : loop.pollForData turn with
      | error undefined =>
        rw [polled] at stepped
        cases stepped
      | ok after =>
        rw [polled] at stepped
        cases stepped
        exact pollForData_refuses refuses permitted.2 polled
    · cases stepped

/-- Once a frame has been refused nothing is dispatched from the connection any more. -/
theorem refusedForGood {events : List (Event τ)} (refuses : loop.inbox.Refuses heap)
    (run : Run step Always loop events final) : final.dispatched = loop.dispatched := by
  have kept : final.dispatched = loop.dispatched ∧ final.inbox.Refuses heap :=
    run.invariant (fun now => now.dispatched = loop.dispatched ∧ now.inbox.Refuses heap) ⟨rfl, refuses⟩
      fun now event after holds _ stepped => by
        obtain ⟨same, stays⟩ := step_refuses holds.2 stepped
        exact ⟨same.trans holds.1, stays⟩
  exact kept.1

/-- The error of a read is lost to the write of the same turn, and a whole `HELLO` arrives after it. -/
def lostError : List (Event Unit) :=
  let turn (recv : List Byte) : PollTurn Unit :=
    ⟨.ready, ⟨false, false, false, true, true⟩, Heap.zeroed, some recv, fun _ outbox => outbox, id⟩
  [.turn (turn (ascii ['N', 'O', 'P', 'E', 'N', 'O', 'P', 'E'])), .turn (turn Message.hello.frame)]

theorem refusedForGood_lostError :
    ∃ loop final : PollLoop Unit, exec step (start (Field.zero _) .new) (lostError.take 1) = some loop ∧
      loop.hasError = false ∧ exec step loop (lostError.drop 1) = some final ∧ final.dispatched = loop.dispatched := by
  have outcome : (exec step (start (Field.zero _) .new) (lostError.take 1)).map (fun loop =>
      (loop.hasError, loop.inbox.bufferOffset_, (MessageHeader.ofBytes loop.inbox.buffer_.bytes).type,
        (exec step loop (lostError.drop 1)).isSome)) = some (false, 8, none, true) := by
    decide +kernel
  obtain ⟨loop, ran, facts⟩ := Option.map_eq_some_iff.mp outcome
  simp only [Prod.mk.injEq] at facts
  obtain ⟨lost, offset, unknown, goesOn⟩ := facts
  obtain ⟨final, executed⟩ := Option.isSome_iff_exists.mp goesOn
  have refuses : loop.inbox.Refuses Heap.zeroed := by
    exact Inbox.refuses_iff.mpr ⟨by rw [offset]; decide, Or.inl unknown⟩
  exact ⟨loop, final, ran, lost, executed, refusedForGood refuses (run_of_exec executed)⟩

end PollLoop

end LanMessenger
