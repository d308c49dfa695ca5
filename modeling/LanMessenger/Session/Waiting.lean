import LanMessenger.Session.Reception
import LanMessenger.Transition.Runs

namespace LanMessenger

open CMemory Transition

def CompleteFrame (unread : List Byte) : Prop :=
  messageHeaderSize ≤ unread.length ∧ messageHeaderSize + (MessageHeader.ofBytes unread).size ≤ unread.length

instance (unread : List Byte) : Decidable (CompleteFrame unread) := inferInstanceAs (Decidable (_ ∧ _))

theorem completeFrame_iff {frames : List Frame} {unread future : List Byte}
    (stream : unread ++ future = Stream.bytes Frame.bytes frames) :
    CompleteFrame unread ↔ Stream.completed Frame.bytes frames unread.length ≠ 0 := by
  rw [Ne, Stream.completed_eq_zero_iff]
  cases frames with
  | nil =>
    have none : unread = [] := (List.append_eq_nil_iff.mp stream).1
    simp [none, CompleteFrame]
  | cons frame rest =>
    simp only [List.head?_cons, Option.mem_def, Option.some.injEq, forall_eq', Nat.not_lt, CompleteFrame]
    by_cases headed : messageHeaderSize ≤ unread.length
    · have header : MessageHeader.ofBytes unread = frame.type.header frame.payload.length := by
        rw [Stream.bytes_cons, Frame.bytes, List.append_assoc] at stream
        obtain ⟨read, split⟩ : (frame.type.header frame.payload.length).bytes <+: unread :=
          List.prefix_of_prefix_length_le (List.prefix_append _ _) ⟨future, stream⟩ (by simpa using headed)
        rw [← split]
        exact frame.ofBytes_header _
      have declared : (frame.type.header frame.payload.length).size = frame.payload.length := rfl
      rw [header, declared, Frame.bytes_length]
      omega
    · rw [Frame.bytes_length]
      omega

namespace Reception

def step (reception : Reception) (call : Heap × Nat) : Option Reception :=
  if reception.Permits call.2 then some (reception.readData call.1 call.2) else none

def LeavesNone (reception : Reception) (call : Heap × Nat) : Prop :=
  ¬ CompleteFrame (reception.readData call.1 call.2).inbox.unread

def CompletesOne (frames : List Frame) (reception : Reception) (call : Heap × Nat) : Prop :=
  let received := (Stream.bytes Frame.bytes frames).length - reception.wire.length
  Stream.completed Frame.bytes frames (received + call.2) ≤ Stream.completed Frame.bytes frames received + 1

instance (frames : List Frame) (reception : Reception) (call : Heap × Nat) :
    Decidable (reception.CompletesOne frames call) := inferInstanceAs (Decidable (_ ≤ _))

def Clear (frames : List Frame) (reception : Reception) : Prop :=
  ∃ front remaining unread, frames = front ++ remaining ∧ reception.Tracks front remaining unread [] ∧
    Stream.completed Frame.bytes remaining unread.length = 0

variable {frames front remaining : List Frame} {reception next : Reception} {unread : List Byte}

theorem Tracks.completeFrame_iff (tracks : reception.Tracks front remaining unread []) :
    CompleteFrame reception.inbox.unread ↔ Stream.completed Frame.bytes remaining unread.length ≠ 0 := by
  have stream := tracks.stream
  rw [List.append_nil] at stream
  rw [tracks.holds.unread_eq, LanMessenger.completeFrame_iff stream]

theorem Tracks.received (tracks : reception.Tracks front remaining unread []) :
    (Stream.bytes Frame.bytes (front ++ remaining)).length - reception.wire.length =
      (Stream.bytes Frame.bytes front).length + unread.length := by
  have length := congrArg List.length tracks.stream
  simp only [List.length_append, List.length_nil, Stream.bytes_append] at length ⊢
  omega

theorem Clear.leavesNone_iff (clear : reception.Clear frames) {call : Heap × Nat}
    (stepped : reception.step call = some next) :
    reception.LeavesNone call ↔ reception.CompletesOne frames call := by
  obtain ⟨front, remaining, unread, rfl, tracks, none⟩ := clear
  obtain ⟨heap, count⟩ := call
  have permitted : reception.Permits count := by
    by_contra refused
    rw [step, if_neg refused] at stepped
    cases stepped
  simp only [LeavesNone, CompletesOne, tracks.received, Nat.add_assoc, Stream.completed_append, none]
  obtain ⟨left, ⟨waiting, length, incomplete⟩ | ⟨frame, rest, rfl, length, taken⟩⟩ :=
    tracks.readData heap permitted
  · rw [waiting.completeFrame_iff, ← length, incomplete]
    simp
  · rw [taken.completeFrame_iff, length, Stream.completed, if_pos (by omega), Nat.add_sub_cancel_left]
    omega

theorem Clear.preserved (clear : reception.Clear frames) {call : Heap × Nat}
    (leavesNone : reception.LeavesNone call) (stepped : reception.step call = some next) : next.Clear frames := by
  obtain ⟨front, remaining, unread, rfl, tracks, -⟩ := clear
  obtain ⟨heap, count⟩ := call
  unfold step at stepped
  split at stepped
  · rename_i permitted
    cases stepped
    obtain ⟨left, ⟨waiting, -, incomplete⟩ | ⟨frame, rest, rfl, -, taken⟩⟩ := tracks.readData heap permitted
    · exact ⟨front, remaining, left, rfl, waiting, incomplete⟩
    · rw [LeavesNone, taken.completeFrame_iff, not_not] at leavesNone
      exact ⟨front ++ [frame], rest, left, by simp, taken, leavesNone⟩
  · cases stepped

theorem clear_start (buffer : Field maxMessageSize) (frames : List Frame) :
    (start buffer (Stream.bytes Frame.bytes frames)).Clear frames :=
  ⟨[], frames, [], rfl, tracks_start buffer frames, by cases frames <;> simp [Stream.completed]⟩

/-- No `readData` leaves a complete frame in the buffer, if and only if no chunk completes more
    than one. Then, once everything is received, everything has been dispatched. -/
theorem waiting {buffer : Field maxMessageSize} {frames : List Frame} {calls : List (Heap × Nat)}
    {reception : Reception} :
    (Run step LeavesNone (start buffer (Stream.bytes Frame.bytes frames)) calls reception ↔
      Run step (CompletesOne frames) (start buffer (Stream.bytes Frame.bytes frames)) calls reception) ∧
    (Run step (CompletesOne frames) (start buffer (Stream.bytes Frame.bytes frames)) calls reception →
      reception.wire = [] → List.Forall₂ Frame.DecodesTo frames reception.dispatched) := by
  have same : Run step LeavesNone (start buffer (Stream.bytes Frame.bytes frames)) calls reception ↔
      Run step (CompletesOne frames) (start buffer (Stream.bytes Frame.bytes frames)) calls reception :=
    Run.iff_of_invariant (Clear frames) (clear_start buffer frames)
      (fun _ _ _ clear stepped => clear.leavesNone_iff stepped)
      (fun _ _ _ clear leavesNone stepped => clear.preserved leavesNone stepped)
  refine ⟨same, fun run received => ?_⟩
  obtain ⟨front, remaining, unread, rfl, tracks, none⟩ := (same.mpr run).invariant (Clear frames)
    (clear_start buffer frames) fun _ _ _ clear leavesNone stepped => clear.preserved leavesNone stepped
  have stream := tracks.stream
  rw [received, List.append_nil, List.append_nil] at stream
  rw [stream, Stream.completed_bytes] at none
  rw [List.length_eq_zero_iff.mp none, List.append_nil]
  exact tracks.dispatched

def helloFrame : Frame := Message.hello.toFrame trivial

/-- A `STATUS` between two `HELLO`s. -/
def threeFrames : List Frame := [helloFrame, (Message.status ⟨.ok⟩).toFrame trivial, helloFrame]

/-- The second chunk ends one frame and begins the next. -/
theorem waiting_threeFrames :
    ∃ reception, exec step (start (Field.zero _) (Stream.bytes Frame.bytes threeFrames)) [(Heap.zeroed, 3),
        (Heap.zeroed, 9), (Heap.zeroed, 8), (Heap.zeroed, 8)] = some reception ∧
      Run step LeavesNone (start (Field.zero _) (Stream.bytes Frame.bytes threeFrames)) [(Heap.zeroed, 3),
        (Heap.zeroed, 9), (Heap.zeroed, 8), (Heap.zeroed, 8)] reception ∧
      List.Forall₂ Frame.DecodesTo threeFrames reception.dispatched := by
  have outcome : (execMeets step (fun reception call => decide (CompletesOne threeFrames reception call))
      (start (Field.zero _) (Stream.bytes Frame.bytes threeFrames)) [(Heap.zeroed, 3), (Heap.zeroed, 9), (Heap.zeroed, 8),
        (Heap.zeroed, 8)]).map wire = some [] := by
    decide +kernel
  obtain ⟨reception, executed, received⟩ := Option.map_eq_some_iff.mp outcome
  have run := run_of_execDecide executed
  exact ⟨reception, exec_of_execMeets executed, waiting.1.mpr run, waiting.2 run received⟩

/-- Two `HELLO`s in one chunk: all bytes are there and no error is seen, but only the first is
    handled. -/
theorem waiting_twoHellos :
    ∃ reception, exec step (start (Field.zero _) (Stream.bytes Frame.bytes [helloFrame, helloFrame]))
        [(Heap.zeroed, 16)] = some reception ∧
      reception.failed = false ∧ reception.wire = [] ∧ CompleteFrame reception.inbox.unread ∧
      reception.dispatched.length = 1 := by
  have outcome : ((step (start (Field.zero _) (Stream.bytes Frame.bytes [helloFrame, helloFrame]))
      (Heap.zeroed, 16)).map fun reception => decide (reception.failed = false ∧ reception.wire = [] ∧
        CompleteFrame reception.inbox.unread ∧ reception.dispatched.length = 1)) = some true := by decide +kernel
  obtain ⟨reception, stepped, checked⟩ := Option.map_eq_some_iff.mp outcome
  exact ⟨reception, by rw [exec, stepped]; rfl, of_decide_eq_true checked⟩

end Reception

end LanMessenger
