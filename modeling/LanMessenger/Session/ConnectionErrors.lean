import LanMessenger.Session.PollForData

namespace LanMessenger

open CMemory

variable {τ : Type}

namespace PollLoop

def received (loop : PollLoop τ) (turn : PollTurn τ) : Except Undefined (PollLoop τ) :=
  let loop := { loop with
    hasError := loop.hasError || turn.ready = Ready.failure || turn.revents.pollErr || turn.revents.pollHup ||
      turn.revents.pollNval }
  if turn.revents.pollIn then loop.readData turn else .ok loop

def written (read : PollLoop τ) (turn : PollTurn τ) : PollLoop τ := if turn.revents.pollOut then read.writeData else read

def ReadFails (loop : PollLoop τ) (turn : PollTurn τ) : Prop :=
  ∃ handled inbox, loop.inbox.readData turn.heap turn.recv = .ok (true, handled, inbox)

def MeetsError (loop : PollLoop τ) (turn : PollTurn τ) : Prop :=
  turn.ready ≠ .timeout ∧
    (turn.ready = .failure ∨ turn.revents.pollErr = true ∨ turn.revents.pollHup = true ∨ turn.revents.pollNval = true ∨
      (turn.revents.pollIn = true ∧ loop.ReadFails turn))

/-- The session is over after the turn, and `cycle` was not called: what it would do makes no difference. -/
structure Ends (loop : PollLoop τ) (turn : PollTurn τ) (next : PollLoop τ) : Prop where
  flagged : next.outbox.disconnectionFlag_ = true
  stops : next.goesOn = false
  cycleless : ∀ cycle, loop.pollForData { turn with cycle } = .ok next

/-- No later step of the turn assigns `hasError` again; or else the session was told to disconnect before the end of the
    read, and the last message in its queue is gone. -/
def ErrorStays (loop : PollLoop τ) (turn : PollTurn τ) : Prop :=
  (turn.revents.pollOut = false ∧ (turn.revents.pollIn = true → loop.ReadFails turn)) ∨
    ∃ read, loop.received turn = .ok read ∧ read.outbox.disconnectionFlag_ = true ∧
      read.outbox.sendingQueue_.length ≤ if turn.revents.pollOut then 1 else 0

variable {loop read next : PollLoop τ} {turn : PollTurn τ}

theorem pollForData_eq (live : turn.ready ≠ .timeout) :
    loop.pollForData turn = (loop.received turn).map (·.settle turn) := by
  unfold pollForData received
  rw [if_neg live]
  dsimp only
  generalize (if turn.revents.pollIn = true then _ else _ : Except Undefined (PollLoop τ)) = outcome
  cases outcome <;> rfl

theorem received_of_pollForData (live : turn.ready ≠ .timeout) (polled : loop.pollForData turn = .ok next) :
    ∃ read, loop.received turn = .ok read ∧ next = read.settle turn := by
  rw [pollForData_eq live] at polled
  cases received : loop.received turn with
  | error undefined =>
    rw [received] at polled
    cases polled
  | ok read =>
    rw [received] at polled
    cases polled
    exact ⟨read, rfl, rfl⟩

theorem pollForData_cycle (live : turn.ready ≠ .timeout) (received : loop.received turn = .ok read)
    (cycle : Outbox τ → Outbox τ) :
    loop.pollForData { turn with cycle } = .ok (read.settle { turn with cycle }) := by
  have same : loop.received { turn with cycle } = .ok read := received
  have eq : loop.pollForData { turn with cycle } = (loop.received { turn with cycle }).map (·.settle { turn with cycle }) :=
    pollForData_eq live
  rw [eq, same]
  rfl

theorem hasError_received (received : loop.received turn = .ok read) (reads : turn.revents.pollIn = true) :
    read.hasError = true ↔ loop.ReadFails turn := by
  simp only [PollLoop.received, if_pos reads, readData, ReadFails] at received ⊢
  cases outcome : loop.inbox.readData turn.heap turn.recv with
  | error undefined =>
    rw [outcome] at received
    cases received
  | ok result =>
    rw [outcome] at received
    cases received
    rcases result with ⟨error, handled, inbox⟩
    simp

theorem settle_of_error (error : (read.written turn).hasError = true) :
    read.settle turn = { read.written turn with outbox.disconnectionFlag_ := true } := by
  rw [settle, ← written, if_pos error]

theorem settle_of_connected (error : (read.written turn).hasError = false)
    (connected : (read.written turn).outbox.disconnectionFlag_ = false) :
    read.settle turn = { read.written turn with outbox := turn.cycle (read.written turn).outbox } := by
  rw [settle, ← written, if_neg (by simp [error]), if_pos (by simp [Outbox.isConnected, connected])]

theorem settle_of_disconnected (error : (read.written turn).hasError = false)
    (flagged : (read.written turn).outbox.disconnectionFlag_ = true) : read.settle turn = read.written turn := by
  rw [settle, ← written, if_neg (by simp [error]), if_neg (by simp [Outbox.isConnected, flagged])]

theorem hasError_written : (read.written turn).hasError = (read.hasError && !turn.revents.pollOut) := by
  cases out : turn.revents.pollOut <;> simp [written, out, writeData]

theorem flag_written (read : PollLoop τ) (turn : PollTurn τ) :
    (read.written turn).outbox.disconnectionFlag_ = read.outbox.disconnectionFlag_ := by
  cases out : turn.revents.pollOut with
  | false => simp [written, out]
  | true =>
    simp only [written, out, if_true, writeData, Outbox.writeData]
    split <;> rfl

theorem queue_written : (read.written turn).outbox.sendingQueue_ = [] ↔
    read.outbox.sendingQueue_.length ≤ if turn.revents.pollOut then 1 else 0 := by
  cases out : turn.revents.pollOut with
  | false => simp [written, out]
  | true =>
    simp only [written, out, if_true, writeData, Outbox.writeData]
    cases waiting : read.outbox.sendingQueue_ with
    | nil => simp [waiting]
    | cons letter rest => simp

theorem hasError_of_meetsError (error : loop.MeetsError turn) (received : loop.received turn = .ok read) :
    read.hasError = true ↔ (turn.revents.pollIn = true → loop.ReadFails turn) := by
  by_cases reads : turn.revents.pollIn = true
  · rw [hasError_received received reads]
    simp only [reads, true_implies]
  · simp only [PollLoop.received, if_neg reads, Except.ok.injEq] at received
    subst received
    refine iff_of_true ?_ fun read => absurd read reads
    rcases error.2 with failed | failed | failed | failed | ⟨read, -⟩
    · simp [failed]
    · simp [failed]
    · simp [failed]
    · simp [failed]
    · exact absurd read reads

theorem not_ends_of_connected (live : turn.ready ≠ .timeout) (received : loop.received turn = .ok read)
    (error : (read.written turn).hasError = false) (connected : (read.written turn).outbox.disconnectionFlag_ = false) :
    ¬ Ends loop turn next := by
  intro ends
  let reconnecting : PollTurn τ := { turn with cycle := fun outbox => { outbox with disconnectionFlag_ := false } }
  have same : loop.pollForData reconnecting = .ok next := ends.cycleless _
  have polled : loop.pollForData reconnecting = .ok (read.settle reconnecting) := pollForData_cycle live received _
  have settled : read.settle reconnecting = { read.written turn with
      outbox := { (read.written turn).outbox with disconnectionFlag_ := false } } := settle_of_connected error connected
  rw [polled] at same
  have flagged := ends.flagged
  rw [← Except.ok.inj same, settled] at flagged
  cases flagged

theorem ends_of_error (live : turn.ready ≠ .timeout) (received : loop.received turn = .ok read)
    (error : (read.written turn).hasError = true) : Ends loop turn (read.settle turn) := by
  have settled := settle_of_error error
  refine ⟨by rw [settled], ?_, fun cycle => ?_⟩
  · rw [settled, goesOn, error]
    rfl
  · have errorToo : (read.written { turn with cycle }).hasError = true := error
    rw [pollForData_cycle live received, settled, settle_of_error errorToo]
    rfl

theorem ends_iff_of_flagged (live : turn.ready ≠ .timeout) (received : loop.received turn = .ok read)
    (error : (read.written turn).hasError = false) (flagged : (read.written turn).outbox.disconnectionFlag_ = true) :
    Ends loop turn (read.settle turn) ↔
      read.outbox.sendingQueue_.length ≤ if turn.revents.pollOut then 1 else 0 := by
  have settled := settle_of_disconnected error flagged
  rw [← queue_written]
  constructor
  · intro ends
    have stops := ends.stops
    rw [settled, goesOn, error, Outbox.isConnected, flagged] at stops
    simpa using stops
  · intro drained
    refine ⟨by rw [settled, flagged], ?_, fun cycle => ?_⟩
    · rw [settled, goesOn, error, Outbox.isConnected, flagged, drained]
      rfl
    · have errorToo : (read.written { turn with cycle }).hasError = false := error
      have flaggedToo : (read.written { turn with cycle }).outbox.disconnectionFlag_ = true := flagged
      rw [pollForData_cycle live received, settled, settle_of_disconnected errorToo flaggedToo]
      rfl

/-- In which turns an error of the connection ends the session. -/
theorem errorsEnd (loop next : PollLoop τ) (turn : PollTurn τ) (polled : loop.pollForData turn = .ok next)
    (error : loop.MeetsError turn) : Ends loop turn next ↔ loop.ErrorStays turn := by
  rcases received_of_pollForData error.1 polled with ⟨read, received, rfl⟩
  have kept : (read.written turn).hasError = true ↔
      turn.revents.pollOut = false ∧ (turn.revents.pollIn = true → loop.ReadFails turn) := by
    rw [hasError_written, Bool.and_eq_true, hasError_of_meetsError error received, Bool.not_eq_true', and_comm]
  cases lost : (read.written turn).hasError with
  | true => exact iff_of_true (ends_of_error error.1 received lost) (Or.inl (kept.mp lost))
  | false =>
    have notKept := mt kept.mpr (by simp [lost])
    have stays : loop.ErrorStays turn ↔ read.outbox.disconnectionFlag_ = true ∧
        read.outbox.sendingQueue_.length ≤ if turn.revents.pollOut then 1 else 0 := by
      simp only [ErrorStays, notKept, false_or, received, Except.ok.injEq, exists_eq_left']
    rw [stays, ← flag_written read turn]
    cases flagged : (read.written turn).outbox.disconnectionFlag_ with
    | false => exact iff_of_false (not_ends_of_connected error.1 received lost flagged) (by simp)
    | true => exact (ends_iff_of_flagged error.1 received lost flagged).trans (and_iff_right rfl).symm

def hangUp (pollOut : Bool) : PollTurn Unit :=
  ⟨.ready, ⟨false, true, false, false, pollOut⟩, Heap.zeroed, none, fun _ outbox => outbox, id⟩

theorem errorsEnd_hangUp :
    ∃ next, (start (Field.zero _) .new : PollLoop Unit).pollForData (hangUp false) = .ok next ∧
      Ends (start (Field.zero _) .new) (hangUp false) next := by
  have error : (start (Field.zero _) .new : PollLoop Unit).MeetsError (hangUp false) :=
    ⟨by decide, Or.inr (Or.inr (Or.inl rfl))⟩
  exact ⟨_, rfl, (errorsEnd _ _ _ rfl error).mpr (Or.inl ⟨rfl, fun reads => by cases reads⟩)⟩

/-- With a `HELLO` to be written in the same turn the hang-up is forgotten: the loop goes on. -/
theorem errorsEnd_lost :
    ∃ (loop next : PollLoop Unit), loop.goesOn = true ∧ loop.pollForData (hangUp true) = .ok next ∧
      loop.MeetsError (hangUp true) ∧ ¬ Ends loop (hangUp true) next ∧ next.goesOn = true ∧
      next.outbox.disconnectionFlag_ = false := by
  let loop : PollLoop Unit := start (Field.zero _) ⟨[⟨.hello, ()⟩], false⟩
  refine ⟨loop, loop.settle (hangUp true), rfl, rfl, ⟨by decide, Or.inr (Or.inr (Or.inl rfl))⟩, ?_, rfl, rfl⟩
  intro ends
  exact absurd ends.flagged (by decide)

end PollLoop

end LanMessenger
