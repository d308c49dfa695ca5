import LanMessenger.Client.Letters
import LanMessenger.Client.Loop

/-! What the loop of a client has handed to `send` when it ends. -/

namespace LanMessenger

open CMemory Transition

variable {τ : Type} {target : Target}

theorem Extended.isPrefix {before after : List (Letter τ)} (extended : Extended before after) : before <+: after := by
  rcases extended with ⟨sent, longer, -⟩
  exact ⟨sent, longer.symm⟩

theorem Outbox.queue_send (outbox : Outbox τ) (letter : Letter τ) :
    outbox.sendingQueue_ <+: (outbox.send letter).sendingQueue_ := by
  unfold send sendMessage
  split
  · exact List.prefix_rfl
  · exact List.prefix_append _ _

theorem Outbox.queue_writeData (outbox : Outbox τ) :
    outbox.sendingQueue_ = outbox.writeData.1.toList ++ outbox.writeData.2.sendingQueue_ := by
  unfold writeData
  cases queue : outbox.sendingQueue_ with
  | nil => simp [queue]
  | cons letter rest => rfl

namespace SessionServer

variable {session after : SessionServer τ}

theorem queue_cycle (raw : FileDataMessage) (fopen : Option Readable) (origin : τ) :
    session.outbox.sendingQueue_ <+: (session.cycle target raw fopen origin).outbox.sendingQueue_ := by
  rcases cycle_cases raw fopen origin with
    same | disabled | ⟨-, -, handle, -, waits | sends⟩
  · rw [same]
  · rw [disabled]
    exact List.prefix_rfl
  · rw [waits]
  · rw [sends, outbox_sendBlock]
    exact session.outbox.queue_send _

theorem queue_availableMessages {reactions : Nat → Reaction τ} {messages : List Message} {effects : List FileEffect}
    (handled : session.availableMessages target reactions messages = .ok (after, effects)) :
    session.outbox.sendingQueue_ <+: after.outbox.sendingQueue_ := by
  induction messages generalizing reactions session effects with
  | nil =>
    cases handled
    exact List.prefix_rfl
  | cons message messages ih =>
    simp only [availableMessages] at handled
    split at handled
    · cases handled
    · rename_i middle first answered
      split at handled
      · cases handled
      · rename_i last more rest
        cases handled
        exact (extended_availableMessage answered).isPrefix.trans (ih rest)

end SessionServer

namespace ClientLoop

variable {loop next : ClientLoop τ}

def writes (loop : ClientLoop τ) : Event τ → List (Letter τ)
  | .writeData =>
    match loop.phase with
    | .writes revents => if revents.pollOut then loop.session.outbox.writeData.1.toList else []
    | _ => []
  | _ => []

theorem queue_readData {revents : Revents} {heap : Heap} {recv : Option (List Byte)} {reactions : Nat → Reaction τ}
    (read : loop.readData target revents heap recv reactions = some next) :
    loop.session.outbox.sendingQueue_ <+: next.session.outbox.sendingQueue_ := by
  unfold readData at read
  split at read
  · cases read
    exact List.prefix_rfl
  · split at read
    · cases read
    · split at read
      · cases read
      · rename_i session effects handled
        cases read
        exact SessionServer.queue_availableMessages handled

theorem queue_settle (raw : FileDataMessage) (fopen : Option Readable) (origin : τ) :
    loop.session.outbox.sendingQueue_ <+: (loop.settle target raw fopen origin).session.outbox.sendingQueue_ := by
  unfold settle
  split
  · exact List.prefix_rfl
  · split
    · exact SessionServer.queue_cycle raw fopen origin
    · exact List.prefix_rfl

theorem queue_writeData {revents : Revents} (writing : loop.phase = .writes revents) :
    loop.session.outbox.sendingQueue_ = loop.writes .writeData ++ (loop.writeData revents).session.outbox.sendingQueue_ := by
  simp only [writes, writing, writeData]
  cases revents.pollOut with
  | false => rfl
  | true => exact loop.session.outbox.queue_writeData

/-- A step takes what it writes from the front of the queue, and puts the rest of what it does behind it. -/
theorem queue_step {event : Event τ} (stepped : loop.step target event = some next) :
    loop.session.outbox.sendingQueue_ <+: loop.writes event ++ next.session.outbox.sendingQueue_ := by
  cases event with
  | poll polled revents =>
    simp only [step] at stepped
    split at stepped
    · split at stepped
      · cases stepped
        unfold poll
        split <;> exact List.prefix_rfl
      · cases stepped
    · cases stepped
  | readData heap recv reactions =>
    simp only [step] at stepped
    split at stepped
    · exact queue_readData stepped
    · cases stepped
  | writeData =>
    simp only [step] at stepped
    split at stepped
    · rename_i revents writing
      cases stepped
      rw [← queue_writeData writing]
    · cases stepped
  | settle raw fopen origin =>
    simp only [step] at stepped
    split at stepped
    · cases stepped
      exact queue_settle raw fopen origin
    · cases stepped
  | chat raw origin message =>
    rcases Option.map_eq_some_iff.mp stepped with ⟨session, chatted, rfl⟩
    cases SessionServer.chat_some chatted
    exact loop.session.outbox.queue_send _
  | setNickName origin nickName =>
    cases stepped
    exact loop.session.outbox.queue_send _
  | sendFile origin fileName =>
    cases stepped
    exact loop.session.outbox.queue_send _
  | disconnect origin =>
    cases stepped
    exact (SessionServer.extended_disconnect origin).isPrefix

end ClientLoop

/-- The loop of a client, with the letters that it has handed to `send`. The code does not keep them. -/
structure Flushing (τ : Type) where
  loop : ClientLoop τ
  written : List (Letter τ)

namespace Flushing

def step (target : Target) (flushing : Flushing τ) (event : ClientLoop.Event τ) : Option (Flushing τ) :=
  (flushing.loop.step target event).map fun loop => ⟨loop, flushing.written ++ flushing.loop.writes event⟩

def accepted (flushing : Flushing τ) : List (Letter τ) := flushing.written ++ flushing.loop.session.outbox.sendingQueue_

variable {flushing next middle last : Flushing τ} {events : List (ClientLoop.Event τ)}

theorem accepted_step {event : ClientLoop.Event τ} (stepped : flushing.step target event = some next) :
    flushing.accepted <+: next.accepted := by
  rcases Option.map_eq_some_iff.mp stepped with ⟨loop, moved, rfl⟩
  simp only [accepted, List.append_assoc, List.prefix_append_right_inj]
  exact ClientLoop.queue_step moved

theorem accepted_run (run : Run (step target) Always middle events last) : middle.accepted <+: last.accepted :=
  run.invariant (middle.accepted <+: ·.accepted) List.prefix_rfl
    fun _ _ _ earlier _ stepped => earlier.trans (accepted_step stepped)

/-- The loop ends when the session was to end and all that waited has been written, or with an error: what was in the
    queue at any time has then gone to `send`, once and in order. -/
theorem allWritten (run : Run (step target) Always middle events last) (ended : last.loop.goesOn = false)
    (sound : last.loop.hasError = false) :
    last.loop.session.outbox.isConnected = false ∧ middle.written ++ middle.loop.session.outbox.sendingQueue_ <+: last.written := by
  simp only [ClientLoop.goesOn, sound, Bool.not_false, Bool.true_and, Bool.or_eq_false_iff, Bool.not_eq_false',
    List.isEmpty_iff] at ended
  rcases ended with ⟨gone, empty⟩
  have earlier := accepted_run run
  rw [accepted, accepted, empty, List.append_nil] at earlier
  exact ⟨gone, earlier⟩

/-- The user leaves at once: the greeting and the farewell are both sent before the loop ends. -/
theorem allWritten_leaving :
    ∃ middle last : Flushing Unit,
      exec (step .m64) ⟨ClientLoop.start (Field.zero _) (.new (Field.zero _) (Field.zero _) (Field.zero _) ()), []⟩
        [.chat Heap.zeroed.chat () (ascii ['h', 'i']), .disconnect ()] = some middle ∧
      middle.loop.session.outbox.sendingQueue_.length = 3 ∧
      exec (step .m64) middle
        (List.replicate 3 [.poll .ready ⟨false, false, false, false, true⟩, .readData .zeroed none fun _ => ⟨.refuse, false, 0, ()⟩,
          .writeData, .settle Heap.zeroed.fileData none ()]).flatten = some last ∧
      last.loop.session.outbox.isConnected = false ∧
      middle.written ++ middle.loop.session.outbox.sendingQueue_ <+: last.written := by
  rcases Option.map_eq_some_iff.mp (show (exec (step .m64)
      ⟨ClientLoop.start (Field.zero _) (.new (Field.zero _) (Field.zero _) (Field.zero _) ()), []⟩
      [.chat Heap.zeroed.chat () (ascii ['h', 'i']), .disconnect ()]).map (fun flushing : Flushing Unit =>
        (flushing.loop.session.outbox.sendingQueue_.length, (exec (step .m64) flushing
          (List.replicate 3 [.poll .ready ⟨false, false, false, false, true⟩, .readData .zeroed none fun _ => ⟨.refuse, false, 0, ()⟩,
            .writeData, .settle Heap.zeroed.fileData none ()]).flatten).map fun last =>
              (last.loop.goesOn, last.loop.hasError))) = some (3, some (false, false)) by decide +kernel)
    with ⟨middle, began, reached⟩
  simp only [Prod.mk.injEq] at reached
  rcases reached with ⟨waiting, rest⟩
  rcases Option.map_eq_some_iff.mp rest with ⟨last, ran, outcome⟩
  simp only [Prod.mk.injEq] at outcome
  rcases outcome with ⟨ended, sound⟩
  exact ⟨middle, last, began, waiting, ran, allWritten (run_of_exec ran) ended sound⟩

end Flushing

end LanMessenger
