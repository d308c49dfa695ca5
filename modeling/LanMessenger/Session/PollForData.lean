import LanMessenger.Session.SessionBase

namespace LanMessenger

open CMemory

variable {τ : Type}

/-- `pollForData` between two turns of its loop. `dispatched` records the messages handled so far. -/
structure PollLoop (τ : Type) where
  inbox : Inbox
  outbox : Outbox τ
  hasError : Bool
  dispatched : List Message

/-- What `ppoll` returned: 0, -1, or 1. -/
inductive Ready
  | timeout
  | failure
  | ready
deriving DecidableEq

structure Revents where
  pollErr : Bool
  pollHup : Bool
  pollNval : Bool
  pollIn : Bool
  pollOut : Bool

/-- What one turn meets: the outcome of `ppoll` and of `recv`, and what the derived class's `availableMessages` and
    `cycle` do to the queue and to the disconnection flag. -/
structure PollTurn (τ : Type) where
  ready : Ready
  revents : Revents
  heap : Heap
  recv : Option (List Byte)
  availableMessages : List Message → Outbox τ → Outbox τ
  cycle : Outbox τ → Outbox τ

namespace PollLoop

def start (buffer : Field maxMessageSize) (outbox : Outbox τ) : PollLoop τ := ⟨.new buffer, outbox, false, []⟩

def goesOn (loop : PollLoop τ) : Bool :=
  !loop.hasError && (loop.outbox.isConnected || !loop.outbox.sendingQueue_.isEmpty)

def readData (loop : PollLoop τ) (turn : PollTurn τ) : Except Undefined (PollLoop τ) :=
  match loop.inbox.readData turn.heap turn.recv with
  | .error undefined => .error undefined
  | .ok (hasError, handled, inbox) => .ok {
      inbox
      outbox := if handled = [] then loop.outbox else turn.availableMessages handled loop.outbox
      hasError
      dispatched := loop.dispatched ++ handled }

/-- `writeData` never reports an error. -/
def writeData (loop : PollLoop τ) : PollLoop τ := { loop with outbox := loop.outbox.writeData.2, hasError := false }

def settle (loop : PollLoop τ) (turn : PollTurn τ) : PollLoop τ :=
  let loop := if turn.revents.pollOut then loop.writeData else loop
  if loop.hasError then { loop with outbox.disconnectionFlag_ := true }
  else if loop.outbox.isConnected then { loop with outbox := turn.cycle loop.outbox }
  else loop

/-- One turn of the loop. The outcome of a read takes the place of the error of the events, and the outcome of a
    write the place of both. -/
def pollForData (loop : PollLoop τ) (turn : PollTurn τ) : Except Undefined (PollLoop τ) :=
  if turn.ready = .timeout then .ok loop
  else
    let loop := { loop with
      hasError := loop.hasError || turn.ready = Ready.failure || turn.revents.pollErr || turn.revents.pollHup ||
        turn.revents.pollNval }
    match if turn.revents.pollIn then loop.readData turn else .ok loop with
    | .error undefined => .error undefined
    | .ok loop => .ok (loop.settle turn)

inductive Event (τ : Type)
  | turn (turn : PollTurn τ)
  /-- Other threads call `sendMessage` and `disconnect`. -/
  | others (change : Outbox τ → Outbox τ)

/-- `recv` is asked for as many bytes as there is room for, and returns no more. -/
def Permits (loop : PollLoop τ) (turn : PollTurn τ) : Prop :=
  ∀ chunk, turn.recv = some chunk → loop.inbox.bufferOffset_ + chunk.length ≤ maxMessageSize

instance (loop : PollLoop τ) (turn : PollTurn τ) : Decidable (loop.Permits turn) :=
  match received : turn.recv with
  | none => isTrue fun chunk same => by rw [received] at same; cases same
  | some chunk =>
    decidable_of_iff (loop.inbox.bufferOffset_ + chunk.length ≤ maxMessageSize)
      ⟨fun room other same => by rw [received] at same; cases same; exact room, fun permits => permits chunk received⟩

def step (loop : PollLoop τ) : Event τ → Option (PollLoop τ)
  | .turn turn => if loop.goesOn ∧ loop.Permits turn then (loop.pollForData turn).toOption else none
  | .others change => some { loop with outbox := change loop.outbox }

variable (loop : PollLoop τ) (turn : PollTurn τ)

@[simp] theorem inbox_settle : (loop.settle turn).inbox = loop.inbox := by
  cases out : turn.revents.pollOut <;> simp only [settle, out, if_true, Bool.false_eq_true, if_false] <;> repeat' split
  all_goals rfl

@[simp] theorem dispatched_settle : (loop.settle turn).dispatched = loop.dispatched := by
  cases out : turn.revents.pollOut <;> simp only [settle, out, if_true, Bool.false_eq_true, if_false] <;> repeat' split
  all_goals rfl

end PollLoop

end LanMessenger
