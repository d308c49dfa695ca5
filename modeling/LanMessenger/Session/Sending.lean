import LanMessenger.Session.SessionBase
import LanMessenger.Stream.Framing
import LanMessenger.Stream.Offers
import LanMessenger.Transition.Runs

namespace LanMessenger

open CMemory Stream Transition

/-- The sending side of a `SessionBase`, with the messages `sendMessage` has accepted and the calls of `send` so far. The
    code keeps neither. -/
structure Sender (τ : Type) where
  outbox : Outbox τ
  accepted : List Message
  offers : List (Offer Byte)

namespace Sender

variable {τ : Type}

def new : Sender τ := ⟨.new, [], []⟩

inductive Event (τ : Type)
  | sendMessage (letter : Letter τ)
  /-- `send` fails (`none`), or takes some of the bytes. -/
  | writeData (sent : Option Nat)

/-- `writeData` drops the result of `send`: the message has left the queue, and its buffer is freed. -/
def step (sender : Sender τ) : Event τ → Option (Sender τ)
  | .sendMessage letter =>
    let (accepted, outbox) := sender.outbox.sendMessage letter
    some { sender with
      outbox
      accepted := if accepted then sender.accepted ++ [letter.message] else sender.accepted }
  | .writeData sent =>
    match sender.outbox.writeData with
    | (none, _) => some sender
    | (some letter, outbox) =>
      -- no more bytes are taken than offered
      if sent.getD 0 ≤ letter.message.frame.length then
        some { sender with outbox, offers := sender.offers ++ [⟨letter.message.frame, sent.getD 0⟩] }
      else none

/-- The peer reads frames: what the socket took is a prefix of the accepted messages' frames, and no call goes past what
    the one before it left. -/
structure Framed (sender : Sender τ) : Prop where
  stream : taken sender.offers <+: bytes Message.frame sender.accepted
  resumed : Resumed sender.offers

/-- A frame is handed over only while every frame before it was taken whole. -/
def HandsOverWhole (sender : Sender τ) : Event τ → Prop
  | .sendMessage _ => True
  | .writeData _ => sender.outbox.sendingQueue_ = [] ∨ Whole sender.offers

instance (sender : Sender τ) (event : Event τ) : Decidable (sender.HandsOverWhole event) :=
  match event with
  | .sendMessage _ => instDecidableTrue
  | .writeData _ =>
    decidable_of_iff (sender.outbox.sendingQueue_.isEmpty = true ∨ Whole sender.offers) (by
      rw [List.isEmpty_iff]
      exact Iff.rfl)

/-- The messages handed over are the front of the accepted ones, in order, and each call was offered the frame of its
    message; all but the last were taken whole. -/
structure InOrder (sender : Sender τ) (written : List Message) : Prop where
  accepted : sender.accepted = written ++ sender.outbox.sendingQueue_.map Letter.message
  frames : sender.offers.map Offer.offered = written.map Message.frame
  whole : sender.offers = [] ∨ ∃ front last, sender.offers = front ++ [last] ∧ Whole front

variable {sender next : Sender τ} {written : List Message}

theorem inOrder_new : (new : Sender τ).InOrder [] := ⟨rfl, rfl, Or.inl rfl⟩

theorem InOrder.offered_bytes (order : sender.InOrder written) : offered sender.offers = bytes Message.frame written := by
  rw [offered, bytes, List.flatMap_def, List.flatMap_def, order.frames]

theorem InOrder.framed (order : sender.InOrder written) : sender.Framed := by
  have front : offered sender.offers <+: bytes Message.frame sender.accepted := by
    rw [order.offered_bytes, order.accepted, bytes_append]
    exact List.prefix_append _ _
  rcases order.whole with none | ⟨earlier, last, offers, whole⟩
  · rw [none] at front
    exact ⟨by rw [none]; exact List.nil_prefix, by rw [none]; exact List.IsChain.nil⟩
  · rw [offers] at front
    exact ⟨by rw [offers]; exact (taken_prefix_of_whole whole last).trans front,
      by rw [offers]; exact resumed_of_whole whole last⟩

theorem InOrder.sendMessage (order : sender.InOrder written) {letter : Letter τ}
    (stepped : sender.step (.sendMessage letter) = some next) : next.InOrder written := by
  by_cases full : sender.outbox.sendingQueue_.length > maxNetworkMessageQueue
  · simp only [step, Outbox.sendMessage, if_pos full, Bool.false_eq_true, if_false] at stepped
    cases stepped
    exact order
  · simp only [step, Outbox.sendMessage, if_neg full, if_true] at stepped
    cases stepped
    exact ⟨by simp [order.accepted], order.frames, order.whole⟩

theorem InOrder.writeData (order : sender.InOrder written) {sent : Option Nat}
    (handsOver : sender.HandsOverWhole (.writeData sent)) (stepped : sender.step (.writeData sent) = some next) :
    ∃ written, next.InOrder written := by
  simp only [step, Outbox.writeData] at stepped
  cases queue : sender.outbox.sendingQueue_ with
  | nil =>
    simp only [queue] at stepped
    cases stepped
    exact ⟨written, order⟩
  | cons letter rest =>
    simp only [queue] at stepped
    split at stepped
    · cases stepped
      have whole : Whole sender.offers := handsOver.resolve_left (by simp [queue])
      refine ⟨written ++ [letter.message], ?_, ?_, Or.inr ⟨sender.offers, _, rfl, whole⟩⟩
      · simp [order.accepted, queue]
      · simp [order.frames]
    · cases stepped

theorem InOrder.step (order : sender.InOrder written) {event : Event τ} (handsOver : sender.HandsOverWhole event)
    (stepped : sender.step event = some next) : ∃ written, next.InOrder written := by
  cases event with
  | sendMessage letter => exact ⟨written, order.sendMessage stepped⟩
  | writeData sent => exact order.writeData handsOver stepped

/-- While no frame follows one that was cut short, the outgoing stream stays framed. -/
theorem outgoingFramed {events : List (Event τ)} (run : Run step HandsOverWhole new events sender) : sender.Framed := by
  have ordered : ∃ written, sender.InOrder written := by
    apply run.invariant (fun sender => ∃ written, sender.InOrder written)
    · exact ⟨[], inOrder_new⟩
    · intro now event after ordered handsOver stepped
      rcases ordered with ⟨written, order⟩
      exact order.step handsOver stepped
  rcases ordered with ⟨written, order⟩
  exact order.framed

/-- The frame behind a whole one is cut short, and a third message waits. -/
theorem outgoingFramed_threeMessages :
    ∃ sender : Sender Unit, exec step new [.sendMessage ⟨.hello, ()⟩, .sendMessage ⟨.status ⟨.ok⟩, ()⟩, .writeData (some 8),
        .sendMessage ⟨.bye, ()⟩, .writeData (some 3)] = some sender ∧
      taken sender.offers = Message.hello.frame ++ (Message.status ⟨.ok⟩).frame.take 3 ∧ sender.accepted.length = 3 ∧
      sender.Framed := by
  have outcome : (execMeets step (fun sender event => decide (HandsOverWhole sender event)) (new : Sender Unit)
      [.sendMessage ⟨.hello, ()⟩, .sendMessage ⟨.status ⟨.ok⟩, ()⟩, .writeData (some 8), .sendMessage ⟨.bye, ()⟩,
        .writeData (some 3)]).map (fun sender => (taken sender.offers, sender.accepted.length)) =
        some (Message.hello.frame ++ (Message.status ⟨.ok⟩).frame.take 3, 3) := by
    decide +kernel
  rcases Option.map_eq_some_iff.mp outcome with ⟨sender, executed, counted⟩
  rw [Prod.mk.injEq] at counted
  exact ⟨sender, exec_of_execMeets executed, counted.1, counted.2, outgoingFramed (run_of_execDecide executed)⟩

/-- The `HELLO` is cut short, and the `BYE` behind it sent without its other five bytes: the peer finds `HI`, a NUL and a `B` where a command stands. -/
theorem outgoingFramed_cut :
    ∃ sender : Sender Unit, exec step new [.sendMessage ⟨.hello, ()⟩, .sendMessage ⟨.bye, ()⟩, .writeData (some 3),
        .writeData (some 8)] = some sender ∧ ¬ sender.Framed := by
  have outcome : (exec step (new : Sender Unit) [.sendMessage ⟨.hello, ()⟩, .sendMessage ⟨.bye, ()⟩, .writeData (some 3),
      .writeData (some 8)]).map (fun sender => decide (taken sender.offers <+: bytes Message.frame sender.accepted)) =
        some false := by
    decide +kernel
  rcases Option.map_eq_some_iff.mp outcome with ⟨sender, executed, broken⟩
  exact ⟨sender, executed, fun framed => of_decide_eq_false broken framed.stream⟩

end Sender

end LanMessenger
