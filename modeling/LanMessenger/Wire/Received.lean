import LanMessenger.Wire.Wire

/-! A chat message that was parsed differs from the one that was sent behind the end of its text, where nobody reads. -/

namespace LanMessenger

open CMemory

namespace Message

variable {heap : Heap} {message : Message}

theorem received_cases (heap : Heap) (limits : message.WithinLimits) :
    message.received heap = message ∨ ∃ sent copy, message = chat sent ∧ message.received heap = chat copy ∧
      copy.message = sent.message ∧ copy.sender = sent.sender := by
  cases message with
  | chat sent =>
    have same := contents_received heap limits
    simp only [received, contents, Contents.chat.injEq] at same
    exact Or.inr ⟨sent, _, rfl, rfl, same⟩
  | _ => exact Or.inl rfl

end Message

theorem Server.availableMessage_received (target : Target) (memory : Memory) (origin : Nat) (server : Server Nat)
    (client : SessionId) (heap : Heap) {message : Message} (limits : message.WithinLimits) :
    server.availableMessage target memory origin client (message.received heap) =
      server.availableMessage target memory origin client message := by
  rcases Message.received_cases heap limits with same | ⟨sent, copy, rfl, made, text, -⟩
  · rw [same]
  · rw [made]
    simp only [availableMessage, Message.type, clientSentChatMessage, text]

theorem Server.saying_received (server : Server Nat) (client : SessionId) (heap : Heap) {message : Message}
    (limits : message.WithinLimits) : server.saying client (message.received heap) = server.saying client message := by
  rcases Message.received_cases heap limits with same | ⟨sent, copy, rfl, made, text, -⟩
  · rw [same]
  · rw [made]
    simp only [saying, Message.chat?, Option.bind_some, text]

theorem Server.verdict_received (server : Server Nat) (client : SessionId) (heap : Heap) {message : Message}
    (limits : message.WithinLimits) : server.verdict client (message.received heap) = server.verdict client message := by
  rcases Message.received_cases heap limits with same | ⟨sent, copy, rfl, made, -⟩
  · rw [same]
  · rw [made]
    rfl

theorem Poll.hear_received (poll : Poll) (server : Server Nat) (client : SessionId) (heap : Heap) {letter : Letter Nat}
    (limits : letter.message.WithinLimits) :
    poll.hear server client { letter with message := letter.message.received heap } = poll.hear server client letter := by
  rcases letter with ⟨message, origin⟩
  rcases Message.received_cases heap limits with same | ⟨sent, copy, rfl, made, -⟩
  · simp only [same]
  · simp only [made]
    rfl

theorem ChatLog.hears_received (log : ChatLog) (heap : Heap) {message : Message} (limits : message.WithinLimits) :
    log.hears (message.received heap) = log.hears message := by
  rcases Message.received_cases heap limits with same | ⟨sent, copy, rfl, made, text, sender⟩
  · rw [same]
  · simp only [made, hears, Message.chat?, Option.map_some, ChatMessage.row, text, sender]

theorem Connection.handle_received (target : Target) (connection : Connection) (answer : Answer) (opens : Bool)
    (elapsed : Int) (heap : Heap)
    {letter : Letter Nat} (rest : List (Letter Nat)) (limits : letter.message.WithinLimits) :
    connection.handle target answer opens elapsed { letter with message := letter.message.received heap } rest =
      connection.handle target answer opens elapsed letter rest := by
  rcases letter with ⟨message, origin⟩
  rcases Message.received_cases heap limits with same | ⟨sent, copy, rfl, made, text, sender⟩
  · simp only [same]
  · simp only [made, handle, SessionServer.availableMessage, text, sender]
    rfl

end LanMessenger
