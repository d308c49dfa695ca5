import LanMessenger.Messages.Built
import LanMessenger.Server.NickNames

namespace LanMessenger

open CMemory

variable {τ : Type}

theorem NicknameMessage.nickName_ofNickName {text : List Byte} (nonzero : 0#8 ∉ text) (short : text.length < maxNicknameSize)
    (beyond : List Byte) : (ofNickName text).nickName beyond = text := by
  rw [nickName, ofNickName, bytes_setNickName, List.append_assoc, List.singleton_append, cString_strncpy_append_zero,
    cString_of_not_mem nonzero, List.take_of_length_le (Nat.le_of_lt short)]

def Message.nickNameMessage : Message → Option NicknameMessage
  | nickname message => some message
  | _ => none

theorem Message.nickNameMessage_eq_none {message : Message} (other : message.type ≠ .nickname) :
    message.nickNameMessage = none := by
  cases message with
  | nickname name => exact absurd rfl other
  | _ => rfl

def nickNames (letters : List (Letter τ)) : List NicknameMessage :=
  letters.filterMap fun letter => letter.message.nickNameMessage

@[simp] theorem nickNames_append (front back : List (Letter τ)) :
    nickNames (front ++ back) = nickNames front ++ nickNames back := List.filterMap_append

theorem Outbox.nickNames_send (outbox : Outbox τ) {letter : Letter τ} (other : letter.message.nickNameMessage = none) :
    nickNames (outbox.send letter).sendingQueue_ = nickNames outbox.sendingQueue_ := by
  unfold Outbox.send Outbox.sendMessage
  split
  · rfl
  · simp [nickNames, other]

theorem Outbox.nickNames_accepted (outbox : Outbox τ) {letter : Letter τ} {name : NicknameMessage}
    (room : outbox.canSendMessages = true) (names : letter.message.nickNameMessage = some name) :
    nickNames (outbox.send letter).sendingQueue_ = nickNames outbox.sendingQueue_ ++ [name] := by
  rw [Outbox.send_of_room room]
  simp [nickNames, names]

namespace SessionData

def nickNameQueue (data : SessionData τ) : List NicknameMessage := nickNames data.client.outbox.sendingQueue_

variable (data : SessionData τ)

theorem nickNameQueue_send {letter : Letter τ} (other : letter.message.nickNameMessage = none) :
    (data.send letter).nickNameQueue = data.nickNameQueue :=
  data.client.outbox.nickNames_send other

@[simp] theorem nickNameQueue_changeState (origin : τ) (messageType : MessageType) :
    (data.changeState origin messageType).nickNameQueue = data.nickNameQueue := by
  unfold changeState
  split
  · rfl
  · split
    · unfold disconnect Outbox.disconnect
      split
      · exact data.client.outbox.nickNames_send rfl
      · rfl
    · rfl

end SessionData

namespace Server

variable {server next : Server τ} {target : Target} {client : SessionId} {memory : Memory} {origin : τ}

theorem keepsNickNameQueue_message {message : Message} (notHello : message ≠ .hello)
    (notName : ∀ name, message ≠ .nickname name)
    (handled : server.availableMessage target memory origin client message = .ok next) :
    Keeps SessionData.nickNameQueue server next := by
  have unchanging : stateChange message.type = none → Keeps SessionData.nickNameQueue server next := by
    refine fun unchanging => keeps_unchanging (fun data letter other => data.nickNameQueue_send ?_) (fun _ _ => rfl)
      (fun _ _ => rfl) unchanging handled
    exact Message.nickNameMessage_eq_none other
  cases message with
  | hello => exact absurd rfl notHello
  | nickname name => exact absurd rfl (notName name)
  | bye =>
    refine (bye_ok handled).2.keeps fun peer data => ?_
    split
    · exact data.nickNameQueue_changeState origin .bye
    · rfl
  | status status => exact unchanging rfl
  | chat chat => exact unchanging rfl
  | fileRequest file => exact unchanging rfl
  | fileData block => exact unchanging rfl

theorem nickNameQueue_hello {data : SessionData τ} (found : server.findSession client = some data)
    (room : (data.changeState origin .hello).client.outbox.canSendMessages = true)
    (handled : server.availableMessage target memory origin client .hello = .ok next) :
    ∃ after, next.findSession client = some after ∧ after.client.nickName_ = data.client.nickName_ ∧
      after.nickNameQueue = data.nickNameQueue ++ [.ofNickName after.client.nickName] := by
  refine ⟨_, (hello_ok handled).2.find client |>.trans (by rw [found, Option.map_some, if_pos rfl]), ?_, ?_⟩
  · exact data.nickName_changeState origin .hello
  · refine ((data.changeState origin .hello).client.outbox.nickNames_accepted room rfl).trans ?_
    have kept := data.nickNameQueue_changeState origin .hello
    rw [SessionData.nickNameQueue] at kept
    rw [kept]
    simp only [SessionData.send, SessionClient.nickName, SessionData.nickName_changeState]

theorem nickNameQueue_nickname {name : NicknameMessage} {data : SessionData τ}
    (found : server.findSession client = some data)
    (room : (data.changeState origin .nickname).client.outbox.canSendMessages = true)
    (handled : server.availableMessage target memory origin client (.nickname name) = .ok next) :
    ∃ after, next.findSession client = some after ∧
      ((after.client.nickName_ = data.client.nickName_ ∧ after.nickNameQueue = data.nickNameQueue) ∨
        (after.client.nickName.length < maxNicknameSize ∧
          after.nickNameQueue = data.nickNameQueue ++ [.ofNickName after.client.nickName])) := by
  obtain ⟨accepted, -, -, rewrites⟩ := nickname_ok handled
  have there := rewrites.find client
  rw [found, Option.map_some, if_pos rfl] at there
  have kept := data.nickNameQueue_changeState origin .nickname
  refine ⟨_, there, ?_⟩
  cases accepted with
  | false =>
    refine Or.inl ⟨data.nickName_changeState origin .nickname, ?_⟩
    exact ((data.changeState origin .nickname).nickNameQueue_send rfl).trans kept
  | true =>
    refine Or.inr ⟨?_, ?_⟩
    · have cut : ((data.changeState origin .nickname).client.setNickName (name.nickName memory.beyond)).nickName.length ≤
          maxNicknameSize - 1 := by
        rw [SessionClient.nickName_setNickName]
        exact List.length_take_le _ _
      exact Nat.lt_of_le_of_lt cut (by decide)
    · rw [SessionData.nickNameQueue] at kept
      rw [← kept]
      exact (data.changeState origin .nickname).client.outbox.nickNames_accepted room rfl

theorem nickNames_message {message : Message} {peer : SessionId} {data : SessionData τ}
    (found : server.findSession peer = some data)
    (room : peer = client → message.type = .hello ∨ message.type = .nickname →
      (data.changeState origin message.type).client.outbox.canSendMessages = true)
    (handled : server.availableMessage target memory origin client message = .ok next) :
    ∃ after, next.findSession peer = some after ∧
      ((after.client.nickName_ = data.client.nickName_ ∧ after.nickNameQueue = data.nickNameQueue) ∨
        ((after.client.nickName_ = data.client.nickName_ ∨ after.client.nickName.length < maxNicknameSize) ∧
          after.nickNameQueue = data.nickNameQueue ++ [.ofNickName after.client.nickName])) := by
  by_cases hello : message = .hello
  · subst hello
    by_cases own : peer = client
    · subst own
      obtain ⟨after, there, name, told⟩ := nickNameQueue_hello found (room rfl (Or.inl rfl)) handled
      exact ⟨after, there, Or.inr ⟨Or.inl name, told⟩⟩
    · have there := (hello_ok handled).2.find peer
      rw [found, Option.map_some, if_neg own] at there
      exact ⟨data, there, Or.inl ⟨rfl, rfl⟩⟩
  · by_cases names : ∃ name, message = .nickname name
    · obtain ⟨name, rfl⟩ := names
      by_cases own : peer = client
      · subst own
        obtain ⟨after, there, kept | ⟨short, told⟩⟩ := nickNameQueue_nickname found (room rfl (Or.inr rfl)) handled
        · exact ⟨after, there, Or.inl kept⟩
        · exact ⟨after, there, Or.inr ⟨Or.inr short, told⟩⟩
      · obtain ⟨accepted, -, -, rewrites⟩ := nickname_ok handled
        have there := rewrites.find peer
        rw [found, Option.map_some, if_neg own] at there
        exact ⟨data, there, Or.inl ⟨rfl, rfl⟩⟩
    · have other : ∀ name, message ≠ .nickname name := fun name same => names ⟨name, same⟩
      have name := keepsNickNames_message other handled peer
      have queue := keepsNickNameQueue_message hello other handled peer
      rw [found, Option.map_some, Option.map_eq_some_iff] at name queue
      obtain ⟨after, there, name⟩ := name
      obtain ⟨again, same, queue⟩ := queue
      rw [there] at same
      cases same
      exact ⟨after, there, Or.inl ⟨name, queue⟩⟩

end Server

end LanMessenger
