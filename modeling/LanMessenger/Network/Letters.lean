import LanMessenger.Client.Letters
import LanMessenger.Network.Moves
import LanMessenger.Server.Relays

/-! What the steps of the network append to the queues between a client and its session. -/

namespace LanMessenger

open CMemory

def ClientEvent.isPlain : ClientEvent → Bool
  | .chat _ _ | .sendFile _ | .cycle _ _ | .readData _ _ _ => false
  | _ => true

namespace Connection

def outgoing (connection : Connection) : List (Letter Nat) := connection.up ++ connection.client.outbox.sendingQueue_

inductive Carries (target : Target) (connection next : Connection) : ClientEvent → Prop
  | types (raw : ChatMessage) (message : List Byte) (up : next.up = connection.up)
      (outbox : next.client.outbox = connection.client.outbox.send ⟨.chat (ChatMessage.ofMessage raw message), 0⟩)
      (down : next.down = connection.down) : Carries target connection next (.chat raw message)
  | offers (fileName : FileName) (up : next.up = connection.up)
      (client : next.client = connection.client.sendFile 0 fileName) (down : next.down = connection.down) :
      Carries target connection next (.sendFile fileName)
  | cycles (raw : FileDataMessage) (fopen : Option Readable) (up : next.up = connection.up)
      (client : next.client = connection.client.cycle target raw fopen 0) (down : next.down = connection.down) :
      Carries target connection next (.cycle raw fopen)
  | reads (answer : Answer) (opens : Bool) (elapsed : Int) (letter : Letter Nat) (waiting : connection.down = letter :: next.down)
      (up : next.up = connection.up) (extended : Extended connection.outgoing next.outgoing)
      (handled : connection.handle target answer opens elapsed letter next.down = some next) :
      Carries target connection next (.readData answer opens elapsed)
  | plain {event : ClientEvent} (other : event.isPlain = true) (extended : Extended connection.outgoing next.outgoing)
      (down : next.down = connection.down) : Carries target connection next event

variable {target : Target} {connection next : Connection}

theorem chats_outgoing_cycle {raw : FileDataMessage} {fopen : Option Readable} (up : next.up = connection.up)
    (client : next.client = connection.client.cycle target raw fopen 0) : chats next.outgoing = chats connection.outgoing := by
  rw [outgoing, outgoing, up, client, chats_append, chats_append]
  congr 1
  rcases connection.client.cycle_cases raw fopen 0 with same | disabled | ⟨-, -, handle, -, waits | sends⟩
  · rw [same]
  · rw [disabled]
    rfl
  · rw [waits]
  · rw [sends, SessionServer.outbox_sendBlock, Outbox.chats_send]
    simp only [Message.chat?, Option.toList_none, ite_self, List.append_nil]

theorem chats_outgoing_sendFile {fileName : FileName} (up : next.up = connection.up)
    (client : next.client = connection.client.sendFile 0 fileName) : chats next.outgoing = chats connection.outgoing := by
  rw [outgoing, outgoing, up, client, chats_append, chats_append, SessionServer.sendFile, SessionServer.send, Outbox.chats_send]
  simp only [Message.chat?, Option.toList_none, ite_self, List.append_nil]

theorem carries_of_handle {answer : Answer} {opens : Bool} {elapsed : Int} {letter : Letter Nat} {rest : List (Letter Nat)}
    (handled : connection.handle target answer opens elapsed letter rest = some next) :
    next.down = rest ∧ next.up = connection.up ∧ Extended connection.outgoing next.outgoing := by
  unfold handle at handled
  split at handled
  · rename_i client effects read
    cases handled
    exact ⟨rfl, rfl, (SessionServer.extended_availableMessage read).behind _⟩
  · cases handled
    exact ⟨rfl, rfl, .refl _⟩
  · cases handled

theorem carries_of_step {event : ClientEvent} (stepped : connection.step target event = some next) :
    Carries target connection next event := by
  unfold step at stepped
  simp only at stepped
  split at stepped
  · cases stepped
  · cases event with
    | chooseFile =>
      simp only at stepped
      split at stepped <;> cases stepped
      exact .plain rfl (.refl _) rfl
    | leavePrompt =>
      cases stepped
      exact .plain rfl (.refl _) rfl
    | sendFile fileName =>
      simp only at stepped
      split at stepped <;> cases stepped
      exact .offers fileName rfl rfl rfl
    | chat raw message =>
      rcases Option.map_eq_some_iff.mp stepped with ⟨client, chatted, rfl⟩
      cases SessionServer.chat_some chatted
      exact .types raw message rfl rfl rfl
    | setNickName nickName =>
      cases stepped
      exact .plain rfl ((Extended.send _ ⟨.nickname (.ofNickName nickName), 0⟩ rfl).behind _) rfl
    | disconnect =>
      cases stepped
      exact .plain rfl ((SessionServer.extended_disconnect 0).behind _) rfl
    | cycle raw fopen =>
      cases stepped
      exact .cycles raw fopen rfl rfl rfl
    | writeData =>
      cases stepped
      refine .plain rfl ?_ rfl
      cases queue : connection.client.outbox.sendingQueue_ <;>
        simp only [outgoing, Outbox.writeData, queue, Option.toList, List.append_nil, List.append_assoc, List.singleton_append] <;>
        exact .refl _
    | readData answer opens elapsed =>
      simp only at stepped
      split at stepped
      · cases stepped
      · rename_i letter rest waiting
        rcases carries_of_handle stepped with ⟨rfl, up, extended⟩
        exact .reads answer opens elapsed letter waiting up extended stepped

end Connection

namespace SessionData

theorem chats_relayedQueue (data : SessionData τ) : chats data.relayedQueue = chats data.client.outbox.sendingQueue_ := by
  rw [chats, relayedQueue, List.filterMap_filter]
  congr 1
  funext letter
  cases letter.message <;> rfl

end SessionData

namespace Server

variable {target : Target} {memory : Memory} {origin : τ} {server next : Server τ} {client : SessionId} {message : Message}

theorem chats_of_chat {chat : ChatMessage}
    (handled : server.availableMessage target memory origin client (.chat chat) = .ok next) :
    ∃ current, server.findSession client = some current ∧ ∀ peer,
      ((next.findSession peer).map fun data => chats data.client.outbox.sendingQueue_) =
        (server.findSession peer).map fun data => chats data.client.outbox.sendingQueue_ ++
          if peer ≠ client ∧ data.client.outbox.canSendMessages = true then
            [(ChatMessage.ofMessage (memory.heap peer).chat chat.message).setSender current.client.nickName]
          else [] := by
  rcases chat_ok handled with ⟨current, found, -, ⟨alone, rfl⟩ | ⟨-, rewrites⟩⟩
  · refine ⟨current, found, fun peer => ?_⟩
    by_cases own : peer = client
    · subst own
      simp only [send, findSession_modify, if_true, Option.map_map, ne_eq, not_true_eq_false, false_and, if_false,
        List.append_nil]
      congr 1
      funext data
      simp only [Function.comp_apply, SessionData.send, Outbox.chats_send, Message.chat?, Option.toList_none, ite_self,
        List.append_nil]
    · have absent : server.findSession peer = none := by
        by_contra there
        exact size_ne_one (Option.isSome_iff_ne_none.mpr there) (by rw [found]; rfl) own alone
      rw [send, findSession_modify_of_ne server own, absent]
      rfl
  · refine ⟨current, found, fun peer => ?_⟩
    rw [rewrites.find, Option.map_map]
    congr 1
    funext data
    by_cases own : peer = client
    · simp only [Function.comp_apply, own, if_true, ne_eq, not_true_eq_false, false_and, if_false, List.append_nil]
    · simp only [Function.comp_apply, ne_eq, own, not_false_eq_true, true_and, if_false]
      exact Outbox.chats_send _ _

theorem chats_of_message (handled : server.availableMessage target memory origin client message = .ok next)
    (other : message.chat? = none) (peer : SessionId) :
    ((next.findSession peer).map fun data => chats data.client.outbox.sendingQueue_) =
      (server.findSession peer).map fun data => chats data.client.outbox.sendingQueue_ := by
  rcases message_relays handled with ⟨current, -, relays⟩
  have silent : ∀ data, (relayLetter target memory origin server current message peer data).all
      (fun letter => letter.message.chat?.isNone) = true := by
    intro data
    unfold relayLetter
    split
    · rfl
    · cases message with
      | chat => cases other
      | fileRequest file =>
        simp only
        split <;> rfl
      | fileData block =>
        simp only [dataLetter]
        split <;> rfl
      | _ => rfl
  have relayed := congrArg (Option.map chats) (relays peer)
  simp only [Option.map_map, Function.comp_def, SessionData.chats_relayedQueue] at relayed
  rw [relayed]
  congr 1
  funext data
  split
  · exact SessionData.chats_relayedQueue data
  · rw [SessionData.chats_relayedQueue]
    have silent := silent data
    cases sent : relayLetter target memory origin server current message peer data with
    | none => rfl
    | some letter =>
      rw [sent] at silent
      have none : letter.message.chat? = none := Option.isNone_iff_eq_none.mp silent
      simp only [SessionData.sendSome, SessionData.send, Outbox.chats_send, none, Option.toList_none, ite_self,
        List.append_nil]

end Server

end LanMessenger
