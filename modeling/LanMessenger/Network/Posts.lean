import LanMessenger.Network.Letters
import LanMessenger.Network.NickNames

/-! What holds of every message on its way, whatever the order of the steps: a property of the messages that a client
sends, and one of those that it is sent. -/

namespace LanMessenger

open CMemory

namespace Outbox

variable {outbox : Outbox Nat} {letter : Letter Nat}

theorem mem_of_writeData (written : outbox.writeData.1 = some letter) : letter ∈ outbox.sendingQueue_ := by
  unfold writeData at written
  split at written
  · cases written
  · rename_i queue
    cases written
    rw [queue]
    exact List.mem_cons_self

theorem writeData_none (none : outbox.writeData.1 = none) : outbox.writeData.2 = outbox := by
  unfold writeData at none ⊢
  split at none
  · rfl
  · cases none

theorem mem_of_mem_writeData (left : letter ∈ outbox.writeData.2.sendingQueue_) : letter ∈ outbox.sendingQueue_ := by
  unfold writeData at left
  split at left
  · exact left
  · rename_i queue
    rw [queue]
    exact List.mem_cons_of_mem _ left

end Outbox

/-- What is relayed of a message that a client may send may be told to its peers, and the rest goes unasked. -/
structure Server.Passes (target : Target) (sent told : SessionId → Message → Prop) : Prop where
  fixed : ∀ client message, message.isSized = false → sent client message
  replies : ∀ peer message, message.isRelayed = false → told peer message
  relays : ∀ {memory : Memory} {origin : Nat} {server : Server Nat} {client peer : SessionId}
    {current data : SessionData Nat} {message : Message} {letter : Letter Nat}, peer ≠ client → sent client message →
      relayLetter target memory origin server current message peer data = some letter → told peer letter.message

structure Network.Posted (sent told : SessionId → Message → Prop) (network : Network) : Prop where
  outgoing : ∀ client connection, network.connections client = some connection →
    ∀ letter ∈ connection.outgoing, sent client letter.message
  down : ∀ client connection, network.connections client = some connection →
    ∀ letter ∈ connection.down, told client letter.message
  queues : ∀ client data, network.server.findSession client = some data →
    ∀ letter ∈ data.client.outbox.sendingQueue_, told client letter.message

variable {target : Target} {sent told : SessionId → Message → Prop}

theorem Server.Passes.message {memory : Memory} {origin : Nat} {server next : Server Nat} {client peer : SessionId}
    {message : Message} {data : SessionData Nat} (passes : Passes target sent told)
    (handled : server.availableMessage target memory origin client message = .ok next) (came : sent client message)
    (queues : ∀ peer data, server.findSession peer = some data →
      ∀ letter ∈ data.client.outbox.sendingQueue_, told peer letter.message)
    (there : next.findSession peer = some data) :
    ∀ letter ∈ data.client.outbox.sendingQueue_, told peer letter.message := by
  rcases message_relays handled with ⟨current, -, relays⟩
  have after := relays peer
  rw [there, Option.map_some] at after
  rcases Option.map_eq_some_iff.mp after.symm with ⟨before, found, same⟩
  intro letter member
  cases relayed : letter.message.isRelayed with
  | false => exact passes.replies peer _ relayed
  | true =>
    have queued : letter ∈ data.relayedQueue := List.mem_filter.mpr ⟨member, relayed⟩
    rw [← same] at queued
    split at queued
    · exact queues peer before found letter (List.mem_filter.mp queued).1
    · rename_i other
      cases passed : relayLetter target memory origin server current message peer before with
      | none =>
        rw [passed] at queued
        exact queues peer before found letter (List.mem_filter.mp queued).1
      | some fresh =>
        rw [passed] at queued
        rcases Outbox.mem_send (List.mem_filter.mp queued).1 with was | rfl
        · exact queues peer before found letter was
        · exact passes.relays other came passed

namespace Connection

variable {connection next : Connection} {event : ClientEvent}

/-- What a client sends of its own accord: the texts that are typed, and the blocks that `cycle` reads. -/
structure Authors (target : Target) (connection : Connection) (event : ClientEvent) (holds : Message → Prop) : Prop where
  types : ∀ raw message, event = .chat raw message → holds (.chat (ChatMessage.ofMessage raw message))
  cycles : ∀ raw fopen handle, event = .cycle raw fopen → connection.client.isSendingFile_ = true →
    connection.client.hasFileTransferStarted_ = true →
    (connection.client.fileTransferHandle_ <|> fopen.map (FileHandle.reading · 0 0)) = some handle →
      holds (.fileData (connection.client.blockMessage target raw handle))

theorem Carries.outgoing {holds : Message → Prop} (carries : Carries target connection next event)
    (fixed : ∀ message, message.isSized = false → holds message) (authors : connection.Authors target event holds)
    (earlier : ∀ letter ∈ connection.outgoing, holds letter.message) : ∀ letter ∈ next.outgoing, holds letter.message := by
  cases carries with
  | types raw message up outbox down =>
    intro letter member
    rw [Connection.outgoing, up, outbox] at member
    rcases List.mem_append.mp member with away | queued
    · exact earlier letter (List.mem_append_left _ away)
    · rcases Outbox.mem_send queued with was | rfl
      · exact earlier letter (List.mem_append_right _ was)
      · exact authors.types raw message rfl
  | offers fileName up client down =>
    intro letter member
    rw [Connection.outgoing, up, client] at member
    rcases List.mem_append.mp member with away | queued
    · exact earlier letter (List.mem_append_left _ away)
    · rcases Outbox.mem_send queued with was | rfl
      · exact earlier letter (List.mem_append_right _ was)
      · exact fixed _ rfl
  | cycles raw fopen up client down =>
    intro letter member
    rw [Connection.outgoing, up, client] at member
    rcases List.mem_append.mp member with away | queued
    · exact earlier letter (List.mem_append_left _ away)
    · have behind : ∀ letter ∈ connection.client.outbox.sendingQueue_, holds letter.message := fun letter was =>
        earlier letter (List.mem_append_right _ was)
      rcases connection.client.cycle_cases raw fopen 0 with same | disabled | ⟨sending, started, handle, opened, waits | sends⟩
      · rw [same] at queued
        exact behind letter queued
      · rw [disabled] at queued
        exact behind letter queued
      · rw [waits] at queued
        exact behind letter queued
      · rw [sends, SessionServer.outbox_sendBlock] at queued
        rcases Outbox.mem_send queued with was | rfl
        · exact behind letter was
        · exact authors.cycles raw fopen handle rfl sending started opened
  | reads answer opens elapsed letter waiting up extended handled => exact extended.all fixed earlier
  | plain other extended down => exact extended.all fixed earlier

theorem Carries.down {holds : Message → Prop} (carries : Carries target connection next event)
    (earlier : ∀ letter ∈ connection.down, holds letter.message) : ∀ letter ∈ next.down, holds letter.message := by
  cases carries with
  | types raw message up outbox down => rwa [down]
  | offers fileName up client down => rwa [down]
  | cycles raw fopen up client down => rwa [down]
  | reads answer opens elapsed letter waiting up extended handled =>
    intro other member
    apply earlier other
    rw [waiting]
    exact List.mem_cons_of_mem _ member
  | plain other extended down => rwa [down]

end Connection

namespace Network

variable {network next : Network} {client : SessionId} {acted : Connection}

theorem posted_start : start.Posted sent told := by
  constructor
  · intro client connection there
    cases there
  · intro client connection there
    cases there
  · intro client data there
    rw [start, Server.findSession_new] at there
    cases there

theorem Posted.mono {sent' told' : SessionId → Message → Prop} (posted : network.Posted sent told)
    (sends : ∀ client message, sent client message → sent' client message)
    (tells : ∀ client message, told client message → told' client message) : network.Posted sent' told' :=
  ⟨fun client connection there letter member => sends _ _ (posted.outgoing client connection there letter member),
    fun client connection there letter member => tells _ _ (posted.down client connection there letter member),
    fun client data there letter member => tells _ _ (posted.queues client data there letter member)⟩

theorem updated {holds : SessionId → Message → Prop} {letters : Connection → List (Letter Nat)}
    (earlier : ∀ client connection, network.connections client = some connection →
      ∀ letter ∈ letters connection, holds client letter.message)
    (now : ∀ letter ∈ letters acted, holds client letter.message) (peer : SessionId) (connection : Connection)
    (there : Function.update network.connections client (some acted) peer = some connection) :
    ∀ letter ∈ letters connection, holds peer letter.message := by
  rcases update_some there with ⟨rfl, rfl⟩ | ⟨-, there⟩
  · exact now
  · exact earlier peer connection there

theorem Posted.step {event : Event} (posted : network.Posted sent told) (passes : Server.Passes target sent told)
    (authors : ∀ client act connection, event = .client client act → network.connections client = some connection →
      connection.Authors target act (sent client))
    (stepped : network.step target event = some next) : next.Posted sent told := by
  rcases posted with ⟨outgoing, down, queues⟩
  cases steps_of_step stepped with
  | connect unused unknown =>
    refine ⟨updated outgoing fun letter member => ?_, updated down (fun letter none => by cases none),
      fun peer data there => ?_⟩
    · rw [List.mem_singleton.mp member]
      exact passes.fixed _ _ rfl
    · rw [Server.addSession_find] at there
      split at there
      · cases there
        intro letter none
        cases none
      · exact queues peer data there
  | client known acts =>
    have carries := Connection.carries_of_step acts
    exact ⟨updated outgoing (carries.outgoing (passes.fixed _) (authors _ _ _ rfl known) (outgoing _ _ known)),
      updated down (carries.down (down _ _ known)), queues⟩
  | message known waits handled connections =>
    have came := outgoing _ _ known
    rw [Connection.outgoing, waits] at came
    refine ⟨?_, ?_, fun peer data there => passes.message handled (came _ List.mem_cons_self) queues there⟩
    · rw [connections]
      exact updated outgoing fun letter member => came letter (List.mem_cons_of_mem _ member)
    · rw [connections]
      exact updated down fun letter member => down _ _ known letter member
  | writeData known session =>
    have queue := queues _ _ session
    refine ⟨updated outgoing fun letter member => outgoing _ _ known letter member, updated down fun letter member => ?_, fun peer data there => ?_⟩
    · rcases List.mem_append.mp member with earlier | now
      · exact down _ _ known letter earlier
      · exact queue letter (Outbox.mem_of_writeData (Option.mem_toList.mp now))
    · rw [Server.findSession_modify] at there
      split at there
      · rename_i own
        subst own
        rw [session, Option.map_some, Option.some.injEq] at there
        subst there
        exact fun letter member => queue letter (Outbox.mem_of_mem_writeData member)
      · exact queues peer data there
  | removeSession removed =>
    exact ⟨outgoing, down, fun peer data there => queues peer data (Server.find_removeSession removed there)⟩

end Network

end LanMessenger
