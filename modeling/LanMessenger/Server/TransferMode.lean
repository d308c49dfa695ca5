import LanMessenger.Server.Effects
import LanMessenger.Transition.Exclusion
import LanMessenger.Transition.Runs

namespace LanMessenger

open CMemory Transition

variable {τ : Type}

namespace Server

def IsSender (server : Server τ) (client : SessionId) : Prop :=
  (server.findSession client).map SessionData.isFileTransferSender = some true

instance (server : Server τ) (client : SessionId) : Decidable (server.IsSender client) := inferInstanceAs (Decidable (_ = _))

variable {server next : Server τ} {target : Target} {client : SessionId} {memory : Memory} {origin : τ}

theorem Keeps.isSender_iff (keeps : Keeps SessionData.isFileTransferSender server next) (peer : SessionId) :
    next.IsSender peer ↔ server.IsSender peer := by
  rw [IsSender, keeps peer, IsSender]

theorem Keeps.isSome_eq {β : Type} {field : SessionData τ → β} (keeps : Keeps field server next) (peer : SessionId) :
    (next.findSession peer).isSome = (server.findSession peer).isSome := by
  rw [← Option.isSome_map, keeps peer, Option.isSome_map]

theorem Rewrites.isSome_eq {change : SessionId → SessionData τ → SessionData τ} (rewrites : Rewrites server next change)
    (peer : SessionId) : (next.findSession peer).isSome = (server.findSession peer).isSome := by
  rw [rewrites.find, Option.isSome_map]

theorem stable_isFileTransferSender : Stable (SessionData.isFileTransferSender (τ := τ)) where
  send _ _ _ := rfl
  setStatus _ _ := rfl
  changeState := SessionData.isFileTransferSender_changeState

theorem flags_message {message : Message} (request : ∀ file, message ≠ .fileRequest file)
    (block : ∀ data, message ≠ .fileData data)
    (handled : server.availableMessage target memory origin client message = .ok next) :
    next.fileTransferModeActive_ = server.fileTransferModeActive_ ∧
      Keeps SessionData.isFileTransferSender server next := by
  cases message with
  | hello => exact ⟨(hello_ok handled).1, stable_isFileTransferSender.keeps_hello handled⟩
  | bye => exact ⟨(bye_ok handled).1, stable_isFileTransferSender.keeps_bye handled⟩
  | status message => exact ⟨mode_status handled, stable_isFileTransferSender.keeps_status handled⟩
  | nickname message =>
    obtain ⟨accepted, -, mode, rewrites⟩ := nickname_ok handled
    refine ⟨mode, rewrites.keeps fun peer data => ?_⟩
    split
    · cases accepted
      · exact SessionData.isFileTransferSender_changeState data origin .nickname
      · exact SessionData.isFileTransferSender_changeState data origin .nickname
    · rfl
  | chat message =>
    obtain ⟨current, -, mode, ⟨-, rfl⟩ | ⟨-, rewrites⟩⟩ := chat_ok handled
    · exact ⟨mode, keeps_modify _ _ fun _ => rfl⟩
    · refine ⟨mode, rewrites.keeps fun peer data => ?_⟩
      split
      · rfl
      · exact SessionData.isFileTransferSender_sendSome _ _
  | fileRequest message => exact absurd rfl (request message)
  | fileData message => exact absurd rfl (block message)

theorem isSender_lastBlock {block : FileDataMessage} (several : server.sessions_.size ≠ 1) (last : block.isLastBlock = true)
    (handled : server.availableMessage target memory origin client (.fileData block) = .ok next) (peer : SessionId) :
    next.IsSender peer ↔ server.IsSender peer ∧ peer ≠ client := by
  obtain ⟨current, found, ⟨alone, -⟩ | ⟨-, -, rewrites⟩⟩ := fileData_ok handled
  · exact absurd alone several
  · rw [IsSender, rewrites.find, Option.map_map, IsSender]
    by_cases own : peer = client
    · subst own
      simp [found, last]
    · simp only [own, ne_eq, not_false_eq_true, and_true, if_false]
      cases server.findSession peer <;> simp

theorem isSender_removeSession (removed : server.removeSession origin client = .ok next) (peer : SessionId) :
    next.IsSender peer ↔ server.IsSender peer ∧ peer ≠ client := by
  obtain ⟨current, -, -, -, left⟩ := removeSession_ok removed
  rw [IsSender, left]
  by_cases own : peer = client
  · simp [own]
  · simp [own, IsSender]

def Event.session : Event τ → SessionId
  | .addSession client _ | .removeSession client _ | .message client _ _ _ | .writeData client => client

def Event.isFileRequest : Event τ → Bool
  | .message _ _ _ (.fileRequest _) => true
  | _ => false

end Server

/-- How far a session's thread has come with a `FILE_REQUEST`. -/
inductive RequestPhase
  | idle
  | tested (message : FileTransferMessage)
  | enabled
  | marked
deriving DecidableEq

/-- The server with the threads of its sessions. Other messages, and the end of a session, are taken
    in one step; a session's thread does one thing at a time. -/
structure Threads (τ : Type) where
  server : Server τ
  request : SessionId → RequestPhase

namespace Threads

open Server

inductive Event (τ : Type)
  | server (event : Server.Event τ)
  | testMode (client : SessionId) (origin : τ) (message : FileTransferMessage)
  | enable (client : SessionId) (origin : τ)
  | mark (client : SessionId)
  | accept (client : SessionId)

def start : Threads τ := ⟨.new, fun _ => .idle⟩

def withServer (threads : Threads τ) (server : Server τ) : Threads τ := { threads with server }

def setPhase (threads : Threads τ) (client : SessionId) (phase : RequestPhase) : Threads τ :=
  { threads with request := Function.update threads.request client phase }

def step (target : Target) (threads : Threads τ) : Event τ → Option (Threads τ)
  | .server event =>
    if threads.request event.session = .idle ∧ event.isFileRequest = false then
      (threads.server.step target event).map threads.withServer
    else none
  | .testMode client origin message =>
    if threads.request client = .idle ∧ (threads.server.findSession client).isSome then
      if threads.server.isFileTransferModeActive then
        some (threads.withServer (threads.server.send client ⟨.status ⟨.fileTransferCanceled⟩, origin⟩))
      else some (threads.setPhase client (.tested message))
    else none
  | .enable client origin =>
    match threads.request client with
    | .tested message =>
      match threads.server.enableFileTransfer origin client message with
      | .ok (true, server) => some ((threads.withServer server).setPhase client .enabled)
      | .ok (false, server) =>
        some ((threads.withServer (server.send client ⟨.status ⟨.chattingAlone⟩, origin⟩)).setPhase client .idle)
      | .error _ => none
    | _ => none
  | .mark client =>
    if threads.request client = .enabled then
      some ((threads.withServer (threads.server.markSender client)).setPhase client .marked)
    else none
  | .accept client =>
    if threads.request client = .marked then
      let server := threads.server.modify client fun data => data.setStatus .acceptFileTransfer
      some ((threads.withServer server).setPhase client .idle)
    else none

/-- The session is the sender, or its thread is about to make it that. -/
def Holds (threads : Threads τ) (client : SessionId) : Prop :=
  threads.server.IsSender client ∨ threads.request client = .enabled

/-- The mode is still off when a thread enables it, and a last block ends no other session's transfer. -/
def TransfersApart (threads : Threads τ) : Event τ → Prop
  | .enable _ _ => threads.server.sessions_.size ≠ 1 → threads.server.fileTransferModeActive_ = false
  | .server (.message client _ _ (.fileData message)) =>
    message.isLastBlock = true → threads.server.sessions_.size ≠ 1 → ∀ peer, threads.Holds peer → peer = client
  | _ => True

structure Consistent (threads : Threads τ) : Prop where
  exclusive : Exclusive threads.Holds threads.server.fileTransferModeActive_
  connected : ∀ client, threads.request client ≠ .idle → (threads.server.findSession client).isSome = true

theorem consistent_start : (start : Threads τ).Consistent where
  exclusive := Exclusive.free fun client => by simp [Holds, IsSender, start]
  connected client busy := absurd rfl busy

variable {threads : Threads τ} {server : Server τ} {target : Target}

theorem Consistent.kept (consistent : threads.Consistent)
    (mode : server.fileTransferModeActive_ = threads.server.fileTransferModeActive_)
    (keeps : Keeps SessionData.isFileTransferSender threads.server server) : (threads.withServer server).Consistent := by
  refine ⟨?_, fun client busy => ?_⟩
  · simp only [withServer, mode]
    exact consistent.exclusive.congr fun peer => or_congr_left (keeps.isSender_iff peer)
  · exact (keeps.isSome_eq client).trans (consistent.connected client busy)

theorem Consistent.setPhase (consistent : threads.Consistent) {client : SessionId} {phase : RequestPhase}
    (before : threads.request client ≠ .enabled) (after : phase ≠ .enabled)
    (there : (threads.server.findSession client).isSome = true) : (threads.setPhase client phase).Consistent := by
  refine ⟨consistent.exclusive.congr fun peer => or_congr_right ?_, fun peer busy => ?_⟩
  · by_cases own : peer = client
    · subst own
      simp [Threads.setPhase, Function.update_self, before, after]
    · simp [Threads.setPhase, Function.update_of_ne own]
  · by_cases own : peer = client
    · rw [own]
      exact there
    · simp only [Threads.setPhase, Function.update_of_ne own] at busy
      exact consistent.connected peer busy

theorem Consistent.enabled (consistent : threads.Consistent) {client : SessionId}
    {message : FileTransferMessage} (tested : threads.request client = .tested message)
    (idle : threads.server.fileTransferModeActive_ = false)
    (mode : server.fileTransferModeActive_ = true)
    (keeps : Keeps SessionData.isFileTransferSender threads.server server) :
    ((threads.withServer server).setPhase client .enabled).Consistent := by
  refine ⟨?_, fun peer busy => ?_⟩
  · simp only [Threads.setPhase, withServer, mode]
    refine consistent.exclusive.claim idle client fun peer => ?_
    simp only [Holds, keeps.isSender_iff peer]
    by_cases own : peer = client
    · subst own
      simp [Function.update_self]
    · simp [own]
  · refine (keeps.isSome_eq peer).trans (consistent.connected peer ?_)
    by_cases own : peer = client
    · subst own
      simp [tested]
    · simpa only [Threads.setPhase, withServer, Function.update_of_ne own] using busy

theorem Consistent.marked (consistent : threads.Consistent) {client : SessionId}
    (enabled : threads.request client = .enabled) :
    ((threads.withServer (threads.server.markSender client)).setPhase client .marked).Consistent := by
  have there := consistent.connected client (by rw [enabled]; exact fun same => by cases same)
  obtain ⟨data, found⟩ := Option.isSome_iff_exists.mp there
  refine ⟨consistent.exclusive.congr fun peer => ?_, fun peer busy => ?_⟩
  · simp only [Holds, IsSender, Threads.setPhase, withServer, markSender, findSession_modify]
    by_cases own : peer = client
    · subst own
      simp [Function.update_self, found, enabled]
    · simp [own]
  · have kept := (rewrites_modify threads.server client
      fun current => { current with isFileTransferSender := true }).isSome_eq peer
    refine kept.trans (consistent.connected peer ?_)
    by_cases own : peer = client
    · subst own
      simp [enabled]
    · simpa only [Threads.setPhase, withServer, Function.update_of_ne own] using busy

theorem Consistent.released (consistent : threads.Consistent) {client : SessionId}
    (idle : threads.request client = .idle)
    (left : ∀ peer, server.IsSender peer ↔ threads.server.IsSender peer ∧ peer ≠ client)
    (falls : server.fileTransferModeActive_ = true ↔
      threads.server.fileTransferModeActive_ = true ∧ ¬ threads.Holds client)
    (there : ∀ peer, peer ≠ client → (server.findSession peer).isSome = (threads.server.findSession peer).isSome) :
    (threads.withServer server).Consistent := by
  refine ⟨consistent.exclusive.release client (fun peer => ?_) falls, fun peer busy => ?_⟩
  · simp only [Holds, withServer, left peer]
    by_cases own : peer = client
    · subst own
      simp [idle]
    · simp [own]
  · have other : peer ≠ client := by
      rintro rfl
      exact busy idle
    exact (there peer other).trans (consistent.connected peer busy)

theorem Consistent.fileData (consistent : threads.Consistent) {client : SessionId} {memory : Memory} {origin : τ}
    {message : FileDataMessage} (idle : threads.request client = .idle)
    (apart : threads.TransfersApart (.server (.message client memory origin (.fileData message))))
    (handled : threads.server.availableMessage target memory origin client (.fileData message) = .ok server) :
    (threads.withServer server).Consistent := by
  obtain ⟨current, found, ⟨-, mode, rewrites⟩ | ⟨several, mode, rewrites⟩⟩ := fileData_ok handled
  · refine consistent.kept mode (rewrites.keeps fun peer data => ?_)
    repeat' split
    all_goals rfl
  · cases last : message.isLastBlock with
    | false =>
      rw [last, Bool.not_false, Bool.and_true] at mode
      refine consistent.kept mode (rewrites.keeps fun peer data => ?_)
      split
      · rw [last]
        rfl
      · exact SessionData.isFileTransferSender_sendSome _ _
    | true =>
      rw [last, Bool.not_true, Bool.and_false] at mode
      refine consistent.released idle (isSender_lastBlock several last handled) ?_ fun peer _ => rewrites.isSome_eq peer
      rw [mode]
      refine iff_of_false Bool.false_ne_true ?_
      rintro ⟨active, free⟩
      obtain ⟨holder, held⟩ := consistent.exclusive.active_iff.mp active
      exact free (apart last several holder held ▸ held)

theorem Consistent.serverStep (consistent : threads.Consistent) {event : Server.Event τ}
    (idle : threads.request event.session = .idle) (other : event.isFileRequest = false)
    (apart : threads.TransfersApart (.server event)) (stepped : threads.server.step target event = some server) :
    (threads.withServer server).Consistent := by
  cases steps_of_step stepped with
  | @addSession client nickName_ unknown =>
    change threads.request client = .idle at idle
    have notHolds : ¬ threads.Holds client := by
      rintro (sender | enabled)
      · simp [IsSender, unknown] at sender
      · rw [idle] at enabled
        cases enabled
    refine consistent.released idle (fun peer => ?_) ?_ fun peer different => ?_
    · rw [IsSender, addSession_find]
      by_cases own : peer = client
      · subst own
        simp [newSession]
      · simp [own, IsSender]
    · exact ⟨fun active => ⟨active, notHolds⟩, fun both => both.1⟩
    · rw [addSession_find, if_neg different]
  | @removeSession client origin _ removed =>
    change threads.request client = .idle at idle
    obtain ⟨current, found, mode, -, left⟩ := removeSession_ok removed
    refine consistent.released idle (isSender_removeSession removed) ?_ fun peer different => ?_
    · have holds : threads.Holds client ↔ current.isFileTransferSender = true := by
        simp [Holds, IsSender, found, idle]
      rw [mode, holds, Bool.and_eq_true, Bool.not_eq_true', Bool.not_eq_true]
    · rw [left, if_neg different]
  | @message client memory origin message _ handled =>
    by_cases block : ∃ data, message = .fileData data
    · obtain ⟨data, rfl⟩ := block
      exact consistent.fileData idle apart handled
    · have request : ∀ file, message ≠ .fileRequest file := by
        rintro file rfl
        cases other
      obtain ⟨mode, keeps⟩ := flags_message request (fun data same => block ⟨data, same⟩) handled
      exact consistent.kept mode keeps
  | writeData => exact consistent.kept rfl (keeps_modify _ _ fun _ => rfl)

theorem Consistent.step (consistent : threads.Consistent) {next : Threads τ} {event : Event τ}
    (apart : threads.TransfersApart event) (stepped : threads.step target event = some next) : next.Consistent := by
  cases event with
  | server event =>
    simp only [Threads.step] at stepped
    split at stepped
    · rename_i permitted
      obtain ⟨server, taken, rfl⟩ := Option.map_eq_some_iff.mp stepped
      exact consistent.serverStep permitted.1 permitted.2 apart taken
    · cases stepped
  | testMode client origin message =>
    simp only [Threads.step] at stepped
    split at stepped
    · rename_i permitted
      split at stepped
      · cases stepped
        exact consistent.kept rfl (keeps_modify _ _ fun _ => rfl)
      · cases stepped
        exact consistent.setPhase (by simp [permitted.1]) (by simp) permitted.2
    · cases stepped
  | enable client origin =>
    simp only [Threads.step] at stepped
    split at stepped
    · rename_i message tested
      have there := consistent.connected client (by simp [tested])
      obtain ⟨current, found⟩ := Option.isSome_iff_exists.mp there
      simp only [enableFileTransfer, found] at stepped
      by_cases alone : threads.server.sessions_.size = 1
      · simp only [if_pos alone] at stepped
        cases stepped
        have replied : (threads.withServer (threads.server.send client
            ⟨.status ⟨.chattingAlone⟩, origin⟩)).Consistent := consistent.kept rfl (keeps_modify _ _ fun _ => rfl)
        exact replied.setPhase (by simp [withServer, tested]) (by simp) (by simp [withServer, Server.send, found])
      · simp only [if_neg alone] at stepped
        cases stepped
        refine consistent.enabled tested (apart alone) rfl ?_
        exact keeps_sendToPeers { threads.server with fileTransferModeActive_ := true } client _ fun _ _ => rfl
    · cases stepped
  | mark client =>
    simp only [Threads.step] at stepped
    split at stepped
    · rename_i enabled
      cases stepped
      exact consistent.marked enabled
    · cases stepped
  | accept client =>
    simp only [Threads.step] at stepped
    split at stepped
    · rename_i marked
      cases stepped
      have there := consistent.connected client (by simp [marked])
      have answered : (threads.withServer (threads.server.modify client fun data =>
          data.setStatus .acceptFileTransfer)).Consistent := consistent.kept rfl (keeps_modify _ _ fun _ => rfl)
      refine answered.setPhase (by simp [withServer, marked]) (by simp) ?_
      simpa [withServer] using there
    · cases stepped

/-- While no thread enables the mode over another transfer and no last block ends another session's,
    there is one sender at most, and one exactly when the mode is on and no request is in hand. -/
theorem oneTransfer {events : List (Event τ)} (run : Run (Threads.step target) TransfersApart start events threads) :
    (∀ left right, threads.server.IsSender left → threads.server.IsSender right → left = right) ∧
      ((∀ client, threads.request client = .idle) →
        (threads.server.fileTransferModeActive_ = true ↔ ∃ client, threads.server.IsSender client)) := by
  have consistent : threads.Consistent := run.invariant Consistent consistent_start
    fun _ _ _ consistent apart stepped => consistent.step apart stepped
  refine ⟨fun left right leftSends rightSends => ?_, fun idle => ?_⟩
  · exact consistent.exclusive.unique left right (Or.inl leftSends) (Or.inl rightSends)
  · rw [consistent.exclusive.active_iff]
    simp [Holds, idle]

/-- A test of `TransfersApart` that lets no message pass: which threads hold a transfer is not computed. -/
def apart (threads : Threads τ) : Event τ → Bool
  | .enable _ _ => !threads.server.fileTransferModeActive_
  | .server (.message _ _ _ _) => false
  | _ => true

theorem transfersApart_of_apart (threads : Threads τ) (event : Event τ) (passed : threads.apart event = true) :
    threads.TransfersApart event := by
  cases event with
  | enable client origin =>
    intro _
    simpa [apart] using passed
  | server event =>
    cases event with
    | message client memory origin message => cases passed
    | _ => exact trivial
  | _ => exact trivial

/-- A request of one session out of two, from the test of the mode to the end of its handler. -/
theorem oneTransfer_request :
    ∃ threads, exec (Threads.step .m64) (start : Threads Unit) [.server (.addSession 1 (Field.zero _)),
        .server (.addSession 2 (Field.zero _)), .testMode 1 () (.ofFileName (ascii ['f'])), .enable 1 (), .mark 1,
        .accept 1] = some threads ∧
      (∀ left right, threads.server.IsSender left → threads.server.IsSender right → left = right) := by
  obtain ⟨threads, executed⟩ := Option.isSome_iff_exists.mp (by decide +kernel :
    (execMeets (Threads.step .m64) apart (start : Threads Unit) [.server (.addSession 1 (Field.zero _)),
      .server (.addSession 2 (Field.zero _)), .testMode 1 () (.ofFileName (ascii ['f'])), .enable 1 (), .mark 1,
      .accept 1]).isSome)
  exact ⟨threads, exec_of_execMeets executed, (oneTransfer (run_of_execMeets transfersApart_of_apart executed)).1⟩

theorem oneTransfer_race :
    ∃ threads, exec (Threads.step .m64) (start : Threads Unit) [.server (.addSession 1 (Field.zero _)),
        .server (.addSession 2 (Field.zero _)), .testMode 1 () (.ofFileName (ascii ['f'])),
        .testMode 2 () (.ofFileName (ascii ['g'])), .enable 1 (), .enable 2 (), .mark 1, .mark 2, .accept 1,
        .accept 2] = some threads ∧
      threads.server.IsSender 1 ∧ threads.server.IsSender 2 := by
  have outcome : ((exec (Threads.step .m64) (start : Threads Unit) [.server (.addSession 1 (Field.zero _)),
      .server (.addSession 2 (Field.zero _)), .testMode 1 () (.ofFileName (ascii ['f'])),
      .testMode 2 () (.ofFileName (ascii ['g'])), .enable 1 (), .enable 2 (), .mark 1, .mark 2, .accept 1,
      .accept 2]).map fun threads =>
        ((threads.server.findSession 1).map SessionData.isFileTransferSender,
          (threads.server.findSession 2).map SessionData.isFileTransferSender)) = some (some true, some true) := by
    decide +kernel
  obtain ⟨threads, executed, flags⟩ := Option.map_eq_some_iff.mp outcome
  rw [Prod.mk.injEq] at flags
  exact ⟨threads, executed, flags.1, flags.2⟩

end Threads

end LanMessenger
