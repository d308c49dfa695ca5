import LanMessenger.Server.Effects
import LanMessenger.Transition.Runs

namespace LanMessenger

open CMemory Transition

variable {τ : Type}

namespace Server

def IsActiveSender (server : Server τ) (current : SessionData τ) : Prop :=
  server.fileTransferModeActive_ = true ∧ current.isFileTransferSender = true

instance (server : Server τ) (current : SessionData τ) : Decidable (server.IsActiveSender current) :=
  inferInstanceAs (Decidable (_ ∧ _))

/-- `removeSession` up to the line that erases the entry. -/
def leaving (origin : τ) (server : Server τ) (client : SessionId) (current : SessionData τ) : Server τ :=
  if server.fileTransferModeActive_ && current.isFileTransferSender then
    server.sessions_.toList.foldl (fun server session =>
        if session.1 = client then server
        else server.send client ⟨.status ⟨.fileTransferCanceled⟩, origin⟩)
      { server with fileTransferModeActive_ := false }
  else server

/-- Everybody but the session that leaves is told that its transfer is canceled, with one message each; nothing else
    happens to them, and only its entry is gone. `left` is the server before the entry is erased. -/
structure TellsPeers (origin : τ) (client : SessionId) (current : SessionData τ) (server left next : Server τ) : Prop where
  own : left.findSession client = some current
  others : ∀ peer, peer ≠ client → next.findSession peer = (server.findSession peer).map fun data =>
    if server.IsActiveSender current then data.queued ⟨.status ⟨.fileTransferCanceled⟩, origin⟩ else data
  entry : next.findSession client = none
  mode : next.fileTransferModeActive_ = (server.fileTransferModeActive_ && !current.isFileTransferSender)
  counter : next.connectionsCounter_ = server.connectionsCounter_

variable {server next : Server τ} {client : SessionId} {current : SessionData τ} {origin : τ}

theorem removeSession_eq (origin : τ) (found : server.findSession client = some current) :
    server.removeSession origin client = .ok { server.leaving origin client current with
      sessions_ := (server.leaving origin client current).sessions_.erase client } := by
  simp only [removeSession, found, leaving]

theorem toList_of_alone (found : server.findSession client = some current) (alone : server.sessions_.size = 1) :
    server.sessions_.toList = [(client, current)] := by
  have member := mem_sessions.mpr found
  rw [← Std.TreeMap.length_toList, List.length_eq_one_iff] at alone
  rcases alone with ⟨only, single⟩
  rw [single, List.mem_singleton] at member
  rw [single, member]

theorem leaving_own (found : server.findSession client = some current)
    (quiet : ¬ server.IsActiveSender current ∨ server.sessions_.size = 1) :
    (server.leaving origin client current).findSession client = some current := by
  by_cases sending : (server.fileTransferModeActive_ && current.isFileTransferSender) = true
  · have alone := quiet.resolve_left (not_not.mpr (Bool.and_eq_true_iff.mp sending))
    rw [leaving, if_pos sending, toList_of_alone found alone, List.foldl_cons, if_pos rfl]
    exact found
  · rw [leaving, if_neg sending]
    exact found

/-- The removals in which everybody is told: those of sessions that are not sending, or that are the only one. -/
theorem departure (server : Server τ) (client : SessionId) (current : SessionData τ) (origin : τ)
    (found : server.findSession client = some current) :
    (∃ next, server.removeSession origin client = .ok next ∧
        TellsPeers origin client current server (server.leaving origin client current) next) ↔
      (¬ server.IsActiveSender current ∨ server.sessions_.size = 1) := by
  constructor
  · rintro ⟨next, removed, tells⟩
    by_contra both
    rcases not_or.mp both with ⟨sending, more⟩
    -- a peer finds in its queue what was there before
    rcases exists_other (by rw [found]; rfl) more with ⟨peer, other, there⟩
    rcases Option.isSome_iff_exists.mp there with ⟨data, there⟩
    rcases removeSession_ok removed with ⟨-, -, -, -, left⟩
    have told := tells.others peer other
    rw [left, if_neg other, there, Option.map_some, if_pos (not_not.mp sending), Option.some.injEq] at told
    have longer := congrArg (fun data : SessionData τ => data.client.outbox.sendingQueue_.length) told
    simp [SessionData.queued] at longer
  · intro quiet
    have removed := removeSession_eq origin found
    rcases removeSession_ok removed with ⟨same, foundToo, mode, counter, left⟩
    rw [found] at foundToo
    cases foundToo
    refine ⟨_, removed, leaving_own found quiet, fun peer other => ?_, by rw [left, if_pos rfl], mode, counter⟩
    rw [left, if_neg other]
    rcases quiet with idle | alone
    · simp only [if_neg idle, Option.map_id']
    · have absent : server.findSession peer = none := by
        by_contra there
        exact size_ne_one (Option.isSome_iff_ne_none.mpr there) (by rw [found]; rfl) other alone
      rw [absent, Option.map_none]

/-- While the transfer of the first session is on, the second one leaves and two stay; and the first one leaves when it
    is the last. -/
theorem departure_bystander :
    (∃ server next : Server Unit, ∃ current, exec (step .m64) new [.addSession 1 (Field.zero _), .addSession 2 (Field.zero _),
        .addSession 3 (Field.zero _), .message 1 Memory.zeroed () (.fileRequest (.ofFileName (ascii ['f'])))] = some server ∧
      ¬ server.IsActiveSender current ∧ server.sessions_.size = 3 ∧ server.removeSession () 2 = .ok next ∧
      TellsPeers () 2 current server (server.leaving () 2 current) next) ∧
    ∃ server next : Server Unit, ∃ current, exec (step .m64) new [.addSession 1 (Field.zero _), .addSession 2 (Field.zero _),
        .message 1 Memory.zeroed () (.fileRequest (.ofFileName (ascii ['f']))), .removeSession 2 ()] = some server ∧
      server.IsActiveSender current ∧ server.removeSession () 1 = .ok next ∧
      TellsPeers () 1 current server (server.leaving () 1 current) next := by
  constructor
  · have outcome : (exec (step .m64) (new : Server Unit) [.addSession 1 (Field.zero _), .addSession 2 (Field.zero _),
        .addSession 3 (Field.zero _), .message 1 Memory.zeroed () (.fileRequest (.ofFileName (ascii ['f'])))]).bind
          (fun server => (server.findSession 2).map fun current =>
            (decide (server.IsActiveSender current), server.sessions_.size)) = some (false, 3) := by
      decide +kernel
    rcases Option.bind_eq_some_iff.mp outcome with ⟨server, ran, facts⟩
    rcases Option.map_eq_some_iff.mp facts with ⟨current, found, facts⟩
    rw [Prod.mk.injEq, decide_eq_false_iff_not] at facts
    rcases (departure server 2 current () found).mpr (Or.inl facts.1) with ⟨next, removed, tells⟩
    exact ⟨server, next, current, ran, facts.1, facts.2, removed, tells⟩
  · have outcome : (exec (step .m64) (new : Server Unit) [.addSession 1 (Field.zero _), .addSession 2 (Field.zero _),
        .message 1 Memory.zeroed () (.fileRequest (.ofFileName (ascii ['f']))), .removeSession 2 ()]).bind
          (fun server => (server.findSession 1).map fun current =>
            (decide (server.IsActiveSender current), server.sessions_.size)) = some (true, 1) := by
      decide +kernel
    rcases Option.bind_eq_some_iff.mp outcome with ⟨server, ran, facts⟩
    rcases Option.map_eq_some_iff.mp facts with ⟨current, found, facts⟩
    rw [Prod.mk.injEq, decide_eq_true_iff] at facts
    rcases (departure server 1 current () found).mpr (Or.inr facts.2) with ⟨next, removed, tells⟩
    exact ⟨server, next, current, ran, facts.1, removed, tells⟩

/-- The sender leaves while another session is there, which is told nothing. -/
theorem departure_untold :
    ∃ server next : Server Unit, ∃ current, exec (step .m64) new [.addSession 1 (Field.zero _), .addSession 2 (Field.zero _),
        .message 1 Memory.zeroed () (.fileRequest (.ofFileName (ascii ['f'])))] = some server ∧
      server.findSession 1 = some current ∧ server.removeSession () 1 = .ok next ∧
      ¬ TellsPeers () 1 current server (server.leaving () 1 current) next := by
  have outcome : (exec (step .m64) (new : Server Unit) [.addSession 1 (Field.zero _), .addSession 2 (Field.zero _),
      .message 1 Memory.zeroed () (.fileRequest (.ofFileName (ascii ['f'])))]).map (fun server =>
        (server.fileTransferModeActive_, (server.findSession 1).map SessionData.isFileTransferSender,
          (server.findSession 2).map fun data => data.client.outbox.sendingQueue_.length,
          ((server.removeSession () 1).toOption.bind fun next => next.findSession 2).map fun data =>
            data.client.outbox.sendingQueue_.length)) = some (true, some true, some 1, some 1) := by
    decide +kernel
  rcases Option.map_eq_some_iff.mp outcome with ⟨server, ran, facts⟩
  simp only [Prod.mk.injEq] at facts
  rcases facts with ⟨active, marked, before, after⟩
  rcases Option.map_eq_some_iff.mp marked with ⟨current, found, flagged⟩
  have removed := removeSession_eq () found
  refine ⟨server, _, current, ran, found, removed, fun tells => ?_⟩
  rcases Option.map_eq_some_iff.mp before with ⟨data, there, length⟩
  have told := tells.others 2 (by decide)
  rw [there, Option.map_some, if_pos ⟨active, flagged⟩] at told
  rw [removed] at after
  simp only [Except.toOption, Option.bind_some] at after
  rw [told] at after
  simp [SessionData.queued, length] at after

end Server

end LanMessenger
