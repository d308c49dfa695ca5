import LanMessenger.Server.FileData
import LanMessenger.Server.Reactions
import LanMessenger.Server.TransferDecision

namespace LanMessenger

open CMemory Transition

variable {τ : Type}

namespace Server

variable {server next : Server τ} {target : Target} {client session sender : SessionId} {memory : Memory} {origin : τ}
  {message : Message} {code : StatusCode}

/-- The step queues the status for the session, and nothing else. -/
def Tells (server next : Server τ) (session : SessionId) (code : StatusCode) : Prop :=
  ∃ before after origin, server.findSession session = some before ∧ next.findSession session = some after ∧
    after.client.outbox.sendingQueue_ = before.client.outbox.sendingQueue_ ++ [⟨.status ⟨code⟩, origin⟩]

/-- Nobody is sending a file, and whoever wants to is not refused. -/
structure Free (server : Server τ) : Prop where
  idle : server.fileTransferModeActive_ = false
  unmarked : ∀ peer, ¬ server.IsSender peer
  requests : ∀ target memory origin client file next,
    server.availableMessage target memory origin client (.fileRequest file) = .ok next →
    ¬ server.Tells next client .fileTransferCanceled

structure LastSender (server : Server τ) (client sender : SessionId) : Prop where
  marked : server.IsSender sender
  other : sender ≠ client
  last : ∀ peer, server.IsSender peer → peer ≠ client → peer ≤ sender

theorem LastSender.unique {left right : SessionId} (leftLast : server.LastSender client left)
    (rightLast : server.LastSender client right) : left = right :=
  le_antisymm (rightLast.last left leftLast.marked leftLast.other) (leftLast.last right rightLast.marked rightLast.other)

theorem mem_markedOthers {entry : SessionId × SessionData τ} :
    entry ∈ markedOthers client server.sessions_.toList ↔
      server.findSession entry.1 = some entry.2 ∧ entry.1 ≠ client ∧ entry.2.isFileTransferSender = true := by
  simp [markedOthers, ← mem_sessions]

theorem lastSender_iff :
    ((markedOthers client server.sessions_.toList).getLast?.map fun session => session.1) = some sender ↔
      server.LastSender client sender := by
  have isLast : ∀ entry, (markedOthers client server.sessions_.toList).getLast? = some entry →
      server.LastSender client entry.1 := by
    intro entry last
    obtain ⟨found, other, marked⟩ := mem_markedOthers.mp (List.mem_of_getLast? last)
    refine ⟨by rw [IsSender, found, Option.map_some, marked], other, fun peer mark different => ?_⟩
    obtain ⟨data, there, flagged⟩ := Option.map_eq_some_iff.mp mark
    have member : (peer, data) ∈ markedOthers client server.sessions_.toList :=
      mem_markedOthers.mpr ⟨there, different, flagged⟩
    obtain ⟨front, split⟩ := List.getLast?_eq_some_iff.mp last
    have ordered : (markedOthers client server.sessions_.toList).Pairwise fun left right => compare left.1 right.1 = .lt :=
      Std.TreeMap.ordered_keys_toList.filter _
    rw [split] at member ordered
    rcases List.mem_append.mp member with before | final
    · have less := (List.pairwise_append.mp ordered).2.2 _ before entry (List.mem_singleton_self _)
      exact (Nat.compare_eq_lt.mp less).le
    · rw [List.mem_singleton] at final
      rw [← final]
  constructor
  · intro chosen
    obtain ⟨entry, last, rfl⟩ := Option.map_eq_some_iff.mp chosen
    exact isLast entry last
  · intro last
    obtain ⟨data, there, flagged⟩ := Option.map_eq_some_iff.mp last.marked
    have member : (sender, data) ∈ markedOthers client server.sessions_.toList :=
      mem_markedOthers.mpr ⟨there, last.other, flagged⟩
    obtain ⟨entry, chosen⟩ := Option.isSome_iff_exists.mp (List.getLast?_isSome.mpr (List.ne_nil_of_mem member))
    rw [chosen, Option.map_some, (isLast entry chosen).unique last]

theorem lastSender_setStatus (code : StatusCode) :
    (server.modify client fun data => data.setStatus code).LastSender client sender ↔ server.LastSender client sender := by
  have keeps : Keeps SessionData.isFileTransferSender server (server.modify client fun data => data.setStatus code) :=
    keeps_modify server client fun _ => rfl
  constructor
  · rintro ⟨marked, other, last⟩
    exact ⟨(keeps.isSender_iff _).mp marked, other, fun peer mark => last peer ((keeps.isSender_iff peer).mpr mark)⟩
  · rintro ⟨marked, other, last⟩
    exact ⟨(keeps.isSender_iff _).mpr marked, other, fun peer mark => last peer ((keeps.isSender_iff peer).mp mark)⟩

/-- Of the sessions other than the client, somebody has not answered or has said yes. -/
def WaitsOrStarts (server : Server τ) (client : SessionId) : Prop :=
  ∃ peer data, server.findSession peer = some data ∧ peer ≠ client ∧
    (data.client.fileTransferStatus_ = .fileTransferCanceled ∨ data.client.fileTransferStatus_ = .acceptFileTransfer)

theorem decision_reject_iff :
    server.decision client = some (sender, .rejectFileTransfer) ↔
      ¬ server.WaitsOrStarts client ∧ server.LastSender client sender := by
  have found_iff : ∀ peer data, (peer, data) ∈ server.sessions_.toList ↔ server.findSession peer = some data :=
    fun peer data => mem_sessions
  by_cases answered : ∀ session ∈ server.sessions_.toList, session.1 ≠ client →
      session.2.client.fileTransferStatus_ ≠ .fileTransferCanceled
  · rw [decision, scanAnswers_answered false none answered, Option.or_none, Bool.false_or, ← lastSender_iff]
    have starts : (server.sessions_.toList.any fun session =>
        session.1 ≠ client && session.2.client.fileTransferStatus_ = .acceptFileTransfer) = true ↔
        server.WaitsOrStarts client := by
      simp only [List.any_eq_true, Prod.exists, found_iff, WaitsOrStarts, ne_eq, Bool.and_eq_true, decide_eq_true_eq]
      constructor
      · rintro ⟨peer, data, there, other, accepted⟩
        exact ⟨peer, data, there, other, Or.inr accepted⟩
      · rintro ⟨peer, data, there, other, canceled | accepted⟩
        · exact absurd canceled (answered _ ((found_iff peer data).mpr there) other)
        · exact ⟨peer, data, there, other, accepted⟩
    rw [← starts]
    cases (markedOthers client server.sessions_.toList).getLast? with
    | none => simp
    | some last => cases List.any server.sessions_.toList _ <;> simp
  · have undecided : ∀ verdict, server.decision client ≠ some verdict := by
      rintro ⟨chosen, verdict⟩ decided
      exact answered fun session member other =>
        (decision_some decided).1 session.1 session.2 ((found_iff _ _).mp member) other
    simp only [not_forall, not_not] at answered
    obtain ⟨⟨peer, data⟩, member, other, canceled⟩ := answered
    exact iff_of_false (undecided _) fun both => both.1 ⟨peer, data, (found_iff peer data).mp member, other, Or.inl canceled⟩

theorem waitsOrStarts_setStatus (code : StatusCode) :
    (server.modify client fun data => data.setStatus code).WaitsOrStarts client ↔ server.WaitsOrStarts client := by
  have same : ∀ peer, peer ≠ client →
      (server.modify client fun data => data.setStatus code).findSession peer = server.findSession peer :=
    fun _ other => findSession_modify_of_ne server other
  constructor
  · rintro ⟨peer, data, there, other, status⟩
    exact ⟨peer, data, (same peer other).symm.trans there, other, status⟩
  · rintro ⟨peer, data, there, other, status⟩
    exact ⟨peer, data, (same peer other).trans there, other, status⟩

theorem verdict_of_answer (known : (server.findSession client).isSome = true) (answer : message.answer = some code)
    (active : server.fileTransferModeActive_ = true) :
    server.verdict client message = (server.modify client fun data => data.setStatus code).decision client := by
  simp only [verdict, answer, active, Bool.not_true, Bool.false_or, decide_eq_true_eq]
  split
  · rename_i alone
    cases decided : (server.modify client fun data => data.setStatus code).decision client with
    | none => rfl
    | some told =>
      obtain ⟨data, there, other, -⟩ := (decision_some decided).2.1
      refine absurd alone (size_ne_one ?_ ?_ other)
      · rw [there]
        rfl
      · rw [findSession_modify, if_pos rfl, Option.isSome_map, known]
  · rfl

theorem verdict_eq_some_iff (known : (server.findSession client).isSome = true) {told : SessionId × StatusCode} :
    server.verdict client message = some told ↔ server.fileTransferModeActive_ = true ∧ ∃ code,
      message.answer = some code ∧ (server.modify client fun data => data.setStatus code).decision client = some told := by
  cases answer : message.answer with
  | none => simp [verdict, answer]
  | some code =>
    cases active : server.fileTransferModeActive_ with
    | false => simp [verdict, answer, active]
    | true =>
      rw [verdict_of_answer known answer active]
      simp

theorem verdict_reject_iff (known : (server.findSession client).isSome = true) :
    server.verdict client message = some (sender, .rejectFileTransfer) ↔
      message.answer.isSome = true ∧ server.fileTransferModeActive_ = true ∧ ¬ server.WaitsOrStarts client ∧
        server.LastSender client sender := by
  simp only [verdict_eq_some_iff known, decision_reject_iff, waitsOrStarts_setStatus, lastSender_setStatus,
    Option.isSome_iff_exists]
  constructor
  · rintro ⟨active, code, answer, settled⟩
    exact ⟨⟨code, answer⟩, active, settled⟩
  · rintro ⟨⟨code, answer⟩, active, settled⟩
    exact ⟨active, code, answer, settled⟩

def OthersAnswered (server : Server τ) (client : SessionId) : Prop :=
  ∀ peer data, server.findSession peer = some data → peer ≠ client →
    data.client.fileTransferStatus_ ≠ .fileTransferCanceled

theorem decision_iff : (∃ code, server.decision client = some (sender, code)) ↔
    server.OthersAnswered client ∧ server.LastSender client sender := by
  constructor
  · rintro ⟨code, decided⟩
    have answered := (decision_some decided).1
    refine ⟨answered, ?_⟩
    rw [decision, scanAnswers_answered false none (fun session member other =>
      answered session.1 session.2 (mem_sessions.mp member) other), Option.or_none] at decided
    rw [← lastSender_iff]
    cases chosen : (markedOthers client server.sessions_.toList).getLast? with
    | none =>
      rw [chosen] at decided
      cases decided
    | some last =>
      rw [chosen] at decided
      cases decided
      rfl
  · rintro ⟨answered, last⟩
    rw [decision, scanAnswers_answered false none (fun session member other =>
      answered session.1 session.2 (mem_sessions.mp member) other), Option.or_none]
    obtain ⟨entry, chosen, rfl⟩ := Option.map_eq_some_iff.mp (lastSender_iff.mpr last)
    rw [chosen]
    exact ⟨_, rfl⟩

theorem othersAnswered_setStatus (code : StatusCode) :
    (server.modify client fun data => data.setStatus code).OthersAnswered client ↔ server.OthersAnswered client := by
  have same : ∀ peer, peer ≠ client →
      (server.modify client fun data => data.setStatus code).findSession peer = server.findSession peer :=
    fun _ other => findSession_modify_of_ne server other
  constructor
  · exact fun answered peer data there other => answered peer data ((same peer other).trans there) other
  · exact fun answered peer data there other => answered peer data ((same peer other).symm.trans there) other

/-- An answer brings a decision about the sender that the loop over the others ends with, if all of them have
    answered. -/
theorem verdict_iff (known : (server.findSession client).isSome = true) :
    (∃ code, server.verdict client message = some (sender, code)) ↔
      message.answer.isSome = true ∧ server.fileTransferModeActive_ = true ∧ server.OthersAnswered client ∧
        server.LastSender client sender := by
  simp only [verdict_eq_some_iff known, Option.isSome_iff_exists]
  constructor
  · rintro ⟨told, active, code, answer, decided⟩
    have settled := decision_iff.mp ⟨told, decided⟩
    rw [othersAnswered_setStatus, lastSender_setStatus] at settled
    exact ⟨⟨code, answer⟩, active, settled⟩
  · rintro ⟨⟨code, answer⟩, active, settled⟩
    rw [← othersAnswered_setStatus code, ← lastSender_setStatus code, ← decision_iff] at settled
    obtain ⟨told, decided⟩ := settled
    exact ⟨told, active, code, answer, decided⟩

theorem Tells.transferLetter (tells : server.Tells next session code) (transfers : (Message.status ⟨code⟩).ofTransfer = true)
    {letter : SessionId → SessionData τ → Option (Letter τ)} {status : SessionId → StatusCode → StatusCode}
    {flag : SessionId → Bool → Bool} (spreads : Spreads server next letter status flag) :
    ∃ data origin, server.findSession session = some data ∧ letter session data = some ⟨.status ⟨code⟩, origin⟩ := by
  obtain ⟨before, after, origin, there, later, queue⟩ := tells
  obtain ⟨now, found, queued, -⟩ := spreads.each session before there
  rw [later] at found
  cases found
  have grown : after.transferQueue = before.transferQueue ++ [⟨.status ⟨code⟩, origin⟩] := by
    simp only [SessionData.transferQueue, queue, transferLetters_append]
    simp [transferLetters, transfers]
  refine ⟨before, origin, there, ?_⟩
  rcases queued with same | ⟨sent, offered, appended⟩
  · rw [grown] at same
    simp at same
  · rw [grown] at appended
    rw [offered, ← List.singleton_inj.mp (List.append_cancel_left appended)]

theorem Free.of_flags (idle : server.fileTransferModeActive_ = false) (unmarked : ∀ peer, ¬ server.IsSender peer) :
    server.Free := by
  refine ⟨idle, unmarked, fun target memory origin client file next handled tells => ?_⟩
  cases availableMessage_reaction handled with
  | quiet _ _ _ _ spreads =>
    obtain ⟨data, _, -, offered⟩ := tells.transferLetter rfl spreads
    cases offered
  | refused why _ _ =>
    rcases why with ⟨answer, -⟩ | ⟨-, active⟩
    · cases answer
    · rw [idle] at active
      cases active
  | answered answer _ _ _ _ => cases answer
  | accepted _ _ _ current spreads =>
    obtain ⟨data, _, -, offered⟩ := tells.transferLetter rfl spreads
    rw [if_pos rfl] at offered
    cases offered

theorem free_iff : server.Free ↔ server.fileTransferModeActive_ = false ∧ ∀ peer, ¬ server.IsSender peer :=
  ⟨fun free => ⟨free.idle, free.unmarked⟩, fun flags => Free.of_flags flags.1 flags.2⟩

theorem answer_verdict {told : StatusCode}
    (handled : server.availableMessage target memory origin client message = .ok next)
    (decided : server.verdict client message = some (sender, told)) :
    ∃ code, next = (server.modify client fun data => data.setStatus code).send sender ⟨.status ⟨told⟩, origin⟩ := by
  obtain ⟨current, found⟩ := availableMessage_found handled
  unfold verdict at decided
  split at decided
  · cases decided
  · rename_i code answer
    obtain ⟨rfl, answers⟩ := Message.eq_of_answer answer
    simp only [Bool.or_eq_true, Bool.not_eq_true', decide_eq_true_eq] at decided
    split at decided
    · cases decided
    · rename_i running
      simp only [not_or, Bool.not_eq_false] at running
      rw [answer_active found answers running.1, afterAnswer, if_neg running.2, decided] at handled
      cases handled
      exact ⟨code, rfl⟩

theorem outbox_of_verdict {told : StatusCode} {before : SessionData τ}
    (handled : server.availableMessage target memory origin client message = .ok next)
    (decided : server.verdict client message = some (sender, told)) (there : server.findSession sender = some before) :
    ∃ after, next.findSession sender = some after ∧
      after.client.outbox = before.client.outbox.send ⟨.status ⟨told⟩, origin⟩ := by
  obtain ⟨answer, rfl⟩ := answer_verdict handled decided
  have other := (verdict_some decided).1
  refine ⟨before.send ⟨.status ⟨told⟩, origin⟩, ?_, rfl⟩
  rw [send, findSession_modify, if_pos rfl, findSession_modify, if_neg other, there, Option.map_some]

theorem told_of_tells (answers : StatusAnswers code) (tells : server.Tells next session code) :
    ∃ origin, server.told next session = [⟨.status ⟨code⟩, origin⟩] := by
  obtain ⟨before, after, origin, there, later, queue⟩ := tells
  refine ⟨origin, ?_⟩
  simp only [told, decisionQueue, there, later, Option.map_some, Option.getD_some, SessionData.decisionQueue, queue,
    List.filter_append, List.drop_left, List.filter_singleton, Message.answer_of_statusAnswers answers]
  rfl

theorem tells_iff (answers : StatusAnswers code)
    (handled : server.availableMessage target memory origin client message = .ok next) :
    server.Tells next sender code ↔ server.verdict client message = some (sender, code) ∧
      ∃ data, server.findSession sender = some data ∧ data.client.outbox.canSendMessages = true := by
  constructor
  · intro tells
    have decided : server.verdict client message = some (sender, code) := by
      obtain ⟨from_, one⟩ := told_of_tells answers tells
      rcases told_of_message handled sender with none | ⟨told, decided, same⟩
      · rw [none] at one
        cases one
      · rw [same] at one
        cases one
        exact decided
    refine ⟨decided, ?_⟩
    obtain ⟨before, after, from_, there, later, queue⟩ := tells
    obtain ⟨now, found, outbox⟩ := outbox_of_verdict handled decided there
    rw [later] at found
    cases found
    refine ⟨before, there, ?_⟩
    by_contra full
    rw [Bool.not_eq_true] at full
    rw [outbox, (before.client.outbox.send_eq_iff _).mpr full] at queue
    simp at queue
  · rintro ⟨decided, before, there, room⟩
    obtain ⟨after, later, outbox⟩ := outbox_of_verdict handled decided there
    refine ⟨before, after, origin, there, later, ?_⟩
    rw [outbox, Outbox.send_of_room room]

theorem tells_reject_iff (handled : server.availableMessage target memory origin client message = .ok next) :
    server.Tells next sender .rejectFileTransfer ↔
      message.answer.isSome = true ∧ server.fileTransferModeActive_ = true ∧ ¬ server.WaitsOrStarts client ∧
        server.LastSender client sender ∧
        ∃ data, server.findSession sender = some data ∧ data.client.outbox.canSendMessages = true := by
  obtain ⟨current, known⟩ := availableMessage_found handled
  rw [tells_iff (Or.inr rfl) handled, verdict_reject_iff (by rw [known]; rfl)]
  simp only [and_assoc]

def Finishes (server next : Server τ) (session : SessionId) : Event τ → Prop
  | .message client _ _ message =>
    (client = session ∧ ∃ block, message = .fileData block ∧ block.isLastBlock = true) ∨
      server.Tells next session .rejectFileTransfer
  | .removeSession client _ => client = session
  | _ => False

def FreesServer (target : Target) (server : Server τ) (event : Event τ) : Prop :=
  ∀ session next, server.fileTransferModeActive_ = true → server.IsSender session →
    server.step target event = some next → Finishes server next session event → next.Free

/-- No other session is marked as sender; a last block finds somebody else there, and nobody is told that all
    have rejected the file. -/
def Finishable (server : Server τ) : Event τ → Prop
  | .message client _ _ message => server.fileTransferModeActive_ = true →
    (∀ block, message = .fileData block → block.isLastBlock = true → server.IsSender client →
      server.sessions_.size ≠ 1 ∧ ∀ peer, server.IsSender peer → peer = client) ∧
    (message.answer.isSome = true → ¬ server.WaitsOrStarts client → ∀ sender data, server.LastSender client sender →
      server.findSession sender = some data → data.client.outbox.canSendMessages = false)
  | .removeSession client _ => server.fileTransferModeActive_ = true → server.IsSender client →
    ∀ peer, server.IsSender peer → peer = client
  | _ => True

theorem mode_answer (answers : message.answer.isSome = true)
    (handled : server.availableMessage target memory origin client message = .ok next) :
    next.fileTransferModeActive_ = server.fileTransferModeActive_ := by
  obtain ⟨code, answer⟩ := Option.isSome_iff_exists.mp answers
  obtain ⟨rfl, -⟩ := Message.eq_of_answer answer
  exact mode_status handled

theorem free_fileData {block : FileDataMessage} (active : server.fileTransferModeActive_ = true)
    (last : block.isLastBlock = true)
    (handled : server.availableMessage target memory origin client (.fileData block) = .ok next) :
    next.Free ↔ server.sessions_.size ≠ 1 ∧ ∀ peer, server.IsSender peer → peer = client := by
  rw [free_iff]
  obtain ⟨current, found, ⟨alone, mode, -⟩ | ⟨several, mode, rewrites⟩⟩ := fileData_ok handled
  · refine iff_of_false ?_ fun both => both.1 alone
    rintro ⟨idle, -⟩
    rw [mode, active] at idle
    cases idle
  · have marks := isSender_lastBlock several last handled
    simp only [marks, mode, last, Bool.not_true, Bool.and_false, true_and, not_and, not_not, ne_eq, several,
      not_false_eq_true]

theorem free_removeSession (marked : server.IsSender client) (removed : server.removeSession origin client = .ok next) :
    next.Free ↔ ∀ peer, server.IsSender peer → peer = client := by
  obtain ⟨current, found, mode, -, left⟩ := removeSession_ok removed
  have flagged : current.isFileTransferSender = true := by
    rw [IsSender, found, Option.map_some] at marked
    exact Option.some.inj marked
  have marks := isSender_removeSession removed
  rw [free_iff]
  simp only [marks, mode, flagged, Bool.not_true, Bool.and_false, true_and, not_and, not_not, ne_eq]

theorem freesServer_iff {event : Event τ} (stepped : server.step target event = some next) :
    FreesServer target server event ↔ Finishable server event := by
  have frees : FreesServer target server event ↔ ∀ session, server.fileTransferModeActive_ = true →
      server.IsSender session → Finishes server next session event → next.Free := by
    constructor
    · intro frees session active marked finishes
      exact frees session next active marked stepped finishes
    · intro frees session after active marked taken finishes
      rw [stepped] at taken
      cases taken
      exact frees session active marked finishes
  rw [frees]
  cases event with
  | addSession => exact iff_of_true (fun _ _ _ finishes => finishes.elim) trivial
  | writeData => exact iff_of_true (fun _ _ _ finishes => finishes.elim) trivial
  | removeSession client origin =>
    have removed := toOption_some stepped
    constructor
    · intro frees active marked
      exact (free_removeSession marked removed).mp (frees client active marked rfl)
    · rintro finishable session active marked rfl
      exact (free_removeSession marked removed).mpr (finishable active marked)
  | message client memory origin message =>
    have handled := toOption_some stepped
    constructor
    · refine fun frees active => ⟨?_, fun answers nobody sender data last there => ?_⟩
      · rintro block rfl last marked
        exact (free_fileData active last handled).mp (frees client active marked (Or.inl ⟨rfl, block, rfl, last⟩))
      · by_contra room
        rw [Bool.not_eq_false] at room
        have tells := (tells_reject_iff handled).mpr ⟨answers, active, nobody, last, data, there, room⟩
        have idle := (frees sender active last.marked (Or.inr tells)).idle
        rw [mode_answer answers handled, active] at idle
        cases idle
    · rintro finishable session active marked (⟨rfl, block, rfl, last⟩ | tells)
      · exact (free_fileData active last handled).mpr ((finishable active).1 block rfl last marked)
      · obtain ⟨answers, -, nobody, last, data, there, room⟩ := (tells_reject_iff handled).mp tells
        have full := (finishable active).2 answers nobody session data last there
        rw [full] at room
        cases room

/-- The runs in which every end of a transfer frees the server are those in which each step is finishable. -/
theorem transferEnd {events : List (Event τ)} :
    Run (step target) (FreesServer target) new events server ↔ Run (step target) Finishable new events server :=
  Run.congr fun _ _ _ stepped => freesServer_iff stepped

theorem transferEnd_alone :
    ∃ server next : Server Unit, exec (step .m64) new [.addSession 1 (Field.zero _), .addSession 2 (Field.zero _),
        .message 1 Memory.zeroed () (.fileRequest (.ofFileName (ascii ['f']))), .removeSession 2 ()] = some server ∧
      server.fileTransferModeActive_ = true ∧ server.IsSender 1 ∧
      server.availableMessage .m64 Memory.zeroed () 1 (.fileData Heap.zeroed.fileData.markLastBlock) = .ok next ∧
      ¬ next.Free := by
  have outcome : (exec (step .m64) (new : Server Unit) [.addSession 1 (Field.zero _), .addSession 2 (Field.zero _),
      .message 1 Memory.zeroed () (.fileRequest (.ofFileName (ascii ['f']))), .removeSession 2 ()]).map (fun server =>
        (server.fileTransferModeActive_, (server.findSession 1).map SessionData.isFileTransferSender,
          (server.availableMessage .m64 Memory.zeroed () 1 (.fileData Heap.zeroed.fileData.markLastBlock)).toOption.map
            fun next => next.fileTransferModeActive_)) = some (true, some true, some true) := by
    decide +kernel
  obtain ⟨server, ran, facts⟩ := Option.map_eq_some_iff.mp outcome
  rw [Prod.mk.injEq, Prod.mk.injEq] at facts
  obtain ⟨active, marked, ended⟩ := facts
  obtain ⟨next, handled, on⟩ := Option.map_eq_some_iff.mp ended
  refine ⟨server, next, ran, active, marked, toOption_some handled, fun free => ?_⟩
  rw [free.idle] at on
  cases on

end Server

end LanMessenger
