import LanMessenger.Network.Decisions
import LanMessenger.Network.Requests
import LanMessenger.Server.TransferMode

namespace LanMessenger

open CMemory Transition

namespace Network

variable {target : Target} {network next : Network} {client peer : SessionId}

instance (network : Network) : Decidable network.Decided := inferInstanceAs (Decidable (_ ∈ _))

theorem party_marked {party : Party} (there : network.party peer = some party) :
    party.marked = (network.server.findSession peer).map SessionData.isFileTransferSender := by
  obtain ⟨connection, -, rfl⟩ := party_eq there
  simp only [Party.marked, Connection.party, Option.map_map]
  rfl

theorem isSender_standing : network.server.IsSender peer ↔ (network.standing peer).map Prod.snd = some true := by
  rw [Server.IsSender, standing, Option.map_map]
  rfl

theorem isSender_iff {party : Party} (there : network.party peer = some party) :
    network.server.IsSender peer ↔ party.marked = some true := by
  rw [party_marked there]
  rfl

variable {letter : Letter Nat} {sent : SessionId → SessionData Nat → Option (Letter Nat)}
  {status : SessionId → StatusCode → StatusCode} {sender : SessionId → Bool → Bool}

theorem Serves.requests (serves : Serves network next client letter sent status sender) {after : Party}
    (found : next.party peer = some after) :
    ∃ before, network.party peer = some before ∧ after.client = before.client ∧ after.aborted = before.aborted ∧
      before.outgoing = (if peer = client ∧ letter.isOwn = true then [letter] else []) ++ after.outgoing ∧
      after.marked = before.marked.map (sender peer) ∧
      (after.verdicts = before.verdicts ∨ ∃ data told code, network.server.findSession peer = some data ∧
        sent peer data = some told ∧ told.verdict = some code ∧ after.verdicts = before.verdicts ++ [code]) := by
  obtain ⟨before, was, state, aborted, -, upstream, sessions⟩ := serves.parties peer after found
  refine ⟨before, was, state, aborted, ?_, ?_, ?_⟩
  · rw [Party.outgoing, upstream, List.filter_append, Party.outgoing]
    congr 1
    by_cases own : peer = client
    · rw [if_pos own]
      cases isOwn : letter.isOwn with
      | true => simp [own, transferLetters, Letter.ofTransfer_of_isOwn isOwn, isOwn]
      | false => simp [transferLetters, List.filter_filter, isOwn]
    · rw [if_neg own, if_neg (fun both => own both.1)]
      rfl
  · rcases sessions with ⟨none, gone, -⟩ | ⟨data, -, known, still, -⟩
    · rw [Party.marked, Party.marked, none, gone]
      rfl
    · rw [Party.marked, Party.marked, known, still]
      rfl
  · rcases sessions with ⟨-, -, same⟩ | ⟨data, session, -, -, same | ⟨told, offered, grown⟩⟩
    · left
      rw [Party.verdicts, same, Party.verdicts]
    · left
      rw [Party.verdicts, same, Party.verdicts]
    · cases verdict : told.verdict with
      | none =>
        left
        rw [Party.verdicts, grown, List.filterMap_append, List.filterMap_cons_none verdict, List.filterMap_nil,
          List.append_nil, Party.verdicts]
      | some code =>
        right
        refine ⟨data, told, code, session, offered, verdict, ?_⟩
        rw [Party.verdicts, grown, List.filterMap_append, List.filterMap_cons_some verdict, List.filterMap_nil,
          Party.verdicts]

theorem Serves.requests_silent (serves : Serves network next client letter sent status sender) {after : Party}
    (found : next.party peer = some after) (silent : ∀ data told, sent peer data = some told → told.verdict = none) :
    ∃ before, network.party peer = some before ∧ after.client = before.client ∧ after.aborted = before.aborted ∧
      before.outgoing = (if peer = client ∧ letter.isOwn = true then [letter] else []) ++ after.outgoing ∧
      after.marked = before.marked.map (sender peer) ∧ after.verdicts = before.verdicts := by
  obtain ⟨before, was, state, aborted, outgoing, marked, verdicts⟩ := serves.requests found
  refine ⟨before, was, state, aborted, outgoing, marked, ?_⟩
  rcases verdicts with same | ⟨data, told, code, -, offered, verdict, -⟩
  · exact same
  · rw [silent data told offered] at verdict
    cases verdict

/-- The network between its steps: one sender at most, and no client that waits in vain. -/
structure Calm (network : Network) : Prop where
  parties : ∀ client party, network.party client = some party → party.Sound network.Decided
  exclusive : Exclusive network.server.IsSender network.server.fileTransferModeActive_
  past : ∀ decision ∈ network.decisions, decision.transfer ≤ network.poll.transfer

def Prompted (network : Network) : Prop :=
  ∀ client connection, network.connections client = some connection → connection.choosing = true →
    connection.client.isSendingFile_ = false

theorem calm_start : start.Calm where
  parties _ _ there := by cases there
  exclusive := Exclusive.free fun holder marked => by
    rw [Server.IsSender, start, Server.findSession_new] at marked
    cases marked
  past _ decision := absurd decision (by simp [start])

/-- An answer is handled while its sender waits for it, a request is accepted from a client that still has the
    name of its file, and no client resets a request of its own that is still to be answered. -/
def Undisturbed (network : Network) : Event → Prop
  | .message client _ => ∀ letter, network.front client = some letter →
    (letter.message.answer.isSome = true → network.server.isFileTransferModeActive = true ∧ ¬ network.Decided) ∧
      (network.server.accepts letter.message = true → ∀ party, network.party client = some party →
        party.client.fileName ≠ [])
  | .client client event => ∀ connection, network.connections client = some connection →
    connection.Careful network.Decided (network.server.findSession client) event
  | _ => True

instance (network : Network) (event : Event) : Decidable (network.Undisturbed event) :=
  match event with
  | .message client _ =>
    have : Decidable (∀ party, network.party client = some party → party.client.fileName ≠ []) :=
      Option.decidableForallMem (network.party client)
    Option.decidableForallMem (network.front client)
  | .client client _ => Option.decidableForallMem (network.connections client)
  | .connect _ _ _ _ _ | .writeData _ | .removeSession _ => instDecidableTrue

theorem Prompted.step {event : Event} (prompts : network.Prompted) (stepped : network.step target event = some next) :
    next.Prompted := by
  -- the prompts of the others are as they were
  have other {client : SessionId} {changed : Connection}
      (connections : next.connections = Function.update network.connections client (some changed))
      (own : changed.choosing = true → changed.client.isSendingFile_ = false) : next.Prompted := by
    intro peer connection there
    rw [connections] at there
    by_cases same : peer = client
    · rw [same, Function.update_self] at there
      cases there
      exact own
    · rw [Function.update_of_ne same] at there
      exact prompts peer connection there
  cases steps_of_step stepped with
  | connect => exact other rfl fun choosing => by cases choosing
  | client there acts => exact other rfl ((Connection.acts_of_step acts).prompt (prompts _ _ there))
  | message there _ _ connections =>
    have prompt := prompts _ _ there
    exact other connections prompt
  | writeData there =>
    have prompt := prompts _ _ there
    exact other rfl prompt
  | removeSession => exact prompts

theorem decided_eq (poll : next.poll.transfer = network.poll.transfer) (decisions : next.decisions = network.decisions) :
    decide next.Decided = decide network.Decided := by
  rw [decide_eq_decide, Decided, poll, decisions, Decided]

theorem Calm.parties_of_serves (calm : network.Calm) (serves : Serves network next client letter sent status sender)
    (silent : ∀ peer data told, sent peer data = some told → told.verdict = none)
    (marks : ∀ peer mark, sender peer mark = mark) (decided : decide next.Decided = decide network.Decided)
    {party : Party} (found : next.party peer = some party) : party.Sound next.Decided := by
  obtain ⟨before, was, state, aborted, outgoing, marked, same⟩ := serves.requests_silent found (silent peer)
  rw [decided]
  refine (calm.parties peer before was).of_passed state aborted outgoing ?_ same
  rw [marked]
  cases before.marked with
  | none => rfl
  | some mark => exact congrArg some (marks peer mark)

theorem Serves.isSender (serves : Serves network next client letter sent status sender) (peer : SessionId) :
    next.server.IsSender peer ↔
      (network.server.findSession peer).map (fun data => sender peer data.isFileTransferSender) = some true := by
  rw [isSender_standing, serves.standing, Network.standing, Option.map_map, Option.map_map]
  rfl

theorem Calm.exclusive_of_serves (calm : network.Calm)
    (serves : Serves network next client letter sent status fun _ mark => mark)
    (mode : next.server.fileTransferModeActive_ = network.server.fileTransferModeActive_) :
    Exclusive next.server.IsSender next.server.fileTransferModeActive_ := by
  rw [mode]
  exact calm.exclusive.congr fun peer => serves.isSender peer

theorem Calm.refused (calm : network.Calm) (request : letter.isRequest = true) {origin : Nat}
    (serves : Serves network next client letter
      (fun peer _ => if peer = client then some ⟨.status ⟨.fileTransferCanceled⟩, origin⟩ else none) status
      fun _ mark => mark)
    (mode : next.server.fileTransferModeActive_ = network.server.fileTransferModeActive_)
    (poll : next.poll = network.poll) (decisions : next.decisions = network.decisions) : next.Calm := by
  refine ⟨?_, calm.exclusive_of_serves serves mode, ?_⟩
  · intro peer party found
    obtain ⟨before, was, state, aborted, outgoing, marked, verdicts⟩ := serves.requests found
    have isOwn : letter.isOwn = true := by rw [Letter.isOwn, request, Bool.true_or]
    rw [Option.map_id'] at marked
    rw [decided_eq (congrArg Poll.transfer poll) decisions]
    have sound := calm.parties peer before was
    by_cases own : peer = client
    · rw [if_pos ⟨own, isOwn⟩, List.singleton_append] at outgoing
      apply sound.refused state aborted outgoing request marked
      rcases verdicts with same | ⟨data, told, code, -, offered, verdict, grown⟩
      · exact Or.inl same
      · rw [if_pos own] at offered
        cases offered
        cases verdict
        exact Or.inr grown
    · apply sound.of_passed state aborted outgoing marked
      rcases verdicts with same | ⟨data, told, code, -, offered, -, -⟩
      · exact same
      · rw [if_neg own] at offered
        cases offered
  · rw [poll, decisions]
    exact calm.past

theorem Calm.accepted (calm : network.Calm) (known : (network.server.findSession client).isSome = true) (request : letter.isRequest = true)
    (idle : network.server.fileTransferModeActive_ = false) (mode : next.server.fileTransferModeActive_ = true)
    (named : ∀ party, network.party client = some party → party.client.fileName ≠ [])
    (silent : ∀ peer data told, sent peer data = some told → told.verdict = none)
    (serves : Serves network next client letter sent status fun peer mark => if peer = client then true else mark)
    (poll : next.poll.transfer = network.poll.transfer + 1) (decisions : next.decisions = network.decisions) :
    next.Calm := by
  have isOwn : letter.isOwn = true := by rw [Letter.isOwn, request, Bool.true_or]
  have undecided : decide next.Decided = false := by
    rw [decide_eq_false_iff_not, Decided, poll, decisions]
    intro decided
    obtain ⟨decision, told, same⟩ := List.mem_map.mp decided
    have past := calm.past decision told
    omega
  have unmarked : ∀ peer before, network.party peer = some before → before.marked ≠ some true := by
    intro peer before was mark
    exact calm.exclusive.not_holds idle peer ((isSender_iff was).mpr mark)
  refine ⟨?_, ?_, ?_⟩
  · intro peer party found
    obtain ⟨before, was, state, aborted, outgoing, marked, same⟩ := serves.requests_silent found (silent peer)
    have sound := calm.parties peer before was
    rw [undecided]
    by_cases own : peer = client
    · rw [if_pos ⟨own, isOwn⟩, List.singleton_append] at outgoing
      apply sound.accepted state aborted outgoing request _ same
      · rw [state]
        exact named before (own ▸ was)
      · have mark := party_marked was
        obtain ⟨data, session⟩ := Option.isSome_iff_exists.mp known
        rw [own, session, Option.map_some] at mark
        rw [mark]
        cases flag : data.isFileTransferSender with
        | false => rfl
        | true => exact absurd (mark.trans (congrArg some flag)) (unmarked peer before was)
    · have fewer : party.outgoing.Sublist before.outgoing := by
        rw [outgoing]
        exact List.sublist_append_right _ _
      simp only [if_neg own] at marked
      rw [Option.map_id'] at marked
      apply sound.of_fewer aborted (by rw [state]) (by rw [state]) (Or.inl (by rw [state])) fewer (by rw [same])
      · intro waiting
        simp only [Party.waits, marked, Bool.and_eq_true, decide_eq_true_eq] at waiting
        exact absurd waiting.1 (unmarked peer before was)
      · intro mark known uploads
        rw [marked] at known
        have sends := (sound.uploads mark known (uploads.of_fewer (by rw [state]) fewer (by rw [same]))).1
        rw [sends] at known
        exact absurd known (unmarked peer before was)
  · rw [mode]
    apply calm.exclusive.claim idle client
    intro peer
    rw [serves.isSender]
    by_cases own : peer = client
    · obtain ⟨data, session⟩ := Option.isSome_iff_exists.mp known
      simp [own, session]
    · simp only [own, or_false]
      rfl
  · intro decision told
    rw [decisions] at told
    rw [poll]
    exact Nat.le_succ_of_le (calm.past decision told)

theorem Calm.answered (calm : network.Calm) (notOwn : letter.isOwn = false) (undecided : ¬ network.Decided) {told : Option (SessionId × StatusCode)}
    (decisions : next.decisions = match told with
      | none => network.decisions
      | some _ => network.decisions ++ [⟨next.poll.transfer, next.poll.missing network.server⟩])
    (decided : ∀ asker verdict, told = some (asker, verdict) →
      ∃ data, network.server.findSession asker = some data ∧ data.isFileTransferSender = true)
    {origin : Nat}
    (serves : Serves network next client letter (fun peer _ => Server.decisionLetter origin told peer) status fun _ mark => mark)
    (mode : next.server.fileTransferModeActive_ = network.server.fileTransferModeActive_)
    (poll : next.poll.transfer = network.poll.transfer) : next.Calm := by
  cases told with
  | none =>
    refine ⟨?_, calm.exclusive_of_serves serves mode, ?_⟩
    · intro peer party found
      exact calm.parties_of_serves serves (fun _ _ _ offered => by cases offered) (fun _ _ => rfl)
        (decided_eq poll decisions) found
    · rw [poll, decisions]
      exact calm.past
  | some verdict =>
    obtain ⟨asker, code⟩ := verdict
    obtain ⟨data, session, mark⟩ := decided asker code rfl
    have now : decide next.Decided = true := by
      rw [decide_eq_true_iff, Decided, decisions, List.map_append]
      exact List.mem_append_right _ List.mem_cons_self
    have before : decide network.Decided = false := decide_eq_false undecided
    refine ⟨?_, calm.exclusive_of_serves serves mode, ?_⟩
    · intro peer party found
      obtain ⟨old, was, state, aborted, outgoing, marked, verdicts⟩ := serves.requests found
      rw [Option.map_id'] at marked
      have sound := calm.parties peer old was
      rw [before] at sound
      rw [now]
      rw [notOwn, if_neg (fun both => Bool.false_ne_true both.2), List.nil_append] at outgoing
      by_cases asked : peer = asker
      · have flagged : old.marked = some true := by
          rw [party_marked was, asked, session, Option.map_some, mark]
        have still := marked.trans flagged
        rcases verdicts with same | ⟨_, _, verdict, -, -, -, grown⟩
        · exact sound.told state aborted outgoing.symm flagged still (Or.inl same : _ ∨ _ = _ ++ [code])
        · exact sound.told state aborted outgoing.symm flagged still (Or.inr grown)
      · have same : party.verdicts = old.verdicts := by
          rcases verdicts with same | ⟨_, _, verdict, -, offered, told, grown⟩
          · exact same
          · obtain ⟨_, same, -⟩ := Server.decisionLetter_some offered
            cases same
            exact absurd rfl asked
        apply sound.of_fewer aborted (by rw [state]) (by rw [state]) (Or.inl (by rw [state])) (by rw [outgoing])
          (by rw [same])
        · intro waiting
          simp [Party.waits] at waiting
        · intro mark known uploads
          rw [marked] at known
          have earlier := sound.uploads mark known (uploads.of_fewer (by rw [state]) (by rw [outgoing]) (by rw [same]))
          exact ⟨earlier.1, rfl⟩
    · intro decision told
      rw [decisions] at told
      rw [poll]
      rcases List.mem_append.mp told with earlier | new
      · exact calm.past decision earlier
      · rw [List.mem_singleton.mp new, poll]

theorem Calm.isSender_of_block (calm : network.Calm) (known : (network.server.findSession client).isSome = true)
    (serves : Serves network next client letter sent status sender) (there : (network.party client).isSome = true)
    (block : letter.isBlock = true) : network.server.IsSender client := by
  obtain ⟨after, found⟩ := Option.isSome_iff_exists.mp (serves.stays client there)
  obtain ⟨before, was, -, -, outgoing, -, -⟩ := serves.requests found
  rw [if_pos ⟨rfl, by rw [Letter.isOwn, block, Bool.or_true]⟩] at outgoing
  have uploads : before.Uploads := by
    refine Or.inr (Or.inr ⟨letter, ?_, block⟩)
    rw [outgoing]
    exact List.mem_cons_self
  obtain ⟨data, session⟩ := Option.isSome_iff_exists.mp known
  have marked := party_marked was
  rw [session, Option.map_some] at marked
  rw [isSender_iff was, marked, ((calm.parties client before was).uploads _ marked uploads).1]

theorem Calm.finished (calm : network.Calm) (sends : network.server.IsSender client) (last : letter.isLastBlock = true)
    (silent : ∀ peer data told, sent peer data = some told → told.verdict = none)
    (serves : Serves network next client letter sent status fun peer mark => if peer = client then false else mark)
    (mode : next.server.fileTransferModeActive_ = false)
    (poll : next.poll = network.poll) (decisions : next.decisions = network.decisions) : next.Calm := by
  refine ⟨?_, ?_, ?_⟩
  · intro peer party found
    obtain ⟨before, was, state, aborted, outgoing, marked, same⟩ := serves.requests_silent found (silent peer)
    have sound := calm.parties peer before was
    rw [decided_eq (congrArg Poll.transfer poll) decisions]
    by_cases own : peer = client
    · have isOwn : letter.isOwn = true := by
        rw [Letter.isOwn, Letter.isBlock_of_isLastBlock last, Bool.or_true]
      rw [if_pos ⟨own, isOwn⟩, List.singleton_append] at outgoing
      have flagged := (isSender_iff was).mp (own ▸ sends)
      rw [flagged, Option.map_some, if_pos own] at marked
      exact sound.finished state aborted outgoing last marked same
    · simp only [if_neg own] at marked
      rw [Option.map_id'] at marked
      exact sound.of_passed state aborted outgoing marked same
  · apply calm.exclusive.release client
    · intro peer
      rw [serves.isSender]
      by_cases own : peer = client
      · simp [own]
      · simp only [ne_eq, own, not_false_eq_true, and_true]
        rfl
    · rw [mode]
      exact iff_of_false Bool.false_ne_true fun both => both.2 sends
  · rw [poll, decisions]
    exact calm.past

theorem Calm.hears {memory : Memory} (calm : network.Calm) (front : network.front client = some letter)
    (known : (network.server.findSession client).isSome = true)
    (condition : network.Undisturbed (.message client memory))
    (hears : Hears target memory network next client letter) : next.Calm := by
  obtain ⟨answers, accepts⟩ := condition letter front
  have there : (network.party client).isSome = true := by
    obtain ⟨connection, there, -⟩ := Option.bind_eq_some_iff.mp front
    rw [isSome_party, there]
    rfl
  -- a letter that says nothing to a client, and leaves the marks
  have passes {sent : SessionId → SessionData Nat → Option (Letter Nat)} {status : SessionId → StatusCode → StatusCode}
      (serves : Serves network next client letter sent status fun _ mark => mark)
      (silent : ∀ peer data told, sent peer data = some told → told.verdict = none)
      (mode : next.server.fileTransferModeActive_ = network.server.fileTransferModeActive_)
      (poll : next.poll = network.poll) (decisions : next.decisions = network.decisions) : next.Calm := by
    refine ⟨?_, calm.exclusive_of_serves serves mode, ?_⟩
    · intro peer party found
      exact calm.parties_of_serves serves silent (fun _ _ => rfl) (decided_eq (congrArg Poll.transfer poll) decisions)
        found
    · rw [poll, decisions]
      exact calm.past
  cases hears with
  | passes mode serves poll decisions => exact passes serves (fun _ _ _ offered => by cases offered) mode poll decisions
  | refused why mode serves poll decisions =>
    obtain ⟨message, origin⟩ := letter
    rcases why with ⟨answer, idle⟩ | ⟨⟨file, rfl⟩, -⟩
    · have active := (answers answer).1
      rw [Server.isFileTransferModeActive, idle] at active
      cases active
    · exact calm.refused rfl serves mode poll decisions
  | answered answer active mode decided serves poll transfer decisions =>
    have undecided := (answers (by rw [answer]; rfl)).2
    have notOwn : letter.isOwn = false := by
      rw [Letter.isOwn, Letter.isRequest, Letter.isBlock, (Message.eq_of_answer answer).1]
      rfl
    apply calm.answered notOwn undecided decisions _ serves mode transfer
    intro asker verdict told
    exact (decided asker verdict told).1
  | accepted idle accepted mode current serves poll decisions =>
    apply calm.accepted known rfl idle mode (accepts accepted) _ serves (by rw [poll]) decisions
    intro peer data told offered
    split at offered
    · cases offered
    · cases offered
      rfl
  | @relayed block origin mode serves poll decisions =>
    have silent : ∀ peer data told, (if peer = client then none else
        Server.dataLetter target memory network.poll.transfer block peer data) = some told → told.verdict = none := by
      intro peer data told offered
      split at offered
      · cases offered
      · rw [Server.dataLetter_some offered]
        rfl
    cases last : block.isLastBlock with
    | false =>
      simp only [last, Bool.and_false, Bool.false_eq_true, if_false] at serves
      rw [last, Bool.not_false, Bool.and_true] at mode
      exact passes serves silent mode poll decisions
    | true =>
      simp only [last, Bool.and_true, decide_eq_true_eq] at serves
      rw [last, Bool.not_true, Bool.and_false] at mode
      have sends := calm.isSender_of_block known serves there rfl
      have isLast : Letter.isLastBlock ⟨.fileData block, origin⟩ = true := last
      exact calm.finished sends isLast silent serves mode poll decisions

theorem Calm.step {event : Event} (calm : network.Calm) (prompts : network.Prompted)
    (condition : network.Undisturbed event) (stepped : network.step target event = some next) : next.Calm := by
  cases moves_of_step stepped with
  | quiet parties sessions mode poll decisions =>
    refine ⟨?_, ?_, by rw [poll, decisions]; exact calm.past⟩
    · intro peer party found
      rw [parties] at found
      rw [decided_eq (congrArg Poll.transfer poll) decisions]
      exact calm.parties peer party found
    · rw [mode]
      apply calm.exclusive.congr
      intro peer
      rw [isSender_standing, sessions, isSender_standing]
  | @joins client _ _ _ _ fresh vacant parties sessions mode poll decisions =>
    refine ⟨?_, ?_, by rw [poll, decisions]; exact calm.past⟩
    · intro peer party found
      rw [parties] at found
      rw [decided_eq (congrArg Poll.transfer poll) decisions]
      split at found
      · cases found
        exact sound_new _
      · exact calm.parties peer party found
    · rw [mode]
      apply calm.exclusive.congr
      intro peer
      rw [isSender_standing, sessions, isSender_standing]
      split
      · rename_i own
        rw [own, vacant]
        exact iff_of_false (fun mark => by cases mark) fun mark => by cases mark
      · rfl
  | @acts client event connection acted there alive acts parties server poll decisions =>
    refine ⟨?_, by rw [server]; exact calm.exclusive, by rw [poll, decisions]; exact calm.past⟩
    intro peer party found
    rw [parties] at found
    rw [decided_eq (congrArg Poll.transfer poll) decisions]
    split at found
    · cases found
      apply acts.sound alive (prompts client connection there) (condition connection there)
      exact calm.parties client _ (party_of_connection there)
    · exact calm.parties peer party found
  | hears letter front known hears => exact calm.hears front known condition hears
  | @leaves client current there connections sessions mode poll decisions =>
    refine ⟨?_, ?_, by rw [poll, decisions]; exact calm.past⟩
    · intro peer party found
      obtain ⟨connection, known, rfl⟩ := party_eq found
      rw [connections] at known
      rw [decided_eq (congrArg Poll.transfer poll) decisions, sessions]
      have sound := calm.parties peer _ (party_of_connection known)
      split
      · exact Connection.sound_left sound
      · exact sound
    · apply calm.exclusive.release client
      · intro peer
        unfold Server.IsSender
        rw [sessions]
        by_cases own : peer = client
        · simp [own]
        · simp [own]
      · rw [mode]
        simp [Server.IsSender, there]

theorem noAbort {events : List Event} (run : Run (Network.step target) Undisturbed start events network)
    (client : SessionId) (connection : Connection) (there : network.connections client = some connection) :
    connection.aborted = false := by
  have calm : network.Calm ∧ network.Prompted := run.invariant (fun network => network.Calm ∧ network.Prompted)
    ⟨calm_start, fun _ _ there => by cases there⟩
    fun _ _ _ invariant condition stepped =>
      ⟨invariant.1.step invariant.2 condition stepped, invariant.2.step stepped⟩
  exact (calm.1.parties client _ (party_of_connection there)).alive

theorem noAbort_twoClients :
    ∃ network connection, exec (Network.step .m64) start (joining 1 ++ joining 2 ++ offering 1 ++
        hearing 2 (.accept aFile) ++ speaking 2 ++ hearing 1 .refuse ++ uploading 1 ++ hearing 2 .refuse) = some network ∧
      network.connections 1 = some connection ∧ connection.aborted = false := by
  have outcome : ((execMeets (Network.step .m64) (fun network event => decide (network.Undisturbed event)) start
      (joining 1 ++ joining 2 ++ offering 1 ++ hearing 2 (.accept aFile) ++ speaking 2 ++ hearing 1 .refuse ++
        uploading 1 ++ hearing 2 .refuse)).map fun network =>
      (network.connections 1).isSome) = some true := by
    decide +kernel
  obtain ⟨network, executed, known⟩ := Option.map_eq_some_iff.mp outcome
  obtain ⟨connection, there⟩ := Option.isSome_iff_exists.mp known
  exact ⟨network, connection, exec_of_execMeets executed, there,
    noAbort (run_of_execDecide executed) 1 connection there⟩

/-- The sender is gone when a peer accepts: it is answered as if the transfer were its own. -/
theorem noAbort_senderGone :
    ∃ network connection, exec (Network.step .m64) start (joining 1 ++ joining 2 ++ offering 1 ++ [.removeSession 1] ++
        hearing 2 (.accept aFile) ++ speaking 2 ++ hearing 2 .refuse) = some network ∧
      network.connections 2 = some connection ∧ connection.aborted = true := by
  have outcome : (exec (Network.step .m64) start (joining 1 ++ joining 2 ++ offering 1 ++ [.removeSession 1] ++
      hearing 2 (.accept aFile) ++ speaking 2 ++ hearing 2 .refuse)).map
        (fun network => (network.connections 2).map Connection.aborted) = some (some true) := by
    decide +kernel
  obtain ⟨network, executed, aborted⟩ := Option.map_eq_some_iff.mp outcome
  obtain ⟨connection, there, aborted⟩ := Option.map_eq_some_iff.mp aborted
  exact ⟨network, connection, executed, there, aborted⟩

end Network

end LanMessenger
