import LanMessenger.Network.Decisions
import LanMessenger.Network.Feeds
import LanMessenger.Server.TransferMode

namespace LanMessenger

open CMemory Transition

theorem Server.isLastBlock_copyFileData (target : Target) (raw message : FileDataMessage) :
    (copyFileData target raw message).isLastBlock = message.isLastBlock := by
  unfold copyFileData
  cases last : message.isLastBlock with
  | true => rfl
  | false => rfl

namespace Party

variable {target : Target} {transfer later : Nat} {current coming : Option Nat} {before after : Party}

theorem Fed.grown {new : List (Letter Nat)} (fed : before.Fed target transfer current)
    (client : after.client = before.client) (journal : after.journal = before.journal)
    (feed : after.feed = before.feed ++ new) (one : new.length ≤ 1)
    (now : ∀ number, coming = some number → number = later) (upward : transfer ≤ later)
    (still : ∀ number, number ≤ transfer → coming = some number → current = some number)
    (fresh : ∀ letter ∈ new, letter.origin = later ∧ (letter.isRequest = true → transfer < later) ∧
      (letter.isBlock = true → current = some later) ∧ (letter.isLastBlock = true → coming ≠ some later)) :
    after.Fed target later coming := by
  have own : ∀ letter ∈ new, letter.isRequest = true ∨ letter.isBlock = true := by
    intro letter member
    have isOwn : letter.isOwn = true := by
      apply (List.mem_filter.mp (_ : letter ∈ after.feed)).2
      rw [feed]
      exact List.mem_append_right _ member
    exact Bool.or_eq_true_iff.mp isOwn
  constructor
  · exact now
  · rw [feed, List.pairwise_append]
    refine ⟨fed.ordered, ?_, ?_⟩
    · match new, one with
      | [], _ => exact List.Pairwise.nil
      | [letter], _ => exact List.pairwise_singleton _ _
    · intro earlier known letter member
      obtain ⟨origin, request, block, -⟩ := fresh letter member
      obtain ⟨bound, open_⟩ := fed.present earlier known
      refine ⟨by omega, fun strict => ?_⟩
      rcases own letter member with isRequest | isBlock
      · have jump := request isRequest
        omega
      · rcases strict with last | isRequest
        · have other : earlier.origin ≠ later := fun same => open_ last (same ▸ block isBlock)
          omega
        · have jump := request isRequest
          omega
  · rw [feed]
    intro letter member
    rcases List.mem_append.mp member with known | sent
    · obtain ⟨bound, open_⟩ := fed.present letter known
      exact ⟨bound.trans upward, fun last same => open_ last (still _ bound same)⟩
    · obtain ⟨origin, -, -, last⟩ := fresh letter sent
      rw [origin]
      exact ⟨le_rfl, last⟩
  · rw [journal]
    exact fed.descending
  · rw [journal, feed]
    intro entry member
    obtain ⟨bound, ahead⟩ := fed.past entry member
    refine ⟨bound.trans upward, fun letter there => ?_⟩
    rcases List.mem_append.mp there with known | sent
    · exact ahead letter known
    · obtain ⟨origin, request, -, -⟩ := fresh letter sent
      refine ⟨by omega, fun isRequest => ?_⟩
      have jump := request isRequest
      omega
  · rw [journal, client]
    intro number name older accepted opened expects
    apply fed.ready number name older accepted opened
    have bound := (fed.past (number, name) (by rw [accepted]; exact List.mem_cons_self)).1
    rcases expects with now | ⟨letter, member, isBlock, origin⟩
    · exact Or.inl (still number bound now)
    · rw [feed] at member
      rcases List.mem_append.mp member with known | sent
      · exact Or.inr ⟨letter, known, isBlock, origin⟩
      · obtain ⟨same, -, block, -⟩ := fresh letter sent
        left
        rw [block isBlock, ← same, origin]
  · rw [journal]
    exact fed.saved

theorem Fed.dropped (fed : before.Fed target transfer current) (client : after.client = before.client)
    (journal : after.journal = before.journal) (feed : after.feed.Sublist before.feed)
    (still : ∀ number, coming = some number → current = some number) : after.Fed target transfer coming := by
  constructor
  · exact fun number now => fed.now number (still number now)
  · exact fed.ordered.sublist feed
  · intro letter member
    obtain ⟨bound, open_⟩ := fed.present letter (feed.subset member)
    exact ⟨bound, fun last now => open_ last (still _ now)⟩
  · rw [journal]
    exact fed.descending
  · rw [journal]
    intro entry member
    obtain ⟨bound, ahead⟩ := fed.past entry member
    exact ⟨bound, fun letter there => ahead letter (feed.subset there)⟩
  · rw [journal, client]
    intro number name older accepted opened expects
    apply fed.ready number name older accepted opened
    rcases expects with now | ⟨letter, member, isBlock, origin⟩
    · exact Or.inl (still number now)
    · exact Or.inr ⟨letter, feed.subset member, isBlock, origin⟩
  · rw [journal]
    exact fed.saved

end Party

namespace Network

variable {target : Target} {network next : Network} {client peer : SessionId}

def current (network : Network) : Option Nat :=
  if network.server.fileTransferModeActive_ then some network.poll.transfer else none

theorem current_some {number : Nat} (now : network.current = some number) :
    network.server.fileTransferModeActive_ = true ∧ number = network.poll.transfer := by
  unfold current at now
  split at now
  · rename_i active
    cases now
    exact ⟨active, rfl⟩
  · cases now

theorem current_eq (mode : next.server.fileTransferModeActive_ = network.server.fileTransferModeActive_)
    (transfer : next.poll.transfer = network.poll.transfer) : next.current = network.current := by
  rw [current, mode, transfer, current]

def Supplied (target : Target) (network : Network) : Prop :=
  ∀ client party, network.party client = some party → party.Fed target network.poll.transfer network.current

/-- Blocks are handled from the sender of the transfer that is on, and each client is receptive. -/
def FilesApart (target : Target) (network : Network) : Event → Prop
  | .message client _ => ∀ letter, network.front client = some letter → letter.isBlock = true →
    network.server.isFileTransferModeActive = true ∧ network.server.IsSender client
  | .client client event => ∀ connection, network.connections client = some connection →
    connection.Receptive target network.current (network.server.findSession client) event
  | _ => True

instance (target : Target) (network : Network) (event : Event) : Decidable (network.FilesApart target event) :=
  match event with
  | .message client _ => Option.decidableForallMem (network.front client)
  | .client client _ => Option.decidableForallMem (network.connections client)
  | .connect _ _ _ _ _ | .writeData _ | .removeSession _ => instDecidableTrue

variable {letter : Letter Nat} {sent : SessionId → SessionData Nat → Option (Letter Nat)}
  {status : SessionId → StatusCode → StatusCode} {sender : SessionId → Bool → Bool}

theorem Serves.feed (serves : Serves network next client letter sent status sender) {after : Party}
    (found : next.party peer = some after) :
    ∃ before new, network.party peer = some before ∧ after.client = before.client ∧ after.journal = before.journal ∧
      after.feed = before.feed ++ new ∧ new.length ≤ 1 ∧
      ∀ letter ∈ new, ∃ data, network.server.findSession peer = some data ∧ sent peer data = some letter := by
  obtain ⟨before, was, state, -, journal, -, sessions⟩ := serves.parties peer after found
  rcases sessions with ⟨-, -, same⟩ | ⟨data, session, -, -, same | ⟨told, offered, grown⟩⟩
  · refine ⟨before, [], was, state, journal, ?_, Nat.zero_le 1, fun _ none => by cases none⟩
    rw [Party.feed, same, List.append_nil, Party.feed]
  · refine ⟨before, [], was, state, journal, ?_, Nat.zero_le 1, fun _ none => by cases none⟩
    rw [Party.feed, same, List.append_nil, Party.feed]
  · refine ⟨before, [told].filter Letter.isOwn, was, state, journal, ?_, List.length_filter_le _ _, ?_⟩
    · rw [Party.feed, grown, List.filter_append, Party.feed]
    · intro letter member
      rw [List.mem_singleton.mp (List.mem_filter.mp member).1]
      exact ⟨data, session, offered⟩

theorem Supplied.of_serves (supplied : network.Supplied target)
    (serves : Serves network next client letter sent status sender)
    (none : ∀ peer data told, sent peer data = some told → told.isOwn = false)
    (mode : next.server.fileTransferModeActive_ = network.server.fileTransferModeActive_)
    (transfer : next.poll.transfer = network.poll.transfer) : next.Supplied target := by
  intro peer party found
  obtain ⟨before, was, state, -, journal, upstream, -⟩ := serves.parties peer party found
  obtain ⟨before, new, was, state, journal, feed, one, offered⟩ := serves.feed found
  have nothing : new = [] := by
    apply List.eq_nil_iff_forall_not_mem.mpr
    intro told member
    obtain ⟨data, -, given⟩ := offered told member
    have isOwn : told.isOwn = true := by
      apply (List.mem_filter.mp (_ : told ∈ party.feed)).2
      rw [feed]
      exact List.mem_append_right _ member
    exact Bool.false_ne_true ((none peer data told given).symm.trans isOwn)
  rw [nothing, List.append_nil] at feed
  rw [current_eq mode transfer, transfer]
  apply (supplied peer before was).dropped state journal (by rw [feed])
  exact fun number now => now

theorem Supplied.hears {memory : Memory} (supplied : network.Supplied target)
    (front : network.front client = some letter) (condition : network.FilesApart target (.message client memory))
    (hears : Hears target memory network next client letter) : next.Supplied target := by
  have apart := condition letter front
  cases hears with
  | passes mode serves poll decisions =>
    exact supplied.of_serves serves (fun _ _ _ offered => by cases offered) mode (congrArg Poll.transfer poll)
  | refused why mode serves poll decisions =>
    apply supplied.of_serves serves _ mode (congrArg Poll.transfer poll)
    intro peer data told offered
    split at offered
    · cases offered
      rfl
    · cases offered
  | answered answer active mode decided serves poll transfer decisions =>
    apply supplied.of_serves serves _ mode transfer
    intro peer data told offered
    obtain ⟨code, -, rfl⟩ := Server.decisionLetter_some offered
    rfl
  | accepted idle accepted mode current serves poll decisions =>
    have number : next.poll.transfer = network.poll.transfer + 1 := congrArg Poll.transfer poll
    have now : next.current = some (network.poll.transfer + 1) := by
      rw [Network.current, mode, if_pos rfl, number]
    intro peer party found
    obtain ⟨before, new, was, state, journal, feed, one, offered⟩ := serves.feed found
    rw [number, now]
    apply (supplied peer before was).grown state journal feed one
    · intro transfer same
      exact (Option.some.inj same).symm
    · exact Nat.le_succ _
    · intro transfer bound same
      have same := Option.some.inj same
      omega
    · intro told member
      obtain ⟨data, -, given⟩ := offered told member
      split at given
      · cases given
      · cases given
        exact ⟨rfl, fun _ => Nat.lt_succ_self _, fun block => Bool.noConfusion block, fun block => Bool.noConfusion block⟩
  | @relayed block origin mode serves poll decisions =>
    have active : network.server.fileTransferModeActive_ = true := (apart rfl).1
    have number : next.poll.transfer = network.poll.transfer := congrArg Poll.transfer poll
    have now : network.current = some network.poll.transfer := by rw [Network.current, active, if_pos rfl]
    intro peer party found
    obtain ⟨before, new, was, state, journal, feed, one, offered⟩ := serves.feed found
    rw [number]
    apply (supplied peer before was).grown state journal feed one
    · intro transfer same
      rw [(current_some same).2, number]
    · exact le_rfl
    · intro transfer bound same
      rw [(current_some same).2, number, now]
    · intro told member
      obtain ⟨data, -, given⟩ := offered told member
      split at given
      · cases given
      · rw [Server.dataLetter_some given]
        refine ⟨rfl, fun request => Bool.noConfusion request, fun _ => now, fun last same => ?_⟩
        have still := (current_some same).1
        have ends : block.isLastBlock = true := (Server.isLastBlock_copyFileData _ _ _).symm.trans last
        rw [mode, ends, Bool.not_true, Bool.and_false] at still
        cases still

theorem fed_new (target : Target) (transfer : Nat) (current : Option Nat)
    (now : ∀ number, current = some number → number = transfer) :
    Party.Fed target transfer current ⟨.disabled, false, [], [], some (.fileTransferCanceled, false), .empty⟩ where
  now
  ordered := List.Pairwise.nil
  present _ member := by cases member
  descending := List.Pairwise.nil
  past _ member := by cases member
  ready _ _ _ accepted := by cases accepted
  saved _ member := by cases member

theorem Supplied.step {event : Event} (supplied : network.Supplied target) (condition : network.FilesApart target event)
    (stepped : network.step target event = some next) : next.Supplied target := by
  cases moves_of_step stepped with
  | quiet parties sessions mode poll decisions =>
    intro peer party found
    rw [parties] at found
    rw [current_eq mode (congrArg Poll.transfer poll), poll]
    exact supplied peer party found
  | joins fresh vacant parties sessions mode poll decisions =>
    intro peer party found
    rw [parties] at found
    rw [current_eq mode (congrArg Poll.transfer poll), poll]
    split at found
    · cases found
      exact fed_new _ _ _ fun number now => (current_some now).2
    · exact supplied peer party found
  | @acts client event connection acted there alive acts parties server poll decisions =>
    intro peer party found
    rw [parties] at found
    rw [current_eq (congrArg Server.fileTransferModeActive_ server) (congrArg Poll.transfer poll), poll]
    split at found
    · cases found
      apply acts.fed alive (condition connection there)
      exact supplied client _ (party_of_connection there)
    · exact supplied peer party found
  | hears letter front known hears => exact supplied.hears front condition hears
  | @leaves client gone there connections sessions mode poll decisions =>
    have still : ∀ number, next.current = some number → network.current = some number := by
      intro number now
      obtain ⟨active, same⟩ := current_some now
      rw [mode, Bool.and_eq_true] at active
      rw [current, active.1, if_pos rfl, same, poll]
    intro peer party found
    obtain ⟨connection, known, rfl⟩ := party_eq found
    rw [connections] at known
    rw [poll]
    refine (supplied peer _ (party_of_connection known)).dropped rfl rfl ?_ still
    rw [sessions]
    split
    · cases network.server.findSession peer with
      | none => exact List.Sublist.refl _
      | some data =>
        simp only [Party.feed, Connection.party, Connection.downstream, List.filter_append]
        exact List.sublist_append_left _ _
    · exact List.Sublist.refl _

/-- What comes of a transfer that a client accepted is saved under the name chosen for it. -/
theorem savesAccepted {events : List Event} (run : Run (Network.step target) (FilesApart target) start events network)
    (client : SessionId) (connection : Connection) (there : network.connections client = some connection) :
    ∀ arrival ∈ connection.journal.arrivals, ∀ name, arrival.chosen = some name → arrival.unopened = false →
      arrival.Saved target name := by
  have supplied : network.Supplied target := run.invariant (Supplied target) (fun _ _ there => by cases there)
    fun _ _ _ supplied condition stepped => supplied.step condition stepped
  exact (supplied client _ (party_of_connection there)).saved

theorem savesAccepted_twoClients :
    ∃ network connection arrival, exec (Network.step .m64) start (joining 1 ++ joining 2 ++ offering 1 ++
        hearing 2 (.accept aFile) ++ speaking 2 ++ hearing 1 .refuse ++ uploading 1 ++ hearing 2 .refuse) = some network ∧
      network.connections 2 = some connection ∧ arrival ∈ connection.journal.arrivals ∧
      arrival.Saved .m64 (ascii ['f']) := by
  have outcome : ((execMeets (Network.step .m64) (fun network event => decide (network.FilesApart .m64 event)) start
      (joining 1 ++ joining 2 ++ offering 1 ++ hearing 2 (.accept aFile) ++ speaking 2 ++ hearing 1 .refuse ++
        uploading 1 ++ hearing 2 .refuse)).bind fun network =>
      (network.connections 2).map fun connection =>
        connection.journal.arrivals.map fun arrival => (arrival.chosen, arrival.unopened)) =
      some [(some (ascii ['f']), false)] := by
    decide +kernel
  obtain ⟨network, executed, outcome⟩ := Option.bind_eq_some_iff.mp outcome
  obtain ⟨connection, there, outcome⟩ := Option.map_eq_some_iff.mp outcome
  obtain ⟨arrival, arrivals, came⟩ := List.map_eq_singleton_iff.mp outcome
  rw [Prod.mk.injEq] at came
  have member : arrival ∈ connection.journal.arrivals := by
    rw [arrivals]
    exact List.mem_singleton_self _
  exact ⟨network, connection, arrival, exec_of_execMeets executed, there, member,
    savesAccepted (run_of_execDecide executed) 2 connection there arrival member _ came.1 came.2⟩

/-- Two requests cross. The refusal of the client's own one resets the reception it has accepted, and the block is
    not saved. -/
theorem savesAccepted_crossing :
    ∃ network connection arrival, exec (Network.step .m64) start (joining 1 ++ joining 2 ++
        [.client 2 .chooseFile, .client 2 (.sendFile aFile)] ++ offering 1 ++ hearing 2 (.accept aFile) ++ speaking 2 ++
        speaking 2 ++ hearing 2 .refuse ++ hearing 1 .refuse ++ uploading 1 ++ hearing 2 .refuse) = some network ∧
      network.connections 2 = some connection ∧ arrival ∈ connection.journal.arrivals ∧
      arrival.chosen = some (ascii ['f']) ∧ arrival.unopened = false ∧ ¬ arrival.Saved .m64 (ascii ['f']) := by
  have outcome : ((exec (Network.step .m64) start (joining 1 ++ joining 2 ++
      [.client 2 .chooseFile, .client 2 (.sendFile aFile)] ++ offering 1 ++ hearing 2 (.accept aFile) ++ speaking 2 ++
      speaking 2 ++ hearing 2 .refuse ++ hearing 1 .refuse ++ uploading 1 ++ hearing 2 .refuse)).bind fun network =>
        (network.connections 2).map fun connection =>
          connection.journal.arrivals.map fun arrival => (arrival.chosen, arrival.unopened, arrival.effects)) =
      some [(some (ascii ['f']), false, [])] := by
    decide +kernel
  obtain ⟨network, executed, outcome⟩ := Option.bind_eq_some_iff.mp outcome
  obtain ⟨connection, there, outcome⟩ := Option.map_eq_some_iff.mp outcome
  obtain ⟨arrival, arrivals, came⟩ := List.map_eq_singleton_iff.mp outcome
  rw [Prod.mk.injEq, Prod.mk.injEq] at came
  refine ⟨network, connection, arrival, executed, there, ?_, came.1, came.2.1, ?_⟩
  · rw [arrivals]
    exact List.mem_singleton_self _
  · rintro ⟨⟨position, -, written⟩, -⟩
    rw [came.2.2] at written
    cases written

end Network

end LanMessenger
