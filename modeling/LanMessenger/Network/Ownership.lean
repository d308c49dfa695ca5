import LanMessenger.Network.Aborts
import LanMessenger.Network.Handover

/-! Whose transfer is on: the blocks that come to the server are those of the request that it accepted last. -/

namespace LanMessenger

open CMemory Transition

variable {target : Target}

theorem Letter.eq_of_blockOf {letter : Letter Nat} {transfer : Nat} {block : FileDataMessage}
    (isBlock : letter.blockOf transfer = some block) : letter = ⟨.fileData block, transfer⟩ := by
  obtain ⟨message, origin⟩ := letter
  cases message with
  | fileData data =>
    rw [blockOf_fileData] at isBlock
    split at isBlock
    · rename_i same
      cases isBlock
      rw [same]
    · cases isBlock
  | _ => cases isBlock

namespace Party

def Owns (decided : Bool) (party : Party) : Prop := party.waits decided = true ∨ party.Uploads

def InSequence (party : Party) : Prop :=
  party.outgoing.Pairwise fun earlier later => earlier.isRequest = true → later.isBlock = false

variable {before : Party} {decided : Bool}

theorem Sound.not_owns {letter : Letter Nat} {rest : List (Letter Nat)} (sound : before.Sound decided)
    (sequence : before.InSequence) (outgoing : before.outgoing = letter :: rest) (request : letter.isRequest = true) :
    ¬ before.Owns decided := by
  have once := sound.once
  rw [Party.requests, outgoing, List.countP_cons_of_pos request] at once
  rintro (waits | told | started | ⟨block, member, isBlock⟩)
  · rw [waits, Bool.toNat_true] at once
    omega
  · have some := List.length_pos_of_mem told
    omega
  · rw [started, Bool.toNat_true] at once
    omega
  · rw [InSequence, outgoing, List.pairwise_cons] at sequence
    rw [outgoing] at member
    rcases List.mem_cons.mp member with rfl | behind
    · obtain ⟨message, origin⟩ := block
      cases message with
      | fileData block => cases request
      | _ => cases isBlock
    · rw [sequence.1 block behind request] at isBlock
      cases isBlock

end Party

namespace Connection

variable {connection next : Connection} {session : Option (SessionData Nat)}

/-- A client sends one letter at a time, and blocks only of a transfer that has started. -/
theorem Acts.outgoing {event : ClientEvent} (acts : connection.Acts target next event)
    (session : Option (SessionData Nat)) : ∃ sent : Option (Letter Nat),
      (next.party session).outgoing = (connection.party session).outgoing ++ sent.toList ∧
        ∀ letter ∈ sent, letter.isBlock = true → connection.client.hasFileTransferStarted_ = true := by
  have nothing (up : next.upstream = connection.upstream) : ∃ sent : Option (Letter Nat),
      (next.party session).outgoing = (connection.party session).outgoing ++ sent.toList ∧
        ∀ letter ∈ sent, letter.isBlock = true → connection.client.hasFileTransferStarted_ = true :=
    ⟨none, by rw [outgoing_congr session up, Option.toList_none, List.append_nil], fun _ none => by cases none⟩
  cases acts with
  | quiet client up down journal => exact nothing up
  | requested client up down journal =>
    rcases up with same | ⟨letter, offered, same⟩
    · exact nothing same
    · cases offered
      refine ⟨some ⟨.fileRequest _, 0⟩, by simp only [Party.outgoing, party, same, List.filter_append]; rfl, ?_⟩
      intro letter member block
      cases member
      cases block
  | cycled sending started sent client up down journal =>
    cases client with
    | waits handle goesOn | fails finished => exact nothing (by rw [up, List.append_nil])
    | sends block more handle goesOn | ends block last finished =>
      refine ⟨some ⟨.fileData block, 0⟩, ?_, fun _ _ _ => started⟩
      simp only [Party.outgoing, party, up, List.filter_append]
      rfl
  | handled letter rest waiting transfers handled =>
    rcases handles_of_handle transfers handled with ⟨left, handles⟩
    cases handles with
    | aborts why client up journal =>
      apply nothing
      rw [upstream, up, client, upstream]
    | starts sending client up journal => exact nothing up
    | stops turnedDown sending client up journal => exact nothing up
    | receives effects result client up journal => exact nothing up
    | asks client up journal =>
      rcases up with same | ⟨letter, offered, same⟩
      · exact nothing same
      · cases offered
        refine ⟨none, ?_, fun _ none => by cases none⟩
        simp only [Party.outgoing, party, same, List.filter_append]
        rfl

theorem Acts.uploads {event : ClientEvent} (acts : connection.Acts target next event)
    (uploads : (next.party session).Uploads) : (connection.party session).Uploads := by
  have earlier (verdicts : (next.party session).verdicts ⊆ (connection.party session).verdicts)
      (started : (next.party session).client.started = true → connection.client.hasFileTransferStarted_ = true) :
      (connection.party session).Uploads := by
    rcases uploads with told | going | ⟨letter, member, block⟩
    · exact Or.inl (verdicts told)
    · exact Or.inr (Or.inl (started going))
    · rcases acts.outgoing session with ⟨sent, outgoing, starts⟩
      rw [outgoing] at member
      rcases List.mem_append.mp member with before | now
      · exact Or.inr (Or.inr ⟨letter, before, block⟩)
      · exact Or.inr (Or.inl (starts letter (Option.mem_toList.mp now) block))
  cases acts with
  | quiet client up down journal =>
    apply earlier
    · simp only [Party.verdicts, party, downstream_of_transfers session down]
      exact List.Subset.refl _
    · simp only [party, client]
      exact id
  | requested client up down journal =>
    apply earlier (by rw [verdicts_congr session down]; exact List.Subset.refl _)
    simp only [party, client]
    exact id
  | cycled sending started sent client up down journal => exact Or.inr (Or.inl started)
  | handled letter rest waiting transfers handled =>
    rcases handles_of_handle transfers handled with ⟨left, handles⟩
    have told := verdicts_cons session waiting transfers left
    have fewer : (next.party session).verdicts ⊆ (connection.party session).verdicts := by
      rw [told]
      exact List.subset_append_right _ _
    cases handles with
    | aborts why client up journal =>
      apply earlier fewer
      simp only [party, client]
      exact id
    | starts sending client up journal =>
      refine Or.inl ?_
      rw [told]
      exact List.mem_append_left _ List.mem_cons_self
    | stops turnedDown sending client up journal =>
      apply earlier fewer
      simp only [party, client]
      exact fun started => by cases started
    | asks client up journal =>
      apply earlier fewer
      simp only [party, client, Answer.started_applied]
      exact id
    | receives effects result client up journal =>
      apply earlier fewer
      rcases client with unchanged | ⟨receiving, ⟨handle, opened⟩ | ⟨ends, disabled⟩⟩
      · simp only [party, unchanged]
        exact id
      · simp only [party, opened]
        exact id
      · simp only [party, disabled]
        exact fun started => by cases started

theorem Acts.inSequence {decided : Bool} {event : ClientEvent} (acts : connection.Acts target next event)
    (sound : (connection.party session).Sound decided) (sequence : (connection.party session).InSequence) :
    (next.party session).InSequence := by
  rcases acts.outgoing session with ⟨sent, outgoing, starts⟩
  rw [Party.InSequence, outgoing]
  refine List.pairwise_append.mpr ⟨sequence, ?_, ?_⟩
  · cases sent with
    | none => exact List.Pairwise.nil
    | some letter => exact List.pairwise_singleton _ _
  · intro earlier member later sends request
    cases block : later.isBlock with
    | false => rfl
    | true =>
      have started := starts later (Option.mem_toList.mp sends) block
      have requests : 0 < (connection.party session).requests := List.countP_pos_iff.mpr ⟨earlier, member, request⟩
      have once := sound.once
      rw [show (connection.party session).client.started = true from started, Bool.toNat_true] at once
      omega

end Connection

namespace Exchange

def FindsRoom (exchange : Exchange target) : Event target → Prop
  | .other (.client client (.sendFile _)) => ∀ connection, exchange.network.connections client = some connection →
    connection.client.outbox.canSendMessages = true
  | _ => True

instance (exchange : Exchange target) (event : Event target) : Decidable (exchange.FindsRoom event) :=
  match event with
  | .other (.client client (.sendFile _)) => Option.decidableForallMem (exchange.network.connections client)
  | .cycle _ _ _ | .other (.connect _ _ _ _ _) | .other (.message _ _) | .other (.writeData _) | .other (.removeSession _)
  | .other (.client _ .chooseFile) | .other (.client _ .leavePrompt) | .other (.client _ (.chat _ _))
  | .other (.client _ (.setNickName _)) | .other (.client _ .disconnect) | .other (.client _ (.cycle _ _))
  | .other (.client _ .writeData) | .other (.client _ (.readData _ _ _)) => instDecidableTrue

end Exchange

namespace Handover

/-- Roles are kept apart, requests find room, and answers, requests and receptions do not disturb a request that is open. -/
def Untroubled (handover : Handover target) (event : Exchange.Event target) : Prop :=
  handover.exchange.RolesApart event ∧ handover.exchange.FindsRoom event ∧
    ∀ moves, Exchange.happens event = some moves → handover.exchange.network.Undisturbed moves

instance (handover : Handover target) (event : Exchange.Event target) : Decidable (handover.Untroubled event) :=
  @instDecidableAnd _ _ inferInstance (@instDecidableAnd _ _ inferInstance
    (Option.decidableForallMem (Exchange.happens event)))

structure Owned (handover : Handover target) : Prop where
  sequence : ∀ client party, handover.exchange.network.party client = some party → party.InSequence
  owner : ∀ client party, handover.exchange.network.party client = some party → party.marked = some true →
    party.Owns handover.exchange.network.Decided →
    handover.author handover.exchange.network.poll.transfer = some (client, (handover.heard client).requests)

variable {handover next : Handover target} {client peer : SessionId} {letter : Letter Nat} {before after : Party}

theorem owned_start : (start : Handover target).Owned := by
  constructor
  · intro client party there
    cases there
  · intro client party there
    cases there

theorem Owned.heard (owned : handover.Owned)
    (sound : before.Sound handover.exchange.network.Decided) (was : handover.exchange.network.party peer = some before)
    (outgoing : before.outgoing = (if peer = client ∧ letter.isOwn = true then [letter] else []) ++ after.outgoing)
    (marked : before.marked = some true) (owns : before.Owns handover.exchange.network.Decided)
    (heard : next.heard = Function.update handover.heard client ((handover.heard client).enter letter)) :
    handover.author handover.exchange.network.poll.transfer = some (peer, (next.heard peer).requests) := by
  have owner := owned.owner peer before was marked owns
  rw [owner, heard]
  by_cases own : peer = client
  · subst own
    rw [Function.update_self]
    cases request : letter.isRequest with
    | true =>
      rw [Letter.isOwn, request, Bool.true_or, if_pos ⟨rfl, rfl⟩] at outgoing
      exact absurd owns (sound.not_owns (owned.sequence peer before was) outgoing request)
    | false =>
      obtain ⟨message, origin⟩ := letter
      cases message with
      | fileRequest file => cases request
      | _ => rfl
  · rw [Function.update_of_ne own]

theorem owns_before {decided : Bool} (state : after.client = before.client)
    (fewer : after.outgoing.Sublist before.outgoing) (waits : after.waits decided = true → before.waits decided = true)
    (told : .acceptFileTransfer ∈ after.verdicts → .acceptFileTransfer ∈ before.verdicts)
    (owns : after.Owns decided) : before.Owns decided := by
  rcases owns with waiting | accepted | started | ⟨block, member, isBlock⟩
  · exact Or.inl (waits waiting)
  · exact Or.inr (Or.inl (told accepted))
  · exact Or.inr (Or.inr (Or.inl (state ▸ started)))
  · exact Or.inr (Or.inr (Or.inr ⟨block, fewer.subset member, isBlock⟩))

theorem Owned.inSequence (owned : handover.Owned)
    {sent : SessionId → SessionData Nat → Option (Letter Nat)} {status : SessionId → StatusCode → StatusCode}
    {sender : SessionId → Bool → Bool}
    (serves : Network.Serves handover.exchange.network next.exchange.network client letter sent status sender)
    (found : next.exchange.network.party peer = some after) : after.InSequence := by
  rcases serves.requests found with ⟨before, was, -, -, outgoing, -, -⟩
  have sequence := owned.sequence peer before was
  rw [Party.InSequence, outgoing] at sequence
  exact sequence.sublist (List.sublist_append_right _ _)

theorem Owned.serves (owned : handover.Owned) (calm : handover.exchange.network.Calm)
    {sent : SessionId → SessionData Nat → Option (Letter Nat)} {status : SessionId → StatusCode → StatusCode}
    {sender : SessionId → Bool → Bool}
    (serves : Network.Serves handover.exchange.network next.exchange.network client letter sent status sender)
    (marks : ∀ peer mark, sender peer mark = true → mark = true)
    (decided : ¬ handover.exchange.network.Decided ∨
      (decide next.exchange.network.Decided = decide handover.exchange.network.Decided ∧
        ∀ peer data told, sent peer data = some told → told.verdict ≠ some .acceptFileTransfer))
    (heard : next.heard = Function.update handover.heard client ((handover.heard client).enter letter))
    (author : next.author = handover.author)
    (transfer : next.exchange.network.poll.transfer = handover.exchange.network.poll.transfer) : next.Owned := by
  constructor
  · exact fun peer party found => owned.inSequence serves found
  · intro peer party found now owns
    rcases serves.requests found with ⟨before, was, state, -, outgoing, marked, verdicts⟩
    have mark : before.marked = some true := by
      rw [marked] at now
      rcases Option.map_eq_some_iff.mp now with ⟨mark, known, same⟩
      rw [known, marks peer mark same]
    rw [author, transfer]
    apply owned.heard (calm.parties peer before was) was outgoing mark _ heard
    rcases decided with undecided | ⟨same, silent⟩
    · left
      rw [Party.waits, mark, decide_eq_false undecided]
      rfl
    · rw [same] at owns
      refine owns_before state (by rw [outgoing]; exact List.sublist_append_right _ _) (fun waits => ?_) (fun told => ?_) owns
      · rw [Party.waits, Bool.and_eq_true] at waits ⊢
        exact ⟨by rw [mark]; rfl, waits.2⟩
      · rcases verdicts with same | ⟨data, letter, code, -, offered, verdict, grown⟩
        · exact same ▸ told
        · rw [grown] at told
          rcases List.mem_append.mp told with earlier | now
          · exact earlier
          · rw [← List.mem_singleton.mp now] at verdict
            exact absurd verdict (silent peer data letter offered)

theorem Owned.accepted (calm : handover.exchange.network.Calm) (owned : handover.Owned)
    {sent : SessionId → SessionData Nat → Option (Letter Nat)} {status : SessionId → StatusCode → StatusCode}
    (serves : Network.Serves handover.exchange.network next.exchange.network client letter sent status
      fun peer mark => if peer = client then true else mark)
    (idle : handover.exchange.network.server.fileTransferModeActive_ = false)
    (accepts : handover.exchange.network.server.accepts letter.message = true)
    (heard : next.heard = Function.update handover.heard client ((handover.heard client).enter letter))
    (author : next.author = Function.update handover.author (handover.exchange.network.poll.transfer + 1)
      (some (client, (handover.heard client).requests + 1)))
    (transfer : next.exchange.network.poll.transfer = handover.exchange.network.poll.transfer + 1) : next.Owned := by
  constructor
  · exact fun peer party found => owned.inSequence serves found
  · intro peer party found now _
    rcases serves.requests found with ⟨before, was, -, -, -, marked, -⟩
    have own : peer = client := by
      by_contra other
      rw [marked] at now
      simp only [if_neg other] at now
      rw [Option.map_id'] at now
      exact calm.exclusive.not_holds idle peer ((Network.isSender_iff was).mpr now)
    rw [author, transfer, Function.update_self, heard, own, Function.update_self, enter_of_accepts accepts]

theorem Owned.hears (owned : handover.Owned) (calm : handover.exchange.network.Calm) {memory : Memory}
    (front : handover.exchange.network.front client = some letter)
    (undisturbed : handover.exchange.network.Undisturbed (.message client memory))
    (poll : next.exchange.network.poll =
      handover.exchange.network.poll.hear handover.exchange.network.server client letter)
    (hears : Network.Hears target memory handover.exchange.network next.exchange.network client letter)
    (heard : next.heard = Function.update handover.heard client ((handover.heard client).enter letter))
    (author : next.author = if handover.exchange.network.server.accepts letter.message then
      Function.update handover.author (handover.exchange.network.poll.transfer + 1)
        (some (client, (handover.heard client).requests + 1)) else handover.author) : next.Owned := by
  have quiet (same : next.exchange.network.poll.transfer = handover.exchange.network.poll.transfer) :
      next.author = handover.author := by
    rw [author, if_neg]
    intro accepts
    rw [poll, Network.hear_accepted accepts] at same
    exact Nat.succ_ne_self _ same
  cases hears with
  | passes mode serves same decisions =>
    have transfer := congrArg Poll.transfer same
    apply owned.serves calm serves (fun _ _ mark => mark) (Or.inr ⟨Network.decided_eq transfer decisions, ?_⟩) heard
      (quiet transfer) transfer
    intro peer data told offered
    cases offered
  | refused why mode serves same decisions =>
    have transfer := congrArg Poll.transfer same
    apply owned.serves calm serves (fun _ _ mark => mark) (Or.inr ⟨Network.decided_eq transfer decisions, ?_⟩) heard
      (quiet transfer) transfer
    intro peer data told offered
    split at offered
    · cases offered
      exact fun accepted => by cases accepted
    · cases offered
  | answered answer active mode decided serves same transfer decisions =>
    have undecided := ((undisturbed letter front).1 (by rw [answer]; rfl)).2
    exact owned.serves calm serves (fun _ _ mark => mark) (Or.inl undecided) heard (quiet transfer) transfer
  | accepted idle accepts mode current serves same decisions =>
    rw [accepts, if_pos rfl] at author
    exact owned.accepted calm serves idle accepts heard author (by rw [same])
  | relayed mode serves same decisions =>
    have transfer := congrArg Poll.transfer same
    apply owned.serves calm serves ?_ (Or.inr ⟨Network.decided_eq transfer decisions, ?_⟩) heard (quiet transfer) transfer
    · intro peer mark marked
      split at marked
      · cases marked
      · exact marked
    · intro peer data told offered
      split at offered
      · cases offered
      · rw [Server.dataLetter_some offered]
        exact fun accepted => by cases accepted

theorem Owned.step (owned : handover.Owned) (calm : handover.exchange.network.Calm) {event : Exchange.Event target}
    (untroubled : handover.Untroubled event) (stepped : handover.step event = some next) : next.Owned := by
  rcases Exchange.step_ok (step_ok stepped).1 with ⟨moves, happened, moved, -, -⟩
  rcases recorded stepped with ⟨heard, author, silent⟩ | ⟨client, memory, letter, rfl, front, heard, author⟩
  · have kept (poll : next.exchange.network.poll = handover.exchange.network.poll)
        (decisions : next.exchange.network.decisions = handover.exchange.network.decisions)
        (each : ∀ peer after, next.exchange.network.party peer = some after → after.InSequence ∧
          (after.marked = some true → after.Owns handover.exchange.network.Decided →
            ∃ before, handover.exchange.network.party peer = some before ∧ before.marked = some true ∧
              before.Owns handover.exchange.network.Decided)) : next.Owned := by
      refine ⟨fun peer after found => (each peer after found).1, fun peer after found marked owns => ?_⟩
      rw [Network.decided_eq (congrArg Poll.transfer poll) decisions] at owns
      rcases (each peer after found).2 marked owns with ⟨before, was, mark, owned'⟩
      rw [author, heard, poll]
      exact owned.owner peer before was mark owned'
    cases Network.moves_of_step moved with
    | quiet parties sessions mode poll decisions =>
      apply kept poll decisions
      intro peer after found
      rw [parties] at found
      exact ⟨owned.sequence peer after found, fun marked owns => ⟨after, found, marked, owns⟩⟩
    | joins fresh vacant parties sessions mode poll decisions =>
      apply kept poll decisions
      intro peer after found
      rw [parties] at found
      split at found
      · cases found
        exact ⟨List.Pairwise.nil, fun marked => by cases marked⟩
      · exact ⟨owned.sequence peer after found, fun marked owns => ⟨after, found, marked, owns⟩⟩
    | @acts client act connection acted there alive acts parties server poll decisions =>
      apply kept poll decisions
      intro peer after found
      rw [parties] at found
      split at found
      · rename_i own
        subst own
        cases found
        have was := Network.party_of_connection there
        refine ⟨acts.inSequence (calm.parties peer _ was) (owned.sequence peer _ was), fun marked owns => ?_⟩
        refine ⟨_, was, marked, ?_⟩
        rcases owns with waits | uploads
        · exact Or.inl waits
        · exact Or.inr (acts.uploads uploads)
      · exact ⟨owned.sequence peer after found, fun marked owns => ⟨after, found, marked, owns⟩⟩
    | @hears client memory letter front known hears =>
      cases event with
      | cycle => cases happened
      | other event =>
        rcases Exchange.happens_other happened with ⟨rfl, -⟩
        rw [silent client memory rfl] at front
        cases front
    | @leaves client gone there connections sessions mode poll decisions =>
      apply kept poll decisions
      intro peer after found
      rcases Network.party_eq found with ⟨connection, known, rfl⟩
      rw [connections] at known
      have was := Network.party_of_connection known
      have sequence := owned.sequence peer _ was
      rw [sessions]
      split
      · exact ⟨sequence, fun marked => by cases marked⟩
      · exact ⟨sequence, fun marked owns => ⟨_, was, marked, owns⟩⟩
  · cases happened
    rcases Network.hears_of_step moved with ⟨first, there, poll, hears⟩
    cases front.symm.trans there
    exact owned.hears calm front (untroubled.2.2 _ rfl) poll hears heard author

structure Settled (handover : Handover target) : Prop where
  sound : handover.Sound
  calm : handover.exchange.network.Calm
  prompted : handover.exchange.network.Prompted
  owned : handover.Owned

theorem settled_start : (start : Handover target).Settled :=
  ⟨sound_start, Network.calm_start, (fun _ _ there => by cases there), owned_start⟩

/-- A block that is first on its way to the server comes from the sender of the transfer that is on, and belongs to it. -/
theorem Settled.block (settled : handover.Settled)
    (known : (handover.exchange.network.server.findSession client).isSome = true)
    (front : handover.exchange.network.front client = some letter) (block : letter.isBlock = true) :
    handover.exchange.network.server.IsSender client ∧ handover.exchange.network.Decided ∧
      handover.author handover.exchange.network.poll.transfer = some (client, (handover.heard client).requests) := by
  rcases Option.bind_eq_some_iff.mp front with ⟨connection, there, first⟩
  have was := Network.party_of_connection there
  have uploads : (connection.party (handover.exchange.network.server.findSession client)).Uploads := by
    refine Or.inr (Or.inr ⟨letter, ?_, block⟩)
    rcases List.head?_eq_some_iff.mp first with ⟨rest, waiting⟩
    have own : letter.isOwn = true := by rw [Letter.isOwn, block, Bool.or_true]
    simp only [Party.outgoing, Connection.party, Connection.upstream, waiting, List.cons_append]
    exact List.mem_filter.mpr ⟨List.mem_filter.mpr ⟨List.mem_cons_self, Letter.ofTransfer_of_isOwn own⟩, own⟩
  rcases Option.isSome_iff_exists.mp known with ⟨data, session⟩
  have mark : (connection.party (handover.exchange.network.server.findSession client)).marked =
      some data.isFileTransferSender := by
    rw [Network.party_marked was, session, Option.map_some]
  rcases (settled.calm.parties client _ was).uploads _ mark uploads with ⟨sends, decided⟩
  rw [sends] at mark
  exact ⟨(Network.isSender_iff was).mpr mark, of_decide_eq_true decided,
    settled.owned.owner client _ was mark (Or.inr uploads)⟩

theorem known_of_message {memory : Memory} (stepped : handover.step (.other (.message client memory)) = some next) :
    (handover.exchange.network.server.findSession client).isSome = true := by
  rcases Exchange.step_ok (step_ok stepped).1 with ⟨moves, happened, moved, -, -⟩
  cases happened
  cases Network.steps_of_step moved with
  | message there waiting handled connections poll decisions =>
    exact Option.isSome_iff_exists.mpr (Server.availableMessage_found handled)

theorem Settled.inTurn (settled : handover.Settled) {event : Exchange.Event target} (untroubled : handover.Untroubled event)
    (stepped : handover.step event = some next) : handover.InTurn event := by
  refine ⟨untroubled.1, ?_⟩
  cases event with
  | cycle => exact True.intro
  | other event =>
    cases event with
    | client client act =>
      cases act with
      | sendFile fileName => exact untroubled.2.1
      | _ => exact True.intro
    | message client memory =>
      intro letter front block
      exact (settled.block (known_of_message stepped) front block).2.2
    | _ => exact True.intro

theorem Settled.step (settled : handover.Settled) {event : Exchange.Event target} (untroubled : handover.Untroubled event)
    (stepped : handover.step event = some next) : next.Settled := by
  have owned := settled.owned.step settled.calm untroubled stepped
  have sound := settled.sound.step (settled.inTurn untroubled stepped) stepped
  rcases Exchange.step_ok (step_ok stepped).1 with ⟨moves, happened, moved, -, -⟩
  exact ⟨sound, settled.calm.step settled.prompted (untroubled.2.2 moves happened) moved, settled.prompted.step moved, owned⟩

theorem settled_of_run {events : List (Exchange.Event target)} (run : Run step Untroubled start events handover) :
    handover.Settled :=
  run.invariant Settled settled_start fun _ _ _ settled untroubled stepped => settled.step untroubled stepped

/-- A block that the server is about to handle comes from the one sender of the transfer that is on, which has been decided;
it is the next one of the file that was opened for the request that began that transfer. -/
theorem blockOfTransfer {events : List (Exchange.Event target)} (run : Run step Untroubled start events handover)
    (known : (handover.exchange.network.server.findSession client).isSome = true) {block : FileDataMessage} {origin : Nat}
    (front : handover.exchange.network.front client = some ⟨.fileData block, origin⟩) :
    handover.exchange.network.server.IsSender client ∧ handover.exchange.network.Decided ∧
      ∃ request name file, handover.author handover.exchange.network.poll.transfer = some (client, request) ∧
        handover.sources client request = some (name, file) ∧
        (name, file) ∈ handover.exchange.opened client ∧ name ∈ handover.exchange.offered client ∧
        block.IsBlockOf file ((handover.heard client).blocks request).length := by
  have settled := settled_of_run run
  rcases settled.block known front rfl with ⟨sends, decided, author⟩
  rcases settled.sound.front_block front with ⟨name, file, source, isBlock⟩
  rcases settled.sound.sourced client _ name file source with ⟨offered, opened⟩
  exact ⟨sends, decided, _, name, file, author, source, opened, offered, isBlock⟩

/-- The block of the file that is handed over is on its way. -/
theorem blockOfTransfer_handing :
    ∃ (handover : Handover .m64) (block : FileDataMessage), exec step start (Exchange.handing.take 22) = some handover ∧
      handover.exchange.network.front 1 = some ⟨.fileData block, 0⟩ ∧ block.data = ascii ['h', 'i'] ∧
      handover.exchange.network.server.IsSender 1 ∧ handover.exchange.network.Decided ∧
      ∃ request name file, handover.author handover.exchange.network.poll.transfer = some (1, request) ∧
        handover.sources 1 request = some (name, file) ∧
        (name, file) ∈ handover.exchange.opened 1 ∧ name ∈ handover.exchange.offered 1 ∧
        block.IsBlockOf file ((handover.heard 1).blocks request).length := by
  have outcome : ((execMeets step (fun handover event => decide (handover.Untroubled event)) (start : Handover .m64)
      (Exchange.handing.take 22)).bind fun handover => (handover.exchange.network.front 1).bind fun letter =>
        (letter.blockOf 0).map fun block =>
          ((handover.exchange.network.server.findSession 1).isSome, block.data)) = some (true, ascii ['h', 'i']) := by
    decide +kernel
  rcases Option.bind_eq_some_iff.mp outcome with ⟨handover, executed, outcome⟩
  rcases Option.bind_eq_some_iff.mp outcome with ⟨letter, front, outcome⟩
  rcases Option.map_eq_some_iff.mp outcome with ⟨block, isBlock, outcome⟩
  simp only [Prod.mk.injEq] at outcome
  rcases outcome with ⟨known, data⟩
  have first := front
  rw [Letter.eq_of_blockOf isBlock] at first
  exact ⟨handover, block, exec_of_execMeets executed, first, data,
    blockOfTransfer (run_of_execDecide executed) known first⟩

end Handover

end LanMessenger
