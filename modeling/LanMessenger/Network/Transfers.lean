import LanMessenger.Network.Completion
import LanMessenger.Network.Ownership

/-! Files that come whole, where what has to hold of a run is said of what the server and the clients see. -/

namespace LanMessenger

open CMemory Transition

variable {target : Target}

theorem Journal.mem_accepted {journal : Journal} {transfer : Nat}
    (known : (journal.accepted.lookup transfer).isSome = true) : ∃ name, (transfer, name) ∈ journal.accepted := by
  rcases Option.isSome_iff_exists.mp known with ⟨name, found⟩
  rcases List.lookup_eq_some_iff.mp found with ⟨newer, older, same, -⟩
  exact ⟨name, by rw [same]; exact List.mem_append_right _ List.mem_cons_self⟩

namespace Party

def Consents (poll : Poll) (client : SessionId) (party : Party) : Prop :=
  (party.journal.accepted.lookup poll.transfer).isSome = true → poll.asked client = true ∧
    (∀ letter ∈ party.upstream, letter.answers poll.transfer = true →
      letter.message.answer = some .acceptFileTransfer) ∧
    (poll.answered client = true → ∀ status mark, party.session = some (status, mark) → status = .acceptFileTransfer)

variable {before after : Party} {poll : Poll} {client : SessionId}

theorem Consents.of_same (consents : before.Consents poll client) (session : after.session = before.session)
    (accepted : (after.journal.accepted.lookup poll.transfer).isSome = true →
      (before.journal.accepted.lookup poll.transfer).isSome = true)
    (upstream : (before.journal.accepted.lookup poll.transfer).isSome = true → ∀ letter ∈ after.upstream,
      letter.answers poll.transfer = true → letter ∈ before.upstream) : after.Consents poll client := by
  intro known
  rcases consents (accepted known) with ⟨asked, answers, noted⟩
  refine ⟨asked, fun letter member answer => ?_, ?_⟩
  · exact answers letter (upstream (accepted known) letter member answer) answer
  · rw [session]
    exact noted

end Party

theorem Queued.mem_of_answers {before after : List (Letter Nat)} {sent letter : Letter Nat} {transfer : Nat}
    (queued : Queued before after (some sent)) (silent : sent.answers transfer = false) (member : letter ∈ after)
    (answers : letter.answers transfer = true) : letter ∈ before := by
  rcases queued with same | ⟨told, offered, same⟩
  · rw [← same]
    exact member
  · cases offered
    rw [same] at member
    rcases List.mem_append.mp member with earlier | now
    · exact earlier
    · rw [List.mem_singleton.mp now, silent] at answers
      cases answers

namespace Connection

variable {connection next : Connection} {session : Option (SessionData Nat)} {poll : Poll} {client : SessionId}
  {current : Option Nat}

theorem consents_accepted {file : FileTransferMessage} {name : FileName} {rest : List (Letter Nat)}
    (counted : (connection.party session).Counted poll client)
    (downstream : (connection.party session).downstream = ⟨.fileRequest file, poll.transfer⟩ :: rest)
    (up : Queued connection.upstream next.upstream
      (some ⟨.status ⟨(Answer.accept name).status⟩, poll.transfer⟩)) :
    (next.party session).Consents poll client := by
  have pending : 0 < (connection.party session).downstream.countP (Letter.asks poll.transfer) := by
    rw [downstream]
    exact List.countP_pos_iff.mpr ⟨_, List.mem_cons_self, decide_eq_true rfl⟩
  have once := counted.once
  unfold Party.pending at once
  have silent : (connection.party session).upstream.countP (Letter.answers poll.transfer) = 0 := by omega
  refine fun _ => ⟨counted.asked (Nat.lt_of_lt_of_le pending (Nat.le_add_right _ _)), fun letter member answers => ?_, ?_⟩
  · have earlier : letter ∉ connection.upstream := fun member => List.countP_eq_zero.mp silent letter member answers
    rcases up with same | ⟨sent, offered, same⟩
    · exact absurd (same ▸ member) earlier
    · cases offered
      simp only [party, same] at member
      rw [List.mem_singleton.mp ((List.mem_append.mp member).resolve_left earlier)]
      rfl
  · intro answered
    rw [answered, Bool.toNat_true] at once
    omega

theorem Acts.consents {event : ClientEvent} (acts : connection.Acts target next event)
    (counted : (connection.party session).Counted poll client)
    (fed : (connection.party session).Fed target poll.transfer current)
    (consents : (connection.party session).Consents poll client) : (next.party session).Consents poll client := by
  have same (accepted : next.journal.accepted = connection.journal.accepted)
      (upstream : (connection.journal.accepted.lookup poll.transfer).isSome = true → ∀ letter ∈ next.upstream,
        letter.answers poll.transfer = true → letter ∈ connection.upstream) :
      (next.party session).Consents poll client := by
    refine consents.of_same rfl (fun known => ?_) upstream
    simp only [party, accepted] at known
    exact known
  have unsent (up : next.upstream = connection.upstream) : ∀ letter ∈ next.upstream,
      letter.answers poll.transfer = true → letter ∈ connection.upstream := by
    rw [up]
    exact fun letter member _ => member
  cases acts with
  | quiet client up down journal => exact same (by rw [journal]) fun _ => unsent up
  | requested client up down journal =>
    exact same (by rw [journal]) fun _ letter member answers => up.mem_of_answers rfl member answers
  | cycled sending started sent client up down journal =>
    apply same (by rw [journal])
    intro _ letter member answers
    rw [up] at member
    rcases List.mem_append.mp member with earlier | now
    · exact earlier
    · cases client with
      | waits | fails => cases now
      | sends | ends =>
        rw [List.mem_singleton.mp now] at answers
        cases answers
  | @handled answer opens elapsed letter rest waiting transfers handled =>
    rcases handles_of_handle transfers handled with ⟨left, handles⟩
    have popped := downstream_cons session waiting transfers left
    cases handles with
    | aborts why client up journal => exact same (by rw [journal]) fun _ => unsent (by rw [upstream, up, client, upstream])
    | starts sending client up journal | stops turnedDown sending client up journal =>
      exact same (by rw [journal]) fun _ => unsent up
    | receives effects result client up journal => exact same (by rw [journal]; rfl) fun _ => unsent up
    | @asks file origin client up journal =>
      have other (apart : origin ≠ poll.transfer) (code : StatusCode) :
          (⟨.status ⟨code⟩, origin⟩ : Letter Nat).answers poll.transfer = false := by
        rw [Letter.answers, decide_eq_false apart, Bool.and_false]
      cases answer with
      | refuse | cancelName =>
        refine same (by rw [journal]; rfl) fun known letter member answers => ?_
        -- the transfers that were accepted are older than one that is asked for
        rcases Journal.mem_accepted known with ⟨name, entry⟩
        have later := ((fed.past _ entry).2 _ (Party.front_mem (feed_cons session waiting transfers left))).2 rfl
        exact up.mem_of_answers (other (Nat.ne_of_gt later) _) member answers
      | accept name =>
        by_cases now : origin = poll.transfer
        · subst now
          exact consents_accepted counted popped up
        · refine consents.of_same rfl (fun known => ?_) fun _ letter member answers =>
            up.mem_of_answers (other now _) member answers
          simp only [party, journal, Journal.record, List.lookup_cons] at known
          rw [beq_false_of_ne (Ne.symm now)] at known
          exact known

end Connection

namespace Network

variable {network next : Network} {client peer : SessionId} {memory : Memory} {letter : Letter Nat}

structure Notes (server : Server Nat) (client : SessionId) (letter : Letter Nat) (status : SessionId → StatusCode → StatusCode) :
    Prop where
  other : ∀ peer old, peer ≠ client → status peer old = old
  answer : ∀ code old, letter.message.answer = some code → server.fileTransferModeActive_ = true → status client old = code
  quiet : ∀ old, letter.message.answer = none ∨ server.fileTransferModeActive_ = false →
    server.accepts letter.message = false → letter.isLastBlock = false → status client old = old

theorem notes_of_step (stepped : network.step target (.message client memory) = some next) :
    ∃ letter sent status sender, network.front client = some letter ∧
      next.poll = network.poll.hear network.server client letter ∧
      Serves network next client letter sent status sender ∧ Notes network.server client letter status := by
  cases steps_of_step stepped with
  | @message _ _ connection letter rest _ there waiting handled connections poll decisions =>
    have serves {sent : SessionId → SessionData Nat → Option (Letter Nat)} {status : SessionId → StatusCode → StatusCode}
        {sender : SessionId → Bool → Bool} (spreads : Server.Spreads network.server next.server sent status sender)
        (notes : Notes network.server client letter status) : ∃ letter sent status sender,
          network.front client = some letter ∧ next.poll = network.poll.hear network.server client letter ∧
          Serves network next client letter sent status sender ∧ Notes network.server client letter status :=
      ⟨letter, sent, status, sender, front_of_waiting there waiting, poll,
        serves_of_spreads there waiting connections spreads, notes⟩
    obtain ⟨message, origin⟩ := letter
    cases Server.availableMessage_reaction handled with
    | quiet noAnswer noBlock notAccepted mode spreads =>
      refine serves spreads ⟨fun _ _ _ => rfl, fun code old answer => ?_, fun _ _ _ _ => rfl⟩
      rw [noAnswer] at answer
      cases answer
    | refused why mode spreads =>
      refine serves spreads ⟨fun _ _ _ => rfl, fun code old answer active => ?_, fun _ _ _ _ => rfl⟩
      rcases why with ⟨-, idle⟩ | ⟨⟨file, rfl⟩, -⟩
      · rw [idle] at active
        cases active
      · cases answer
    | answered answer active mode decided spreads =>
      refine serves spreads ⟨fun _ _ other => if_neg other, fun code old told _ => ?_, fun old silent => ?_⟩
      · rw [answer] at told
        cases told
        exact if_pos rfl
      · rw [answer, active] at silent
        rcases silent with none | idle
        · cases none
        · cases idle
    | accepted idle accepts mode current spreads =>
      refine serves spreads ⟨fun _ _ other => if_neg other, (fun _ _ answer => by cases answer), fun old _ refused => ?_⟩
      rw [accepts] at refused
      cases refused
    | relayed mode spreads =>
      refine serves spreads ⟨fun peer old other => ?_, (fun _ _ answer => by cases answer), fun old _ _ more => ?_⟩
      · rw [if_neg (by simp [other])]
      · rw [if_neg]
        rw [show FileDataMessage.isLastBlock _ = false from more]
        simp
    | spent mode spreads =>
      refine serves spreads ⟨fun peer old other => ?_, (fun _ _ answer => by cases answer), fun old _ _ more => ?_⟩
      · rw [if_neg (by simp [other])]
      · rw [if_neg]
        rw [show FileDataMessage.isLastBlock _ = false from more]
        simp

theorem hear_same {server : Server Nat} (client : SessionId) (poll : Poll) (notAccepted : server.accepts letter.message = false) :
    (poll.hear server client letter).asked = poll.asked ∧
      ∀ peer, peer ≠ client → (poll.hear server client letter).answered peer = poll.answered peer := by
  unfold Poll.hear
  rw [notAccepted, if_neg Bool.false_ne_true]
  split
  · exact ⟨rfl, fun peer other => Function.update_of_ne other _ _⟩
  · exact ⟨rfl, fun peer _ => rfl⟩

theorem Notes.accept {status : SessionId → StatusCode → StatusCode} {old : StatusCode}
    (notes : Notes network.server client letter status) (accepts : network.server.accepts letter.message = false)
    (more : letter.isLastBlock = false)
    (timely : letter.message.answer.isSome = true → network.server.isFileTransferModeActive = true →
      letter.origin = network.poll.transfer)
    (answers : letter.answers network.poll.transfer = true → letter.message.answer = some .acceptFileTransfer)
    (noted : network.poll.answered client = true → old = .acceptFileTransfer)
    (replied : (network.poll.hear network.server client letter).answered client = true) :
    status client old = .acceptFileTransfer := by
  by_cases silent : letter.message.answer = none ∨ network.server.fileTransferModeActive_ = false
  · rw [hear_quiet accepts silent] at replied
    rw [notes.quiet old silent accepts more]
    exact noted replied
  · rcases not_or.mp silent with ⟨answer, active⟩
    rcases Option.ne_none_iff_exists'.mp answer with ⟨code, answer⟩
    rw [Bool.not_eq_false] at active
    have current := timely (by rw [answer]; rfl) active
    have accepted := answers (by rw [Letter.answers, answer, decide_eq_true current]; rfl)
    rw [answer] at accepted
    rw [notes.answer code old answer active]
    exact Option.some.inj accepted

def Consents (network : Network) : Prop :=
  ∀ client party, network.party client = some party → party.Consents network.poll client

def SendsNone (network : Network) : Event → Prop
  | .message client _ => ∀ letter, network.front client = some letter → letter.isBlock = true → ∀ party,
    network.party client = some party → (party.journal.accepted.lookup network.poll.transfer).isSome = false
  | _ => True

/-- The server notes an answer as it is, and no other letter changes what it noted of a client that sends no blocks. -/
theorem consents_of_message (stepped : network.step target (.message client memory) = some next)
    (inTime : network.AnswersInTime (.message client memory)) (supplied : network.Supplied target)
    (consents : network.Consents) (sends : network.SendsNone (.message client memory))
    {party : Party} (found : next.party peer = some party) : party.Consents next.poll peer := by
  rcases notes_of_step stepped with ⟨letter, sent, status, sender, front, heard, serves, notes⟩
  rcases serves.parties peer party found with ⟨before, was, -, -, journal, upstream, sessions⟩
  intro known
  rw [journal] at known
  cases accepts : network.server.accepts letter.message with
  | true =>
    rw [heard, hear_accepted accepts] at known
    rcases Journal.mem_accepted known with ⟨name, entry⟩
    exact absurd ((supplied peer before was).past _ entry).1 (Nat.not_succ_le_self _)
  | false =>
    rcases hear_same client network.poll accepts with ⟨asked, answered⟩
    rw [heard, hear_transfer accepts] at known ⊢
    rcases consents peer before was known with ⟨given, answers, noted⟩
    refine ⟨by rw [asked]; exact given, fun later member => ?_, fun replied after mark now => ?_⟩
    · apply answers later
      rw [upstream]
      exact List.mem_append_right _ member
    · rcases sessions with ⟨-, gone, -⟩ | ⟨data, -, there, still, -⟩
      · rw [gone] at now
        cases now
      · rw [still] at now
        cases now
        by_cases own : peer = client
        · subst own
          have more : letter.isLastBlock = false := by
            cases last : letter.isLastBlock with
            | false => rfl
            | true =>
              have none := sends letter front (Letter.isBlock_of_isLastBlock last) before was
              rw [known] at none
              cases none
          apply notes.accept accepts more (fun answer active => (inTime letter front answer active).1) _
            (fun replied => noted replied _ _ there) replied
          intro answer
          apply answers letter _ answer
          rw [upstream, if_pos rfl]
          exact List.mem_append_left _ (List.mem_filter.mpr ⟨List.mem_cons_self, Letter.ofTransfer_of_answers answer⟩)
        · rw [notes.other _ _ own]
          rw [answered peer own] at replied
          exact noted replied _ _ there

theorem Consents.step {event : Event} (consents : network.Consents) (orderly : network.Orderly)
    (supplied : network.Supplied target) (inTime : network.AnswersInTime event) (sends : network.SendsNone event)
    (stepped : network.step target event = some next) : next.Consents := by
  intro peer party found
  cases moves_of_step stepped with
  | quiet parties sessions mode poll decisions =>
    rw [parties] at found
    rw [poll]
    exact consents peer party found
  | joins fresh vacant parties sessions mode poll decisions =>
    rw [parties] at found
    rw [poll]
    split at found
    · cases found
      intro known
      cases known
    · exact consents peer party found
  | @acts client act connection acted there alive acts parties server poll decisions =>
    rw [parties] at found
    rw [poll]
    split at found
    · rename_i own
      subst own
      cases found
      have was := party_of_connection there
      exact acts.consents (orderly.counted peer _ was) (supplied peer _ was) (consents peer _ was)
    · exact consents peer party found
  | hears letter front known hears => exact consents_of_message stepped inTime supplied consents sends found
  | @leaves client gone there connections sessions mode poll decisions =>
    rcases party_eq found with ⟨connection, known, rfl⟩
    rw [connections] at known
    have given := consents peer _ (party_of_connection known)
    rw [poll, sessions]
    split
    · intro accepted
      rcases given accepted with ⟨asked, answers, -⟩
      exact ⟨asked, answers, fun _ _ _ session => by cases session⟩
    · exact given

end Network

namespace Network

def Receptive (target : Target) (network : Network) : Event → Prop
  | .client client event => ∀ connection, network.connections client = some connection →
    connection.Receptive target network.current (network.server.findSession client) event
  | _ => True

instance (network : Network) (event : Event) : Decidable (network.Receptive target event) :=
  match event with
  | .client client _ => Option.decidableForallMem (network.connections client)
  | .connect _ _ _ _ _ | .message _ _ | .writeData _ | .removeSession _ => instDecidableTrue

/-- A block that is handled finds room in the queues of the other clients that the server takes for ones that accepted. -/
def Spacious (network : Network) : Event → Prop
  | .message client _ => ∀ letter, network.front client = some letter → letter.isBlock = true →
    ∀ peer data, network.server.findSession peer = some data → peer ≠ client →
      data.client.fileTransferStatus_ = .acceptFileTransfer → data.client.outbox.canSendMessages = true
  | _ => True

instance (network : Network) (event : Event) : Decidable (network.Spacious event) :=
  match event with
  | .message client _ => Option.decidableForallMem (network.front client)
  | .client _ _ | .connect _ _ _ _ _ | .writeData _ | .removeSession _ => instDecidableTrue

end Network

namespace Handover

/-- The run is untroubled, answers come in time, and there is room for them and for the blocks. -/
def Favourable (handover : Handover target) (event : Exchange.Event target) : Prop :=
  handover.Untroubled event ∧ ∀ moves, Exchange.happens event = some moves →
    handover.exchange.network.AnswersInTime moves ∧ handover.exchange.network.Receptive target moves ∧
      handover.exchange.network.Spacious moves

instance (handover : Handover target) (event : Exchange.Event target) : Decidable (handover.Favourable event) :=
  @instDecidableAnd _ _ inferInstance (Option.decidableForallMem (Exchange.happens event))

structure Trusted (old : Disk) (handover : Handover target) : Prop where
  complete : handover.Complete old
  settled : handover.Settled
  orderly : handover.exchange.network.Orderly
  consents : handover.exchange.network.Consents

variable {handover next : Handover target} {client peer : SessionId} {old : Disk} {letter : Letter Nat}

/-- Those asked have all answered when a block comes, and those that accepted are known to have. -/
theorem Trusted.heeds (trusted : handover.Trusted old)
    (known : (handover.exchange.network.server.findSession client).isSome = true)
    (front : handover.exchange.network.front client = some letter) (block : letter.isBlock = true)
    {data : SessionData Nat} (session : handover.exchange.network.server.findSession peer = some data)
    (room : data.client.fileTransferStatus_ = .acceptFileTransfer → data.client.outbox.canSendMessages = true)
    {party : Party} (was : handover.exchange.network.party peer = some party) :
    party.Heeds handover.exchange.network.poll.transfer data := by
  have decided := (trusted.settled.block known front block).2.1
  have counted := trusted.orderly.counted peer party was
  have replied (asked : handover.exchange.network.poll.asked peer = true) :
      handover.exchange.network.poll.answered peer = true :=
    trusted.orderly.settled decided peer asked (by rw [session]; rfl)
  constructor
  · intro told member request origin
    have asks : told.asks handover.exchange.network.poll.transfer = true := by
      obtain ⟨message, number⟩ := told
      cases message with
      | fileRequest file => exact decide_eq_true origin
      | _ => cases request
    have pending : 0 < party.pending handover.exchange.network.poll.transfer :=
      Nat.lt_of_lt_of_le (List.countP_pos_iff.mpr ⟨told, member, asks⟩) (Nat.le_add_right _ _)
    have once := counted.once
    rw [replied (counted.asked pending), Bool.toNat_true] at once
    omega
  · intro accepted
    rcases trusted.consents peer party was accepted with ⟨asked, -, noted⟩
    have status : data.client.fileTransferStatus_ = .acceptFileTransfer := by
      apply noted (replied asked) _ data.isFileTransferSender
      rcases Network.party_eq was with ⟨connection, -, rfl⟩
      simp only [Connection.party, session, Option.map_some, SessionData.standing]
    exact ⟨status, room status⟩

theorem Trusted.heeded (trusted : handover.Trusted old) {event : Exchange.Event target}
    (favourable : handover.Favourable event) (stepped : handover.step event = some next) : handover.Heeded event := by
  have settled := trusted.settled
  refine ⟨⟨settled.inTurn favourable.1 stepped, fun moves happened => ?_⟩, ?_⟩
  · cases moves with
    | client client act => exact (favourable.2 _ happened).2.1
    | message client memory =>
      intro letter front block
      cases event with
      | cycle => cases happened
      | other event =>
        rcases Exchange.happens_other happened with ⟨rfl, -⟩
        have sends := (settled.block (known_of_message stepped) front block).1
        exact ⟨settled.calm.exclusive.active_iff.mpr ⟨client, sends⟩, sends⟩
    | _ => exact True.intro
  · cases event with
    | cycle => exact True.intro
    | other event =>
      cases event with
      | message client memory =>
        intro letter front block peer data session other party was
        exact trusted.heeds (known_of_message stepped) front block session
          ((favourable.2 _ rfl).2.2 letter front block peer data session other) was
      | _ => exact True.intro

theorem Trusted.sendsNone (trusted : handover.Trusted old) {event : Exchange.Event target} {moves : Network.Event}
    (happened : Exchange.happens event = some moves) (stepped : handover.step event = some next) :
    handover.exchange.network.SendsNone moves := by
  cases moves with
  | message client memory =>
    intro letter front block party was
    cases event with
    | cycle => cases happened
    | other event =>
      rcases Exchange.happens_other happened with ⟨rfl, -⟩
      have author := (trusted.settled.block (known_of_message stepped) front block).2.2
      by_contra accepted
      rw [Bool.not_eq_false] at accepted
      rcases (trusted.complete.served client party was).accepted _ accepted with ⟨-, -, other, request, known, apart, -⟩
      rw [author] at known
      cases known
      exact apart rfl
  | _ => exact True.intro

theorem Trusted.step (trusted : handover.Trusted old) {event : Exchange.Event target}
    (favourable : handover.Favourable event) (stepped : handover.step event = some next) : next.Trusted old := by
  rcases Exchange.step_ok (step_ok stepped).1 with ⟨moves, happened, moved, -, -⟩
  have inTime := (favourable.2 moves happened).1
  exact ⟨trusted.complete.step (trusted.heeded favourable stepped) stepped, trusted.settled.step favourable.1 stepped,
    trusted.orderly.step inTime moved, trusted.consents.step trusted.orderly trusted.complete.stored.supplied inTime
      (trusted.sendsNone happened stepped) moved⟩

theorem trusted_of_run (old : Disk) {events : List (Exchange.Event target)} (run : Run step Favourable start events handover) :
    handover.Trusted old := by
  apply run.invariant (Trusted old) _ fun _ _ _ trusted favourable stepped => trusted.step favourable stepped
  refine ⟨complete_of_run old .nil, settled_start, Network.orderly_start, ?_⟩
  intro client party there
  cases there

/-- Once the last block has come of the transfer that a client accepted last, the file of the chosen name is the one that
another client's user offered. -/
theorem arrivesWhole (old : Disk) {events : List (Exchange.Event target)} (run : Run step Favourable start events handover)
    {connection : Connection} (there : handover.exchange.network.connections client = some connection) {transfer : Nat}
    {name : List Byte} (latest : connection.journal.Latest transfer name) {last : FileDataMessage}
    (came : last ∈ connection.journal.received transfer) (ends : last.isLastBlock = true) :
    ∃ other, other ≠ client ∧ ∃ offeredName ∈ handover.exchange.offered other, ∃ file,
      (offeredName, file) ∈ handover.exchange.opened other ∧ connection.journal.disk old name = file.contents :=
  (trusted_of_run old run).complete.whole there latest came ends

/-- The first user offers a file, which the two others accept; it is handed over as to one. -/
def handingRound : List (Exchange.Event .m64) :=
  (Network.joining 1 ++ Network.joining 2 ++ Network.joining 3 ++ Network.offering 1 ++
    Network.hearing 2 (.accept Network.aFile) ++ Network.hearing 3 (.accept Network.aFile) ++ Network.speaking 2 ++
    Network.speaking 3 ++ Network.hearing 1 .refuse).map Exchange.Event.other ++ Exchange.handing.drop 20 ++
    (Network.hearing 3 .refuse).map Exchange.Event.other

theorem arrivesWhole_round :
    ∃ (handover : Handover .m64) (connection : Connection) (last : FileDataMessage),
      exec step start handingRound = some handover ∧ handover.exchange.network.connections 3 = some connection ∧
      connection.journal.Latest 1 (ascii ['f']) ∧ last ∈ connection.journal.received 1 ∧ last.isLastBlock = true ∧
      ∃ other, other ≠ 3 ∧ ∃ offeredName ∈ handover.exchange.offered other, ∃ file,
        (offeredName, file) ∈ handover.exchange.opened other ∧
        connection.journal.disk (fun _ => []) (ascii ['f']) = file.contents := by
  have outcome : ((execMeets step (fun handover event => decide (handover.Favourable event)) (start : Handover .m64)
      handingRound).bind fun handover => (handover.exchange.network.connections 3).map fun connection =>
        (connection.journal.accepted.head?, connection.journal.unopened,
          connection.journal.arrivals.map Arrival.transfer,
          (connection.journal.received 1).map FileDataMessage.isLastBlock)) =
      some (some (1, ascii ['f']), [], [1], [true]) := by
    decide +kernel
  rcases Option.bind_eq_some_iff.mp outcome with ⟨handover, executed, outcome⟩
  rcases Option.map_eq_some_iff.mp outcome with ⟨connection, there, outcome⟩
  rcases connection.journal.finished_of_outcome outcome with ⟨latest, last, came, ends⟩
  exact ⟨handover, connection, last, exec_of_execMeets executed, there, latest, came, ends,
    arrivesWhole (fun _ => []) (run_of_execDecide executed) there latest came ends⟩

end Handover

end LanMessenger
