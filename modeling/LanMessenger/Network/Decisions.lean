import LanMessenger.Network.Moves
import LanMessenger.Transition.Runs

namespace LanMessenger

open CMemory Transition

def Letter.asks (transfer : Nat) (letter : Letter Nat) : Bool :=
  match letter.message with
  | .fileRequest _ => letter.origin = transfer
  | _ => false

def Letter.answers (transfer : Nat) (letter : Letter Nat) : Bool :=
  letter.message.answer.isSome && letter.origin = transfer

theorem Letter.ofTransfer_of_answers {transfer : Nat} {letter : Letter Nat} (answers : letter.answers transfer = true) :
    letter.message.ofTransfer = true := by
  simp only [Letter.answers, Bool.and_eq_true, Option.isSome_iff_exists] at answers
  obtain ⟨⟨code, answer⟩, -⟩ := answers
  rw [(Message.eq_of_answer answer).1]
  rcases (Message.eq_of_answer answer).2 with rfl | rfl <;> rfl

theorem countP_transferLetters (transfer : Nat) (letters : List (Letter Nat)) :
    (transferLetters letters).countP (Letter.answers transfer) = letters.countP (Letter.answers transfer) := by
  rw [transferLetters, List.countP_filter]
  apply List.countP_congr
  intro letter _
  simp only [Bool.and_eq_true]
  exact ⟨fun both => both.1, fun answers => ⟨answers, letter.ofTransfer_of_answers answers⟩⟩

theorem Queued.countP_le {τ : Type} {before after : List (Letter τ)} {letter : Option (Letter τ)}
    (queued : Queued before after letter) (counts : Letter τ → Bool) :
    after.countP counts ≤ before.countP counts + letter.toList.countP counts := by
  rcases queued with rfl | ⟨sent, rfl, rfl⟩
  · exact Nat.le_add_right _ _
  · rw [List.countP_append, Option.toList_some]

theorem countP_option_le {α : Type} (option : Option α) (counts : α → Bool) : option.toList.countP counts ≤ 1 := by
  cases option with
  | none => exact Nat.zero_le 1
  | some value => exact List.countP_le_length

namespace Party

def pending (transfer : Nat) (party : Party) : Nat :=
  party.downstream.countP (Letter.asks transfer) + party.upstream.countP (Letter.answers transfer)

/-- A client answers each request once: the request, the answer and the server's note of it are one. -/
structure Counted (party : Party) (poll : Poll) (client : SessionId) : Prop where
  once : party.pending poll.transfer + (poll.answered client).toNat ≤ 1
  asked : 0 < party.pending poll.transfer → poll.asked client = true
  later : ∀ transfer, poll.transfer < transfer → party.pending transfer = 0

theorem Counted.of_le {before after : Party} {poll : Poll} {client : SessionId} (counted : before.Counted poll client)
    (fewer : ∀ transfer, after.pending transfer ≤ before.pending transfer) : after.Counted poll client := by
  obtain ⟨once, asked, later⟩ := counted
  refine ⟨?_, ?_, ?_⟩
  · have now := fewer poll.transfer
    omega
  · intro positive
    exact asked (Nat.lt_of_lt_of_le positive (fewer poll.transfer))
  · intro transfer future
    exact Nat.le_zero.mp (later transfer future ▸ fewer transfer)

theorem Counted.hears {before after : Party} {poll : Poll} {client peer : SessionId} {letter : Letter Nat}
    (counted : before.Counted poll peer) (taken : [letter].countP (Letter.answers poll.transfer) = 1)
    (counts : ∀ transfer, after.pending transfer +
      (if peer = client then [letter].countP (Letter.answers transfer) else 0) ≤ before.pending transfer) :
    after.Counted { poll with answered := Function.update poll.answered client true } peer := by
  have fewer : ∀ transfer, after.pending transfer ≤ before.pending transfer :=
    fun transfer => Nat.le_of_add_right_le (counts transfer)
  obtain ⟨once, asked, later⟩ := counted.of_le fewer
  refine ⟨?_, asked, later⟩
  by_cases own : peer = client
  · have count := counts poll.transfer
    have before := counted.once
    rw [if_pos own, taken] at count
    simp only [own, Function.update_self, Bool.toNat_true]
    omega
  · simp only [Function.update_of_ne own]
    exact once

end Party

namespace Connection

variable {target : Target} {connection next : Connection} {session : Option (SessionData Nat)} {event : ClientEvent}

/-- Whatever a client does with a letter, no more of a transfer is on its way than before: a request goes, and
    one answer at most comes. -/
theorem Handles.pending_le {answer : Answer} {opens : Bool} {letter : Letter Nat}
    (handles : connection.Handles target next answer opens letter) (transfer : Nat) :
    next.upstream.countP (Letter.answers transfer) ≤
      connection.upstream.countP (Letter.answers transfer) + [letter].countP (Letter.asks transfer) := by
  cases handles with
  | aborts why client up journal aborted =>
    have same : next.upstream = connection.upstream := by rw [upstream, upstream, up, client]
    exact Nat.le_add_right_of_le (le_of_eq (congrArg _ same))
  | starts sending client up journal alive => exact Nat.le_add_right_of_le (le_of_eq (congrArg _ up))
  | stops turnedDown sending client up journal alive => exact Nat.le_add_right_of_le (le_of_eq (congrArg _ up))
  | receives effects result client up journal alive => exact Nat.le_add_right_of_le (le_of_eq (congrArg _ up))
  | @asks file origin client up journal alive =>
    have one := up.countP_le (Letter.answers transfer)
    have paired : [(⟨.status ⟨answer.status⟩, origin⟩ : Letter Nat)].countP (Letter.answers transfer) =
        [(⟨.fileRequest file, origin⟩ : Letter Nat)].countP (Letter.asks transfer) := by
      cases answer <;> rfl
    rw [Option.toList_some, paired] at one
    exact one

theorem Acts.pending_le (acts : connection.Acts target next event) (alive : connection.aborted = false)
    (transfer : Nat) : (next.party session).pending transfer ≤ (connection.party session).pending transfer := by
  cases acts with
  | quiet client up down journal still prompt =>
    rw [party_quiet session client up down journal (still.trans alive.symm)]
  | requested client up down journal still prompt closed =>
    have none := up.countP_le (Letter.answers transfer)
    have same := downstream_congr session down
    simp only [Party.pending, party, same]
    exact Nat.add_le_add_left none _
  | cycled sending started sent client up down journal still prompt =>
    have none : sent.countP (Letter.answers transfer) = 0 := by cases client <;> rfl
    have same := downstream_congr session down
    simp only [Party.pending, party, same, up, List.countP_append, none, Nat.add_zero, le_refl]
  | handled letter rest waiting transfers handled =>
    obtain ⟨left, handles⟩ := handles_of_handle transfers handled
    have popped := downstream_cons session waiting transfers left
    have paired := handles.pending_le transfer
    simp only [Party.pending, party, popped, List.countP_cons, List.countP_nil] at paired ⊢
    omega

theorem pending_left (connection : Connection) (session : Option (SessionData Nat)) (transfer : Nat) :
    (connection.party none).pending transfer ≤ (connection.party session).pending transfer := by
  cases session with
  | none => exact le_rfl
  | some data =>
    simp only [Party.pending, party, downstream, List.countP_append]
    omega

end Connection

namespace Network

variable {target : Target} {network next : Network} {client peer : SessionId}

variable {letter : Letter Nat} {sent : SessionId → SessionData Nat → Option (Letter Nat)}
  {status : SessionId → StatusCode → StatusCode} {sender : SessionId → Bool → Bool}

theorem Serves.pending (serves : Serves network next client letter sent status sender) {after : Party}
    (found : next.party peer = some after) :
    ∃ before, network.party peer = some before ∧ ∀ transfer,
      after.pending transfer + (if peer = client then [letter].countP (Letter.answers transfer) else 0) ≤
        before.pending transfer +
          ((network.server.findSession peer).bind (sent peer)).toList.countP (Letter.asks transfer) := by
  obtain ⟨before, was, -, -, -, upstream, sessions⟩ := serves.parties peer after found
  refine ⟨before, was, fun transfer => ?_⟩
  have taken : before.upstream.countP (Letter.answers transfer) =
      (if peer = client then [letter].countP (Letter.answers transfer) else 0) +
        after.upstream.countP (Letter.answers transfer) := by
    rw [upstream, List.countP_append]
    by_cases own : peer = client
    · rw [if_pos own, if_pos own, countP_transferLetters]
    · rw [if_neg own, if_neg own, List.countP_nil]
  have given : after.downstream.countP (Letter.asks transfer) ≤ before.downstream.countP (Letter.asks transfer) +
      ((network.server.findSession peer).bind (sent peer)).toList.countP (Letter.asks transfer) := by
    rcases sessions with ⟨-, -, same⟩ | ⟨data, session, -, -, queued⟩
    · rw [same]
      exact Nat.le_add_right _ _
    · rw [session, Option.bind_some]
      exact queued.countP_le _
  simp only [Party.pending]
  omega

theorem Serves.fewer (serves : Serves network next client letter sent status sender)
    (noRequest : ∀ peer data request, sent peer data = some request → ∀ transfer, request.asks transfer = false)
    {after : Party} (found : next.party peer = some after) :
    ∃ before, network.party peer = some before ∧ ∀ transfer,
      after.pending transfer + (if peer = client then [letter].countP (Letter.answers transfer) else 0) ≤
        before.pending transfer := by
  obtain ⟨before, was, counts⟩ := serves.pending found
  refine ⟨before, was, fun transfer => ?_⟩
  have none : ((network.server.findSession peer).bind (sent peer)).toList.countP (Letter.asks transfer) = 0 := by
    rw [List.countP_eq_zero]
    intro request offered
    obtain ⟨data, -, given⟩ := Option.bind_eq_some_iff.mp (Option.mem_toList.mp offered)
    simp [noRequest peer data request given transfer]
  have count := counts transfer
  omega

def Decided (network : Network) : Prop := network.poll.transfer ∈ network.decisions.map Decision.transfer

/-- The network between its steps: each client answers each request once, and who is decided about has
    answered. -/
structure Orderly (network : Network) : Prop where
  counted : ∀ client party, network.party client = some party → party.Counted network.poll client
  asked : ∀ client, network.poll.asked client = true → (network.party client).isSome = true
  sessions : ∀ client, (network.server.findSession client).isSome = true → (network.party client).isSome = true
  settled : network.Decided → ∀ client, network.poll.asked client = true →
    (network.server.findSession client).isSome = true → network.poll.answered client = true
  past : ∀ decision ∈ network.decisions, decision.transfer ≤ network.poll.transfer
  once : (network.decisions.map Decision.transfer).Nodup
  complete : ∀ decision ∈ network.decisions, decision.missing = []

theorem orderly_start : start.Orderly where
  counted _ _ there := by cases there
  asked _ asked := by cases asked
  sessions client there := by
    rw [start, Server.findSession_new] at there
    cases there
  settled decided := absurd decided (by simp [Decided, start])
  past _ decision := absurd decision (by simp [start])
  once := List.nodup_nil
  complete _ decision := absurd decision (by simp [start])

theorem Orderly.of_fewer (orderly : network.Orderly) (poll : next.poll = network.poll)
    (decisions : next.decisions = network.decisions)
    (parties : ∀ peer after, next.party peer = some after → (∀ transfer, after.pending transfer = 0) ∨
      ∃ before, network.party peer = some before ∧ ∀ transfer, after.pending transfer ≤ before.pending transfer)
    (stays : ∀ peer, (network.party peer).isSome = true → (next.party peer).isSome = true)
    (sessions : ∀ peer, (next.server.findSession peer).isSome = true → (next.party peer).isSome = true ∧
      ((network.party peer).isSome = true → (network.server.findSession peer).isSome = true)) : next.Orderly where
  counted client after there := by
    rw [poll]
    rcases parties client after there with none | ⟨before, was, fewer⟩
    · refine ⟨?_, fun positive => absurd (none _) (Nat.ne_of_gt positive), fun transfer _ => none transfer⟩
      rw [none, Nat.zero_add]
      exact Bool.toNat_le _
    · exact (orderly.counted client before was).of_le fewer
  asked client asked := stays client (orderly.asked client (poll ▸ asked))
  sessions client there := (sessions client there).1
  settled decided client asked there := by
    rw [Decided, poll, decisions] at decided
    rw [poll] at asked ⊢
    exact orderly.settled decided client asked ((sessions client there).2 (orderly.asked client asked))
  past := by
    rw [poll, decisions]
    exact orderly.past
  once := by
    rw [decisions]
    exact orderly.once
  complete := by
    rw [decisions]
    exact orderly.complete

/-- While a transfer is on, only answers to its own request are handled, and the statuses of the sessions
    asked are such answers too. -/
def AnswersInTime (network : Network) : Event → Prop
  | .message client _ => ∀ letter, network.front client = some letter → letter.message.answer.isSome = true →
      network.server.isFileTransferModeActive = true → letter.origin = network.poll.transfer ∧
        ∀ peer data, network.server.findSession peer = some data → peer ≠ client → network.poll.asked peer = true →
          data.client.fileTransferStatus_ ≠ .fileTransferCanceled → network.poll.answered peer = true
  | _ => True

instance (network : Network) (event : Event) : Decidable (network.AnswersInTime event) :=
  match event with
  | .message client _ => Option.decidableForallMem (network.front client)
  | .client _ _ | .connect _ _ _ _ _ | .writeData _ | .removeSession _ => instDecidableTrue

theorem Orderly.of_serves (orderly : network.Orderly) (serves : Serves network next client letter sent status sender)
    (noRequest : ∀ peer data request, sent peer data = some request → ∀ transfer, request.asks transfer = false)
    (poll : next.poll = network.poll) (decisions : next.decisions = network.decisions) : next.Orderly := by
  apply orderly.of_fewer poll decisions
  · intro peer after found
    obtain ⟨before, was, counts⟩ := serves.fewer noRequest found
    exact Or.inr ⟨before, was, fun transfer => Nat.le_of_add_right_le (counts transfer)⟩
  · exact serves.stays
  · intro peer still
    have there := (serves.isSome_eq peer).symm.trans still
    exact ⟨serves.stays peer (orderly.sessions peer there), fun _ => there⟩

theorem missing_eq_nil {server : Server Nat} {poll : Poll}
    (all : ∀ peer, poll.asked peer = true → (server.findSession peer).isSome = true → poll.answered peer = true) :
    poll.missing server = [] := by
  apply List.filter_eq_nil_iff.mpr
  intro peer listed lacks
  obtain ⟨⟨peer, data⟩, member, rfl⟩ := List.mem_map.mp listed
  have session := Server.mem_sessions.mp member
  simp only [Bool.and_eq_true, Bool.not_eq_true'] at lacks
  have answered := all peer lacks.1 (by rw [session]; rfl)
  rw [lacks.2] at answered
  cases answered

theorem Orderly.accepted (orderly : network.Orderly) (current : SessionData Nat) (file : FileTransferMessage)
    (serves : Serves network next client letter (fun peer data => if peer = client then none else
      Server.requestLetter (network.poll.transfer + 1) current file peer data) status sender)
    (poll : next.poll = ⟨network.poll.transfer + 1,
      fun peer => peer ≠ client && (network.server.findSession peer).isSome, fun _ => false⟩)
    (decisions : next.decisions = network.decisions) : next.Orderly := by
  constructor
  · intro peer after found
    obtain ⟨before, was, counts⟩ := serves.pending found
    have later := (orderly.counted peer before was).later
    -- the request is the only letter of the new transfer
    have offered : ∀ transfer, 0 < ((network.server.findSession peer).bind fun data => if peer = client then none else
        Server.requestLetter (network.poll.transfer + 1) current file peer data).toList.countP (Letter.asks transfer) →
        transfer = network.poll.transfer + 1 ∧ peer ≠ client ∧ (network.server.findSession peer).isSome = true := by
      intro transfer positive
      obtain ⟨request, given, asks⟩ := List.countP_pos_iff.mp positive
      obtain ⟨data, session, sent⟩ := Option.bind_eq_some_iff.mp (Option.mem_toList.mp given)
      split at sent
      · cases sent
      · rename_i other
        cases sent
        exact ⟨(of_decide_eq_true asks).symm, other, by rw [session]; rfl⟩
    have number : next.poll.transfer = network.poll.transfer + 1 := by rw [poll]
    have unanswered : next.poll.answered peer = false := by rw [poll]
    refine ⟨?_, ?_, ?_⟩
    · have count := counts next.poll.transfer
      have zero := later next.poll.transfer (by omega)
      have one := countP_option_le ((network.server.findSession peer).bind fun data => if peer = client then none else
        Server.requestLetter (network.poll.transfer + 1) current file peer data) (Letter.asks next.poll.transfer)
      rw [unanswered, Bool.toNat_false]
      omega
    · intro positive
      have count := counts next.poll.transfer
      have zero := later next.poll.transfer (by omega)
      have asked := (offered next.poll.transfer (by omega)).2
      rw [poll]
      exact Bool.and_eq_true_iff.mpr ⟨decide_eq_true asked.1, asked.2⟩
    · intro transfer future
      have count := counts transfer
      have zero := later transfer (by omega)
      have other := fun positive => (offered transfer positive).1
      omega
  · intro peer asked
    rw [poll] at asked
    exact serves.stays peer (orderly.sessions peer (Bool.and_eq_true_iff.mp asked).2)
  · intro peer still
    exact serves.stays peer (orderly.sessions peer ((serves.isSome_eq peer).symm.trans still))
  · intro decided
    rw [Decided, decisions] at decided
    obtain ⟨decision, told, same⟩ := List.mem_map.mp decided
    have number : next.poll.transfer = network.poll.transfer + 1 := by rw [poll]
    have past := orderly.past decision told
    omega
  · intro decision told
    rw [decisions] at told
    rw [poll]
    exact Nat.le_succ_of_le (orderly.past decision told)
  · rw [decisions]
    exact orderly.once
  · rw [decisions]
    exact orderly.complete

theorem Orderly.undecided (orderly : network.Orderly) (known : (network.server.findSession client).isSome = true)
    (serves : Serves network next client letter sent status sender)
    (noRequest : ∀ peer data request, sent peer data = some request → ∀ transfer, request.asks transfer = false)
    (taken : [letter].countP (Letter.answers network.poll.transfer) = 1) : ¬ network.Decided := by
  intro settled
  obtain ⟨own, owned⟩ := Option.isSome_iff_exists.mp (serves.stays client (orderly.sessions client known))
  obtain ⟨before, was, count⟩ := serves.fewer noRequest owned
  have counted := orderly.counted client before was
  have now := count network.poll.transfer
  rw [if_pos rfl, taken] at now
  have answered := orderly.settled settled client (counted.asked (by omega)) known
  have once := counted.once
  rw [answered, Bool.toNat_true] at once
  omega

theorem Orderly.answered {memory : Memory} (orderly : network.Orderly) (front : network.front client = some letter)
    (known : (network.server.findSession client).isSome = true)
    {code : StatusCode} (answer : letter.message.answer = some code)
    (active : network.server.fileTransferModeActive_ = true)
    (decided : ∀ asker verdict, network.server.verdict client letter.message = some (asker, verdict) →
      ∀ peer data, network.server.findSession peer = some data → peer ≠ client →
        data.client.fileTransferStatus_ ≠ .fileTransferCanceled)
    (serves : Serves network next client letter sent status sender)
    (noRequest : ∀ peer data request, sent peer data = some request → ∀ transfer, request.asks transfer = false)
    (condition : network.AnswersInTime (.message client memory))
    (poll : next.poll = network.poll.hear network.server client letter)
    (decisions : next.decisions = match network.server.verdict client letter.message with
      | none => network.decisions
      | some _ => network.decisions ++ [⟨next.poll.transfer, next.poll.missing network.server⟩]) : next.Orderly := by
  obtain ⟨current, timely⟩ := condition letter front (by rw [answer]; rfl) active
  have heard : next.poll = { network.poll with answered := Function.update network.poll.answered client true } := by
    obtain ⟨same, -⟩ := Message.eq_of_answer answer
    rw [poll, Poll.hear, if_neg, if_pos]
    · simp [Server.isFileTransferModeActive, active, answer, current]
    · simp [same, Server.accepts]
  have number : next.poll.transfer = network.poll.transfer := by rw [heard]
  have taken : [letter].countP (Letter.answers network.poll.transfer) = 1 := by
    rw [List.countP_singleton, Letter.answers, answer, current]
    simp
  have undecided := orderly.undecided known serves noRequest taken
  have allAnswered : network.server.verdict client letter.message ≠ none → ∀ peer, next.poll.asked peer = true →
      (network.server.findSession peer).isSome = true → next.poll.answered peer = true := by
    intro told peer asked there
    obtain ⟨⟨asker, verdict⟩, told⟩ := Option.ne_none_iff_exists'.mp told
    obtain ⟨data, found⟩ := Option.isSome_iff_exists.mp there
    rw [heard] at asked ⊢
    by_cases own : peer = client
    · simp only [own, Function.update_self]
    · simp only [Function.update_of_ne own]
      exact timely peer data found own asked (decided asker verdict told peer data found own)
  constructor
  · intro peer after found
    obtain ⟨before, was, counts⟩ := serves.fewer noRequest found
    rw [heard]
    exact (orderly.counted peer before was).hears taken counts
  · intro peer asked
    rw [heard] at asked
    exact serves.stays peer (orderly.asked peer asked)
  · intro peer still
    exact serves.stays peer (orderly.sessions peer ((serves.isSome_eq peer).symm.trans still))
  · intro settled peer asked there
    cases told : network.server.verdict client letter.message with
    | none =>
      rw [told] at decisions
      rw [Decided, number, decisions] at settled
      exact absurd settled undecided
    | some verdict => exact allAnswered (by simp [told]) peer asked ((serves.isSome_eq peer).symm.trans there)
  · intro decision told
    rw [number]
    rw [decisions] at told
    split at told
    · exact orderly.past decision told
    · rcases List.mem_append.mp told with earlier | new
      · exact orderly.past decision earlier
      · rw [List.mem_singleton.mp new, number]
  · rw [decisions]
    split
    · exact orderly.once
    · rw [List.map_append, List.nodup_append_comm]
      apply List.nodup_cons.mpr ⟨?_, orderly.once⟩
      rw [number]
      exact undecided
  · intro decision told
    rw [decisions] at told
    split at told
    · exact orderly.complete decision told
    · rename_i verdict _
      rcases List.mem_append.mp told with earlier | new
      · exact orderly.complete decision earlier
      · rw [List.mem_singleton.mp new]
        exact missing_eq_nil (allAnswered (by simp [*]))

theorem Orderly.hears {memory : Memory} (orderly : network.Orderly) (front : network.front client = some letter)
    (known : (network.server.findSession client).isSome = true)
    (condition : network.AnswersInTime (.message client memory))
    (hears : Hears target memory network next client letter) : next.Orderly := by
  cases hears with
  | passes mode serves poll decisions => exact orderly.of_serves serves (fun _ _ _ none => by cases none) poll decisions
  | refused why mode serves poll decisions =>
    apply orderly.of_serves serves _ poll decisions
    intro peer data request offered transfer
    split at offered
    · cases offered
      rfl
    · cases offered
  | answered answer active mode decided serves poll transfer decisions =>
    apply orderly.answered front known answer active _ serves _ condition poll decisions
    · intro asker verdict told
      exact (decided asker verdict told).2
    · intro peer data request offered transfer
      obtain ⟨code, -, rfl⟩ := Server.decisionLetter_some offered
      rfl
  | accepted idle accepts mode current serves poll decisions => exact orderly.accepted current _ serves poll decisions
  | relayed mode serves poll decisions =>
    apply orderly.of_serves serves _ poll decisions
    intro peer data request offered transfer
    split at offered
    · cases offered
    · rw [Server.dataLetter_some offered]
      rfl

theorem Orderly.step {event : Event} (orderly : network.Orderly) (condition : network.AnswersInTime event)
    (stepped : network.step target event = some next) : next.Orderly := by
  cases moves_of_step stepped with
  | quiet parties sessions mode poll decisions =>
    apply orderly.of_fewer poll decisions
    · intro peer after found
      rw [parties] at found
      exact Or.inr ⟨after, found, fun _ => le_rfl⟩
    · intro peer known
      rw [parties]
      exact known
    · intro peer there
      rw [← isSome_standing, sessions, isSome_standing] at there
      rw [parties]
      exact ⟨orderly.sessions peer there, fun _ => there⟩
  | @joins client _ _ _ _ fresh vacant parties sessions mode poll decisions =>
    apply orderly.of_fewer poll decisions
    · intro peer after found
      rw [parties] at found
      split at found
      · cases found
        exact Or.inl fun _ => rfl
      · exact Or.inr ⟨after, found, fun _ => le_rfl⟩
    · intro peer known
      rw [parties]
      split
      · rfl
      · exact known
    · intro peer there
      rw [← isSome_standing, sessions] at there
      rw [parties]
      split
      · rename_i own
        rw [own, fresh]
        exact ⟨rfl, fun absent => by cases absent⟩
      · rename_i other
        rw [if_neg other, isSome_standing] at there
        exact ⟨orderly.sessions peer there, fun _ => there⟩
  | @acts client event connection acted there alive acts parties server poll decisions =>
    have was : network.party client = some (connection.party (network.server.findSession client)) := by
      rw [party, there]
      rfl
    have stays : ∀ peer, (network.party peer).isSome = true → (next.party peer).isSome = true := by
      intro peer known
      rw [parties]
      split
      · rfl
      · exact known
    apply orderly.of_fewer poll decisions _ stays
    · intro peer still
      rw [server] at still
      exact ⟨stays peer (orderly.sessions peer still), fun _ => still⟩
    · intro peer after found
      rw [parties] at found
      split at found
      · rename_i own
        cases found
        subst own
        exact Or.inr ⟨_, was, fun transfer => acts.pending_le alive transfer⟩
      · exact Or.inr ⟨after, found, fun _ => le_rfl⟩
  | @leaves client current there connections sessions mode poll decisions =>
    apply orderly.of_fewer poll decisions
    · intro peer after found
      obtain ⟨connection, known, rfl⟩ := party_eq found
      rw [connections] at known
      refine Or.inr ⟨connection.party (network.server.findSession peer), by rw [party, known]; rfl, fun transfer => ?_⟩
      rw [sessions]
      split
      · exact Connection.pending_left connection _ transfer
      · exact le_rfl
    · intro peer known
      rw [isSome_party] at known ⊢
      rw [connections]
      exact known
    · intro peer still
      rw [sessions] at still
      split at still
      · cases still
      · have known := orderly.sessions peer still
        rw [isSome_party] at known ⊢
        rw [connections]
        exact ⟨known, fun _ => still⟩
  | hears letter front known hears => exact orderly.hears front known condition hears

theorem told_of_step {event : Event} (stepped : network.step target event = some next) (session : SessionId) :
    (network.server.told next.server session = [] ∧ network.decisions <+: next.decisions) ∨
      ∃ letter, network.server.told next.server session = [letter] ∧
        next.decisions = network.decisions ++ [⟨next.poll.transfer, next.poll.missing network.server⟩] := by
  cases steps_of_step stepped with
  | connect =>
    refine Or.inl ⟨Server.told_of_le ?_, List.prefix_rfl⟩
    rw [Server.decisionQueue, Server.addSession_find]
    split
    · exact Nat.zero_le _
    · exact le_rfl
  | client => exact Or.inl ⟨Server.told_of_le le_rfl, List.prefix_rfl⟩
  | message _ _ handled _ _ decisions =>
    rcases Server.told_of_message handled session with none | ⟨code, verdict, one⟩
    · refine Or.inl ⟨none, ?_⟩
      rw [decisions]
      split
      · exact List.prefix_rfl
      · exact List.prefix_append _ _
    · rw [verdict] at decisions
      exact Or.inr ⟨_, one, decisions⟩
  | @writeData client _ data _ known =>
    refine Or.inl ⟨Server.told_of_le ?_, List.prefix_rfl⟩
    simp only [Server.decisionQueue, Server.findSession_modify]
    split
    · rename_i own
      rw [own, known]
      simp only [Option.map_some, Option.getD_some, SessionData.decisionQueue, Outbox.sendingQueue_writeData]
      exact ((List.tail_sublist _).filter _).length_le
    · exact le_rfl
  | removeSession removed =>
    obtain ⟨-, -, -, -, sessions⟩ := Server.removeSession_ok removed
    refine Or.inl ⟨Server.told_of_le ?_, List.prefix_rfl⟩
    rw [Server.decisionQueue, sessions]
    split
    · exact Nat.zero_le _
    · exact le_rfl

end Network

/-- A network with the decisions that were queued for each session. -/
structure Tally where
  network : Network
  told : SessionId → List Decision

namespace Tally

def start : Tally := ⟨.start, fun _ => []⟩

/-- With each `Accept` and each `Reject` that a step queues for a session, the transfer it is about and who has still
    to answer are noted. -/
def step (target : Target) (tally : Tally) (event : Network.Event) : Option Tally :=
  (tally.network.step target event).map fun network =>
    ⟨network, fun session => tally.told session ++ (tally.network.server.told network.server session).map fun _ =>
      ⟨network.poll.transfer, network.poll.missing tally.network.server⟩⟩

/-- Only answers to the request of the transfer that is on are handled, and no status is left over from another. -/
def AnswersInTime (tally : Tally) (event : Network.Event) : Prop := tally.network.AnswersInTime event

instance (tally : Tally) (event : Network.Event) : Decidable (tally.AnswersInTime event) :=
  inferInstanceAs (Decidable (tally.network.AnswersInTime event))

variable {target : Target} {tally next : Tally}

structure Orderly (tally : Tally) : Prop where
  network : tally.network.Orderly
  told : ∀ session, (tally.told session).Sublist tally.network.decisions

theorem Orderly.step {event : Network.Event} (orderly : tally.Orderly) (condition : tally.AnswersInTime event)
    (stepped : tally.step target event = some next) : next.Orderly := by
  obtain ⟨network, moved, rfl⟩ := Option.map_eq_some_iff.mp stepped
  refine ⟨orderly.network.step condition moved, fun session => ?_⟩
  rcases Network.told_of_step moved session with ⟨none, more⟩ | ⟨letter, one, decided⟩
  · simp only [none, List.map_nil, List.append_nil]
    exact (orderly.told session).trans more.sublist
  · simp only [one, decided, List.map_cons, List.map_nil]
    exact (orderly.told session).append (List.Sublist.refl _)

/-- Of each request a session is told one decision at most, and none before everyone asked who is still there has
    answered it. -/
theorem oneDecision {events : List Network.Event} (run : Run (step target) AnswersInTime start events tally)
    (session : SessionId) :
    ((tally.told session).map Decision.transfer).Nodup ∧ ∀ decision ∈ tally.told session, decision.missing = [] := by
  have orderly : tally.Orderly := run.invariant Orderly ⟨Network.orderly_start, fun _ => List.Sublist.refl []⟩
    fun _ _ _ orderly condition stepped => orderly.step condition stepped
  have part := orderly.told session
  exact ⟨orderly.network.once.sublist (part.map _), fun decision told => orderly.network.complete decision (part.subset told)⟩

open Network in
/-- Three clients, the first of which offers a file that both others accept. -/
def agreed : List Network.Event :=
  joining 1 ++ joining 2 ++ joining 3 ++ offering 1 ++ hearing 2 (.accept aFile) ++ speaking 2 ++
    hearing 3 (.accept aFile) ++ speaking 3

theorem oneDecision_agreed :
    ∃ tally, exec (step .m64) start agreed = some tally ∧ tally.told 1 = [⟨1, []⟩] ∧
      ((tally.told 1).map Decision.transfer).Nodup ∧ ∀ decision ∈ tally.told 1, decision.missing = [] := by
  have outcome : (execMeets (step .m64) (fun tally event => decide (tally.AnswersInTime event)) start agreed).map
      (fun tally => tally.told 1) = some [⟨1, []⟩] := by
    decide +kernel
  obtain ⟨tally, executed, told⟩ := Option.map_eq_some_iff.mp outcome
  exact ⟨tally, exec_of_execMeets executed, told, oneDecision (run_of_execDecide executed) 1⟩

open Network in
/-- The first client's second request is decided when one of the two others has answered: the statuses
    are still those of the first. -/
theorem oneDecision_leftover :
    ∃ tally, exec (step .m64) start (agreed ++ hearing 1 .refuse ++ uploading 1 ++ offering 1 ++ hearing 2 .refuse ++
        hearing 2 (.accept aFile) ++ speaking 2) = some tally ∧
      tally.told 1 = [⟨1, []⟩, ⟨2, [3]⟩] := by
  have outcome : (exec (step .m64) start (agreed ++ hearing 1 .refuse ++ uploading 1 ++ offering 1 ++ hearing 2 .refuse ++
      hearing 2 (.accept aFile) ++ speaking 2)).map (fun tally => tally.told 1) = some [⟨1, []⟩, ⟨2, [3]⟩] := by
    decide +kernel
  exact Option.map_eq_some_iff.mp outcome

end Tally

end LanMessenger
