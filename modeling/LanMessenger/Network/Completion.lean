import LanMessenger.Network.Disks

/-! Nothing of a file is lost on its way while the server knows who accepted it and has room for its blocks. -/

namespace LanMessenger

open CMemory Transition

variable {target : Target}

theorem Party.pieces_grown {before after : Party} {sent : List (Letter Nat)} (journal : after.journal = before.journal)
    (grown : after.downstream = before.downstream ++ sent) (transfer : Nat) :
    after.pieces transfer = before.pieces transfer ++ sent.filterMap (Letter.blockOf transfer) := by
  rw [Party.pieces, Party.pieces, journal, grown, List.filterMap_append, List.append_assoc]

theorem Letter.blockOf_of_other {letter : Letter Nat} {transfer : Nat} (other : letter.origin ≠ transfer) :
    letter.blockOf transfer = none := by
  obtain ⟨message, origin⟩ := letter
  cases message with
  | fileData block => exact if_neg other
  | _ => rfl

theorem Journal.received_of_chosen {journal after : Journal} {arrival : Arrival} {transfer : Nat}
    (arrivals : after.arrivals = journal.arrivals ++ [arrival])
    (chosen : arrival.transfer = transfer → arrival.chosen.isSome = true)
    (same : journal.received transfer = journal.arrived transfer) : after.received transfer = after.arrived transfer := by
  have received : after.received transfer = journal.received transfer ++
      if arrival.transfer = transfer ∧ arrival.chosen.isSome = true then [arrival.block] else [] := by
    by_cases own : arrival.transfer = transfer <;> by_cases known : arrival.chosen.isSome = true <;>
      simp [received, arrivals, own, known]
  have arrived : after.arrived transfer = journal.arrived transfer ++
      if arrival.transfer = transfer then [arrival.block] else [] := by
    by_cases own : arrival.transfer = transfer <;> simp [arrived, arrivals, own]
  rw [received, arrived, same]
  by_cases own : arrival.transfer = transfer
  · rw [if_pos own, if_pos ⟨own, chosen own⟩]
  · rw [if_neg own, if_neg fun both => own both.1]

theorem Journal.finished_of_outcome (journal : Journal) {transfer : Nat} {name : List Byte}
    (outcome : (journal.accepted.head?, journal.unopened, journal.arrivals.map Arrival.transfer,
      (journal.received transfer).map FileDataMessage.isLastBlock) = (some (transfer, name), [], [transfer], [true])) :
    journal.Latest transfer name ∧ ∃ last, last ∈ journal.received transfer ∧ last.isLastBlock = true := by
  simp only [Prod.mk.injEq] at outcome
  rcases outcome with ⟨accepted, unopened, transfers, lasts⟩
  rcases List.map_eq_singleton_iff.mp lasts with ⟨last, received, ends⟩
  exact ⟨latest_alone accepted unopened transfers, last, by rw [received]; exact List.mem_cons_self, ends⟩

namespace Network

variable {network next : Network} {client peer : SessionId} {memory : Memory} {letter : Letter Nat}
  {sent : SessionId → SessionData Nat → Option (Letter Nat)} {status : SessionId → StatusCode → StatusCode}
  {sender : SessionId → Bool → Bool}

theorem Serves.brings (serves : Serves network next client letter sent status sender) {after : Party}
    (found : next.party peer = some after) :
    ∃ before new, network.party peer = some before ∧ after.journal = before.journal ∧
      after.session.isSome = before.session.isSome ∧ after.downstream = before.downstream ++ new ∧
      ∀ told ∈ new, before.session.isSome = true ∧ ∃ data, sent peer data = some told := by
  rcases serves.parties peer after found with ⟨before, was, -, -, journal, -, sessions⟩
  rcases sessions with ⟨gone, still, same⟩ | ⟨data, -, there, now, same | ⟨told, offered, grown⟩⟩
  · exact ⟨before, [], was, journal, by rw [gone, still], by rw [same, List.append_nil], by simp⟩
  · exact ⟨before, [], was, journal, by rw [there, now]; rfl, by rw [same, List.append_nil], by simp⟩
  · refine ⟨before, [told], was, journal, by rw [there, now]; rfl, grown, fun letter member => ?_⟩
    rw [List.mem_singleton.mp member]
    exact ⟨by rw [there]; rfl, data, offered⟩

/-- What the handling of a letter may tell a client: a request, if it begins a transfer, or a block of the transfer that is
on, if it is one. -/
structure MayTell (network : Network) (client : SessionId) (letter : Letter Nat) (peer : SessionId) (told : Letter Nat) :
    Prop where
  request : told.isRequest = true →
    network.server.accepts letter.message = true ∧ told.origin = network.poll.transfer + 1 ∧ peer ≠ client
  block : told.isBlock = true → letter.isBlock = true ∧ told.origin = network.poll.transfer

structure Brought (network : Network) (client : SessionId) (letter : Letter Nat) (peer : SessionId) (before after : Party) :
    Prop where
  journal : after.journal = before.journal
  session : after.session.isSome = before.session.isSome
  grown : ∃ new, after.downstream = before.downstream ++ new ∧
    ∀ told ∈ new, before.session.isSome = true ∧ network.MayTell client letter peer told

theorem mayTell_other {told : Letter Nat} (noRequest : told.isRequest = false) (noBlock : told.isBlock = false) :
    network.MayTell client letter peer told := by
  constructor
  · intro request
    rw [noRequest] at request
    cases request
  · intro block
    rw [noBlock] at block
    cases block

theorem Hears.brings (hears : Hears target memory network next client letter) {after : Party}
    (found : next.party peer = some after) :
    ∃ before, network.party peer = some before ∧ network.Brought client letter peer before after := by
  have brought {sent : SessionId → SessionData Nat → Option (Letter Nat)} {status : SessionId → StatusCode → StatusCode}
      {sender : SessionId → Bool → Bool} (serves : Serves network next client letter sent status sender)
      (each : ∀ data told, sent peer data = some told → network.MayTell client letter peer told) :
      ∃ before, network.party peer = some before ∧ network.Brought client letter peer before after := by
    rcases serves.brings found with ⟨before, new, was, journal, session, grown, offered⟩
    refine ⟨before, was, journal, session, new, grown, fun told member => ?_⟩
    rcases offered told member with ⟨registered, data, offered⟩
    exact ⟨registered, each data told offered⟩
  cases hears with
  | passes mode serves => exact brought serves fun data told offered => by cases offered
  | refused why mode serves =>
    refine brought serves fun data told offered => ?_
    split at offered
    · cases offered
      exact mayTell_other rfl rfl
    · cases offered
  | answered answer active mode decided serves =>
    refine brought serves fun data told offered => ?_
    rcases Server.decisionLetter_some offered with ⟨code, -, rfl⟩
    exact mayTell_other rfl rfl
  | accepted idle accepts mode current serves =>
    refine brought serves fun data told offered => ?_
    split at offered
    · cases offered
    · rename_i other
      cases offered
      exact ⟨fun _ => ⟨accepts, rfl, other⟩, fun block => Bool.noConfusion block⟩
  | relayed mode serves =>
    refine brought serves fun data told offered => ?_
    split at offered
    · cases offered
    · rw [Server.dataLetter_some offered]
      exact ⟨fun request => Bool.noConfusion request, fun _ => ⟨rfl, rfl⟩⟩

variable {before after : Party} {transfer : Nat}

theorem Brought.pieces (brought : network.Brought client letter peer before after)
    (apart : letter.isBlock = true → transfer ≠ network.poll.transfer) : after.pieces transfer = before.pieces transfer := by
  rcases brought.grown with ⟨new, grown, told⟩
  have none : new.filterMap (Letter.blockOf transfer) = [] := by
    apply List.filterMap_eq_nil_iff.mpr
    intro letter member
    cases block : letter.isBlock with
    | false => exact Letter.blockOf_of_not_block transfer block
    | true =>
      rcases (told letter member).2.block block with ⟨isBlock, origin⟩
      exact Letter.blockOf_of_other fun same => apart isBlock (same.symm.trans origin)
  rw [Party.pieces_grown brought.journal grown, none, List.append_nil]

theorem Brought.alone (brought : network.Brought client letter peer before after) (gone : ¬ before.session.isSome = true)
    (transfer : Nat) : after.pieces transfer = before.pieces transfer := by
  rcases brought.grown with ⟨new, grown, told⟩
  have none : new = [] := List.eq_nil_iff_forall_not_mem.mpr fun letter member => gone (told letter member).1
  rw [Party.pieces_grown brought.journal grown, none, List.filterMap_nil, List.append_nil]

theorem session_of_party {party : Party} (was : network.party peer = some party) (connected : party.session.isSome = true) :
    ∃ data, network.server.findSession peer = some data := by
  rcases party_eq was with ⟨connection, -, rfl⟩
  simp only [Connection.party, Option.isSome_map] at connected
  exact Option.isSome_iff_exists.mp connected

/-- A block goes to each other client that the server knows to have accepted it, if there is room. -/
theorem relays_of_step {block : FileDataMessage} {origin : Nat} {data : SessionData Nat} {before : Party}
    (stepped : network.step target (.message client memory) = some next)
    (front : network.front client = some ⟨.fileData block, origin⟩) (other : peer ≠ client)
    (session : network.server.findSession peer = some data) (was : network.party peer = some before)
    (accepted : data.client.fileTransferStatus_ = .acceptFileTransfer)
    (room : data.client.outbox.canSendMessages = true) :
    ∃ after, next.party peer = some after ∧ after.journal = before.journal ∧ after.downstream = before.downstream ++
      [⟨.fileData (Server.copyFileData target (memory.heap peer).fileData block), network.poll.transfer⟩] := by
  cases steps_of_step stepped with
  | @message _ _ connection letter rest _ there waiting handled connections poll =>
    have first : letter = ⟨.fileData block, origin⟩ := Option.some.inj ((front_of_waiting there waiting).symm.trans front)
    subst first
    rw [hear_transfer rfl] at handled
    rcases Server.fileData_ok handled with ⟨current, found, ⟨alone, -, -⟩ | ⟨-, -, rewrites⟩⟩
    · exact absurd alone (Server.size_ne_one (by rw [session]; rfl) (by rw [found]; rfl) other)
    · rcases party_eq was with ⟨receiver, known, rfl⟩
      have still : next.connections peer = some receiver := by rw [connections, Function.update_of_ne other, known]
      refine ⟨_, party_of_connection still, rfl, ?_⟩
      have sent : Server.dataLetter target memory network.poll.transfer block peer data =
          some ⟨.fileData (Server.copyFileData target (memory.heap peer).fileData block), network.poll.transfer⟩ := by
        rw [Server.dataLetter, if_neg (not_not.mpr accepted)]
      rw [rewrites.find, session, Option.map_some, if_neg other, sent]
      simp only [Connection.party, Connection.downstream, SessionData.transferQueue, SessionData.sendSome, SessionData.send,
        Outbox.send_of_room room, transferLetters_append, List.append_assoc]
      rfl

end Network

/-- The request of a transfer does not wait for the client any more, and if it accepted, the server knows it and has room. -/
def Party.Heeds (transfer : Nat) (party : Party) (data : SessionData Nat) : Prop :=
  (∀ told ∈ party.downstream, told.isRequest = true → told.origin ≠ transfer) ∧
    ((party.journal.accepted.lookup transfer).isSome = true → data.client.fileTransferStatus_ = .acceptFileTransfer ∧
      data.client.outbox.canSendMessages = true)

instance (transfer : Nat) (party : Party) (data : SessionData Nat) : Decidable (party.Heeds transfer data) :=
  inferInstanceAs (Decidable (_ ∧ _))

namespace Handover

/-- The server handles a block when each other client heeds the transfer. -/
def Attended (handover : Handover target) : Exchange.Event target → Prop
  | .other (.message client _) => ∀ letter, handover.exchange.network.front client = some letter → letter.isBlock = true →
    ∀ peer data, handover.exchange.network.server.findSession peer = some data → peer ≠ client →
      ∀ party, handover.exchange.network.party peer = some party → party.Heeds handover.exchange.network.poll.transfer data
  | _ => True

instance (handover : Handover target) (peer : SessionId) (data : SessionData Nat) :
    Decidable (∀ party, handover.exchange.network.party peer = some party →
      party.Heeds handover.exchange.network.poll.transfer data) := Option.decidableForallMem _

instance (handover : Handover target) (event : Exchange.Event target) : Decidable (handover.Attended event) :=
  match event with
  | .other (.message client _) => Option.decidableForallMem (handover.exchange.network.front client)
  | .cycle _ _ _ | .other (.connect _ _ _ _ _) | .other (.client _ _) | .other (.writeData _)
  | .other (.removeSession _) => instDecidableTrue

def Consecutive (handover : Handover target) (transfer : Nat) (blocks : List FileDataMessage) : Prop :=
  ∀ (index : Nat) (block : FileDataMessage), blocks[index]? = some block → ∃ other request name file,
    handover.author transfer = some (other, request) ∧ handover.sources other request = some (name, file) ∧
    block.IsBlockOf file index

/-- The requests are numbered as the server handles them, and no two transfers come from one. -/
structure Numbered (handover : Handover target) : Prop where
  bound : ∀ transfer client request, handover.author transfer = some (client, request) →
    request ≤ (handover.heard client).requests
  distinct : ∀ transfer later who, handover.author transfer = some who → handover.author later = some who → transfer = later
  beyond : ∀ client request, (handover.heard client).requests < request → (handover.heard client).blocks request = []

/-- Nothing came of a transfer whose request waits for the client; and of one that it accepted, all came that the server
handled while it was connected. -/
structure Served (handover : Handover target) (peer : SessionId) (party : Party) : Prop where
  asked : ∀ letter ∈ party.downstream, letter.isRequest = true → party.pieces letter.origin = [] ∧
    ∃ other request, handover.author letter.origin = some (other, request) ∧ other ≠ peer ∧
      (party.session.isSome = true → (handover.heard other).blocks request = [])
  accepted : ∀ transfer, (party.journal.accepted.lookup transfer).isSome = true →
    party.journal.received transfer = party.journal.arrived transfer ∧
    handover.Consecutive transfer (party.pieces transfer) ∧
    ∃ other request, handover.author transfer = some (other, request) ∧ other ≠ peer ∧
      (party.session.isSome = true → (party.pieces transfer).length = ((handover.heard other).blocks request).length)

variable {handover next : Handover target} {client peer : SessionId} {transfer : Nat} {before after : Party}
  {blocks : List FileDataMessage}

theorem Consecutive.mono (grows : handover.Grows next) (consecutive : handover.Consecutive transfer blocks) :
    next.Consecutive transfer blocks := by
  intro index block there
  rcases consecutive index block there with ⟨other, request, name, file, author, source, isBlock⟩
  exact ⟨other, request, name, file, grows.author _ _ author, grows.sources _ _ _ source, isBlock⟩

theorem Consecutive.of_isPrefix {fewer : List FileDataMessage} (consecutive : handover.Consecutive transfer blocks)
    (shorter : fewer <+: blocks) : handover.Consecutive transfer fewer := by
  rcases shorter with ⟨rest, rfl⟩
  intro index block there
  apply consecutive index block
  rw [List.getElem?_append_left (List.getElem?_eq_some_iff.mp there).1]
  exact there

theorem Served.mono (served : handover.Served peer before) (grows : handover.Grows next)
    (heard : next.heard = handover.heard) : next.Served peer before := by
  constructor
  · intro letter member request
    rcases served.asked letter member request with ⟨nothing, other, number, author, apart, none⟩
    rw [heard]
    exact ⟨nothing, other, number, grows.author _ _ author, apart, none⟩
  · intro transfer known
    rcases served.accepted transfer known with ⟨received, consecutive, other, number, author, apart, length⟩
    rw [heard]
    exact ⟨received, consecutive.mono grows, other, number, grows.author _ _ author, apart, length⟩

theorem Served.shrinks (served : handover.Served peer before) (journal : after.journal = before.journal)
    (session : after.session.isSome = true → before.session.isSome = true ∧ after.downstream = before.downstream)
    (shorter : after.downstream <+: before.downstream) : handover.Served peer after := by
  have pieces (transfer : Nat) : after.pieces transfer <+: before.pieces transfer := by
    rw [Party.pieces, Party.pieces, journal]
    exact (List.prefix_append_right_inj _).mpr (shorter.filterMap _)
  have same (connected : after.session.isSome = true) (transfer : Nat) : after.pieces transfer = before.pieces transfer := by
    rw [Party.pieces, Party.pieces, journal, (session connected).2]
  constructor
  · intro letter member request
    rcases served.asked letter (shorter.subset member) request with ⟨nothing, other, number, author, apart, none⟩
    refine ⟨List.prefix_nil.mp (nothing ▸ pieces letter.origin), other, number, author, apart, fun connected => ?_⟩
    exact none (session connected).1
  · intro transfer known
    rw [journal] at known ⊢
    rcases served.accepted transfer known with ⟨received, consecutive, other, number, author, apart, length⟩
    refine ⟨received, consecutive.of_isPrefix (pieces transfer), other, number, author, apart, fun connected => ?_⟩
    rw [same connected]
    exact length (session connected).1

theorem Served.popped {letter : Letter Nat} (served : handover.Served peer before)
    (popped : before.downstream = letter :: after.downstream) (session : after.session = before.session)
    (pieces : ∀ transfer, after.pieces transfer = before.pieces transfer)
    (accepted : ∀ transfer, (after.journal.accepted.lookup transfer).isSome = true →
      (before.journal.accepted.lookup transfer).isSome = true ∨ (letter.isRequest = true ∧ transfer = letter.origin))
    (received : ∀ transfer, (before.journal.accepted.lookup transfer).isSome = true →
      before.journal.received transfer = before.journal.arrived transfer →
      after.journal.received transfer = after.journal.arrived transfer) : handover.Served peer after := by
  constructor
  · intro told member request
    rw [session, pieces]
    exact served.asked told (by rw [popped]; exact List.mem_cons_of_mem _ member) request
  · intro transfer known
    rw [session, pieces]
    rcases accepted transfer known with earlier | ⟨request, rfl⟩
    · rcases served.accepted transfer earlier with ⟨same, rest⟩
      exact ⟨received transfer earlier same, rest⟩
    · rcases served.asked letter (by rw [popped]; exact List.mem_cons_self) request with
        ⟨nothing, other, number, author, apart, none⟩
      have arrived : after.journal.arrived letter.origin = [] := by
        have all := (pieces letter.origin).trans nothing
        rw [Party.pieces] at all
        exact (List.append_eq_nil_iff.mp all).1
      refine ⟨?_, ?_, other, number, author, apart, fun connected => ?_⟩
      · have fewer := after.journal.received_sublist letter.origin
        rw [arrived] at fewer ⊢
        exact List.sublist_nil.mp fewer
      · rw [nothing]
        intro index block there
        cases there
      · rw [nothing, none connected]

theorem requests_enter (series : Series) (letter : Letter Nat) : series.requests ≤ (series.enter letter).requests := by
  unfold Series.enter
  split
  · exact Nat.le_succ _
  · exact Nat.le_refl _
  · exact Nat.le_refl _

theorem beyond_enter {series : Series} (beyond : ∀ request, series.requests < request → series.blocks request = [])
    (letter : Letter Nat) (request : Nat) (later : (series.enter letter).requests < request) :
    (series.enter letter).blocks request = [] := by
  unfold Series.enter at later ⊢
  split at later
  · exact beyond request (Nat.lt_of_succ_lt later)
  · simp only [Function.update_of_ne (Nat.ne_of_gt later)]
    exact beyond request later
  · exact beyond request later

theorem numbered_start : (start : Handover target).Numbered := by
  refine ⟨?_, ?_, fun _ _ _ => rfl⟩
  · intro transfer client request author
    cases author
  · intro transfer later who author
    cases author

variable {memory : Memory} {letter : Letter Nat}

theorem requests_entered (heard : next.heard = Function.update handover.heard client ((handover.heard client).enter letter))
    (other : SessionId) : (handover.heard other).requests ≤ (next.heard other).requests := by
  rw [heard]
  by_cases own : other = client
  · subst own
    rw [Function.update_self]
    exact requests_enter _ _
  · rw [Function.update_of_ne own]

theorem Numbered.beyond_entered (numbered : handover.Numbered)
    (heard : next.heard = Function.update handover.heard client ((handover.heard client).enter letter)) (other : SessionId)
    (request : Nat) (later : (next.heard other).requests < request) : (next.heard other).blocks request = [] := by
  rw [heard] at later ⊢
  by_cases own : other = client
  · subst own
    rw [Function.update_self] at later ⊢
    exact beyond_enter (numbered.beyond other) letter request later
  · rw [Function.update_of_ne own] at later ⊢
    exact numbered.beyond other request later

theorem Numbered.distinct_accepted (numbered : handover.Numbered) {latest : Nat}
    (author : next.author = Function.update handover.author latest (some (client, (handover.heard client).requests + 1)))
    (transfer later : Nat) (who : SessionId × Nat) (first : next.author transfer = some who)
    (second : next.author later = some who) : transfer = later := by
  have fresh : ∀ transfer, handover.author transfer ≠ some (client, (handover.heard client).requests + 1) := by
    intro transfer known
    exact absurd (numbered.bound transfer _ _ known) (Nat.not_succ_le_self _)
  rw [author, Function.update_apply] at first second
  split at first
  · rename_i now
    cases first
    split at second
    · rename_i then_
      rw [now, then_]
    · exact absurd second (fresh later)
  · split at second
    · cases second
      exact absurd first (fresh transfer)
    · exact numbered.distinct transfer later who first second

theorem Numbered.step (numbered : handover.Numbered) {event : Exchange.Event target}
    (stepped : handover.step event = some next) : next.Numbered := by
  rcases recorded stepped with ⟨heard, author, -⟩ | ⟨client, memory, letter, -, -, heard, author⟩
  · constructor
    · rw [heard, author]
      exact numbered.bound
    · rw [author]
      exact numbered.distinct
    · rw [heard]
      exact numbered.beyond
  · have earlier : ∀ transfer other request, handover.author transfer = some (other, request) →
        request ≤ (next.heard other).requests :=
      fun transfer other request known => (numbered.bound transfer other request known).trans (requests_entered heard other)
    cases accepts : handover.exchange.network.server.accepts letter.message with
    | false =>
      rw [accepts, if_neg Bool.false_ne_true] at author
      refine ⟨author ▸ earlier, ?_, numbered.beyond_entered heard⟩
      rw [author]
      exact numbered.distinct
    | true =>
      rw [accepts, if_pos rfl] at author
      refine ⟨fun transfer other request known => ?_, numbered.distinct_accepted author, numbered.beyond_entered heard⟩
      rw [author] at known
      by_cases now : transfer = handover.exchange.network.poll.transfer + 1
      · rw [now, Function.update_self] at known
        cases known
        rw [heard, Function.update_self, enter_of_accepts accepts]
      · rw [Function.update_of_ne now] at known
        exact earlier transfer other request known

theorem blocks_enter {series : Series} {letter : Letter Nat} {request : Nat}
    (other : letter.isBlock = true → request ≠ series.requests) :
    (series.enter letter).blocks request = series.blocks request := by
  obtain ⟨message, origin⟩ := letter
  cases message with
  | fileData block =>
    simp only [Series.enter]
    exact Function.update_of_ne (other rfl) _ _
  | _ => rfl

structure Handling (handover next : Handover target) (client : SessionId) (memory : Memory) (letter : Letter Nat) : Prop where
  sound : handover.Sound
  numbered : handover.Numbered
  grows : handover.Grows next
  stepped : handover.exchange.network.step target (.message client memory) = some next.exchange.network
  front : handover.exchange.network.front client = some letter
  heard : next.heard = Function.update handover.heard client ((handover.heard client).enter letter)
  author : next.author = if handover.exchange.network.server.accepts letter.message then
    Function.update handover.author (handover.exchange.network.poll.transfer + 1)
      (some (client, (handover.heard client).requests + 1)) else handover.author
  turn : letter.isBlock = true →
    handover.author handover.exchange.network.poll.transfer = some (client, (handover.heard client).requests)
  attended : letter.isBlock = true → ∀ peer data, handover.exchange.network.server.findSession peer = some data →
    peer ≠ client → ∀ party, handover.exchange.network.party peer = some party →
      party.Heeds handover.exchange.network.poll.transfer data

theorem Handling.heard_other (handling : Handling handover next client memory letter) {other : SessionId} {request : Nat}
    (author : handover.author transfer = some (other, request))
    (apart : letter.isBlock = true → transfer ≠ handover.exchange.network.poll.transfer) :
    (next.heard other).blocks request = (handover.heard other).blocks request := by
  rw [handling.heard]
  by_cases own : other = client
  · subst own
    rw [Function.update_self]
    apply blocks_enter
    rintro block rfl
    exact apart block (handling.numbered.distinct _ _ _ author (handling.turn block))
  · rw [Function.update_of_ne own]

theorem Handling.accepted (handling : Handling handover next client memory letter)
    (was : handover.exchange.network.party peer = some before) (served : handover.Served peer before)
    (found : next.exchange.network.party peer = some after) {block : FileDataMessage} {origin : Nat}
    (same : letter = ⟨.fileData block, origin⟩) (connected : before.session.isSome = true)
    (known : (before.journal.accepted.lookup handover.exchange.network.poll.transfer).isSome = true) :
    next.Consecutive handover.exchange.network.poll.transfer (after.pieces handover.exchange.network.poll.transfer) ∧
      (after.pieces handover.exchange.network.poll.transfer).length =
        ((next.heard client).blocks (handover.heard client).requests).length := by
  subst same
  have author := handling.turn rfl
  rcases served.accepted _ known with ⟨-, consecutive, other, number, same, apart, length⟩
  rw [author] at same
  cases same
  rcases Network.session_of_party was connected with ⟨data, session⟩
  rcases (handling.attended rfl peer data session apart.symm before was).2 known with ⟨status, room⟩
  rcases Network.relays_of_step handling.stepped handling.front apart.symm session was status room with
    ⟨now, there, journal, grown⟩
  rw [found] at there
  cases there
  rcases handling.sound.front_block handling.front with ⟨name, file, source, isBlock⟩
  have pieces := Party.pieces_grown journal grown handover.exchange.network.poll.transfer
  rw [List.filterMap_cons_some (Letter.blockOf_fileData _ _ _ ▸ if_pos rfl), List.filterMap_nil] at pieces
  rw [pieces]
  constructor
  · intro index other there
    rw [List.getElem?_append] at there
    split at there
    · exact consecutive.mono handling.grows index other there
    · rename_i behind
      have bound := (List.getElem?_eq_some_iff.mp there).1
      rw [List.length_singleton] at bound
      have place : index = (before.pieces handover.exchange.network.poll.transfer).length := by omega
      rw [place, Nat.sub_self] at there
      cases there
      refine ⟨client, _, name, file, handling.grows.author _ _ author, handling.grows.sources _ _ _ source, ?_⟩
      rw [place, length connected]
      exact isBlock.copyFileData _
  · rw [handling.heard, Function.update_self]
    simp only [Series.enter, Function.update_self, List.length_append, List.length_singleton, length connected]

theorem Handling.asked (handling : Handling handover next client memory letter)
    (brought : handover.exchange.network.Brought client letter peer before after)
    (was : handover.exchange.network.party peer = some before) (served : handover.Served peer before) {told : Letter Nat}
    (earlier : told ∈ before.downstream) (request : told.isRequest = true) :
    after.pieces told.origin = [] ∧ ∃ other request, next.author told.origin = some (other, request) ∧ other ≠ peer ∧
      (before.session.isSome = true → (next.heard other).blocks request = []) := by
  rcases served.asked told earlier request with ⟨nothing, other, number, author, apart, none⟩
  have known := handling.grows.author _ _ author
  by_cases on : letter.isBlock = true ∧ told.origin = handover.exchange.network.poll.transfer
  · rcases on with ⟨block, on⟩
    have gone : ¬ before.session.isSome = true := by
      intro connected
      rcases Network.session_of_party was connected with ⟨data, there⟩
      have turn := handling.turn block
      rw [← on, author] at turn
      cases turn
      exact (handling.attended block peer data there apart.symm before was).1 told earlier request on
    exact ⟨(brought.alone gone _).trans nothing, other, number, known, apart, fun connected => absurd connected gone⟩
  · have off : letter.isBlock = true → told.origin ≠ handover.exchange.network.poll.transfer :=
      fun block same => on ⟨block, same⟩
    refine ⟨(brought.pieces off).trans nothing, other, number, known, apart, fun connected => ?_⟩
    rw [handling.heard_other author off]
    exact none connected

theorem Handling.begun (handling : Handling handover next client memory letter)
    (brought : handover.exchange.network.Brought client letter peer before after)
    (was : handover.exchange.network.party peer = some before) {told : Letter Nat}
    (may : handover.exchange.network.MayTell client letter peer told) (request : told.isRequest = true) :
    after.pieces told.origin = [] ∧ ∃ other request, next.author told.origin = some (other, request) ∧ other ≠ peer ∧
      (before.session.isSome = true → (next.heard other).blocks request = []) := by
  rcases may.request request with ⟨accepts, origin, other⟩
  have off : letter.isBlock = true → told.origin ≠ handover.exchange.network.poll.transfer := by
    intro _ same
    omega
  refine ⟨(brought.pieces off).trans ?_, client, (handover.heard client).requests + 1, ?_, other.symm, fun _ => ?_⟩
  · rcases handling.sound.drawn peer before was told.origin with none | ⟨other, number, _, _, author, -⟩
    · exact none
    · have bound := handling.sound.authored _ _ author
      omega
  · rw [handling.author, if_pos accepts, origin, Function.update_self]
  · rw [handling.heard, Function.update_self, enter_of_accepts accepts]
    exact handling.numbered.beyond client _ (Nat.lt_succ_self _)

theorem Handling.served (handling : Handling handover next client memory letter)
    (brought : handover.exchange.network.Brought client letter peer before after)
    (was : handover.exchange.network.party peer = some before) (found : next.exchange.network.party peer = some after)
    (served : handover.Served peer before) : next.Served peer after := by
  constructor
  · intro told member request
    rcases brought.grown with ⟨new, grown, offered⟩
    rw [grown] at member
    rw [brought.session]
    rcases List.mem_append.mp member with earlier | now
    · exact handling.asked brought was served earlier request
    · exact handling.begun brought was (offered told now).2 request
  · intro transfer known
    rw [brought.journal] at known
    rw [brought.journal, brought.session]
    rcases served.accepted transfer known with ⟨received, consecutive, other, number, author, apart, length⟩
    have grown := handling.grows.author _ _ author
    by_cases on : letter.isBlock = true ∧ transfer = handover.exchange.network.poll.transfer
    · rcases on with ⟨block, rfl⟩
      by_cases connected : before.session.isSome = true
      · obtain ⟨message, origin⟩ := letter
        cases message with
        | fileData data =>
          have turn := handling.turn block
          rw [author] at turn
          cases turn
          rcases handling.accepted was served found rfl connected known with ⟨consecutive, length⟩
          exact ⟨received, consecutive, client, _, grown, apart, fun _ => length⟩
        | _ => cases block
      · rw [brought.alone connected]
        exact ⟨received, consecutive.mono handling.grows, other, number, grown, apart, fun still => absurd still connected⟩
    · have off : letter.isBlock = true → transfer ≠ handover.exchange.network.poll.transfer :=
        fun block same => on ⟨block, same⟩
      rw [brought.pieces off]
      refine ⟨received, consecutive.mono handling.grows, other, number, grown, apart, fun connected => ?_⟩
      rw [handling.heard_other author off]
      exact length connected

variable {connection acted : Connection} {session : Option (SessionData Nat)}

theorem Served.keeps (served : handover.Served peer (connection.party session)) (journal : acted.journal = connection.journal)
    (down : transferLetters acted.down = transferLetters connection.down) :
    handover.Served peer (acted.party session) := by
  have same : (acted.party session).downstream = (connection.party session).downstream :=
    Connection.downstream_of_transfers session down
  have kept : (acted.party session).journal = (connection.party session).journal := journal
  exact served.shrinks kept (fun connected => ⟨connected, same⟩) (by rw [same])

theorem Served.handles {answer : Answer} {opens : Bool} {letter : Letter Nat}
    (served : handover.Served peer (connection.party session))
    (handles : connection.Handles target acted answer opens letter)
    (popped : (connection.party session).downstream = letter :: (acted.party session).downstream)
    (pieces : ∀ transfer, (acted.party session).pieces transfer = (connection.party session).pieces transfer) :
    handover.Served peer (acted.party session) := by
  have unchanged (journal : acted.journal = connection.journal) : handover.Served peer (acted.party session) := by
    apply served.popped popped rfl pieces
    · intro transfer known
      simp only [Connection.party, journal] at known
      exact Or.inl known
    · intro transfer known same
      simp only [Connection.party, journal]
      exact same
  cases handles with
  | aborts why client up journal | starts sending client up journal | stops turnedDown sending client up journal =>
    exact unchanged journal
  | @asks file origin client up journal =>
    cases answer with
    | refuse | cancelName => exact unchanged journal
    | accept targetFileName =>
      apply served.popped popped rfl pieces
      · intro transfer known
        simp only [Connection.party, journal, Journal.record, List.lookup_cons] at known
        split at known
        · rename_i same
          exact Or.inr ⟨rfl, eq_of_beq same⟩
        · exact Or.inl known
      · intro transfer known same
        simp only [Connection.party, journal]
        exact same
  | @receives _ block origin effects result client up journal =>
    have arrivals : acted.journal.arrivals = connection.journal.arrivals ++ [⟨origin, block,
        connection.journal.accepted.lookup origin, origin ∈ acted.journal.unopened, effects⟩] := by rw [journal]; rfl
    apply served.popped popped rfl pieces
    · intro transfer known
      simp only [Connection.party, journal, Journal.record] at known
      exact Or.inl known
    · intro transfer known same
      refine Journal.received_of_chosen arrivals (fun own => ?_) same
      rw [← own] at known
      exact known

theorem Served.acts {event : ClientEvent} (served : handover.Served peer (connection.party session))
    (acts : connection.Acts target acted event) : handover.Served peer (acted.party session) := by
  have pieces := acts.pieces session
  cases acts with
  | quiet client up down journal => exact served.keeps journal down
  | requested client up down journal => exact served.keeps journal (by rw [down])
  | cycled sending started sent client up down journal => exact served.keeps journal (by rw [down])
  | handled letter rest waiting transfers handled =>
    rcases Connection.handles_of_handle transfers handled with ⟨left, handles⟩
    exact served.handles handles (Connection.downstream_cons session waiting transfers left) pieces

/-- Files are sent in turn, each client is receptive, and those who accepted are attended to. -/
def Heeded (handover : Handover target) (event : Exchange.Event target) : Prop :=
  handover.Apart event ∧ handover.Attended event

instance (handover : Handover target) (event : Exchange.Event target) : Decidable (handover.Heeded event) :=
  inferInstanceAs (Decidable (_ ∧ _))

structure Complete (old : Disk) (handover : Handover target) : Prop where
  stored : handover.Stored old
  numbered : handover.Numbered
  served : ∀ client party, handover.exchange.network.party client = some party → handover.Served client party

theorem Complete.served_step {old : Disk} (complete : handover.Complete old) {event : Exchange.Event target}
    (heeded : handover.Heeded event) (stepped : handover.step event = some next) (peer : SessionId) (party : Party)
    (found : next.exchange.network.party peer = some party) : next.Served peer party := by
  have sound := complete.stored.sound
  have grows := sound.grows stepped
  rcases Exchange.step_ok (step_ok stepped).1 with ⟨moves, happened, moved, -, -⟩
  rcases recorded stepped with ⟨heard, -, silent⟩ | ⟨client, memory, letter, rfl, front, heard, author⟩
  · have same (before : Party) (served : handover.Served peer before) : next.Served peer before := served.mono grows heard
    cases Network.moves_of_step moved with
    | quiet parties =>
      rw [parties] at found
      exact same party (complete.served peer party found)
    | joins fresh vacant parties =>
      rw [parties] at found
      split at found
      · cases found
        constructor
        · intro letter member
          cases member
        · intro transfer known
          cases known
      · exact same party (complete.served peer party found)
    | @acts client act connection acted there alive acts parties =>
      rw [parties] at found
      split at found
      · rename_i own
        subst own
        cases found
        exact same _ ((complete.served peer _ (Network.party_of_connection there)).acts acts)
      · exact same party (complete.served peer party found)
    | @hears client memory letter front known hears =>
      cases event with
      | cycle => cases happened
      | other event =>
        rcases Exchange.happens_other happened with ⟨rfl, -⟩
        rw [silent client memory rfl] at front
        cases front
    | @leaves client gone there connections sessions =>
      rcases Network.party_eq found with ⟨connection, known, rfl⟩
      rw [connections] at known
      have served := complete.served peer _ (Network.party_of_connection known)
      apply same
      rw [sessions]
      split
      · refine served.shrinks rfl (fun connected => Bool.noConfusion connected) ?_
        cases handover.exchange.network.server.findSession peer with
        | none => exact List.prefix_rfl
        | some data => exact List.prefix_append _ _
      · exact served
  · cases happened
    rcases Network.hears_of_step moved with ⟨first, there, -, hears⟩
    cases front.symm.trans there
    have handling : Handling handover next client memory letter :=
      ⟨sound, complete.numbered, grows, moved, front, heard, author, heeded.1.1.2 letter front, heeded.2 letter front⟩
    rcases hears.brings found with ⟨before, was, brought⟩
    exact handling.served brought was found (complete.served peer before was)

theorem Complete.step {old : Disk} (complete : handover.Complete old) {event : Exchange.Event target}
    (heeded : handover.Heeded event) (stepped : handover.step event = some next) : next.Complete old :=
  ⟨complete.stored.step heeded.1 stepped, complete.numbered.step stepped, complete.served_step heeded stepped⟩

theorem complete_of_run (old : Disk) {events : List (Exchange.Event target)} (run : Run step Heeded start events handover) :
    handover.Complete old := by
  apply run.invariant (Complete old) _ fun _ _ _ complete heeded stepped => complete.step heeded stepped
  refine ⟨stored_of_run old .nil, numbered_start, ?_⟩
  intro client party there
  cases there

/-- Once the last block has come of the transfer that a client accepted last, as many came as the file has. -/
theorem Complete.whole {old : Disk} (complete : handover.Complete old) {connection : Connection}
    (there : handover.exchange.network.connections client = some connection) {transfer : Nat} {name : List Byte}
    (latest : connection.journal.Latest transfer name) {last : FileDataMessage}
    (came : last ∈ connection.journal.received transfer) (ends : last.isLastBlock = true) :
    ∃ other, other ≠ client ∧ ∃ offeredName ∈ handover.exchange.offered other, ∃ file,
      (offeredName, file) ∈ handover.exchange.opened other ∧ connection.journal.disk old name = file.contents := by
  have began : connection.journal.received transfer ≠ [] := List.ne_nil_of_mem came
  rcases complete.stored.source there latest began with ⟨other, request, offeredName, file, author, apart, source, inOrder, saved⟩
  rcases complete.stored.sound.sourced other request offeredName file source with ⟨offered, opened⟩
  have known : (connection.journal.accepted.lookup transfer).isSome = true := by
    rcases List.head?_eq_some_iff.mp latest.accepted with ⟨older, first⟩
    rw [first, List.lookup_cons_self]
    rfl
  rcases (complete.served client _ (Network.party_of_connection there)).accepted transfer known with ⟨same, consecutive, -⟩
  have arrived := consecutive.of_isPrefix (List.prefix_append (connection.journal.arrived transfer) _)
  -- the last block stands at the end of the file, so as many blocks came as it has
  have whole : (connection.journal.received transfer).length = file.lastIndex + 1 := by
    rcases List.getElem?_of_mem came with ⟨index, place⟩
    have bound := (List.getElem?_eq_some_iff.mp place).1
    have upTo := inOrder.length_le
    rcases arrived index last (same ▸ place) with ⟨_, _, _, _, known, opened, isBlock⟩
    rw [author] at known
    cases known
    rw [source] at opened
    cases opened
    have atEnd : index = file.lastIndex := of_decide_eq_true (isBlock.last.symm.trans ends)
    omega
  exact ⟨other, apart, offeredName, offered, file, opened, by rw [saved, disk_whole inOrder whole]⟩

/-- Once the last block has come of the transfer that a client accepted last, the file of the chosen name is the one that
another client's user offered. -/
theorem receivedWhole (old : Disk) {events : List (Exchange.Event target)} (run : Run step Heeded start events handover)
    {connection : Connection} (there : handover.exchange.network.connections client = some connection) {transfer : Nat}
    {name : List Byte} (latest : connection.journal.Latest transfer name) {last : FileDataMessage}
    (came : last ∈ connection.journal.received transfer) (ends : last.isLastBlock = true) :
    ∃ other, other ≠ client ∧ ∃ offeredName ∈ handover.exchange.offered other, ∃ file,
      (offeredName, file) ∈ handover.exchange.opened other ∧ connection.journal.disk old name = file.contents :=
  (complete_of_run old run).whole there latest came ends

theorem receivedWhole_handing :
    ∃ (handover : Handover .m64) (connection : Connection) (last : FileDataMessage),
      exec step start Exchange.handing = some handover ∧ handover.exchange.network.connections 2 = some connection ∧
      connection.journal.Latest 1 (ascii ['f']) ∧ last ∈ connection.journal.received 1 ∧ last.isLastBlock = true ∧
      ∃ other, other ≠ 2 ∧ ∃ offeredName ∈ handover.exchange.offered other, ∃ file,
        (offeredName, file) ∈ handover.exchange.opened other ∧
        connection.journal.disk (fun _ => []) (ascii ['f']) = file.contents := by
  have outcome : ((execMeets step (fun handover event => decide (handover.Heeded event)) (start : Handover .m64)
      Exchange.handing).bind fun handover => (handover.exchange.network.connections 2).map fun connection =>
        (connection.journal.accepted.head?, connection.journal.unopened,
          connection.journal.arrivals.map Arrival.transfer,
          (connection.journal.received 1).map FileDataMessage.isLastBlock)) =
      some (some (1, ascii ['f']), [], [1], [true]) := by
    decide +kernel
  rcases Option.bind_eq_some_iff.mp outcome with ⟨handover, executed, outcome⟩
  rcases Option.map_eq_some_iff.mp outcome with ⟨connection, there, outcome⟩
  rcases connection.journal.finished_of_outcome outcome with ⟨latest, last, came, ends⟩
  exact ⟨handover, connection, last, exec_of_execMeets executed, there, latest, came, ends,
    receivedWhole (fun _ => []) (run_of_execDecide executed) there latest came ends⟩

end Handover

end LanMessenger
