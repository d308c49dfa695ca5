import LanMessenger.Client.Download
import LanMessenger.Network.Handover
import LanMessenger.Network.Receptions

/-! The files that the blocks of a transfer make on a client's disk. -/

namespace LanMessenger

open CMemory Transition

variable {target : Target}

namespace Journal

def received (journal : Journal) (transfer : Nat) : List FileDataMessage :=
  ((journal.arrivals.filter fun arrival => arrival.transfer = transfer).filter fun arrival => arrival.chosen.isSome).map
    Arrival.block

def disk (journal : Journal) (old : Disk) : Disk := (journal.arrivals.flatMap Arrival.effects).foldl FileEffect.apply old

/-- The transfer is the one accepted last, its file did not fail to open, and nothing came of a later one. -/
structure Latest (journal : Journal) (transfer : Nat) (name : List Byte) : Prop where
  accepted : journal.accepted.head? = some (transfer, name)
  opened : transfer ∉ journal.unopened
  last : ∀ arrival ∈ journal.arrivals, arrival.transfer ≤ transfer

theorem latest_alone {journal : Journal} {transfer : Nat} {name : List Byte}
    (accepted : journal.accepted.head? = some (transfer, name)) (unopened : journal.unopened = [])
    (transfers : journal.arrivals.map Arrival.transfer = [transfer]) : journal.Latest transfer name := by
  refine ⟨accepted, by rw [unopened]; exact List.not_mem_nil, fun arrival member => ?_⟩
  have same : arrival.transfer ∈ journal.arrivals.map Arrival.transfer := List.mem_map.mpr ⟨arrival, member, rfl⟩
  rw [transfers] at same
  exact Nat.le_of_eq (List.mem_singleton.mp same)

theorem received_sublist (journal : Journal) (transfer : Nat) :
    (journal.received transfer).Sublist (journal.arrived transfer) := List.filter_sublist.map _

variable {journal after : Journal} {arrival : Arrival} {old : Disk}

theorem disk_arrived (arrivals : after.arrivals = journal.arrivals ++ [arrival]) :
    after.disk old = arrival.effects.foldl FileEffect.apply (journal.disk old) := by
  rw [disk, arrivals, List.flatMap_append, List.foldl_append, List.flatMap_singleton]
  rfl

theorem received_arrived {name : List Byte} (arrivals : after.arrivals = journal.arrivals ++ [arrival])
    (chosen : arrival.chosen = some name) :
    after.received arrival.transfer = journal.received arrival.transfer ++ [arrival.block] := by
  simp [received, arrivals, chosen]

end Journal

def FileDataMessage.piece (target : Target) (block : FileDataMessage) : Nat × List Byte :=
  ((block.fileOffset target).toNat, block.data)

theorem FileDataMessage.IsBlockOf.placed {block : FileDataMessage} {file : File target} {index : Nat}
    (isBlock : block.IsBlockOf file index) : Files.Placed fileBlockSize file.contents (block.piece target) index := by
  rw [Files.Placed, piece, isBlock.fileOffset, isBlock.data]
  rfl

namespace SessionServer

variable {τ : Type} {session after : SessionServer τ} {name : List Byte}

theorem saveData_written (ready : session.fileTransfer.ReadyFor name) {opens : Bool}
    (opened : session.fileTransferHandle_ = none → opens = true) (buffer : List Byte) {offset : Int} (forward : 0 ≤ offset)
    (disk : Disk) : ∃ position effects, session.saveData opens buffer offset =
        ({ session with fileTransferHandle_ := some (.writing name position) }, effects) ∧
      effects.foldl FileEffect.apply disk name =
        Files.writeAt 0#8 (if session.fileTransferHandle_ = none then [] else disk name) offset.toNat buffer := by
  rcases ready with ⟨receiving, -, named, handle⟩
  simp only [fileTransfer] at receiving named handle
  have notBack : ¬ offset < 0 := Int.not_lt.mpr forward
  unfold saveData
  rw [receiving, Bool.not_true, if_neg Bool.false_ne_true]
  rcases handle with closed | ⟨position, writing⟩
  · rw [closed, opened closed]
    simp only [Bool.not_true, Bool.false_eq_true, if_false, FileHandle.fseek, FileHandle.fwrite, if_neg notBack, named]
    exact ⟨_, _, rfl, by simp [FileEffect.apply]⟩
  · rw [writing]
    simp only [FileHandle.fseek, FileHandle.fwrite, if_neg notBack]
    exact ⟨_, _, rfl, by simp [FileEffect.apply]⟩

theorem block_written {answer : Answer} {opens : Bool} {elapsed : Int} {origin : τ} {block : FileDataMessage}
    {effects : List FileEffect}
    (ready : session.fileTransfer.ReadyFor name) (opened : session.fileTransferHandle_ = none → opens = true)
    (forward : 0 ≤ block.fileOffset target)
    (result : session.availableMessage target answer opens elapsed origin (.fileData block) = .ok (after, effects))
    (disk : Disk) :
    effects.foldl FileEffect.apply disk name =
        Files.writeAt 0#8 (if session.fileTransferHandle_ = none then [] else disk name) (block.piece target).1
          (block.piece target).2 ∧
      (after.isReceivingFile_ = true → after.fileTransferHandle_ ≠ none) := by
  rcases saveData_written ready opened block.buffer forward disk with ⟨position, saved, same, written⟩
  have receiving : session.isReceivingFile_ = true := ready.receiving
  simp only [availableMessage, receiving, Bool.not_true, Bool.false_eq_true, if_false, same] at result
  split at result
  · cases result
    refine ⟨?_, fun again => Bool.noConfusion again⟩
    rw [List.foldl_append]
    exact written
  · cases result
    exact ⟨written, fun _ none => by cases none⟩

end SessionServer

namespace Party

structure Filed (target : Target) (old : Disk) (party : Party) : Prop where
  known : ∀ arrival ∈ party.journal.arrivals, ∀ name, arrival.chosen = some name →
    (arrival.transfer, name) ∈ party.journal.accepted
  opens : party.client.receiving = true → ∀ transfer name, party.journal.Latest transfer name →
    (party.client.handle = none ↔ party.journal.received transfer = [])
  disk : ∀ transfer name, party.journal.Latest transfer name → party.journal.received transfer ≠ [] →
    party.journal.disk old name =
      Files.assemble 0#8 ((party.journal.received transfer).map (FileDataMessage.piece target))

variable {before after : Party} {old : Disk} {current : Option Nat} {transfer : Nat}

theorem filed_empty {party : Party} (empty : party.journal = .empty) : party.Filed target old := by
  constructor
  · rw [empty]
    intro arrival member
    cases member
  · rw [empty]
    intro _ transfer name latest
    cases latest.accepted
  · rw [empty]
    intro transfer name latest
    cases latest.accepted

theorem Filed.of_same (filed : before.Filed target old) (journal : after.journal = before.journal)
    (client : after.client.receiving = true →
      before.client.receiving = true ∧ after.client.handle = before.client.handle) : after.Filed target old := by
  constructor
  · rw [journal]
    exact filed.known
  · rw [journal]
    intro receiving
    rw [(client receiving).2]
    exact filed.opens (client receiving).1
  · rw [journal]
    exact filed.disk

theorem Filed.accepted {origin : Nat} {name : List Byte} (filed : before.Filed target old)
    (journal : after.journal = { before.journal with accepted := (origin, name) :: before.journal.accepted })
    (newer : ∀ entry ∈ before.journal.accepted, entry.1 < origin) (closed : after.client.handle = none) :
    after.Filed target old := by
  have nothing : after.journal.received origin = [] := by
    rw [journal, Journal.received, List.map_eq_nil_iff, List.filter_eq_nil_iff]
    intro arrival member chosen
    rcases List.mem_filter.mp member with ⟨member, same⟩
    rcases Option.isSome_iff_exists.mp chosen with ⟨name, chosen⟩
    have older := newer _ (filed.known arrival member name chosen)
    simp only [decide_eq_true_eq] at same
    omega
  have only : ∀ transfer name, after.journal.Latest transfer name → after.journal.received transfer = [] := by
    intro transfer name latest
    have head := latest.accepted
    rw [journal, List.head?_cons] at head
    cases head
    exact nothing
  constructor
  · rw [journal]
    exact fun arrival member name chosen => List.mem_cons_of_mem _ (filed.known arrival member name chosen)
  · exact fun _ transfer name latest => iff_of_true closed (only transfer name latest)
  · exact fun transfer name latest some => absurd (only transfer name latest) some

end Party

namespace Connection

variable {connection next : Connection} {session : Option (SessionData Nat)} {current : Option Nat} {transfer : Nat}
  {old : Disk} {answer : Answer} {opens : Bool}

theorem latest_arrived {block : FileDataMessage} {origin : Nat} {effects : List FileEffect} {name : List Byte}
    (came : (⟨.fileData block, origin⟩ : Letter Nat) ∈ (connection.party session).feed)
    (journal : next.journal =
      connection.journal.record connection.client answer opens ⟨.fileData block, origin⟩ effects)
    (fed : (connection.party session).Fed target transfer current) {latest : Nat}
    (last : next.journal.Latest latest name) :
    connection.journal.Latest latest name ∧ connection.client.fileTransfer.ReadyFor name ∧
      (connection.client.fileTransferHandle_ = none → opens = true) ∧
      next.journal.received latest = connection.journal.received latest ++ [block] := by
  have accepted : next.journal.accepted = connection.journal.accepted := by rw [journal]; rfl
  have arrivals : next.journal.arrivals = connection.journal.arrivals ++ [⟨origin, block,
      connection.journal.accepted.lookup origin, origin ∈ next.journal.unopened, effects⟩] := by rw [journal]; rfl
  have unopened : next.journal.unopened =
      if connection.client.isReceivingFile_ && connection.client.fileTransferHandle_.isNone && !opens then
        origin :: connection.journal.unopened else connection.journal.unopened := by rw [journal]; rfl
  have head := last.accepted
  rw [accepted] at head
  rcases List.head?_eq_some_iff.mp head with ⟨older, first⟩
  have before := ((fed.past (latest, name) (by rw [party, first]; exact List.mem_cons_self)).2 _ came).1
  have behind := last.last _ (by rw [arrivals]; exact List.mem_append_right _ List.mem_cons_self)
  have same : latest = origin := Nat.le_antisymm before behind
  subst same
  have notFailed : latest ∉ connection.journal.unopened := by
    intro failed
    apply last.opened
    rw [unopened]
    split
    · exact List.mem_cons_of_mem _ failed
    · exact failed
  have ready : connection.client.fileTransfer.ReadyFor name :=
    fed.ready latest name older first notFailed (Or.inr ⟨_, came, rfl, rfl⟩)
  refine ⟨⟨head, notFailed, fun arrival member => last.last arrival ?_⟩, ready, fun closed => ?_, ?_⟩
  · rw [arrivals]
    exact List.mem_append_left _ member
  · cases opens with
    | true => rfl
    | false =>
      have receiving : connection.client.isReceivingFile_ = true := ready.receiving
      have failed := last.opened
      rw [unopened, receiving, closed] at failed
      exact absurd List.mem_cons_self failed
  · exact Journal.received_arrived arrivals (by rw [first, List.lookup_cons_self])

theorem filed_arrived {block : FileDataMessage} {origin : Nat} {effects : List FileEffect}
    (came : (⟨.fileData block, origin⟩ : Letter Nat) ∈ (connection.party session).feed)
    (forward : 0 ≤ block.fileOffset target)
    (result : connection.client.availableMessage target answer opens elapsed origin (.fileData block) =
      .ok (next.client, effects))
    (journal : next.journal =
      connection.journal.record connection.client answer opens ⟨.fileData block, origin⟩ effects)
    (fed : (connection.party session).Fed target transfer current)
    (filed : (connection.party session).Filed target old) : (next.party session).Filed target old := by
  have arrivals : next.journal.arrivals = connection.journal.arrivals ++ [⟨origin, block,
      connection.journal.accepted.lookup origin, origin ∈ next.journal.unopened, effects⟩] := by rw [journal]; rfl
  constructor
  · intro arrival member name chosen
    have accepted : next.journal.accepted = connection.journal.accepted := by rw [journal]; rfl
    simp only [party] at member ⊢
    rw [accepted]
    rw [arrivals] at member
    rcases List.mem_append.mp member with earlier | now
    · exact filed.known arrival earlier name chosen
    · rw [List.mem_singleton.mp now] at chosen ⊢
      rcases List.lookup_eq_some_iff.mp chosen with ⟨newer, older, same, -⟩
      rw [same]
      exact List.mem_append_right _ List.mem_cons_self
  · intro receiving transfer name latest
    rcases latest_arrived came journal fed latest with ⟨-, ready, opened, received⟩
    apply iff_of_false
    · exact (SessionServer.block_written ready opened forward result (connection.journal.disk old)).2 receiving
    · simp only [party, received]
      exact List.append_ne_nil_of_right_ne_nil _ (List.cons_ne_nil _ _)
  · intro transfer name latest _
    rcases latest_arrived came journal fed latest with ⟨before, ready, opened, received⟩
    have written := (SessionServer.block_written ready opened forward result (connection.journal.disk old)).1
    simp only [party, Journal.disk_arrived arrivals, written, received, List.map_append, List.map_cons, List.map_nil]
    rw [show block.piece target = ((block.piece target).1, (block.piece target).2) from rfl, Files.assemble_append]
    congr 1
    have first := filed.opens ready.receiving transfer name before
    split
    · rename_i closed
      rw [show connection.journal.received transfer = [] from first.mp closed]
      rfl
    · rename_i open_
      exact filed.disk transfer name before fun none => open_ (first.mpr none)

theorem Handles.filed {letter : Letter Nat} {rest : List (Letter Nat)}
    (handles : connection.Handles target next answer opens letter) (waiting : connection.down = letter :: rest)
    (transfers : letter.message.ofTransfer = true) (left : next.down = rest)
    (receptive : connection.Receptive target current session (.readData answer opens elapsed))
    (fed : (connection.party session).Fed target transfer current)
    (filed : (connection.party session).Filed target old) : (next.party session).Filed target old := by
  have front := receptive letter (by rw [waiting, List.head?_cons])
  have feed := feed_cons session waiting transfers left
  cases handles with
  | aborts why client up journal =>
    refine filed.of_same journal fun receiving => ?_
    simp only [party, client] at receiving ⊢
    exact ⟨receiving, trivial⟩
  | starts sending client up journal =>
    refine filed.of_same journal fun receiving => ?_
    simp only [party, client] at receiving ⊢
    exact ⟨receiving, trivial⟩
  | stops turnedDown sending client up journal =>
    refine filed.of_same journal fun receiving => ?_
    simp only [party, client] at receiving
    cases receiving
  | @asks file origin client up journal =>
    cases answer with
    | refuse =>
      refine filed.of_same journal fun receiving => ?_
      simp only [party, client] at receiving
      cases receiving
    | cancelName =>
      refine filed.of_same journal fun receiving => ?_
      simp only [party, client] at receiving
      cases receiving
    | accept targetFileName =>
      have newer : ∀ entry ∈ connection.journal.accepted, entry.1 < origin :=
        fun entry member => ((fed.past entry member).2 _ (Party.front_mem feed)).2 rfl
      refine filed.accepted journal newer ?_
      simp only [party, client]
      exact (front targetFileName rfl).1
  | receives effects result client up journal => exact filed_arrived (Party.front_mem feed) front result journal fed filed

theorem Acts.filed {event : ClientEvent} (acts : connection.Acts target next event)
    (oneRole : connection.client.isSendingFile_ = true → connection.client.isReceivingFile_ = false)
    (receptive : connection.Receptive target current session event)
    (fed : (connection.party session).Fed target transfer current)
    (filed : (connection.party session).Filed target old) : (next.party session).Filed target old := by
  cases acts with
  | quiet client up down journal =>
    refine filed.of_same journal fun receiving => ?_
    simp only [party, client] at receiving ⊢
    exact ⟨receiving, trivial⟩
  | requested client up down journal =>
    refine filed.of_same journal fun receiving => ?_
    simp only [party, client] at receiving ⊢
    exact ⟨receiving, trivial⟩
  | cycled sending started sent client up down journal =>
    have apart : connection.client.fileTransfer.receiving = false := oneRole sending
    refine filed.of_same journal fun receiving => ?_
    simp only [party] at receiving
    cases client with
    | waits handle goesOn | sends block more handle goesOn =>
      rw [goesOn] at receiving
      exact Bool.noConfusion (apart.symm.trans receiving)
    | fails finished | ends block last finished =>
      rw [finished] at receiving
      cases receiving
  | handled letter rest waiting transfers handled =>
    rcases handles_of_handle transfers handled with ⟨left, handles⟩
    exact handles.filed waiting transfers left receptive fed filed

end Connection

namespace Network

variable {network next : Network} {old : Disk}

def Filed (target : Target) (old : Disk) (network : Network) : Prop :=
  ∀ client party, network.party client = some party → party.Filed target old

theorem Filed.step {event : Event} (filed : network.Filed target old) (supplied : network.Supplied target)
    (oneRole : ∀ client connection, network.connections client = some connection →
      connection.client.isSendingFile_ = true → connection.client.isReceivingFile_ = false)
    (condition : network.FilesApart target event) (stepped : network.step target event = some next) :
    next.Filed target old := by
  have served {client : SessionId} {letter : Letter Nat} {sent : SessionId → SessionData Nat → Option (Letter Nat)}
      {status : SessionId → StatusCode → StatusCode} {sender : SessionId → Bool → Bool}
      (serves : Serves network next client letter sent status sender) : next.Filed target old := by
    intro peer party found
    rcases serves.parties peer party found with ⟨before, was, same, -, journal, -, -⟩
    refine (filed peer before was).of_same journal fun receiving => ?_
    rw [same] at receiving ⊢
    exact ⟨receiving, rfl⟩
  cases moves_of_step stepped with
  | quiet parties =>
    intro peer party found
    rw [parties] at found
    exact filed peer party found
  | joins fresh vacant parties =>
    intro peer party found
    rw [parties] at found
    split at found
    · cases found
      exact Party.filed_empty rfl
    · exact filed peer party found
  | @acts client event connection acted there alive acts parties =>
    intro peer party found
    rw [parties] at found
    split at found
    · cases found
      have was := party_of_connection there
      exact acts.filed (oneRole client connection there) (condition connection there) (supplied client _ was)
        (filed client _ was)
    · exact filed peer party found
  | hears letter front known hears =>
    cases hears with
    | passes mode serves => exact served serves
    | refused why mode serves => exact served serves
    | answered answer active mode decided serves => exact served serves
    | accepted idle accepts mode current serves => exact served serves
    | relayed mode serves => exact served serves
  | leaves gone there connections =>
    intro peer party found
    rcases party_eq found with ⟨connection, known, rfl⟩
    rw [connections] at known
    exact (filed peer _ (party_of_connection known)).of_same rfl fun receiving => ⟨receiving, rfl⟩

end Network

namespace Handover

variable {handover next : Handover target} {client : SessionId}

/-- Files are sent in turn, and each client is receptive. -/
def Apart (handover : Handover target) (event : Exchange.Event target) : Prop :=
  handover.InTurn event ∧
    ∀ moves, Exchange.happens event = some moves → handover.exchange.network.FilesApart target moves

instance (handover : Handover target) (event : Exchange.Event target) : Decidable (handover.Apart event) :=
  @instDecidableAnd _ _ inferInstance (Option.decidableForallMem (Exchange.happens event))

structure Stored (old : Disk) (handover : Handover target) : Prop where
  sound : handover.Sound
  supplied : handover.exchange.network.Supplied target
  filed : handover.exchange.network.Filed target old

theorem Stored.step {old : Disk} (stored : handover.Stored old) {event : Exchange.Event target} (apart : handover.Apart event)
    (stepped : handover.step event = some next) : next.Stored old := by
  rcases Exchange.step_ok (step_ok stepped).1 with ⟨moves, happened, moved, -, -⟩
  have condition := apart.2 moves happened
  refine ⟨stored.sound.step apart.1 stepped, stored.supplied.step condition moved, ?_⟩
  exact stored.filed.step stored.supplied (fun client connection there => (stored.sound.exchange.offers client connection there).oneRole)
    condition moved

theorem stored_of_run (old : Disk) {events : List (Exchange.Event target)} (run : Run step Apart start events handover) :
    handover.Stored old := by
  apply run.invariant (Stored old) _ fun _ _ _ stored apart stepped => stored.step apart stepped
  refine ⟨sound_start, ?_, ?_⟩
  · intro client party there
    cases there
  · intro client party there
    cases there

/-- The file that the blocks of a transfer come from, and what they make on the disk. -/
theorem Stored.source {old : Disk} (stored : handover.Stored old) {connection : Connection}
    (there : handover.exchange.network.connections client = some connection) {transfer : Nat} {name : List Byte}
    (latest : connection.journal.Latest transfer name) (began : connection.journal.received transfer ≠ []) :
    ∃ other request offeredName file, handover.author transfer = some (other, request) ∧ other ≠ client ∧
      handover.sources other request = some (offeredName, file) ∧
      Files.InOrder (fun block index => block.IsBlockOf file index) (connection.journal.received transfer)
        (file.lastIndex + 1) ∧
      connection.journal.disk old name =
        Files.assemble 0#8 ((connection.journal.received transfer).map (FileDataMessage.piece target)) := by
  have party := Network.party_of_connection there
  have drawn := (stored.sound.drawn client _ party transfer).of_sublist
    ((connection.journal.received_sublist transfer).trans (List.sublist_append_left _ _))
  rcases drawn with none | ⟨other, request, offeredName, file, author, apart, source, inOrder⟩
  · exact absurd none began
  · refine ⟨other, request, offeredName, file, author, apart, source, ?_, ?_⟩
    · exact inOrder.of_inside _ fun block _ index isBlock => Nat.lt_succ_of_le isBlock.inside
    · exact (stored.filed client _ party).disk transfer name latest began

theorem disk_whole {blocks : List FileDataMessage} {file : File target}
    (inOrder : Files.InOrder (fun block index => block.IsBlockOf file index) blocks (file.lastIndex + 1))
    (whole : blocks.length = file.lastIndex + 1) :
    Files.assemble 0#8 (blocks.map (FileDataMessage.piece target)) = file.contents := by
  have placed := inOrder.map (FileDataMessage.piece target) fun block _ index _ isBlock => isBlock.placed
  rw [placed.assembled_whole 0#8 (Nat.le_refl _) (by rw [List.length_map, whole])]
  exact Files.take_past_last (by decide)

/-- Of the transfer that a client accepted last, each block that came stands in the file of the chosen name where it stands
in the file that another client's user offered; once as many came as that file has, the two files are the same. -/
theorem wholeFile (old : Disk) {events : List (Exchange.Event target)} (run : Run step Apart start events handover)
    {connection : Connection} (there : handover.exchange.network.connections client = some connection) {transfer : Nat}
    {name : List Byte} (latest : connection.journal.Latest transfer name)
    (began : connection.journal.received transfer ≠ []) :
    ∃ other, other ≠ client ∧ ∃ offeredName ∈ handover.exchange.offered other, ∃ file,
      (offeredName, file) ∈ handover.exchange.opened other ∧
      (∀ block ∈ connection.journal.received transfer, ∃ index, block.IsBlockOf file index ∧
        Files.block fileBlockSize (connection.journal.disk old name) index =
          Files.block fileBlockSize file.contents index) ∧
      ((connection.journal.received transfer).length = file.lastIndex + 1 →
        connection.journal.disk old name = file.contents) := by
  have stored := stored_of_run old run
  rcases stored.source there latest began with ⟨other, request, offeredName, file, -, apart, source, inOrder, saved⟩
  rcases stored.sound.sourced other request offeredName file source with ⟨offered, opened⟩
  have placed := inOrder.map (FileDataMessage.piece target) fun block _ index _ isBlock => isBlock.placed
  refine ⟨other, apart, offeredName, offered, file, opened, fun block member => ?_, fun whole => ?_⟩
  · rcases inOrder.exists_of_mem member with ⟨index, isBlock⟩
    rcases (placed.assembled 0#8 (Nat.le_refl _)).2 _ (List.mem_map_of_mem member) with ⟨place, -, here, same⟩
    have position := congrArg Prod.fst (isBlock.placed.symm.trans here)
    have index_eq : index = place := Nat.eq_of_mul_eq_mul_right (by decide) position
    subst index_eq
    exact ⟨index, isBlock, by rw [saved, same]⟩
  · rw [saved]
    exact disk_whole inOrder whole

theorem wholeFile_handing :
    ∃ (handover : Handover .m64) (connection : Connection), exec step start Exchange.handing = some handover ∧
      handover.exchange.network.connections 2 = some connection ∧ connection.journal.Latest 1 (ascii ['f']) ∧
      (connection.journal.received 1).length = 1 ∧
      ∃ other, other ≠ 2 ∧ ∃ offeredName ∈ handover.exchange.offered other, ∃ file,
        (offeredName, file) ∈ handover.exchange.opened other ∧
        (∀ block ∈ connection.journal.received 1, ∃ index, block.IsBlockOf file index ∧
          Files.block fileBlockSize (connection.journal.disk (fun _ => []) (ascii ['f'])) index =
            Files.block fileBlockSize file.contents index) ∧
        ((connection.journal.received 1).length = file.lastIndex + 1 →
          connection.journal.disk (fun _ => []) (ascii ['f']) = file.contents) := by
  have outcome : ((execMeets step (fun handover event => decide (handover.Apart event)) (start : Handover .m64)
      Exchange.handing).bind fun handover => (handover.exchange.network.connections 2).map fun connection =>
        (connection.journal.accepted.head?, connection.journal.unopened,
          connection.journal.arrivals.map Arrival.transfer, (connection.journal.received 1).length)) =
      some (some (1, ascii ['f']), [], [1], 1) := by
    decide +kernel
  rcases Option.bind_eq_some_iff.mp outcome with ⟨handover, executed, outcome⟩
  rcases Option.map_eq_some_iff.mp outcome with ⟨connection, there, outcome⟩
  simp only [Prod.mk.injEq] at outcome
  rcases outcome with ⟨accepted, unopened, transfers, received⟩
  have latest : connection.journal.Latest 1 (ascii ['f']) := Journal.latest_alone accepted unopened transfers
  have began : connection.journal.received 1 ≠ [] := by
    intro none
    rw [none] at received
    cases received
  exact ⟨handover, connection, exec_of_execMeets executed, there, latest, received,
    wholeFile (fun _ => []) (run_of_execDecide executed) there latest began⟩

end Handover

end LanMessenger
