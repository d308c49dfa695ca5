import LanMessenger.Files.Pieces
import LanMessenger.Network.Exchange
import LanMessenger.Network.Supplies

namespace LanMessenger

open CMemory Transition

variable {target : Target}

/-- The network and what was offered in it, with the series of requests and blocks that the server has handled of each
client, the file that was opened for each request, and the request that each transfer comes from. -/
structure Handover (target : Target) where
  exchange : Exchange target
  heard : SessionId → Series
  sources : SessionId → Nat → Option (List Byte × File target)
  author : Nat → Option (SessionId × Nat)

namespace Handover

def start : Handover target := ⟨.start, fun _ => .empty, fun _ _ => none, fun _ => none⟩

def recordHeard (handover : Handover target) : Exchange.Event target → SessionId → Series
  | .other (.message client _) =>
    Function.update handover.heard client ((handover.heard client).after (handover.exchange.network.front client).toList)
  | _ => handover.heard

def recordSources (handover : Handover target) :
    Exchange.Event target → SessionId → Nat → Option (List Byte × File target)
  | .cycle client _ file =>
    match handover.exchange.network.connections client with
    | none => handover.sources
    | some connection => Function.update handover.sources client (connection.client.recordSources
        ((handover.heard client).after connection.outgoing) file (handover.sources client))
  | _ => handover.sources

def recordAuthor (handover : Handover target) : Exchange.Event target → Nat → Option (SessionId × Nat)
  | .other (.message client _) =>
    match handover.exchange.network.front client with
    | none => handover.author
    | some letter =>
      if handover.exchange.network.server.accepts letter.message then
        Function.update handover.author (handover.exchange.network.poll.transfer + 1)
          (some (client, (handover.heard client).requests + 1))
      else handover.author
  | _ => handover.author

def step (handover : Handover target) (event : Exchange.Event target) : Option (Handover target) :=
  (handover.exchange.step event).map fun exchange =>
    ⟨exchange, handover.recordHeard event, handover.recordSources event, handover.recordAuthor event⟩

/-- A request finds room in the client's queue, and the server handles a block only of the client whose last request is the
transfer it accepted last. -/
def Followed (handover : Handover target) : Exchange.Event target → Prop
  | .other (.client client (.sendFile _)) => ∀ connection, handover.exchange.network.connections client = some connection →
    connection.client.outbox.canSendMessages = true
  | .other (.message client _) => ∀ letter, handover.exchange.network.front client = some letter → letter.isBlock = true →
    handover.author handover.exchange.network.poll.transfer = some (client, (handover.heard client).requests)
  | _ => True

instance (handover : Handover target) (event : Exchange.Event target) : Decidable (handover.Followed event) :=
  match event with
  | .other (.client client (.sendFile _)) => Option.decidableForallMem (handover.exchange.network.connections client)
  | .other (.message client _) => Option.decidableForallMem (handover.exchange.network.front client)
  | .cycle _ _ _ | .other (.connect _ _ _ _ _) | .other (.writeData _) | .other (.removeSession _)
  | .other (.client _ .chooseFile) | .other (.client _ .leavePrompt) | .other (.client _ (.chat _ _))
  | .other (.client _ (.setNickName _)) | .other (.client _ .disconnect) | .other (.client _ (.cycle _ _))
  | .other (.client _ .writeData) | .other (.client _ (.readData _ _ _)) => instDecidableTrue

def InTurn (handover : Handover target) (event : Exchange.Event target) : Prop :=
  handover.exchange.RolesApart event ∧ handover.Followed event

instance (handover : Handover target) (event : Exchange.Event target) : Decidable (handover.InTurn event) :=
  inferInstanceAs (Decidable (_ ∧ _))

/-- The blocks of the transfer are some of the file that its author opened for it, in order, and none twice. -/
def Drawn (handover : Handover target) (client : SessionId) (transfer : Nat) (blocks : List FileDataMessage) : Prop :=
  blocks = [] ∨ ∃ other request name file, handover.author transfer = some (other, request) ∧ other ≠ client ∧
    handover.sources other request = some (name, file) ∧
    Files.InOrder (fun block index => block.IsBlockOf file index) blocks ((handover.heard other).blocks request).length

structure Sound (handover : Handover target) : Prop where
  exchange : handover.exchange.Sound
  unknown : ∀ client, handover.exchange.network.connections client = none →
    handover.heard client = .empty ∧ handover.sources client = fun _ => none
  supplies : ∀ client connection, handover.exchange.network.connections client = some connection →
    connection.client.Supplies ((handover.heard client).after connection.outgoing) (handover.sources client)
  sourced : ∀ client request name file, handover.sources client request = some (name, file) →
    name ∈ handover.exchange.offered client ∧ (name, file) ∈ handover.exchange.opened client
  authored : ∀ transfer who, handover.author transfer = some who → transfer ≤ handover.exchange.network.poll.transfer
  drawn : ∀ client party, handover.exchange.network.party client = some party → ∀ transfer,
    handover.Drawn client transfer (party.pieces transfer)

structure Grows (handover next : Handover target) : Prop where
  author : ∀ transfer who, handover.author transfer = some who → next.author transfer = some who
  sources : ∀ client request source, handover.sources client request = some source → next.sources client request = some source
  heard : ∀ client request, ((handover.heard client).blocks request).length ≤ ((next.heard client).blocks request).length

variable {handover next : Handover target} {client : SessionId} {transfer : Nat} {blocks fewer : List FileDataMessage}

theorem Grows.drawn (grows : handover.Grows next) (drawn : handover.Drawn client transfer blocks) :
    next.Drawn client transfer blocks := by
  rcases drawn with none | ⟨other, request, name, file, author, apart, source, inOrder⟩
  · exact Or.inl none
  · exact Or.inr ⟨other, request, name, file, grows.author _ _ author, apart, grows.sources _ _ _ source,
      inOrder.mono (grows.heard other request)⟩

theorem Drawn.of_sublist (drawn : handover.Drawn client transfer blocks) (sublist : fewer.Sublist blocks) :
    handover.Drawn client transfer fewer := by
  rcases drawn with rfl | ⟨other, request, name, file, author, apart, source, inOrder⟩
  · exact Or.inl (List.sublist_nil.mp sublist)
  · exact Or.inr ⟨other, request, name, file, author, apart, source, inOrder.of_sublist sublist⟩

theorem step_ok {event : Exchange.Event target} (stepped : handover.step event = some next) :
    handover.exchange.step event = some next.exchange ∧ next.heard = handover.recordHeard event ∧
      next.sources = handover.recordSources event ∧ next.author = handover.recordAuthor event := by
  rcases Option.map_eq_some_iff.mp stepped with ⟨exchange, moved, rfl⟩
  exact ⟨moved, rfl, rfl, rfl⟩

/-- What a step leaves of the records: all, or the server handles a letter and enters it. -/
theorem recorded {event : Exchange.Event target} (stepped : handover.step event = some next) :
    (next.heard = handover.heard ∧ next.author = handover.author ∧
        ∀ client memory, event = .other (.message client memory) → handover.exchange.network.front client = none) ∨
      ∃ client memory letter, event = .other (.message client memory) ∧
        handover.exchange.network.front client = some letter ∧
        next.heard = Function.update handover.heard client ((handover.heard client).enter letter) ∧
        next.author = if handover.exchange.network.server.accepts letter.message then
          Function.update handover.author (handover.exchange.network.poll.transfer + 1)
            (some (client, (handover.heard client).requests + 1)) else handover.author := by
  rcases step_ok stepped with ⟨-, heard, -, author⟩
  by_cases message : ∃ client memory, event = .other (.message client memory)
  · rcases message with ⟨client, memory, rfl⟩
    rw [recordHeard] at heard
    rw [recordAuthor] at author
    cases front : handover.exchange.network.front client with
    | none =>
      rw [front] at heard author
      left
      refine ⟨?_, author, ?_⟩
      · rw [heard]
        exact Function.update_eq_self client handover.heard
      · rintro _ _ ⟨⟩
        exact front
    | some letter =>
      rw [front] at heard author
      exact Or.inr ⟨client, memory, letter, rfl, front, heard, author⟩
  · left
    refine ⟨?_, ?_, fun client memory same => absurd ⟨client, memory, same⟩ message⟩
    · rw [heard, recordHeard]
      exact fun client memory same => message ⟨client, memory, same⟩
    · rw [author, recordAuthor]
      exact fun client memory same => message ⟨client, memory, same⟩

theorem enter_of_accepts {server : Server Nat} {letter : Letter Nat} (accepts : server.accepts letter.message = true)
    (series : Series) : series.enter letter = { series with requests := series.requests + 1 } := by
  obtain ⟨message, origin⟩ := letter
  cases message with
  | fileRequest file => rfl
  | _ => cases accepts

theorem sound_start : (start : Handover target).Sound := by
  refine ⟨Exchange.sound_start, fun _ _ => ⟨rfl, rfl⟩, ?_, ?_, ?_, ?_⟩
  · intro client connection there
    cases there
  · intro client request name file source
    cases source
  · intro transfer who author
    cases author
  · intro client party there
    cases there

theorem Sound.sources_step (sound : handover.Sound) {event : Exchange.Event target} (client : SessionId) (request : Nat)
    (source : List Byte × File target) (known : handover.sources client request = some source) :
    handover.recordSources event client request = some source := by
  unfold recordSources
  split
  · rename_i peer _ file
    cases there : handover.exchange.network.connections peer with
    | none => exact known
    | some connection =>
      by_cases own : client = peer
      · subst own
        simp only [Function.update_self, SessionServer.recordSources]
        cases opens : connection.client.opens with
        | false => exact known
        | true =>
          simp only [SessionServer.opens, Bool.and_eq_true] at opens
          rw [if_pos rfl]
          by_cases last : request = ((handover.heard client).after connection.outgoing).requests
          · subst last
            rcases (sound.supplies client connection there).reads opens.1.1 with ⟨-, -, unopened, -⟩ | ⟨_, _, _, -, -, -, held⟩
            · rw [unopened] at known
              cases known
            · rw [held] at opens
              cases opens.2
          · rw [Function.update_of_ne last]
            exact known
      · simp only [Function.update_of_ne own]
        exact known
  · exact known

theorem Sound.author_step (sound : handover.Sound) {event : Exchange.Event target} (stepped : handover.step event = some next)
    (transfer : Nat) (who : SessionId × Nat) (known : handover.author transfer = some who) :
    next.author transfer = some who := by
  rcases recorded stepped with ⟨-, author, -⟩ | ⟨client, memory, letter, -, -, -, author⟩
  · rw [author]
    exact known
  · rw [author]
    split
    · have bound := sound.authored transfer who known
      rw [Function.update_of_ne (by omega)]
      exact known
    · exact known

theorem Sound.grows (sound : handover.Sound) {event : Exchange.Event target} (stepped : handover.step event = some next) :
    handover.Grows next := by
  constructor
  · exact sound.author_step stepped
  · rw [(step_ok stepped).2.2.1]
    exact sound.sources_step
  · intro peer request
    rcases recorded stepped with ⟨heard, -, -⟩ | ⟨client, memory, letter, -, -, heard, -⟩
    · rw [heard]
    · rw [heard]
      by_cases own : peer = client
      · subst own
        rw [Function.update_self]
        exact (Series.isPrefix_enter _ _ request).length_le
      · rw [Function.update_of_ne own]

theorem heard_unknown {event : Exchange.Event target} (unknown : handover.exchange.network.connections client = none) :
    handover.recordHeard event client = handover.heard client := by
  unfold recordHeard
  split
  · rename_i peer _
    by_cases own : client = peer
    · subst own
      rw [Function.update_self, Network.front, unknown]
      rfl
    · rw [Function.update_of_ne own]
  · rfl

theorem sources_unknown {event : Exchange.Event target} (unknown : handover.exchange.network.connections client = none) :
    handover.recordSources event client = handover.sources client := by
  unfold recordSources
  split
  · rename_i peer _ _
    by_cases own : client = peer
    · subst own
      rw [unknown]
    · cases handover.exchange.network.connections peer with
      | none => rfl
      | some connection => simp only [Function.update_of_ne own]
  · rfl

theorem Sound.unknown_step (sound : handover.Sound) {event : Exchange.Event target}
    (stepped : handover.step event = some next) (client : SessionId) (unknown : next.exchange.network.connections client = none) :
    next.heard client = .empty ∧ next.sources client = fun _ => none := by
  rcases step_ok stepped with ⟨exchanged, heard, sources, -⟩
  rcases Exchange.step_ok exchanged with ⟨moves, -, moved, -, -⟩
  have never : handover.exchange.network.connections client = none := by
    by_contra known
    have still := Network.isSome_connections_step moved (Option.isSome_iff_ne_none.mpr known)
    rw [unknown] at still
    cases still
  rw [heard, sources, heard_unknown never, sources_unknown never]
  exact sound.unknown client never

theorem Sound.supplies_cycle (sound : handover.Sound) {peer : SessionId} {raw : FileDataMessage} {file : Option (File target)}
    (stepped : handover.step (.cycle peer raw file) = some next) {connection : Connection}
    (there : next.exchange.network.connections client = some connection) :
    connection.client.Supplies ((next.heard client).after connection.outgoing) (next.sources client) := by
  rcases step_ok stepped with ⟨exchanged, heard, sources, -⟩
  rcases Exchange.step_ok exchanged with ⟨moves, happened, moved, -, -⟩
  cases happened
  have unheard : next.heard = handover.heard := heard
  rw [unheard, sources, recordSources]
  generalize next.exchange.network = after at moved there
  cases Network.steps_of_step moved with
  | @client _ _ before acted was acts =>
    rcases Network.update_some there with ⟨rfl, rfl⟩ | ⟨other, same⟩
    · simp only [was, Function.update_self]
      exact Connection.supplies_of_cycle (sound.supplies client before was) acts
    · simp only [was, Function.update_of_ne other]
      exact sound.supplies client connection same

theorem Sound.supplies_other (sound : handover.Sound) {event : Network.Event} (inTurn : handover.InTurn (.other event))
    (stepped : handover.step (.other event) = some next) {connection : Connection}
    (there : next.exchange.network.connections client = some connection) :
    connection.client.Supplies ((next.heard client).after connection.outgoing) (next.sources client) := by
  rcases step_ok stepped with ⟨exchanged, heard, sources, -⟩
  rcases Exchange.step_ok exchanged with ⟨moves, happened, moved, -, -⟩
  rcases Exchange.happens_other happened with ⟨rfl, plain⟩
  have unchanged : next.sources = handover.sources := sources
  rw [heard, unchanged]
  generalize next.exchange.network = after at moved there
  cases Network.steps_of_step moved with
  | connect unused unknown =>
    rcases Network.update_some there with ⟨rfl, rfl⟩ | ⟨other, same⟩
    · rcases sound.unknown client unused with ⟨nothing, unopened⟩
      rw [heard_unknown unused, nothing, unopened]
      exact ⟨Series.kept_empty, fun sending => Bool.noConfusion sending⟩
    · exact sound.supplies client connection same
  | @client peer act before acted was acts =>
    rcases Network.update_some there with ⟨rfl, rfl⟩ | ⟨other, same⟩
    · apply Connection.supplies_of_step (sound.supplies client before was) (sound.exchange.offers client before was) acts
      · exact fun raw fopen same => plain client raw fopen (by rw [same])
      · rintro fileName rfl
        exact ⟨inTurn.1 before was, inTurn.2 before was⟩
    · exact sound.supplies client connection same
  | @message peer memory before letter rest _ was waiting handled connections =>
    rw [connections] at there
    rw [recordHeard, Network.front_of_waiting was waiting]
    rcases Network.update_some there with ⟨rfl, rfl⟩ | ⟨other, same⟩
    · rw [Function.update_self]
      have supplies := sound.supplies client before was
      rw [Connection.outgoing, waiting] at supplies
      exact supplies
    · rw [Function.update_of_ne other]
      exact sound.supplies client connection same
  | @writeData peer before data was session =>
    rcases Network.update_some there with ⟨rfl, rfl⟩ | ⟨other, same⟩
    · exact sound.supplies client before was
    · exact sound.supplies client connection same
  | removeSession removed => exact sound.supplies client connection there

theorem opened_of_sources {event : Exchange.Event target} {request : Nat} {source : List Byte × File target}
    (recorded : handover.recordSources event client request = some source) :
    handover.sources client request = some source ∨ ∃ raw file connection, event = .cycle client raw (some file) ∧
      handover.exchange.network.connections client = some connection ∧ connection.client.opens = true ∧
      source = (connection.client.fileName_.text, file) := by
  unfold recordSources at recorded
  split at recorded
  · rename_i peer raw found
    cases there : handover.exchange.network.connections peer with
    | none =>
      rw [there] at recorded
      exact Or.inl recorded
    | some connection =>
      simp only [there, Function.update_apply] at recorded
      split at recorded
      · rename_i own
        subst own
        unfold SessionServer.recordSources at recorded
        split at recorded
        · rename_i opens
          rw [Function.update_apply] at recorded
          split at recorded
          · rcases Option.map_eq_some_iff.mp recorded with ⟨file, rfl, rfl⟩
            exact Or.inr ⟨raw, file, connection, rfl, there, opens, rfl⟩
          · exact Or.inl recorded
        · exact Or.inl recorded
      · exact Or.inl recorded
  · exact Or.inl recorded

theorem Sound.sourced_step (sound : handover.Sound) {event : Exchange.Event target} (inTurn : handover.InTurn event)
    (stepped : handover.step event = some next) (client : SessionId) (request : Nat) (name : List Byte) (file : File target)
    (source : next.sources client request = some (name, file)) :
    name ∈ next.exchange.offered client ∧ (name, file) ∈ next.exchange.opened client := by
  rcases step_ok stepped with ⟨exchanged, -, sources, -⟩
  have grows := Exchange.grows_of_step exchanged
  rw [sources] at source
  rcases opened_of_sources source with earlier | ⟨raw, found, connection, rfl, there, opens, same⟩
  · rcases sound.sourced client request name file earlier with ⟨offered, opened⟩
    exact ⟨grows.offered client offered, grows.opened client opened⟩
  · cases same
    have sending : connection.client.isSendingFile_ = true := by
      simp only [SessionServer.opens, Bool.and_eq_true] at opens
      exact opens.1.1
    constructor
    · rcases (sound.exchange.offers client connection there).named sending with offered | unnamed
      · exact grows.offered client offered
      · cases inTurn.1 connection there unnamed
    · rcases Exchange.step_ok exchanged with ⟨-, -, -, -, opened⟩
      rw [opened, Exchange.recordOpened, there]
      simp only [Function.update_self, SessionServer.recordOpened, opens, if_true]
      exact List.mem_append_right _ List.mem_cons_self

end Handover

theorem Network.poll_of_step {network next : Network} {event : Event} (stepped : network.step target event = some next)
    (other : ∀ client memory, event ≠ .message client memory) : next.poll = network.poll := by
  cases steps_of_step stepped with
  | message => exact absurd rfl (other _ _)
  | connect | client | writeData | removeSession => rfl

theorem Network.hears_of_step {network next : Network} {client : SessionId} {memory : Memory}
    (stepped : network.step target (.message client memory) = some next) :
    ∃ letter, network.front client = some letter ∧ next.poll = network.poll.hear network.server client letter ∧
      Hears target memory network next client letter := by
  cases steps_of_step stepped with
  | message there waiting handled connections poll decisions =>
    refine ⟨_, front_of_waiting there waiting, poll,
      hears_of_reaction (Server.availableMessage_reaction handled) (fun sent status sender spreads => ?_) poll decisions⟩
    exact serves_of_spreads there waiting connections spreads

namespace Handover

variable {handover next : Handover target} {client : SessionId} {transfer : Nat} {blocks : List FileDataMessage}

theorem Sound.authored_step (sound : handover.Sound) {event : Exchange.Event target}
    (stepped : handover.step event = some next) (transfer : Nat) (who : SessionId × Nat)
    (author : next.author transfer = some who) : transfer ≤ next.exchange.network.poll.transfer := by
  rcases Exchange.step_ok (step_ok stepped).1 with ⟨moves, happened, moved, -, -⟩
  rcases recorded stepped with ⟨-, same, silent⟩ | ⟨client, memory, letter, rfl, front, -, entered⟩
  · rw [same] at author
    rw [Network.poll_of_step moved ?_]
    · exact sound.authored transfer who author
    · rintro client memory rfl
      rcases Network.hears_of_step moved with ⟨letter, front, -, -⟩
      cases event with
      | cycle => cases happened
      | other event =>
        rcases Exchange.happens_other happened with ⟨rfl, -⟩
        rw [silent client memory rfl] at front
        cases front
  · cases happened
    generalize next.exchange.network = after at moved
    cases Network.steps_of_step moved with
    | @message _ _ before first rest _ was waiting handled connections poll =>
      cases front.symm.trans (Network.front_of_waiting was waiting)
      rw [poll]
      rw [entered] at author
      split at author
      · rename_i accepts
        rw [Network.hear_accepted accepts]
        by_cases now : transfer = handover.exchange.network.poll.transfer + 1
        · exact Nat.le_of_eq now
        · rw [Function.update_of_ne now] at author
          exact Nat.le_succ_of_le (sound.authored transfer who author)
      · rename_i refused
        rw [Network.hear_transfer (Bool.eq_false_iff.mpr refused)]
        exact sound.authored transfer who author

theorem Sound.front_block (sound : handover.Sound) {block : FileDataMessage} {origin : Nat}
    (front : handover.exchange.network.front client = some ⟨.fileData block, origin⟩) :
    ∃ name file, handover.sources client (handover.heard client).requests = some (name, file) ∧
      block.IsBlockOf file ((handover.heard client).blocks (handover.heard client).requests).length := by
  rcases Option.bind_eq_some_iff.mp front with ⟨connection, there, first⟩
  rcases List.head?_eq_some_iff.mp first with ⟨rest, waiting⟩
  have kept := (sound.supplies client connection there).kept
  apply kept.inOrder
  rw [Connection.outgoing, waiting, List.cons_append, Series.after_cons]
  rcases Series.isPrefix_after ((handover.heard client).enter ⟨.fileData block, origin⟩)
    (rest ++ connection.client.outbox.sendingQueue_) (handover.heard client).requests with ⟨later, same⟩
  rw [← same]
  simp [Series.enter]

theorem Sound.drawn_same (sound : handover.Sound) (grows : handover.Grows next) {peer : SessionId} {before after : Party}
    (was : handover.exchange.network.party peer = some before) (pieces : after.pieces transfer = before.pieces transfer) :
    next.Drawn peer transfer (after.pieces transfer) := by
  rw [pieces]
  exact grows.drawn (sound.drawn peer before was transfer)

theorem Sound.drawn_relayed (sound : handover.Sound) (grows : handover.Grows next) {block copy : FileDataMessage} {origin : Nat}
    {peer : SessionId} (other : client ≠ peer)
    (front : handover.exchange.network.front client = some ⟨.fileData block, origin⟩)
    (author : handover.author transfer = some (client, (handover.heard client).requests))
    (heard : next.heard client = (handover.heard client).enter ⟨.fileData block, origin⟩)
    (copied : ∀ (file : File target) index, block.IsBlockOf file index → copy.IsBlockOf file index)
    (drawn : handover.Drawn peer transfer blocks) : next.Drawn peer transfer (blocks ++ [copy]) := by
  rcases sound.front_block front with ⟨name, file, source, isBlock⟩
  have length : ((next.heard client).blocks (handover.heard client).requests).length =
      ((handover.heard client).blocks (handover.heard client).requests).length + 1 := by
    rw [heard]
    simp only [Series.enter, Function.update_self, List.length_append, List.length_singleton]
  refine Or.inr ⟨client, (handover.heard client).requests, name, file, grows.author _ _ author, other,
    grows.sources _ _ _ source, ?_⟩
  rw [length]
  refine Files.InOrder.comes ?_ copy (copied file _ isBlock)
  rcases drawn with rfl | ⟨peer, request, _, before, known, -, opened, inOrder⟩
  · exact Files.InOrder.nil _
  · rw [author] at known
    cases known
    rw [source] at opened
    cases opened
    exact inOrder

theorem Sound.drawn_hears (sound : handover.Sound) (grows : handover.Grows next) {memory : Memory} {letter : Letter Nat}
    (front : handover.exchange.network.front client = some letter)
    (author : letter.isBlock = true →
      handover.author handover.exchange.network.poll.transfer = some (client, (handover.heard client).requests))
    (heard : next.heard client = (handover.heard client).enter letter)
    (hears : Network.Hears target memory handover.exchange.network next.exchange.network client letter)
    (peer : SessionId) (party : Party) (found : next.exchange.network.party peer = some party) (transfer : Nat) :
    next.Drawn peer transfer (party.pieces transfer) := by
  cases hears with
  | passes mode serves =>
    rcases serves.pieces_same (fun _ _ _ offered => by cases offered) found with ⟨before, was, pieces⟩
    exact sound.drawn_same grows was (pieces transfer)
  | refused why mode serves =>
    have pieces := serves.pieces_same ?_ found
    · rcases pieces with ⟨before, was, pieces⟩
      exact sound.drawn_same grows was (pieces transfer)
    · intro peer data told offered
      split at offered
      · cases offered
        rfl
      · cases offered
  | answered answer active mode decided serves =>
    have pieces := serves.pieces_same ?_ found
    · rcases pieces with ⟨before, was, pieces⟩
      exact sound.drawn_same grows was (pieces transfer)
    · intro peer data told offered
      rcases Server.decisionLetter_some offered with ⟨code, -, rfl⟩
      rfl
  | accepted idle accepts mode current serves =>
    have pieces := serves.pieces_same ?_ found
    · rcases pieces with ⟨before, was, pieces⟩
      exact sound.drawn_same grows was (pieces transfer)
    · intro peer data told offered
      split at offered
      · cases offered
      · cases offered
        rfl
  | @relayed block origin mode serves =>
    rcases serves.pieces found with ⟨before, was, pieces | ⟨data, told, offered, pieces⟩⟩
    · exact sound.drawn_same grows was (pieces transfer)
    · split at offered
      · cases offered
      · rename_i other
        have pieces := pieces transfer
        rw [Server.dataLetter_some offered, Letter.blockOf_fileData] at pieces
        by_cases now : handover.exchange.network.poll.transfer = transfer
        · rw [pieces, if_pos now]
          have drawn := sound.drawn peer before was transfer
          rw [now] at author
          exact sound.drawn_relayed grows (fun same => other same.symm) front (author rfl) heard
            (fun file index isBlock => isBlock.copyFileData _) drawn
        · rw [if_neg now, Option.toList_none, List.append_nil] at pieces
          exact sound.drawn_same grows was pieces

theorem Sound.drawn_step (sound : handover.Sound) {event : Exchange.Event target} (inTurn : handover.InTurn event)
    (stepped : handover.step event = some next) (peer : SessionId) (party : Party)
    (found : next.exchange.network.party peer = some party) (transfer : Nat) :
    next.Drawn peer transfer (party.pieces transfer) := by
  have grows := sound.grows stepped
  rcases step_ok stepped with ⟨exchanged, heard, -, -⟩
  rcases Exchange.step_ok exchanged with ⟨moves, happened, moved, -, -⟩
  cases Network.moves_of_step moved with
  | quiet parties =>
    rw [parties] at found
    exact sound.drawn_same grows found rfl
  | joins fresh vacant parties =>
    rw [parties] at found
    split at found
    · cases found
      exact Or.inl rfl
    · exact sound.drawn_same grows found rfl
  | @acts client act connection acted there alive acts parties =>
    rw [parties] at found
    split at found
    · rename_i own
      subst own
      cases found
      exact sound.drawn_same grows (Network.party_of_connection there) (acts.pieces _ transfer)
    · exact sound.drawn_same grows found rfl
  | @hears client memory letter front known hears =>
    have message : event = .other (.message client memory) := by
      cases event with
      | cycle => cases happened
      | other event =>
        rcases Exchange.happens_other happened with ⟨rfl, -⟩
        rfl
    subst message
    apply sound.drawn_hears grows front (inTurn.2 letter front) _ hears peer party found transfer
    rw [heard, recordHeard, Function.update_self, front]
    rfl
  | @leaves client gone there connections sessions =>
    rcases Network.party_eq found with ⟨connection, known, rfl⟩
    rw [connections] at known
    have drawn := sound.drawn peer _ (Network.party_of_connection known) transfer
    apply grows.drawn (drawn.of_sublist _)
    rw [sessions]
    split
    · apply List.Sublist.append (List.Sublist.refl _)
      apply List.Sublist.filterMap
      cases handover.exchange.network.server.findSession peer with
      | none => exact List.Sublist.refl _
      | some data => exact List.sublist_append_left _ _
    · exact List.Sublist.refl _

theorem Sound.step (sound : handover.Sound) {event : Exchange.Event target} (inTurn : handover.InTurn event)
    (stepped : handover.step event = some next) : next.Sound where
  exchange := sound.exchange.step inTurn.1 (step_ok stepped).1
  unknown := sound.unknown_step stepped
  supplies client connection there := by
    cases event with
    | cycle => exact sound.supplies_cycle stepped there
    | other => exact sound.supplies_other inTurn stepped there
  sourced := sound.sourced_step inTurn stepped
  authored := sound.authored_step stepped
  drawn := sound.drawn_step inTurn stepped

theorem sound_of_run {events : List (Exchange.Event target)} (run : Run step InTurn start events handover) : handover.Sound :=
  run.invariant Sound sound_start fun _ _ _ sound inTurn stepped => sound.step inTurn stepped

/-- The blocks of a transfer that came to a client are blocks of one file, which another client's user offered and which was
opened to be sent; they came in their order in that file, and none came twice. -/
theorem blocksInOrder {events : List (Exchange.Event target)} (run : Run step InTurn start events handover)
    {connection : Connection} (there : handover.exchange.network.connections client = some connection) (transfer : Nat) :
    connection.journal.arrived transfer = [] ∨
      ∃ other, other ≠ client ∧ ∃ name ∈ handover.exchange.offered other, ∃ file,
        (name, file) ∈ handover.exchange.opened other ∧
        Files.InOrder (fun block index => block.IsBlockOf file index) (connection.journal.arrived transfer)
          (file.lastIndex + 1) := by
  have sound := sound_of_run run
  have drawn := sound.drawn client _ (Network.party_of_connection there) transfer
  have drawn := drawn.of_sublist (List.sublist_append_left _ _)
  rcases drawn with none | ⟨other, request, name, file, -, apart, source, inOrder⟩
  · exact Or.inl none
  · rcases sound.sourced other request name file source with ⟨offered, opened⟩
    refine Or.inr ⟨other, apart, name, offered, file, opened, ?_⟩
    exact inOrder.of_inside _ fun block _ index isBlock => Nat.lt_succ_of_le isBlock.inside

theorem blocksInOrder_handing :
    ∃ (handover : Handover .m64) (connection : Connection) (block : FileDataMessage),
      exec step start Exchange.handing = some handover ∧ handover.exchange.network.connections 2 = some connection ∧
      connection.journal.arrived 1 = [block] ∧ block.data = ascii ['h', 'i'] ∧
      (connection.journal.arrived 1 = [] ∨
        ∃ other, other ≠ 2 ∧ ∃ name ∈ handover.exchange.offered other, ∃ file,
          (name, file) ∈ handover.exchange.opened other ∧
          Files.InOrder (fun block index => block.IsBlockOf file index) (connection.journal.arrived 1)
            (file.lastIndex + 1)) := by
  have outcome : ((execMeets step (fun handover event => decide (handover.InTurn event)) (start : Handover .m64)
      Exchange.handing).bind fun handover => (handover.exchange.network.connections 2).map fun connection =>
        (connection.journal.arrived 1).map FileDataMessage.data) = some [ascii ['h', 'i']] := by
    decide +kernel
  rcases Option.bind_eq_some_iff.mp outcome with ⟨handover, executed, outcome⟩
  rcases Option.map_eq_some_iff.mp outcome with ⟨connection, there, outcome⟩
  rcases List.map_eq_singleton_iff.mp outcome with ⟨block, arrived, data⟩
  exact ⟨handover, connection, block, exec_of_execMeets executed, there, arrived, data,
    blocksInOrder (run_of_execDecide executed) there 1⟩

end Handover

end LanMessenger
