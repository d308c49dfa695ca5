import LanMessenger.Network.Posts
import LanMessenger.Network.Requests

namespace LanMessenger

open CMemory Transition

variable {target : Target}

instance (transfer : FileTransfer) (answer : Answer) : Decidable (transfer.Admits answer) :=
  match answer with
  | .refuse => inferInstanceAs (Decidable (_ = true → transfer.handle = none))
  | .cancelName => inferInstanceAs (Decidable (transfer.handle = none))
  | .accept _ => inferInstanceAs (Decidable (_ ∧ _))

/-- The network, with the names of the files that each user offered, and the files that were opened under them to be sent,
as they were then. -/
structure Exchange (target : Target) where
  network : Network
  offered : SessionId → List (List Byte)
  opened : SessionId → List (List Byte × File target)

namespace Exchange

/-- A call of `cycle` finds a regular file if it opens one. -/
inductive Event (target : Target)
  | cycle (client : SessionId) (raw : FileDataMessage) (file : Option (File target))
  | other (event : Network.Event)

def happens : Event target → Option Network.Event
  | .cycle client raw file => some (.client client (.cycle raw (file.map File.reads)))
  | .other (.client _ (.cycle _ _)) => none
  | .other event => some event

def start : Exchange target := ⟨.start, fun _ => [], fun _ => []⟩

def recordOffered (exchange : Exchange target) : Event target → SessionId → List (List Byte)
  | .other (.client client (.sendFile fileName)) =>
    Function.update exchange.offered client (exchange.offered client ++ [fileName.text])
  | _ => exchange.offered

def recordOpened (exchange : Exchange target) : Event target → SessionId → List (List Byte × File target)
  | .cycle client _ file =>
    match exchange.network.connections client with
    | none => exchange.opened
    | some connection =>
      Function.update exchange.opened client (connection.client.recordOpened file (exchange.opened client))
  | _ => exchange.opened

def step (exchange : Exchange target) (event : Event target) : Option (Exchange target) :=
  (happens event).bind fun moves => (exchange.network.step target moves).map fun network =>
    ⟨network, exchange.recordOffered event, exchange.recordOpened event⟩

/-- A file has a name, a user offers one while no transfer is on, and answers a request in a way that the transfer in hand
admits. -/
def RolesApart (exchange : Exchange target) : Event target → Prop
  | .cycle client _ file => ∀ connection, exchange.network.connections client = some connection →
    connection.client.fileName_.text = [] → file = none
  | .other (.client client (.sendFile _)) => ∀ connection, exchange.network.connections client = some connection →
    connection.client.hasFileTransfer = false
  | .other (.client client (.readData answer _ _)) => ∀ connection, exchange.network.connections client = some connection →
    ∀ letter, connection.down.head? = some letter → letter.isRequest = true → connection.client.fileTransfer.Admits answer
  | _ => True

instance (connection : Connection) (answer : Answer) : Decidable (∀ letter, connection.down.head? = some letter →
    letter.isRequest = true → connection.client.fileTransfer.Admits answer) := Option.decidableForallMem _

instance (exchange : Exchange target) (event : Event target) : Decidable (exchange.RolesApart event) := by
  unfold RolesApart
  split
  · exact Option.decidableForallMem _
  · exact Option.decidableForallMem _
  · exact Option.decidableForallMem _
  · infer_instance

def Sourced (exchange : Exchange target) (client : SessionId) (block : FileDataMessage) : Prop :=
  ∃ name ∈ exchange.offered client, ∃ file index, (name, file) ∈ exchange.opened client ∧ block.IsBlockOf file index

def Sends (exchange : Exchange target) (client : SessionId) (message : Message) : Prop :=
  ∀ block, message = .fileData block → exchange.Sourced client block

def Tells (exchange : Exchange target) (client : SessionId) (message : Message) : Prop :=
  ∀ block, message = .fileData block → ∃ other, other ≠ client ∧ exchange.Sourced other block

def Places (exchange : Exchange target) (client : SessionId) (position : Nat) (data : List Byte) : Prop :=
  ∃ other, other ≠ client ∧ ∃ name ∈ exchange.offered other, ∃ file index, (name, file) ∈ exchange.opened other ∧
    index ≤ file.lastIndex ∧ position = index * fileBlockSize ∧ data = Files.block fileBlockSize file.contents index

structure Sound (exchange : Exchange target) : Prop where
  posted : exchange.network.Posted exchange.Sends exchange.Tells
  offers : ∀ client connection, exchange.network.connections client = some connection →
    connection.client.Offers (exchange.offered client) (exchange.opened client)
  written : ∀ client connection, exchange.network.connections client = some connection →
    ∀ arrival ∈ connection.journal.arrivals, ∀ fileName position data,
      .write fileName position data ∈ arrival.effects → exchange.Places client position data

variable {exchange next : Exchange target} {client : SessionId} {message : Message} {block : FileDataMessage}

structure Grows (exchange next : Exchange target) : Prop where
  offered : ∀ client, exchange.offered client ⊆ next.offered client
  opened : ∀ client, exchange.opened client ⊆ next.opened client

theorem Grows.sourced (grows : exchange.Grows next) (sourced : exchange.Sourced client block) : next.Sourced client block := by
  rcases sourced with ⟨name, was, file, index, there, isBlock⟩
  exact ⟨name, grows.offered client was, file, index, grows.opened client there, isBlock⟩

theorem Grows.sends (grows : exchange.Grows next) (sends : exchange.Sends client message) : next.Sends client message :=
  fun block same => grows.sourced (sends block same)

theorem Grows.tells (grows : exchange.Grows next) (tells : exchange.Tells client message) : next.Tells client message := by
  intro block same
  rcases tells block same with ⟨other, apart, sourced⟩
  exact ⟨other, apart, grows.sourced sourced⟩

theorem Grows.places (grows : exchange.Grows next) {position : Nat} {data : List Byte}
    (places : exchange.Places client position data) : next.Places client position data := by
  rcases places with ⟨other, apart, name, was, file, index, there, rest⟩
  exact ⟨other, apart, name, grows.offered other was, file, index, grows.opened other there, rest⟩

theorem step_ok {event : Event target} (stepped : exchange.step event = some next) :
    ∃ moves, happens event = some moves ∧ exchange.network.step target moves = some next.network ∧
      next.offered = exchange.recordOffered event ∧ next.opened = exchange.recordOpened event := by
  rcases Option.bind_eq_some_iff.mp stepped with ⟨moves, named, stepped⟩
  rcases Option.map_eq_some_iff.mp stepped with ⟨network, moved, rfl⟩
  exact ⟨moves, named, moved, rfl, rfl⟩

theorem happens_other {event moves : Network.Event} (named : (happens (.other event : Event target)) = some moves) :
    moves = event ∧ ∀ client raw fopen, event ≠ .client client (.cycle raw fopen) := by
  cases event with
  | client client act =>
    cases act with
    | cycle raw fopen => cases named
    | _ =>
      cases named
      exact ⟨rfl, by simp⟩
  | _ =>
    cases named
    exact ⟨rfl, by simp⟩

theorem grows_of_step {event : Event target} (stepped : exchange.step event = some next) : exchange.Grows next := by
  rcases step_ok stepped with ⟨-, -, -, offered, opened⟩
  constructor
  · intro peer
    rw [offered]
    unfold recordOffered
    split
    · rw [Function.update_apply]
      split
      · rename_i same
        subst same
        exact List.subset_append_left _ _
      · exact fun _ was => was
    · exact fun _ was => was
  · intro peer
    rw [opened]
    unfold recordOpened
    split
    · rename_i client _ file
      cases exchange.network.connections client with
      | none => exact fun _ was => was
      | some connection =>
        simp only [Function.update_apply]
        split
        · rename_i same
          subst same
          exact SessionServer.subset_recordOpened ..
        · exact fun _ was => was
    · exact fun _ was => was

theorem passes (exchange : Exchange target) : Server.Passes target exchange.Sends exchange.Tells where
  fixed client message fixed block same := by
    subst same
    cases fixed
  replies peer message own block same := by
    subst same
    cases own
  relays := by
    intro memory origin server client peer current data message letter other came relayed block same
    unfold Server.relayLetter at relayed
    split at relayed
    · cases relayed
    · cases message with
      | chat => cases relayed; cases same
      | fileRequest =>
        simp only at relayed
        split at relayed <;> cases relayed
        cases same
      | fileData sent =>
        rw [Server.dataLetter_some relayed] at same
        cases same
        rcases came sent rfl with ⟨name, was, file, index, there, isBlock⟩
        exact ⟨client, fun same => other same.symm, name, was, file, index, there, isBlock.copyFileData _⟩
      | _ => cases relayed

end Exchange

namespace Connection

variable {connection acted : Connection} {event : ClientEvent}

def recordOffered (event : ClientEvent) (offered : List (List Byte)) : List (List Byte) :=
  match event with
  | .sendFile fileName => offered ++ [fileName.text]
  | _ => offered

theorem offers_of_step {offered : List (List Byte)} {opened : List (List Byte × File target)}
    (offers : connection.client.Offers offered opened) (acts : connection.step target event = some acted)
    (other : ∀ raw fopen, event ≠ .cycle raw fopen)
    (free : ∀ fileName, event = .sendFile fileName → connection.client.hasFileTransfer = false)
    (admits : ∀ answer opens elapsed, event = .readData answer opens elapsed → ∀ letter,
      connection.down.head? = some letter → letter.isRequest = true → connection.client.fileTransfer.Admits answer) :
    acted.client.Offers (recordOffered event offered) opened := by
  unfold step at acts
  simp only at acts
  split at acts
  · cases acts
  · cases event with
    | chooseFile =>
      simp only at acts
      split at acts <;> cases acts
      exact offers
    | leavePrompt =>
      cases acts
      exact offers
    | sendFile fileName =>
      simp only at acts
      split at acts <;> cases acts
      exact offers.sendFile (free fileName rfl) 0 fileName
    | chat raw message =>
      rcases Option.map_eq_some_iff.mp acts with ⟨client, chatted, rfl⟩
      cases SessionServer.chat_some chatted
      exact offers.queue _
    | setNickName nickName =>
      cases acts
      exact offers.queue _
    | disconnect =>
      cases acts
      exact offers.queue _
    | cycle raw fopen => exact absurd rfl (other raw fopen)
    | writeData =>
      cases acts
      exact offers.queue _
    | readData answer opens elapsed =>
      simp only at acts
      split at acts
      · cases acts
      · rename_i letter rest waits
        have admits := admits answer opens elapsed rfl letter (by rw [waits]; rfl)
        unfold handle at acts
        split at acts
        · rename_i handled
          cases acts
          refine offers.availableMessage handled fun file same => admits ?_
          rw [Letter.isRequest, same]
        · cases acts
          exact offers
        · cases acts

theorem arrivals_of_step (acts : connection.step target event = some acted) :
    ∀ arrival ∈ acted.journal.arrivals, arrival ∈ connection.journal.arrivals ∨
      ∃ answer opens elapsed letter after, letter ∈ connection.down ∧
        connection.client.availableMessage target answer opens elapsed letter.origin letter.message =
          .ok (after, arrival.effects) := by
  intro arrival member
  unfold step at acts
  simp only at acts
  split at acts
  · cases acts
  · cases event with
    | readData answer opens elapsed =>
      simp only at acts
      split at acts
      · cases acts
      · rename_i letter rest waits
        unfold handle at acts
        split at acts
        · rename_i after effects handled
          cases acts
          simp only [Journal.record] at member
          split at member
          · exact Or.inl member
          · rcases List.mem_append.mp member with earlier | now
            · exact Or.inl earlier
            · rw [List.mem_singleton.mp now]
              exact Or.inr ⟨_, _, _, letter, after, by rw [waits]; exact List.mem_cons_self, handled⟩
          · exact Or.inl member
        · cases acts
          exact Or.inl member
        · cases acts
    | chooseFile | sendFile =>
      simp only at acts
      split at acts <;> cases acts
      exact Or.inl member
    | chat raw message =>
      rcases Option.map_eq_some_iff.mp acts with ⟨client, chatted, rfl⟩
      exact Or.inl member
    | _ =>
      cases acts
      exact Or.inl member

end Connection

theorem Network.connection_of_step {network next : Network} {event : Event} {peer : SessionId} {connection : Connection}
    (stepped : network.step target event = some next) (there : next.connections peer = some connection) :
    (∃ before, network.connections peer = some before ∧ connection.client = before.client ∧
        connection.journal = before.journal) ∨
      (∃ fileTransferBuffer_ fileName_ nickName_, connection.client = .new fileTransferBuffer_ fileName_ nickName_ 0 ∧
        connection.journal = .empty) ∨
      ∃ act before, event = .client peer act ∧ network.connections peer = some before ∧
        before.step target act = some connection := by
  cases steps_of_step stepped with
  | connect unused unknown =>
    rcases update_some there with ⟨rfl, rfl⟩ | ⟨-, was⟩
    · exact Or.inr (Or.inl ⟨_, _, _, rfl, rfl⟩)
    · exact Or.inl ⟨connection, was, rfl, rfl⟩
  | client known acts =>
    rcases update_some there with ⟨rfl, rfl⟩ | ⟨-, was⟩
    · exact Or.inr (Or.inr ⟨_, _, rfl, known, acts⟩)
    · exact Or.inl ⟨connection, was, rfl, rfl⟩
  | message known waits handled connections =>
    rw [connections] at there
    rcases update_some there with ⟨rfl, rfl⟩ | ⟨-, was⟩
    · exact Or.inl ⟨_, known, rfl, rfl⟩
    · exact Or.inl ⟨connection, was, rfl, rfl⟩
  | writeData known session =>
    rcases update_some there with ⟨rfl, rfl⟩ | ⟨-, was⟩
    · exact Or.inl ⟨_, known, rfl, rfl⟩
    · exact Or.inl ⟨connection, was, rfl, rfl⟩
  | removeSession removed => exact Or.inl ⟨connection, there, rfl, rfl⟩

namespace Exchange

variable {exchange next : Exchange target} {client : SessionId} {connection : Connection}

theorem sound_start : (start : Exchange target).Sound := by
  refine ⟨Network.posted_start, ?_, ?_⟩
  · intro client connection there
    cases there
  · intro client connection there
    cases there

theorem offers_new (fileTransferBuffer_ : Field maxMessageSize) (fileName_ : Field maxPathSize)
    (nickName_ : Field maxNicknameSize) (offered : List (List Byte)) (opened : List (List Byte × File target)) :
    (SessionServer.new fileTransferBuffer_ fileName_ nickName_ 0).Offers offered opened :=
  SessionServer.offers_disabled rfl rfl rfl rfl

theorem Sound.places (sound : exchange.Sound) (there : exchange.network.connections client = some connection)
    {answer : Answer} {opens : Bool} {elapsed : Int} {letter : Letter Nat} {after : SessionServer Nat} {effects : List FileEffect}
    {fileName data : List Byte} {position : Nat} (waits : letter ∈ connection.down)
    (handled : connection.client.availableMessage target answer opens elapsed letter.origin letter.message = .ok (after, effects))
    (written : .write fileName position data ∈ effects) : exchange.Places client position data := by
  rcases SessionServer.write_of_availableMessage handled written with ⟨block, same, outcome⟩
  rcases sound.posted.down client connection there letter waits block same with
    ⟨other, apart, name, was, file, index, opened, isBlock⟩
  have place := isBlock.fileOffset
  rcases outcome (by rw [place]; exact Int.natCast_nonneg _) with ⟨bytes, position⟩
  rw [place] at position
  exact ⟨other, apart, name, was, file, index, opened, isBlock.inside, Int.ofNat.inj position, bytes.trans isBlock.data⟩

theorem Sound.posted_step (sound : exchange.Sound) {event : Event target} (apart : exchange.RolesApart event)
    (stepped : exchange.step event = some next) : next.network.Posted next.Sends next.Tells := by
  have grows := grows_of_step stepped
  rcases step_ok stepped with ⟨moves, happened, moved, offered, opened⟩
  have posted : exchange.network.Posted next.Sends next.Tells := sound.posted.mono (fun _ _ => grows.sends) fun _ _ => grows.tells
  apply posted.step next.passes _ moved
  intro client act connection same there
  subst same
  constructor
  · intro raw message same block other
    cases other
  · intro raw fopen handle same sending started found block other
    subst same
    cases other
    cases event with
    | other event =>
      rcases happens_other happened with ⟨rfl, plain⟩
      exact absurd rfl (plain client raw fopen)
    | cycle client raw file =>
      cases happened
      rcases (sound.offers client connection there).sends sending started (apart connection there) found with
        ⟨name, was, file', index, calls, opens, before, rfl⟩
      refine ⟨name, grows.offered client was, file', index, ?_, before.isBlockOf raw calls⟩
      rw [opened, recordOpened, there]
      simp only [Function.update_self]
      exact opens

theorem Sound.client_step (sound : exchange.Sound) {event : Event target} (apart : exchange.RolesApart event)
    (stepped : exchange.step event = some next) {act : ClientEvent} {acted : Connection}
    (happened : happens event = some (.client client act))
    (there : exchange.network.connections client = some connection) (acts : connection.step target act = some acted) :
    acted.client.Offers (next.offered client) (next.opened client) := by
  have offers := sound.offers client connection there
  rcases step_ok stepped with ⟨-, -, -, offered, opened⟩
  cases event with
  | cycle client raw file =>
    cases happened
    have cycled := offers.cycle (apart connection there) raw 0
    rw [offered, opened, recordOpened, there]
    simp only [Function.update_self]
    unfold Connection.step at acts
    simp only at acts
    split at acts <;> cases acts
    exact cycled
  | other event =>
    rcases happens_other happened with ⟨rfl, plain⟩
    have after := Connection.offers_of_step offers acts (fun raw fopen same => plain client raw fopen (by rw [same])) ?_ ?_
    · rw [opened, offered]
      cases act with
      | sendFile fileName =>
        simp only [recordOffered, Function.update_self]
        exact after
      | _ => exact after
    · rintro fileName rfl
      exact apart connection there
    · rintro answer opens elapsed rfl
      exact apart connection there

theorem Sound.step (sound : exchange.Sound) {event : Event target} (apart : exchange.RolesApart event)
    (stepped : exchange.step event = some next) : next.Sound := by
  have grows := grows_of_step stepped
  have acted : ∀ {client act connection acted}, happens event = some (.client client act) →
      exchange.network.connections client = some connection → connection.step target act = some acted →
      acted.client.Offers (next.offered client) (next.opened client) := sound.client_step apart stepped
  refine ⟨sound.posted_step apart stepped, fun peer connection there => ?_, ?_⟩
  · rcases step_ok stepped with ⟨moves, happened, moved, -, -⟩
    rcases Network.connection_of_step moved there with ⟨before, was, client, -⟩ | ⟨_, _, _, client, -⟩ | ⟨act, before, rfl, was, acts⟩
    · rw [client]
      exact (sound.offers peer before was).mono (grows.offered peer) (grows.opened peer)
    · rw [client]
      exact offers_new _ _ _ _ _
    · exact acted happened was acts
  · intro peer connection there arrival member fileName position data written
    rcases step_ok stepped with ⟨moves, happened, moved, -, -⟩
    rcases Network.connection_of_step moved there with ⟨before, was, -, journal⟩ | ⟨_, _, _, -, journal⟩ | ⟨act, before, rfl, was, acts⟩
    · rw [journal] at member
      exact grows.places (sound.written peer before was arrival member fileName position data written)
    · rw [journal] at member
      cases member
    · apply grows.places
      rcases Connection.arrivals_of_step acts arrival member with
        earlier | ⟨answer, opens, elapsed, letter, after, waits, handled⟩
      · exact sound.written peer before was arrival earlier fileName position data written
      · exact sound.places was waits handled written

/-- What a client writes to a file is a block of a file that another client's user offered, as it was when it was opened,
and it is written where that file has it. -/
theorem piecesOfOffered {events : List (Event target)} (run : Run step RolesApart start events exchange)
    (there : exchange.network.connections client = some connection) :
    ∀ arrival ∈ connection.journal.arrivals, ∀ fileName position data, .write fileName position data ∈ arrival.effects →
      ∃ other, other ≠ client ∧ ∃ name ∈ exchange.offered other, ∃ file index, (name, file) ∈ exchange.opened other ∧
        index ≤ file.lastIndex ∧ position = index * fileBlockSize ∧ data = Files.block fileBlockSize file.contents index :=
  (run.invariant Sound sound_start fun _ _ _ sound apart stepped => sound.step apart stepped).written client connection there

/-- The first user offers a file of two bytes, which the second accepts. -/
def handing : List (Event .m64) :=
  ((Network.joining 1 ++ Network.joining 2 ++ Network.offering 1 ++ Network.hearing 2 (.accept Network.aFile) ++
    Network.speaking 2 ++ Network.hearing 1 .refuse).map Event.other) ++
    [.cycle 1 Heap.zeroed.fileData (some ⟨ascii ['h', 'i'], by decide⟩)] ++
    (Network.speaking 1 ++ Network.hearing 2 .refuse).map Event.other

theorem piecesOfOffered_handing :
    ∃ (exchange : Exchange .m64) (connection : Connection) (arrival : Arrival), exec step start handing = some exchange ∧
      exchange.network.connections 2 = some connection ∧ arrival ∈ connection.journal.arrivals ∧
      .write (ascii ['f']) 0 (ascii ['h', 'i']) ∈ arrival.effects ∧
      ∃ other, other ≠ 2 ∧ ∃ name ∈ exchange.offered other, ∃ file index, (name, file) ∈ exchange.opened other ∧
        index ≤ file.lastIndex ∧ 0 = index * fileBlockSize ∧
          ascii ['h', 'i'] = Files.block fileBlockSize file.contents index := by
  have outcome : ((execMeets step (fun exchange event => decide (exchange.RolesApart event)) (start : Exchange .m64)
      handing).bind fun exchange => (exchange.network.connections 2).map fun connection =>
        connection.journal.arrivals.map Arrival.effects) = some [[.truncate (ascii ['f']),
          .write (ascii ['f']) 0 (ascii ['h', 'i']), .received (ascii ['f'])]] := by
    decide +kernel
  rcases Option.bind_eq_some_iff.mp outcome with ⟨exchange, executed, outcome⟩
  rcases Option.map_eq_some_iff.mp outcome with ⟨connection, there, effects⟩
  rcases List.map_eq_cons_iff.mp effects with ⟨arrival, rest, arrivals, same, -⟩
  have member : arrival ∈ connection.journal.arrivals := by
    rw [arrivals]
    exact List.mem_cons_self
  have written : .write (ascii ['f']) 0 (ascii ['h', 'i']) ∈ arrival.effects := by
    rw [same]
    exact List.mem_cons_of_mem _ List.mem_cons_self
  exact ⟨exchange, connection, arrival, exec_of_execMeets executed, there, member, written,
    piecesOfOffered (run_of_execDecide executed) there arrival member _ _ _ written⟩

end Exchange

end LanMessenger
