import LanMessenger.Network.Requests

namespace LanMessenger

open CMemory

def FileEffect.fileName : FileEffect → List Byte
  | truncate fileName | write fileName _ _ | received fileName => fileName

/-- The block is written at its offset to the file of that name, and no other file is touched. -/
def Arrival.Saved (target : Target) (name : List Byte) (arrival : Arrival) : Prop :=
  (∃ position : Nat, position = arrival.block.fileOffset target ∧
    .write name position arrival.block.buffer ∈ arrival.effects) ∧
  ∀ effect ∈ arrival.effects, effect.fileName = name

structure FileTransfer.ReadyFor (name : List Byte) (client : FileTransfer) : Prop where
  receiving : client.receiving = true
  started : client.started = false
  fileName : client.fileName = name
  handle : client.handle = none ∨ ∃ position, client.handle = some (.writing name position)

namespace SessionServer

variable {τ : Type} {target : Target} {session after : SessionServer τ} {name : List Byte}

theorem saveData_ready (ready : session.fileTransfer.ReadyFor name) {opens : Bool}
    (opened : session.fileTransferHandle_ = none → opens = true) (buffer : List Byte) {offset : Int}
    (forward : 0 ≤ offset) :
    ∃ position effects, session.saveData opens buffer offset =
        ({ session with fileTransferHandle_ := some (.writing name position) }, effects) ∧
      .write name offset.toNat buffer ∈ effects ∧ ∀ effect ∈ effects, effect.fileName = name := by
  obtain ⟨receiving, -, named, handle⟩ := ready
  simp only [fileTransfer] at receiving named handle
  have notBack : ¬ offset < 0 := Int.not_lt.mpr forward
  unfold saveData
  rw [receiving, Bool.not_true, if_neg Bool.false_ne_true]
  rcases handle with closed | ⟨position, writing⟩
  · rw [closed, opened closed]
    simp only [Bool.not_true, Bool.false_eq_true, if_false, FileHandle.fseek, FileHandle.fwrite, if_neg notBack, named]
    exact ⟨_, _, rfl, by simp, by simp [FileEffect.fileName]⟩
  · rw [writing]
    simp only [FileHandle.fseek, FileHandle.fwrite, if_neg notBack]
    exact ⟨_, _, rfl, by simp, by simp [FileEffect.fileName]⟩

theorem block_saved {answer : Answer} {opens : Bool} {elapsed : Int} {origin : τ} {block : FileDataMessage}
    {effects : List FileEffect}
    (ready : session.fileTransfer.ReadyFor name) (opened : session.fileTransferHandle_ = none → opens = true)
    (forward : 0 ≤ block.fileOffset target)
    (result : session.availableMessage target answer opens elapsed origin (.fileData block) = .ok (after, effects)) :
    .write name (block.fileOffset target).toNat block.buffer ∈ effects ∧ (∀ effect ∈ effects, effect.fileName = name) ∧
      (block.isLast = false → after.fileTransfer.ReadyFor name) := by
  obtain ⟨position, saved, same, written, names⟩ := saveData_ready ready opened block.buffer forward
  have receiving : session.isReceivingFile_ = true := ready.receiving
  simp only [availableMessage, receiving, Bool.not_true, Bool.false_eq_true, if_false, same,
    FileDataMessage.isLastBlock] at result
  cases last : block.isLast with
  | true =>
    rw [last, if_pos rfl] at result
    cases result
    refine ⟨List.mem_append_left _ written, ?_, fun more => by cases more⟩
    intro effect member
    rcases List.mem_append.mp member with earlier | new
    · exact names effect earlier
    · rw [List.mem_singleton.mp new]
      exact ready.fileName
  | false =>
    rw [last, if_neg Bool.false_ne_true] at result
    cases result
    refine ⟨written, names, fun _ => ?_⟩
    exact ⟨rfl, ready.started, ready.fileName, Or.inr ⟨position, rfl⟩⟩

end SessionServer

/-- The order in which the server sends what belongs to transfers. -/
def Letter.Before (earlier later : Letter Nat) : Prop :=
  earlier.origin ≤ later.origin ∧
    (earlier.isLastBlock = true ∨ later.isRequest = true → earlier.origin < later.origin)

namespace Party

def feed (party : Party) : List (Letter Nat) := party.downstream.filter Letter.isOwn

/-- Blocks of the transfer may still come to the client, where `current` is the one that is on. -/
def Expects (current : Option Nat) (party : Party) (transfer : Nat) : Prop :=
  current = some transfer ∨ ∃ letter ∈ party.feed, letter.isBlock = true ∧ letter.origin = transfer

def Receives (current : Option Nat) (party : Party) : Prop :=
  ∃ transfer name older, party.journal.accepted = (transfer, name) :: older ∧ transfer ∉ party.journal.unopened ∧
    party.Expects current transfer

instance (current : Option Nat) (party : Party) (transfer : Nat) : Decidable (party.Expects current transfer) :=
  inferInstanceAs (Decidable (_ ∨ _))

instance (current : Option Nat) (party : Party) : Decidable (party.Receives current) :=
  match same : party.journal.accepted with
  | [] => isFalse fun ⟨_, _, _, accepted, _⟩ => List.cons_ne_nil _ _ (accepted.symm.trans same)
  | (transfer, name) :: older =>
    decidable_of_iff (transfer ∉ party.journal.unopened ∧ party.Expects current transfer)
      ⟨fun receives => ⟨transfer, name, older, same, receives⟩, fun ⟨_, _, _, accepted, receives⟩ => by
        cases same.symm.trans accepted
        exact receives⟩

/-- What comes to the client is in order, and it is ready for it; what came was saved. -/
structure Fed (target : Target) (transfer : Nat) (current : Option Nat) (party : Party) : Prop where
  now : ∀ number, current = some number → number = transfer
  ordered : party.feed.Pairwise Letter.Before
  present : ∀ letter ∈ party.feed, letter.origin ≤ transfer ∧
    (letter.isLastBlock = true → current ≠ some letter.origin)
  descending : party.journal.accepted.Pairwise fun newer older => older.1 < newer.1
  past : ∀ entry ∈ party.journal.accepted, entry.1 ≤ transfer ∧ ∀ letter ∈ party.feed,
    entry.1 ≤ letter.origin ∧ (letter.isRequest = true → entry.1 < letter.origin)
  ready : ∀ transfer name older, party.journal.accepted = (transfer, name) :: older →
    transfer ∉ party.journal.unopened → party.Expects current transfer → party.client.ReadyFor name
  saved : ∀ arrival ∈ party.journal.arrivals, ∀ name, arrival.chosen = some name → arrival.unopened = false →
    arrival.Saved target name

variable {target : Target} {transfer : Nat} {current : Option Nat} {before after : Party}

theorem Fed.of_ready (fed : before.Fed target transfer current) (feed : after.feed = before.feed)
    (journal : after.journal = before.journal)
    (ready : before.Receives current → after.client = before.client) : after.Fed target transfer current := by
  obtain ⟨now, ordered, present, descending, past, isReady, saved⟩ := fed
  rw [← feed] at ordered present
  constructor
  · exact now
  · exact ordered
  · exact present
  · rw [journal]
    exact descending
  · rw [journal, feed]
    exact past
  · rw [journal]
    intro transfer name older accepted opened expects
    have expected : before.Expects current transfer := by
      unfold Expects at expects ⊢
      rw [← feed]
      exact expects
    rw [ready ⟨transfer, name, older, accepted, opened, expected⟩]
    exact isReady transfer name older accepted opened expected
  · rw [journal]
    exact saved

theorem front_mem {letter : Letter Nat} (front : before.feed = letter :: after.feed) : letter ∈ before.feed := by
  rw [front]
  exact List.mem_cons_self

theorem mem_of_front {letter : Letter Nat} (front : before.feed = letter :: after.feed) :
    ∀ later ∈ after.feed, later ∈ before.feed := by
  intro later member
  rw [front]
  exact List.mem_cons_of_mem _ member

theorem Fed.not_expects {letter : Letter Nat} (fed : before.Fed target transfer current)
    (front : before.feed = letter :: after.feed) {number : Nat} (older : number < letter.origin) : ¬ after.Expects current number := by
  have ordered := fed.ordered
  rw [front, List.pairwise_cons] at ordered
  rintro (now | ⟨later, member, -, same⟩)
  · have bound := (fed.present letter (front_mem front)).1
    have same := fed.now number now
    omega
  · have order := (ordered.1 later member).1
    omega

theorem Fed.of_popped {letter : Letter Nat} (fed : before.Fed target transfer current)
    (front : before.feed = letter :: after.feed) (accepted : after.journal.accepted = before.journal.accepted)
    (ready : ∀ number name older, before.journal.accepted = (number, name) :: older →
      number ∉ after.journal.unopened → after.Expects current number → after.client.ReadyFor name)
    (saved : ∀ arrival ∈ after.journal.arrivals, ∀ name, arrival.chosen = some name → arrival.unopened = false →
      arrival.Saved target name) : after.Fed target transfer current := by
  have rest := mem_of_front front
  have ordered := fed.ordered
  rw [front, List.pairwise_cons] at ordered
  constructor
  · exact fed.now
  · exact ordered.2
  · exact fun later member => fed.present later (rest later member)
  · rw [accepted]
    exact fed.descending
  · rw [accepted]
    intro entry member
    obtain ⟨bound, ahead⟩ := fed.past entry member
    exact ⟨bound, fun later member => ahead later (rest later member)⟩
  · rw [accepted]
    exact ready
  · exact saved

theorem Fed.refused {letter : Letter Nat} (fed : before.Fed target transfer current)
    (front : before.feed = letter :: after.feed) (request : letter.isRequest = true)
    (journal : after.journal = before.journal) : after.Fed target transfer current := by
  refine fed.of_popped front (by rw [journal]) ?_ (by rw [journal]; exact fed.saved)
  intro number name older accepted _ expects
  have head : (number, name) ∈ before.journal.accepted := by
    rw [accepted]
    exact List.mem_cons_self
  exact absurd expects (fed.not_expects front (((fed.past _ head).2 letter (front_mem front)).2 request))

theorem Fed.accepted {letter : Letter Nat} {name : List Byte} (fed : before.Fed target transfer current)
    (front : before.feed = letter :: after.feed) (request : letter.isRequest = true)
    (journal : after.journal = { before.journal with accepted := (letter.origin, name) :: before.journal.accepted })
    (ready : after.client.ReadyFor name) : after.Fed target transfer current := by
  have first := front_mem front
  have rest := mem_of_front front
  have ordered := fed.ordered
  rw [front, List.pairwise_cons] at ordered
  constructor
  · exact fed.now
  · exact ordered.2
  · exact fun later member => fed.present later (rest later member)
  · rw [journal, List.pairwise_cons]
    exact ⟨fun older member => ((fed.past older member).2 letter first).2 request, fed.descending⟩
  · rw [journal]
    intro entry member
    rcases List.mem_cons.mp member with rfl | older
    · refine ⟨(fed.present letter first).1, fun later member => ?_⟩
      have before := ordered.1 later member
      exact ⟨before.1, fun isRequest => before.2 (Or.inr isRequest)⟩
    · obtain ⟨bound, ahead⟩ := fed.past entry older
      exact ⟨bound, fun later member => ahead later (rest later member)⟩
  · rw [journal]
    intro number chosen older accepted _ _
    cases accepted
    exact ready
  · rw [journal]
    exact fed.saved

theorem lookup_first {entries : List (Nat × List Byte)} {number : Nat} {name : List Byte}
    (descending : entries.Pairwise fun newer older => older.1 < newer.1) (upTo : ∀ entry ∈ entries, entry.1 ≤ number)
    (found : entries.lookup number = some name) : ∃ older, entries = (number, name) :: older := by
  obtain ⟨newer, older, rfl, -⟩ := List.lookup_eq_some_iff.mp found
  cases newer with
  | nil => exact ⟨older, rfl⟩
  | cons first newer =>
    have bound := upTo first List.mem_cons_self
    have order := (List.pairwise_cons.mp descending).1 (number, name) (List.mem_append_right _ List.mem_cons_self)
    exact absurd order (Nat.not_lt.mpr bound)

theorem Fed.arrived {letter : Letter Nat} {arrival : Arrival} {unopened : List Nat}
    (fed : before.Fed target transfer current) (front : before.feed = letter :: after.feed)
    (journal : after.journal = { before.journal with unopened, arrivals := before.journal.arrivals ++ [arrival] })
    (more : ∀ number ∈ before.journal.unopened, number ∈ unopened)
    (chosen : arrival.chosen = before.journal.accepted.lookup letter.origin)
    (block : letter.isBlock = true)
    (saves : ∀ name, before.client.ReadyFor name → letter.origin ∉ unopened →
      arrival.Saved target name ∧ (letter.isLastBlock = false → after.client.ReadyFor name))
    (opened : arrival.unopened = decide (letter.origin ∈ unopened)) : after.Fed target transfer current := by
  have first := front_mem front
  have expected : before.Expects current letter.origin := Or.inr ⟨letter, first, block, rfl⟩
  refine fed.of_popped front (by rw [journal]) ?_ ?_
  · rw [journal]
    intro number name older accepted stillOpen expects
    have head : (number, name) ∈ before.journal.accepted := by
      rw [accepted]
      exact List.mem_cons_self
    have upTo := ((fed.past _ head).2 letter first).1
    have same : number = letter.origin := by
      by_contra other
      exact fed.not_expects front (lt_of_le_of_ne upTo other) expects
    subst same
    have ready := fed.ready _ name older accepted (fun failed => stillOpen (more _ failed)) expected
    apply (saves name ready stillOpen).2
    -- behind its last block there is nothing of a transfer
    cases last : letter.isLastBlock with
    | false => rfl
    | true =>
      rcases expects with now | ⟨later, member, -, same⟩
      · exact absurd now ((fed.present letter first).2 last)
      · have ordered := fed.ordered
        rw [front, List.pairwise_cons] at ordered
        have order := (ordered.1 later member).2 (Or.inl last)
        omega
  · rw [journal]
    intro old member name given open_
    rcases List.mem_append.mp member with earlier | new
    · exact fed.saved old earlier name given open_
    · rw [List.mem_singleton.mp new] at given open_ ⊢
      rw [opened, decide_eq_false_iff_not] at open_
      rw [chosen] at given
      obtain ⟨older, accepted⟩ := lookup_first fed.descending
        (fun entry member => ((fed.past entry member).2 letter first).1) given
      have ready := fed.ready _ name older accepted (fun failed => open_ (more _ failed)) expected
      exact (saves name ready open_).1

end Party

namespace Connection

variable {target : Target} {connection next : Connection} {session : Option (SessionData Nat)} {transfer : Nat}
  {current : Option Nat}

instance (answer : Answer) (property : Prop) [Decidable property] :
    Decidable (∀ targetFileName, answer = .accept targetFileName → property) :=
  match answer with
  | .accept targetFileName => decidable_of_iff property ⟨fun holds _ _ => holds, fun holds => holds targetFileName rfl⟩
  | .refuse | .cancelName => isTrue nofun

/-- The client's own transfers leave alone what it receives, it accepts a request only with nothing open, and the
    offsets that come are offsets. -/
def Receptive (target : Target) (current : Option Nat) (session : Option (SessionData Nat)) (connection : Connection) :
    ClientEvent → Prop
  | .sendFile _ => ¬ (connection.party session).Receives current
  | .readData answer _ _ => ∀ letter, connection.down.head? = some letter →
    match letter.message with
    | .status message => (Message.status message).ofTransfer = true → ¬ (connection.party session).Receives current
    | .fileRequest _ => ∀ targetFileName, answer = .accept targetFileName →
      connection.client.fileTransferHandle_ = none ∧ connection.client.hasFileTransferStarted_ = false
    | .fileData block => 0 ≤ block.fileOffset target
    | _ => True
  | _ => True

instance (target : Target) (current : Option Nat) (session : Option (SessionData Nat)) (connection : Connection)
    (event : ClientEvent) : Decidable (connection.Receptive target current session event) :=
  match event with
  | .sendFile _ => inferInstanceAs (Decidable (¬ _))
  | .readData answer _ _ => @Option.decidableForallMem _ _ (fun
    | ⟨.status _, _⟩ => inferInstanceAs (Decidable (_ → ¬ _))
    | ⟨.fileRequest _, _⟩ => inferInstanceAs (Decidable (∀ targetFileName, answer = .accept targetFileName → _))
    | ⟨.fileData _, _⟩ => inferInstanceAs (Decidable (_ ≤ _))
    | ⟨.hello, _⟩ | ⟨.nickname _, _⟩ | ⟨.bye, _⟩ | ⟨.chat _, _⟩ => instDecidableTrue) connection.down.head?
  | .chooseFile | .leavePrompt | .chat _ _ | .setNickName _ | .disconnect | .cycle _ _ | .writeData => instDecidableTrue

theorem feed_congr (session : Option (SessionData Nat)) (down : next.down = connection.down) :
    (next.party session).feed = (connection.party session).feed := by
  simp only [Party.feed, party, downstream_congr session down]

theorem feed_cons (session : Option (SessionData Nat)) {letter : Letter Nat} {rest : List (Letter Nat)} (waiting : connection.down = letter :: rest)
    (transfers : letter.message.ofTransfer = true) (left : next.down = rest) :
    (connection.party session).feed = (if letter.isOwn then [letter] else []) ++ (next.party session).feed := by
  have popped := downstream_cons session waiting transfers left
  simp only [Party.feed, party, popped, List.filter_cons]
  split <;> rfl

theorem Handles.fed {answer : Answer} {opens : Bool} {elapsed : Int} {letter : Letter Nat} {rest : List (Letter Nat)}
    (handles : connection.Handles target next answer opens letter) (waiting : connection.down = letter :: rest)
    (transfers : letter.message.ofTransfer = true) (left : next.down = rest)
    (receptive : connection.Receptive target current session (.readData answer opens elapsed))
    (fed : (connection.party session).Fed target transfer current) : (next.party session).Fed target transfer current := by
  have front := receptive letter (by rw [waiting, List.head?_cons])
  have feed := feed_cons session waiting transfers left
  cases handles with
  | aborts why client up journal aborted =>
    exact fed.of_ready feed.symm journal fun receives => absurd receives (front transfers)
  | starts sending client up journal alive =>
    exact fed.of_ready feed.symm journal fun receives => absurd receives (front transfers)
  | stops turnedDown sending client up journal alive =>
    exact fed.of_ready feed.symm journal fun receives => absurd receives (front transfers)
  | @asks file origin client up journal alive =>
    cases answer with
    | refuse => exact fed.refused feed rfl journal
    | cancelName => exact fed.refused feed rfl journal
    | accept targetFileName =>
      obtain ⟨closed, stopped⟩ := front targetFileName rfl
      apply fed.accepted feed rfl journal
      simp only [party, client]
      exact ⟨rfl, stopped, rfl, Or.inl closed⟩
  | @receives _ block origin effects result client up journal alive =>
    apply fed.arrived feed journal _ rfl rfl _ rfl
    · intro number failed
      split
      · exact List.mem_cons_of_mem _ failed
      · exact failed
    · intro name ready open_
      have opened : connection.client.fileTransferHandle_ = none → opens = true := by
        intro closed
        cases opens with
        | true => rfl
        | false =>
          have receiving : connection.client.isReceivingFile_ = true := ready.receiving
          simp [receiving, closed] at open_
      obtain ⟨written, names, goesOn⟩ := SessionServer.block_saved ready opened front result
      exact ⟨⟨⟨_, Int.toNat_of_nonneg front, written⟩, names⟩, goesOn⟩

theorem Acts.fed {event : ClientEvent} (acts : connection.Acts target next event) (alive : connection.aborted = false)
    (receptive : connection.Receptive target current session event)
    (fed : (connection.party session).Fed target transfer current) : (next.party session).Fed target transfer current := by
  cases acts with
  | quiet client up down journal still _ =>
    rw [party_quiet session client up down journal (still.trans alive.symm)]
    exact fed
  | requested client up down journal still _ _ =>
    exact fed.of_ready (feed_congr session down) journal fun receives => absurd receives receptive
  | cycled sending started sent client up down journal still _ =>
    apply fed.of_ready (feed_congr session down) journal
    rintro ⟨number, name, older, accepted, opened, expects⟩
    have stopped := (fed.ready number name older accepted opened expects).started
    exact absurd (stopped.symm.trans started) Bool.false_ne_true
  | handled letter rest waiting transfers handled =>
    obtain ⟨left, handles⟩ := handles_of_handle transfers handled
    exact handles.fed waiting transfers left receptive fed

end Connection

end LanMessenger
