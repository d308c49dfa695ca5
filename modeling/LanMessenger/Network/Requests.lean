import LanMessenger.Network.Moves

namespace LanMessenger

open CMemory

namespace Letter

def verdict (letter : Letter Nat) : Option StatusCode :=
  match letter.message with
  | .status ⟨.acceptFileTransfer⟩ => some .acceptFileTransfer
  | .status ⟨.rejectFileTransfer⟩ => some .rejectFileTransfer
  | .status ⟨.fileTransferCanceled⟩ => some .fileTransferCanceled
  | _ => none

theorem verdict_status {code : StatusCode} {origin : Nat} (transfers : (Message.status ⟨code⟩).ofTransfer = true) :
    verdict ⟨.status ⟨code⟩, origin⟩ = some code := by
  cases code with
  | acceptFileTransfer | rejectFileTransfer | fileTransferCanceled => rfl
  | _ => cases transfers

def isRequest (letter : Letter Nat) : Bool :=
  match letter.message with
  | .fileRequest _ => true
  | _ => false

def isBlock (letter : Letter Nat) : Bool :=
  match letter.message with
  | .fileData _ => true
  | _ => false

def isLastBlock (letter : Letter Nat) : Bool :=
  match letter.message with
  | .fileData block => block.isLastBlock
  | _ => false

def isOwn (letter : Letter Nat) : Bool := letter.isRequest || letter.isBlock

theorem ofTransfer_of_isOwn {letter : Letter Nat} (own : letter.isOwn = true) : letter.message.ofTransfer = true := by
  obtain ⟨message, origin⟩ := letter
  cases message with
  | fileRequest file => rfl
  | fileData block => rfl
  | _ => cases own

theorem isBlock_of_isLastBlock {letter : Letter Nat} (last : letter.isLastBlock = true) : letter.isBlock = true := by
  obtain ⟨message, origin⟩ := letter
  cases message with
  | fileData block => rfl
  | _ => cases last

end Letter

namespace Party

def verdicts (party : Party) : List StatusCode := party.downstream.filterMap Letter.verdict

def outgoing (party : Party) : List (Letter Nat) := party.upstream.filter Letter.isOwn

def requests (party : Party) : Nat := party.outgoing.countP Letter.isRequest

def marked (party : Party) : Option Bool := party.session.map Prod.snd

def waits (decided : Bool) (party : Party) : Bool := party.marked = some true && !decided

def Awaits (decided : Bool) (party : Party) : Prop :=
  0 < party.requests + party.verdicts.length + (party.waits decided).toNat

instance (decided : Bool) (party : Party) : Decidable (party.Awaits decided) := inferInstanceAs (Decidable (_ < _))

def AwaitsDecision (decided : Bool) (party : Party) : Prop :=
  (∃ code ∈ party.verdicts, Server.StatusAnswers code) ∨ party.waits decided = true

instance (decided : Bool) (party : Party) : Decidable (party.AwaitsDecision decided) := inferInstanceAs (Decidable (_ ∨ _))

def Uploads (party : Party) : Prop :=
  .acceptFileTransfer ∈ party.verdicts ∨ party.client.started = true ∨ ∃ letter ∈ party.outgoing, letter.isBlock = true

/-- A request, what is said of it, and the transfer it starts are one thing. -/
structure Sound (decided : Bool) (party : Party) : Prop where
  alive : party.aborted = false
  once : party.requests + party.verdicts.length + (party.waits decided).toNat + party.client.started.toNat ≤ 1
  sending : party.Awaits decided → party.client.sending = true
  named : party.AwaitsDecision decided → party.client.fileName ≠ []
  going : party.client.started = true → party.client.sending = true
  uploads : ∀ mark, party.marked = some mark → party.Uploads → mark = true ∧ decided = true
  last : party.outgoing.Pairwise fun earlier later => earlier.isLastBlock = true → later.isBlock = false
  closed : (∃ letter ∈ party.outgoing, letter.isLastBlock = true) →
    party.client.started = false ∧ .acceptFileTransfer ∉ party.verdicts

variable {before after : Party} {decided later : Bool}

theorem AwaitsDecision.awaits (awaits : after.AwaitsDecision decided) : after.Awaits decided := by
  unfold Awaits
  rcases awaits with ⟨code, told, -⟩ | waiting
  · have some := List.length_pos_of_mem told
    omega
  · rw [waiting, Bool.toNat_true]
    omega

theorem Uploads.of_fewer (uploads : after.Uploads) (started : after.client.started = before.client.started)
    (outgoing : after.outgoing.Sublist before.outgoing) (verdicts : after.verdicts.Sublist before.verdicts) :
    before.Uploads := by
  rcases uploads with told | going | ⟨letter, member, block⟩
  · exact Or.inl (verdicts.subset told)
  · exact Or.inr (Or.inl (started ▸ going))
  · exact Or.inr (Or.inr ⟨letter, outgoing.subset member, block⟩)

theorem Sound.of_fewer (sound : before.Sound decided) (alive : after.aborted = before.aborted)
    (sending : after.client.sending = before.client.sending) (started : after.client.started = before.client.started)
    (fileName : after.client.fileName = before.client.fileName ∨ after.client.fileName ≠ [] ∨
      ¬ before.AwaitsDecision decided)
    (outgoing : after.outgoing.Sublist before.outgoing) (verdicts : after.verdicts.Sublist before.verdicts)
    (waits : after.waits later = true → before.waits decided = true)
    (uploads : ∀ mark, after.marked = some mark → after.Uploads → mark = true ∧ later = true) : after.Sound later := by
  have requests : after.requests ≤ before.requests := outgoing.countP_le
  have length := verdicts.length_le
  have waiting : (after.waits later).toNat ≤ (before.waits decided).toNat := by
    cases waiting : after.waits later with
    | false => exact Nat.zero_le _
    | true => rw [waits waiting]
  constructor
  · exact alive.trans sound.alive
  · have once := sound.once
    rw [started]
    omega
  · intro awaits
    rw [sending]
    apply sound.sending
    unfold Awaits at awaits ⊢
    omega
  · intro awaits
    have awaited : before.AwaitsDecision decided := by
      rcases awaits with ⟨code, told, answers⟩ | waiting
      · exact Or.inl ⟨code, verdicts.subset told, answers⟩
      · exact Or.inr (waits waiting)
    rcases fileName with same | named | idle
    · rw [same]
      exact sound.named awaited
    · exact named
    · exact absurd awaited idle
  · rw [started, sending]
    exact sound.going
  · exact uploads
  · exact sound.last.sublist outgoing
  · rintro ⟨letter, member, last⟩
    obtain ⟨stopped, silent⟩ := sound.closed ⟨letter, outgoing.subset member, last⟩
    exact ⟨started.trans stopped, fun told => silent (verdicts.subset told)⟩

theorem Sound.of_same (sound : before.Sound decided) (alive : after.aborted = before.aborted)
    (sending : after.client.sending = before.client.sending) (started : after.client.started = before.client.started)
    (fileName : after.client.fileName = before.client.fileName ∨ after.client.fileName ≠ [] ∨
      ¬ before.AwaitsDecision decided)
    (outgoing : after.outgoing = before.outgoing) (verdicts : after.verdicts = before.verdicts)
    (marked : after.marked = before.marked) : after.Sound decided := by
  have fewer : after.outgoing.Sublist before.outgoing := by rw [outgoing]
  have told : after.verdicts.Sublist before.verdicts := by rw [verdicts]
  apply sound.of_fewer alive sending started fileName fewer told
  · unfold waits
    rw [marked]
    exact fun waiting => waiting
  · intro mark known uploading
    rw [marked] at known
    exact sound.uploads mark known (uploading.of_fewer started fewer told)

theorem Sound.of_passed {front : List (Letter Nat)} (sound : before.Sound decided) (client : after.client = before.client)
    (alive : after.aborted = before.aborted) (outgoing : before.outgoing = front ++ after.outgoing)
    (marked : after.marked = before.marked) (verdicts : after.verdicts = before.verdicts) : after.Sound decided := by
  have fewer : after.outgoing.Sublist before.outgoing := by
    rw [outgoing]
    exact List.sublist_append_right _ _
  apply sound.of_fewer alive (by rw [client]) (by rw [client]) (Or.inl (by rw [client])) fewer (by rw [verdicts])
  · unfold waits
    rw [marked]
    exact fun waiting => waiting
  · intro mark known uploading
    rw [marked] at known
    exact sound.uploads mark known (uploading.of_fewer (by rw [client]) fewer (by rw [verdicts]))

theorem sound_disabled (alive : after.aborted = false) (disabled : after.client = .disabled)
    (idle : ¬ after.Awaits decided)
    (uploads : ∀ mark, after.marked = some mark → (∃ letter ∈ after.outgoing, letter.isBlock = true) →
      mark = true ∧ decided = true)
    (last : after.outgoing.Pairwise fun earlier later => earlier.isLastBlock = true → later.isBlock = false) :
    after.Sound decided := by
  have silent : .acceptFileTransfer ∉ after.verdicts := by
    intro told
    exact idle (AwaitsDecision.awaits (Or.inl ⟨_, told, Or.inl rfl⟩))
  constructor
  · exact alive
  · unfold Awaits at idle
    rw [disabled]
    simp only [FileTransfer.disabled, Bool.toNat_false]
    omega
  · exact fun awaits => absurd awaits idle
  · exact fun awaits => absurd awaits.awaits idle
  · rw [disabled]
    exact fun started => by cases started
  · intro mark known uploading
    rcases uploading with told | started | block
    · exact absurd told silent
    · rw [disabled] at started
      cases started
    · exact uploads mark known block
  · exact last
  · intro _
    rw [disabled]
    exact ⟨rfl, silent⟩

theorem Sound.told_alone {party : Party} {code : StatusCode} {codes : List StatusCode} (sound : party.Sound decided)
    (told : party.verdicts = code :: codes) :
    party.client.sending = true ∧ codes = [] ∧ party.requests = 0 ∧ party.waits decided = false ∧
      party.client.started = false := by
  have once := sound.once
  rw [told, List.length_cons] at once
  refine ⟨sound.sending ?_, List.length_eq_zero_iff.mp (by omega), by omega, ?_, ?_⟩
  · unfold Awaits
    rw [told, List.length_cons]
    omega
  · cases waiting : party.waits decided with
    | false => rfl
    | true =>
      rw [waiting, Bool.toNat_true] at once
      omega
  · cases started : party.client.started with
    | false => rfl
    | true =>
      rw [started, Bool.toNat_true] at once
      omega

theorem Sound.idle_after {code : StatusCode} (sound : before.Sound decided)
    (told : before.verdicts = code :: after.verdicts) (outgoing : after.outgoing = before.outgoing)
    (marked : after.marked = before.marked) : ¬ after.Awaits decided := by
  obtain ⟨-, none, noRequest, noWait, -⟩ := sound.told_alone told
  unfold requests at noRequest
  unfold waits at noWait
  simp [Awaits, requests, waits, outgoing, marked, none, noRequest, noWait]

theorem Sound.refused {letter : Letter Nat} (sound : before.Sound decided) (client : after.client = before.client)
    (alive : after.aborted = before.aborted) (outgoing : before.outgoing = letter :: after.outgoing)
    (request : letter.isRequest = true) (marked : after.marked = before.marked)
    (verdicts : after.verdicts = before.verdicts ∨ after.verdicts = before.verdicts ++ [.fileTransferCanceled]) :
    after.Sound decided := by
  have fewer : after.outgoing.Sublist before.outgoing := by
    rw [outgoing]
    exact List.sublist_cons_self _ _
  have waits : after.waits decided = before.waits decided := by rw [Party.waits, marked, Party.waits]
  rcases verdicts with same | told
  · apply sound.of_fewer alive (by rw [client]) (by rw [client]) (Or.inl (by rw [client])) fewer (by rw [same])
    · rw [waits]
      exact fun waiting => waiting
    · intro mark known uploads
      rw [marked] at known
      exact sound.uploads mark known (uploads.of_fewer (by rw [client]) fewer (by rw [same]))
  · have requests : before.requests = after.requests + 1 := by
      rw [Party.requests, outgoing, List.countP_cons_of_pos request, Party.requests]
    have once := sound.once
    have silent : before.verdicts = [] := List.length_eq_zero_iff.mp (by omega)
    rw [silent, List.nil_append] at told
    have noAccept : .acceptFileTransfer ∉ after.verdicts := by simp [told]
    have noDecision : ¬ after.AwaitsDecision decided := by
      rintro (⟨code, member, answers⟩ | waiting)
      · rw [told] at member
        rw [List.mem_singleton.mp member] at answers
        rcases answers with same | same <;> cases same
      · rw [waits] at waiting
        rw [waiting, Bool.toNat_true] at once
        omega
    constructor
    · exact alive.trans sound.alive
    · rw [told, waits, client, List.length_singleton]
      omega
    · intro _
      rw [client]
      apply sound.sending
      unfold Awaits
      omega
    · exact fun awaits => absurd awaits noDecision
    · rw [client]
      exact sound.going
    · intro mark known uploads
      rw [marked] at known
      rcases uploads with accepted | started | ⟨block, member, isBlock⟩
      · exact absurd accepted noAccept
      · exact sound.uploads mark known (Or.inr (Or.inl (client ▸ started)))
      · exact sound.uploads mark known (Or.inr (Or.inr ⟨block, fewer.subset member, isBlock⟩))
    · exact sound.last.sublist fewer
    · rintro ⟨block, member, last⟩
      rw [client]
      exact ⟨(sound.closed ⟨block, fewer.subset member, last⟩).1, noAccept⟩

theorem Sound.accepted {letter : Letter Nat} (sound : before.Sound decided) (client : after.client = before.client)
    (alive : after.aborted = before.aborted) (outgoing : before.outgoing = letter :: after.outgoing)
    (request : letter.isRequest = true) (unmarked : before.marked = some false) (verdicts : after.verdicts = before.verdicts)
    (named : after.client.fileName ≠ []) : after.Sound false := by
  have fewer : after.outgoing.Sublist before.outgoing := by
    rw [outgoing]
    exact List.sublist_cons_self _ _
  have requests : before.requests = after.requests + 1 := by
    rw [Party.requests, outgoing, List.countP_cons_of_pos request, Party.requests]
  have once := sound.once
  have noUpload : ¬ after.Uploads := by
    intro uploads
    have mark := (sound.uploads false unmarked (uploads.of_fewer (by rw [client]) fewer (by rw [verdicts]))).1
    cases mark
  constructor
  · exact alive.trans sound.alive
  · have one := Bool.toNat_le (after.waits false)
    rw [verdicts, client]
    omega
  · intro _
    rw [client]
    apply sound.sending
    unfold Awaits
    omega
  · exact fun _ => named
  · rw [client]
    exact sound.going
  · exact fun mark known uploads => absurd uploads noUpload
  · exact sound.last.sublist fewer
  · rintro ⟨block, member, last⟩
    exact absurd (Or.inr (Or.inr ⟨block, member, Letter.isBlock_of_isLastBlock last⟩)) noUpload

theorem Sound.told (sound : before.Sound false) (client : after.client = before.client)
    (alive : after.aborted = before.aborted) (outgoing : after.outgoing = before.outgoing)
    (marked : before.marked = some true) (still : after.marked = some true) {code : StatusCode}
    (verdicts : after.verdicts = before.verdicts ∨ after.verdicts = before.verdicts ++ [code]) :
    after.Sound true := by
  have waited : before.waits false = true := by simp [waits, marked]
  have waits : after.waits true = false := by simp [waits]
  have awaited : before.AwaitsDecision false := Or.inr waited
  have once := sound.once
  rw [waited, Bool.toNat_true] at once
  have requests : after.requests = before.requests := by rw [Party.requests, outgoing, Party.requests]
  have length : after.verdicts.length ≤ before.verdicts.length + 1 := by
    rcases verdicts with same | told
    · rw [same]
      exact Nat.le_succ _
    · rw [told, List.length_append, List.length_singleton]
  have noUpload : ¬ before.Uploads := by
    intro uploads
    exact Bool.false_ne_true (sound.uploads true marked uploads).2
  constructor
  · exact alive.trans sound.alive
  · rw [requests, waits, client, Bool.toNat_false]
    omega
  · intro _
    rw [client]
    exact sound.sending awaited.awaits
  · intro _
    rw [client]
    exact sound.named awaited
  · rw [client]
    exact sound.going
  · intro mark known _
    rw [still] at known
    cases known
    exact ⟨rfl, rfl⟩
  · rw [outgoing]
    exact sound.last
  · rintro ⟨block, member, last⟩
    rw [outgoing] at member
    exact absurd (Or.inr (Or.inr ⟨block, member, Letter.isBlock_of_isLastBlock last⟩)) noUpload

theorem Sound.finished {letter : Letter Nat} (sound : before.Sound decided) (client : after.client = before.client)
    (alive : after.aborted = before.aborted) (outgoing : before.outgoing = letter :: after.outgoing)
    (last : letter.isLastBlock = true) (unmarked : after.marked = some false) (verdicts : after.verdicts = before.verdicts) :
    after.Sound decided := by
  have fewer : after.outgoing.Sublist before.outgoing := by
    rw [outgoing]
    exact List.sublist_cons_self _ _
  have first : letter ∈ before.outgoing := by
    rw [outgoing]
    exact List.mem_cons_self
  obtain ⟨stopped, silent⟩ := sound.closed ⟨letter, first, last⟩
  have blocks := sound.last
  rw [outgoing, List.pairwise_cons] at blocks
  apply sound.of_fewer alive (by rw [client]) (by rw [client]) (Or.inl (by rw [client])) fewer (by rw [verdicts])
  · intro waiting
    simp [waits, unmarked] at waiting
  · intro mark known uploads
    rcases uploads with accepted | started | ⟨block, member, isBlock⟩
    · exact absurd (verdicts ▸ accepted) silent
    · rw [client, stopped] at started
      cases started
    · exact absurd ((blocks.1 block member last).symm.trans isBlock) Bool.false_ne_true

end Party

theorem sound_new (decided : Bool) :
    Party.Sound decided ⟨.disabled, false, [], [], some (.fileTransferCanceled, false), .empty⟩ := by
  apply Party.sound_disabled rfl rfl
  · simp [Party.Awaits, Party.requests, Party.outgoing, Party.verdicts, Party.waits, Party.marked]
  · rintro mark known ⟨letter, member, -⟩
    cases member
  · exact List.Pairwise.nil

namespace Connection

variable {target : Target} {connection next : Connection} {session : Option (SessionData Nat)} {decided : Bool}

instance (answer : Answer) : Decidable (answer = .cancelName) :=
  match answer with
  | .cancelName => isTrue rfl
  | .refuse | .accept _ => isFalse nofun

/-- The user does not leave the prompt for a name, and no reception ends, where that would reset a request of
    the client's own that is still to be answered. -/
def Careful (decided : Bool) (session : Option (SessionData Nat)) (connection : Connection) : ClientEvent → Prop
  | .readData answer opens _ => ∀ letter, connection.down.head? = some letter →
    match letter.message with
    | .fileRequest _ => answer = .cancelName → ¬ (connection.party session).AwaitsDecision decided
    | .fileData block => connection.client.isReceivingFile_ = true →
      (block.isLast = true ∨ (connection.client.fileTransferHandle_ = none ∧ opens = false)) →
      ¬ (connection.party session).Awaits decided
    | _ => True
  | _ => True

instance (decided : Bool) (session : Option (SessionData Nat)) (connection : Connection) (event : ClientEvent) :
    Decidable (connection.Careful decided session event) :=
  match event with
  | .readData _ _ _ => @Option.decidableForallMem _ _ (fun
    | ⟨.fileRequest _, _⟩ => inferInstanceAs (Decidable (_ → ¬ _))
    | ⟨.fileData _, _⟩ => inferInstanceAs (Decidable (_ → _ → ¬ _))
    | ⟨.status _, _⟩ | ⟨.hello, _⟩ | ⟨.nickname _, _⟩ | ⟨.bye, _⟩ | ⟨.chat _, _⟩ => instDecidableTrue) connection.down.head?
  | .chooseFile | .leavePrompt | .sendFile _ | .chat _ _ | .setNickName _ | .disconnect | .cycle _ _ | .writeData =>
    instDecidableTrue

theorem verdicts_cons (session : Option (SessionData Nat)) {letter : Letter Nat} {rest : List (Letter Nat)} (waiting : connection.down = letter :: rest)
    (transfers : letter.message.ofTransfer = true) (left : next.down = rest) :
    (connection.party session).verdicts = letter.verdict.toList ++ (next.party session).verdicts := by
  have popped := downstream_cons session waiting transfers left
  simp only [Party.verdicts, party, popped]
  cases verdict : letter.verdict with
  | none => rw [List.filterMap_cons_none verdict, Option.toList_none, List.nil_append]
  | some code => rw [List.filterMap_cons_some verdict, Option.toList_some, List.singleton_append]

theorem outgoing_congr (session : Option (SessionData Nat)) (up : next.upstream = connection.upstream) :
    (next.party session).outgoing = (connection.party session).outgoing := by
  simp only [Party.outgoing, party, up]

theorem Handles.sound {answer : Answer} {opens : Bool} {elapsed : Int} {letter : Letter Nat} {rest : List (Letter Nat)}
    (handles : connection.Handles target next answer opens letter) (waiting : connection.down = letter :: rest)
    (transfers : letter.message.ofTransfer = true) (left : next.down = rest)
    (careful : connection.Careful decided session (.readData answer opens elapsed))
    (sound : (connection.party session).Sound decided) : (next.party session).Sound decided := by
  have front : connection.down.head? = some letter := by rw [waiting, List.head?_cons]
  have told := verdicts_cons session waiting transfers left
  cases handles with
  | @aborts code origin why client up journal aborted =>
    rw [Letter.verdict_status transfers, Option.toList_some, List.singleton_append] at told
    have sending : connection.client.isSendingFile_ = true := (sound.told_alone told).1
    rcases why with idle | ⟨answers, unnamed⟩
    · rw [sending] at idle
      cases idle
    · have named : connection.client.fileName_.text ≠ [] := by
        apply sound.named
        exact Or.inl ⟨code, by simp [told], answers⟩
      exact absurd unnamed named
  | starts sending client up journal alive =>
    have own := outgoing_congr session up
    have accepted : .acceptFileTransfer ∈ (connection.party session).verdicts := by
      rw [told]
      exact List.mem_cons_self
    have idle : ¬ (next.party session).Awaits decided := sound.idle_after told own rfl
    constructor
    · exact alive.trans sound.alive
    · unfold Party.Awaits at idle
      have one := Bool.toNat_le (next.party session).client.started
      omega
    · exact fun awaits => absurd awaits idle
    · exact fun awaits => absurd awaits.awaits idle
    · intro _
      simp only [party, client]
      exact sending
    · intro mark known _
      exact sound.uploads mark known (Or.inl accepted)
    · rw [own]
      exact sound.last
    · rw [own]
      intro closed
      exact absurd accepted (sound.closed closed).2
  | @stops code origin turnedDown sending client up journal alive =>
    rw [Letter.verdict_status transfers, Option.toList_some, List.singleton_append] at told
    have own := outgoing_congr session up
    apply Party.sound_disabled (alive.trans sound.alive) client
    · exact sound.idle_after told own rfl
    · rw [own]
      intro mark known block
      exact sound.uploads mark known (Or.inr (Or.inr block))
    · rw [own]
      exact sound.last
  | @asks file origin client up journal alive =>
    have own : (next.party session).outgoing = (connection.party session).outgoing := by
      rcases up with same | ⟨sent, offered, same⟩
      · exact outgoing_congr session same
      · cases offered
        simp only [Party.outgoing, party, same, List.filter_append]
        exact List.append_nil _
    have same : (next.party session).verdicts = (connection.party session).verdicts := told.symm
    refine sound.of_same alive ?_ ?_ ?_ own same rfl <;>
      simp only [party, client, Answer.sending_applied, Answer.started_applied]
    · cases answer with
      | refuse => exact Or.inl rfl
      | cancelName => exact Or.inr (Or.inr (careful _ front rfl))
      | accept targetFileName => exact Or.inr (Or.inl targetFileName.nonempty)
  | @receives _ block origin effects result client up journal alive =>
    have own := outgoing_congr session up
    have same : (next.party session).verdicts = (connection.party session).verdicts := told.symm
    rcases client with unchanged | ⟨receiving, ⟨handle, opened⟩ | ⟨ends, disabled⟩⟩
    · refine sound.of_same alive ?_ ?_ ?_ own same rfl <;> simp only [party, unchanged, true_or]
    · refine sound.of_same alive ?_ ?_ ?_ own same rfl <;> simp only [party, opened, true_or]
    · apply Party.sound_disabled (alive.trans sound.alive) disabled
      · have idle := careful _ front receiving ends
        simp only [Party.Awaits, Party.requests, own, same] at idle ⊢
        exact idle
      · rw [own]
        intro mark known block
        exact sound.uploads mark known (Or.inr (Or.inr block))
      · rw [own]
        exact sound.last

theorem verdicts_congr (session : Option (SessionData Nat)) (down : next.down = connection.down) :
    (next.party session).verdicts = (connection.party session).verdicts := by
  simp only [Party.verdicts, party, downstream_congr session down]

theorem sound_left (sound : (connection.party session).Sound decided) : (connection.party none).Sound decided := by
  have verdicts : (connection.party none).verdicts.Sublist (connection.party session).verdicts := by
    cases session with
    | none => exact List.Sublist.refl _
    | some data =>
      simp only [Party.verdicts, party, downstream, List.filterMap_append]
      exact List.sublist_append_left _ _
  refine sound.of_fewer rfl rfl rfl (Or.inl rfl) (List.Sublist.refl _) verdicts ?_ ?_
  · intro waiting
    cases waiting
  · intro mark known
    cases known

theorem sound_requested (sound : (connection.party session).Sound decided) (idle : connection.client.isSendingFile_ = false)
    {fileName : FileName} (client : next.client.fileTransfer =
      { connection.client.fileTransfer with sending := true, fileName := fileName.text })
    (up : Queued connection.upstream next.upstream (some ⟨.fileRequest (.ofFileName fileName.text), 0⟩))
    (down : next.down = connection.down) (alive : next.aborted = false) :
    (next.party session).Sound decided := by
  have verdicts := verdicts_congr session down
  have still : (next.party session).client.started = (connection.party session).client.started := by
    simp only [party, client]
  have nothing : ¬ (connection.party session).Awaits decided := by
    intro awaits
    exact Bool.false_ne_true (idle.symm.trans (sound.sending awaits))
  have stopped : (connection.party session).client.started = false := by
    cases started : (connection.party session).client.started with
    | false => rfl
    | true => exact absurd (idle.symm.trans (sound.going started)) Bool.false_ne_true
  have own : ∃ sent, (next.party session).outgoing = (connection.party session).outgoing ++ sent ∧
      sent.countP Letter.isRequest ≤ 1 ∧ ∀ letter ∈ sent, letter.isBlock = false := by
    rcases up with same | ⟨letter, offered, same⟩
    · exact ⟨[], by rw [outgoing_congr session same, List.append_nil], Nat.zero_le 1, fun _ none => by cases none⟩
    · cases offered
      refine ⟨[⟨.fileRequest (.ofFileName fileName.text), 0⟩], ?_, Nat.le_refl 1, ?_⟩
      · simp only [Party.outgoing, party, same, List.filter_append]
        rfl
      · intro letter member
        rw [List.mem_singleton.mp member]
        rfl
  obtain ⟨sent, own, one, noBlock⟩ := own
  have noLast : ∀ letter ∈ sent, letter.isLastBlock = false := by
    intro letter member
    have none := noBlock letter member
    cases last : letter.isLastBlock with
    | false => rfl
    | true => exact absurd ((Letter.isBlock_of_isLastBlock last).symm.trans none) Bool.noConfusion
  have waits : (next.party session).waits decided = (connection.party session).waits decided := rfl
  constructor
  · exact alive
  · unfold Party.Awaits at nothing
    rw [still, stopped, verdicts, waits, Party.requests, own, List.countP_append, Bool.toNat_false]
    unfold Party.requests at nothing
    omega
  · intro _
    simp only [party, client]
  · intro _
    simp only [party, client]
    exact fileName.nonempty
  · intro _
    simp only [party, client]
  · intro mark known uploads
    apply sound.uploads mark known
    rcases uploads with told | started | ⟨letter, member, block⟩
    · exact Or.inl (verdicts ▸ told)
    · exact Or.inr (Or.inl (still ▸ started))
    · rw [own] at member
      rcases List.mem_append.mp member with earlier | new
      · exact Or.inr (Or.inr ⟨letter, earlier, block⟩)
      · exact absurd ((noBlock letter new).symm.trans block) Bool.false_ne_true
  · rw [own]
    exact List.pairwise_append.mpr ⟨sound.last, List.pairwise_of_forall_mem_list (fun earlier _ later member _ =>
      noBlock later member), fun earlier _ later member _ => noBlock later member⟩
  · rintro ⟨letter, member, last⟩
    rw [own] at member
    rw [still, verdicts]
    rcases List.mem_append.mp member with earlier | new
    · exact sound.closed ⟨letter, earlier, last⟩
    · exact absurd ((noLast letter new).symm.trans last) Bool.false_ne_true

theorem sound_cycled (sound : (connection.party session).Sound decided)
    (started : connection.client.hasFileTransferStarted_ = true) {sent : List (Letter Nat)}
    (client : SessionServer.Cycled connection.client.fileTransfer next.client.fileTransfer 0 sent)
    (up : next.upstream = connection.upstream ++ sent) (down : next.down = connection.down)
    (alive : next.aborted = false) : (next.party session).Sound decided := by
  have verdicts := verdicts_congr session down
  have going : (connection.party session).client.started = true := started
  have own : (next.party session).outgoing = (connection.party session).outgoing ++ sent := by
    simp only [Party.outgoing, party, up, List.filter_append]
    cases client <;> rfl
  have noRequest : sent.countP Letter.isRequest = 0 := by
    cases client <;> rfl
  have requests : (next.party session).requests = (connection.party session).requests := by
    rw [Party.requests, own, List.countP_append, noRequest, Nat.add_zero, Party.requests]
  have waits : (next.party session).waits decided = (connection.party session).waits decided := rfl
  have idle : ¬ (next.party session).Awaits decided := by
    have once := sound.once
    rw [going, Bool.toNat_true] at once
    rw [Party.Awaits, requests, verdicts, waits]
    omega
  have noLast : ∀ letter ∈ (connection.party session).outgoing, letter.isLastBlock = true → False := by
    intro letter member last
    exact absurd (going.symm.trans (sound.closed ⟨letter, member, last⟩).1) Bool.noConfusion
  have uploads : ∀ mark, (next.party session).marked = some mark → mark = true ∧ decided = true :=
    fun mark known => sound.uploads mark known (Or.inr (Or.inl going))
  have last : (next.party session).outgoing.Pairwise
      fun earlier later => earlier.isLastBlock = true → later.isBlock = false := by
    rw [own, List.pairwise_append]
    refine ⟨sound.last, ?_, fun earlier member _ _ last => (noLast earlier member last).elim⟩
    cases client with
    | waits | fails => exact List.Pairwise.nil
    | sends | ends => exact List.pairwise_singleton _ _
  have goesOn (handle : Option FileHandle) (goesOn : next.client.fileTransfer = { connection.client.fileTransfer with handle })
      (open_ : ∀ letter ∈ sent, letter.isLastBlock = false) : (next.party session).Sound decided := by
    have still : (next.party session).client.started = true := by
      simp only [party, goesOn]
      exact going
    constructor
    · exact alive
    · unfold Party.Awaits at idle
      have one := Bool.toNat_le (next.party session).client.started
      omega
    · exact fun awaits => absurd awaits idle
    · exact fun awaits => absurd awaits.awaits idle
    · intro _
      simp only [party, goesOn]
      exact sound.going going
    · exact fun mark known _ => uploads mark known
    · exact last
    · rintro ⟨letter, member, last⟩
      rw [own] at member
      rcases List.mem_append.mp member with earlier | new
      · exact (noLast letter earlier last).elim
      · exact absurd ((open_ letter new).symm.trans last) Bool.false_ne_true
  cases client with
  | waits handle same => exact goesOn handle same fun _ none => by cases none
  | sends block more handle same =>
    apply goesOn handle same
    intro letter member
    rw [List.mem_singleton.mp member]
    exact more
  | fails disabled => exact Party.sound_disabled alive disabled idle (fun mark known _ => uploads mark known) last
  | ends block _ disabled => exact Party.sound_disabled alive disabled idle (fun mark known _ => uploads mark known) last

theorem Acts.sound {event : ClientEvent} (acts : connection.Acts target next event) (alive : connection.aborted = false)
    (prompt : connection.choosing = true → connection.client.isSendingFile_ = false)
    (careful : connection.Careful decided session event) (sound : (connection.party session).Sound decided) :
    (next.party session).Sound decided := by
  cases acts with
  | quiet client up down journal still _ =>
    rw [party_quiet session client up down journal (still.trans alive.symm)]
    exact sound
  | requested client up down journal still choosing _ =>
    exact sound_requested sound (prompt choosing) client up down still
  | cycled sending started sent client up down journal still _ =>
    exact sound_cycled sound started client up down still
  | handled letter rest waiting transfers handled =>
    obtain ⟨left, handles⟩ := handles_of_handle transfers handled
    exact handles.sound waiting transfers left careful sound

theorem Acts.prompt {event : ClientEvent} (acts : connection.Acts target next event)
    (prompt : connection.choosing = true → connection.client.isSendingFile_ = false) :
    next.choosing = true → next.client.isSendingFile_ = false := by
  intro choosing
  have stays (idle : connection.client.isSendingFile_ = false)
      (client : next.client.fileTransfer = connection.client.fileTransfer) : next.client.isSendingFile_ = false :=
    (congrArg FileTransfer.sending client).trans idle
  cases acts with
  | quiet client up down journal still open_ =>
    rcases open_ choosing with was | idle
    · exact stays (prompt was) client
    · exact stays idle client
  | requested client up down journal still _ closed =>
    rw [closed] at choosing
    cases choosing
  | cycled sending started sent client up down journal still open_ =>
    rw [open_] at choosing
    rw [prompt choosing] at sending
    cases sending
  | handled letter rest waiting transfers handled =>
    have idle := prompt (choosing_of_handle handled ▸ choosing)
    obtain ⟨-, handles⟩ := handles_of_handle transfers handled
    cases handles with
    | aborts why client up journal aborted =>
      rw [client]
      exact idle
    | starts sending client up journal alive =>
      rw [idle] at sending
      cases sending
    | stops turnedDown sending client up journal alive => exact congrArg FileTransfer.sending client
    | asks client up journal alive =>
      have kept := congrArg FileTransfer.sending client
      rw [Answer.sending_applied] at kept
      exact kept.trans idle
    | receives effects result client up journal alive =>
      rcases client with same | ⟨-, ⟨handle, opened⟩ | ⟨-, disabled⟩⟩
      · exact stays idle same
      · exact (congrArg FileTransfer.sending opened).trans idle
      · exact congrArg FileTransfer.sending disabled

end Connection

end LanMessenger
