import LanMessenger.Network.Decisions
import LanMessenger.Server.Greeting
import LanMessenger.Server.TransferEnd

namespace LanMessenger

open CMemory Transition

namespace Server

variable {τ : Type}

def hasRoom (server : Server τ) (client : SessionId) : Bool :=
  (server.findSession client).any fun data => data.client.outbox.canSendMessages

def decides (server : Server τ) (client : SessionId) (message : Message) (sender : SessionId) : Bool :=
  (server.verdict client message).any fun told => told.1 = sender && server.hasRoom sender

variable {server next : Server τ} {target : Target} {client sender : SessionId} {memory : Memory} {origin : τ}
  {message : Message}

theorem hasRoom_iff : server.hasRoom client = true ↔
    ∃ data, server.findSession client = some data ∧ data.client.outbox.canSendMessages = true := by
  simp only [hasRoom, Option.any_eq_true]

theorem decides_iff_verdict : server.decides client message sender = true ↔
    (∃ code, server.verdict client message = some (sender, code)) ∧ server.hasRoom sender = true := by
  simp only [decides, Option.any_eq_true, Prod.exists, Bool.and_eq_true, decide_eq_true_eq]
  constructor
  · rintro ⟨chosen, code, decided, rfl, room⟩
    exact ⟨⟨code, decided⟩, room⟩
  · rintro ⟨⟨code, decided⟩, room⟩
    exact ⟨sender, code, decided, rfl, room⟩

theorem told_ne_nil_iff (handled : server.availableMessage target memory origin client message = .ok next) :
    server.told next sender ≠ [] ↔ server.decides client message sender = true := by
  rw [decides_iff_verdict]
  constructor
  · intro told
    rcases told_of_message handled sender with none | ⟨code, decided, -⟩
    · exact absurd none told
    · obtain ⟨before, there, -⟩ := (verdict_some decided).2.2.1
      obtain ⟨after, later, outbox⟩ := outbox_of_verdict handled decided there
      refine ⟨⟨code, decided⟩, hasRoom_iff.mpr ⟨before, there, ?_⟩⟩
      by_contra full
      rw [Bool.not_eq_true] at full
      apply told
      apply told_of_le
      simp only [decisionQueue, there, later, Option.map_some, Option.getD_some, SessionData.decisionQueue, outbox,
        (before.client.outbox.send_eq_iff _).mpr full, le_refl]
  · rintro ⟨⟨code, decided⟩, room⟩ none
    have answers := (verdict_some decided).2.1
    obtain ⟨from_, one⟩ := told_of_tells answers ((tells_iff answers handled).mpr ⟨decided, hasRoom_iff.mp room⟩)
    rw [none] at one
    cases one

theorem decides_iff (known : (server.findSession client).isSome = true) :
    server.decides client message sender = true ↔
      message.answer.isSome = true ∧ server.fileTransferModeActive_ = true ∧ server.OthersAnswered client ∧
        server.LastSender client sender ∧ server.hasRoom sender = true := by
  rw [decides_iff_verdict, verdict_iff known]
  simp only [and_assoc]

theorem exists_other_of_accepts (started : server.accepts message = true)
    (known : (server.findSession client).isSome = true) :
    ∃ peer, peer ≠ client ∧ (server.findSession peer).isSome = true := by
  refine exists_other known fun single => ?_
  cases message with
  | fileRequest file => simp [accepts, single] at started
  | _ => cases started

theorem mode_message (handled : server.availableMessage target memory origin client message = .ok next) :
    (server.accepts message = true ∧ next.fileTransferModeActive_ = true) ∨
      (server.accepts message = false ∧
        (next.fileTransferModeActive_ = true → server.fileTransferModeActive_ = true) ∧
        (message.answer.isSome = true → next.fileTransferModeActive_ = server.fileTransferModeActive_)) := by
  cases availableMessage_reaction handled with
  | quiet noAnswer noBlock notAccepted mode spreads =>
    exact Or.inr ⟨notAccepted, fun active => mode ▸ active, fun _ => mode⟩
  | refused why mode spreads =>
    exact Or.inr ⟨(refused_quiet why).1, fun active => mode ▸ active, fun _ => mode⟩
  | answered answer active mode decided spreads =>
    refine Or.inr ⟨?_, fun active => mode ▸ active, fun _ => mode⟩
    rw [(Message.eq_of_answer answer).1]
    rfl
  | accepted idle accepts mode current spreads => exact Or.inl ⟨accepts, mode⟩
  | relayed mode spreads =>
    refine Or.inr ⟨rfl, fun active => ?_, fun answer => by cases answer⟩
    rw [mode, Bool.and_eq_true] at active
    exact active.1
  | spent mode spreads => exact Or.inr ⟨rfl, fun active => mode ▸ active, fun _ => mode⟩

end Server

/-- The network with what became of the request accepted last: whose it is, the sessions it was sent to, and whether
    its sender was sent an `Accept` or a `Reject`. -/
structure Ledger where
  network : Network
  sender : SessionId
  sentTo : SessionId → Bool
  told : Bool

namespace Ledger

def start : Ledger := ⟨.start, 0, fun _ => false, false⟩

/-- `next` is the server after it has handled the letter. -/
def hear (next : Server Nat) (ledger : Ledger) (client : SessionId) (letter : Letter Nat) : Ledger :=
  let server := ledger.network.server
  if server.accepts letter.message then
    { ledger with sender := client, sentTo := fun peer => peer ≠ client && server.hasRoom peer, told := false }
  else { ledger with told := ledger.told || server.told next ledger.sender ≠ [] }

def step (target : Target) (ledger : Ledger) (event : Network.Event) : Option Ledger :=
  (ledger.network.step target event).map fun network =>
    let ledger := match event with
      | .message client _ => (ledger.network.front client).elim ledger (ledger.hear network.server client)
      | _ => ledger
    { ledger with network }

def connected (ledger : Ledger) (client : SessionId) : Prop :=
  (ledger.network.server.findSession client).isSome = true

/-- The session was sent the request, is still connected and has not answered it. -/
structure Awaits (ledger : Ledger) (peer : SessionId) : Prop where
  sent : ledger.sentTo peer = true
  connected : ledger.connected peer
  silent : ledger.network.poll.answered peer = false

/-- A transfer is on, its sender and another session are connected, and nobody who was sent the request has still to
    answer it. -/
structure Due (ledger : Ledger) : Prop where
  active : ledger.network.server.fileTransferModeActive_ = true
  sender : ledger.connected ledger.sender
  other : ∃ peer, peer ≠ ledger.sender ∧ ledger.connected peer
  answered : ∀ peer, ¬ ledger.Awaits peer

/-- The step leaves no request undecided. -/
def LeavesNoneOpen (target : Target) (ledger : Ledger) (event : Network.Event) : Prop :=
  ∀ next, ledger.step target event = some next → next.Due → next.told = true

/-- A transfer is on, and its sender is connected and was not sent a decision. -/
structure Open (ledger : Ledger) : Prop where
  active : ledger.network.server.fileTransferModeActive_ = true
  sender : ledger.connected ledger.sender
  untold : ledger.told = false

/-- While a request is open, nobody joins a sender that is alone; one who leaves leaves another behind that has still
    to answer, or no other at all; and the last answer finds that all others have answered something, that the sender
    is the last session marked as one, and room in its queue. A request is accepted if somebody can be sent it. -/
def Settles (ledger : Ledger) : Network.Event → Prop
  | .connect _ _ _ _ _ => ledger.Open → ∃ peer, peer ≠ ledger.sender ∧ ledger.connected peer
  | .removeSession client => ledger.Open → client ≠ ledger.sender → ¬ ledger.network.server.IsSender client →
    (∃ peer, peer ≠ ledger.sender ∧ peer ≠ client ∧ ledger.connected peer) → ∃ peer, peer ≠ client ∧ ledger.Awaits peer
  | .message client _ => ∀ letter, ledger.network.front client = some letter →
    (ledger.network.server.accepts letter.message = true →
      ∃ peer, peer ≠ client ∧ ledger.network.server.hasRoom peer = true) ∧
    (letter.answers ledger.network.poll.transfer = true → ledger.Open →
      (∃ peer, peer ≠ ledger.sender ∧ ledger.connected peer) → (∀ peer, ledger.Awaits peer → peer = client) →
      ledger.network.server.OthersAnswered client ∧ ledger.network.server.LastSender client ledger.sender ∧
        ledger.network.server.hasRoom ledger.sender = true)
  | _ => True

structure Kept (ledger : Ledger) : Prop where
  settled : ledger.Due → ledger.told = true
  apart : ledger.sentTo ledger.sender = false
  known : ∀ peer, ledger.sentTo peer = true ∨ (ledger.network.server.fileTransferModeActive_ = true ∧
    peer = ledger.sender) → (ledger.network.connections peer).isSome = true
  sessions : ∀ peer, ledger.connected peer → (ledger.network.connections peer).isSome = true

theorem kept_start : start.Kept where
  settled due := by
    cases due.active
  apart := rfl
  known peer given := by
    rcases given with sent | ⟨active, -⟩
    · cases sent
    · cases active
  sessions peer there := by
    rw [connected, start, Network.start, Server.findSession_new] at there
    cases there

variable {target : Target} {ledger next : Ledger} {client : SessionId}

theorem network_step {event : Network.Event} (stepped : ledger.step target event = some next) :
    ledger.network.step target event = some next.network := by
  obtain ⟨network, moved, rfl⟩ := Option.map_eq_some_iff.mp stepped
  exact moved

structure Heard (target : Target) (ledger next : Ledger) (client : SessionId) (memory : Memory) (letter : Letter Nat) :
    Prop where
  known : ledger.connected client
  handled : ledger.network.server.availableMessage target memory
    (ledger.network.poll.hear ledger.network.server client letter).transfer client letter.message = .ok next.network.server
  poll : next.network.poll = ledger.network.poll.hear ledger.network.server client letter
  sender : next.sender = (ledger.hear next.network.server client letter).sender
  sentTo : next.sentTo = (ledger.hear next.network.server client letter).sentTo
  told : next.told = (ledger.hear next.network.server client letter).told

theorem heard_of_step {memory : Memory} (stepped : ledger.step target (.message client memory) = some next) :
    ∃ letter, ledger.network.front client = some letter ∧ Heard target ledger next client memory letter := by
  obtain ⟨network, moved, rfl⟩ := Option.map_eq_some_iff.mp stepped
  cases Network.steps_of_step moved with
  | @message _ _ connection letter rest _ there waiting handled _ poll =>
    have front : ledger.network.front client = some letter := by
      rw [Network.front, there, Option.bind_some, waiting, List.head?_cons]
    refine ⟨letter, front, ?_⟩
    simp only [front, Option.elim_some]
    exact ⟨Option.isSome_iff_exists.mpr (Server.availableMessage_found handled), handled, poll, rfl, rfl, rfl⟩

theorem leavesNoneOpen_iff {event : Network.Event} (stepped : ledger.step target event = some next) :
    ledger.LeavesNoneOpen target event ↔ (next.Due → next.told = true) := by
  constructor
  · exact fun leaves => leaves next stepped
  · intro settled other moved
    rw [stepped] at moved
    cases moved
    exact settled

theorem Awaits.before {peer : SessionId} (awaits : next.Awaits peer) (sentTo : next.sentTo = ledger.sentTo)
    (connected : next.connected peer → ledger.connected peer)
    (silent : next.network.poll.answered peer = false → ledger.network.poll.answered peer = false) :
    ledger.Awaits peer :=
  ⟨sentTo ▸ awaits.sent, connected awaits.connected, silent awaits.silent⟩

theorem Due.before (due : next.Due) (sender : next.sender = ledger.sender) (sentTo : next.sentTo = ledger.sentTo)
    (mode : next.network.server.fileTransferModeActive_ = true → ledger.network.server.fileTransferModeActive_ = true)
    (connected : ∀ peer, next.connected peer ↔ ledger.connected peer)
    (answered : next.network.poll.answered = ledger.network.poll.answered) : ledger.Due := by
  refine ⟨mode due.active, ?_, ?_, fun peer awaits => ?_⟩
  · rw [← connected, ← sender]
    exact due.sender
  · obtain ⟨peer, other, there⟩ := due.other
    exact ⟨peer, sender ▸ other, (connected peer).mp there⟩
  · exact due.answered peer (awaits.before sentTo.symm (connected peer).mpr fun silent => by rw [answered, silent])

theorem Heard.connected {memory : Memory} {letter : Letter Nat} (heard : Heard target ledger next client memory letter)
    (peer : SessionId) : next.connected peer ↔ ledger.connected peer := by
  unfold Ledger.connected
  rw [Server.isSome_message heard.handled]

theorem Heard.accepted_iff {memory : Memory} {letter : Letter Nat} (heard : Heard target ledger next client memory letter)
    (accepts : ledger.network.server.accepts letter.message = true) :
    (next.Due → next.told = true) ↔ ∃ peer, peer ≠ client ∧ ledger.network.server.hasRoom peer = true := by
  have told : next.told = false := by rw [heard.told, hear, if_pos accepts]
  have sender : next.sender = client := by rw [heard.sender, hear, if_pos accepts]
  have sentTo : ∀ peer, next.sentTo peer = true ↔ peer ≠ client ∧ ledger.network.server.hasRoom peer = true := by
    intro peer
    rw [heard.sentTo, hear, if_pos accepts]
    simp
  have silent : ∀ peer, next.network.poll.answered peer = false := by
    intro peer
    rw [heard.poll, Network.hear_accepted accepts]
  constructor
  · intro settled
    by_contra none
    have due : next.Due := by
      refine ⟨?_, ?_, ?_, fun peer awaits => none ⟨peer, (sentTo peer).mp awaits.sent⟩⟩
      · rcases Server.mode_message heard.handled with ⟨-, active⟩ | ⟨notAccepted, -⟩
        · exact active
        · rw [accepts] at notAccepted
          cases notAccepted
      · rw [heard.connected, sender]
        exact heard.known
      · obtain ⟨peer, other, there⟩ := Server.exists_other_of_accepts accepts heard.known
        exact ⟨peer, sender ▸ other, (heard.connected peer).mpr there⟩
    rw [told] at settled
    cases settled due
  · rintro ⟨peer, other, room⟩ due
    obtain ⟨data, there, -⟩ := Server.hasRoom_iff.mp room
    refine absurd ⟨(sentTo peer).mpr ⟨other, room⟩, ?_, silent peer⟩ (due.answered peer)
    rw [heard.connected, Ledger.connected, there]
    rfl

theorem Heard.sameRequest {memory : Memory} {letter : Letter Nat}
    (heard : Heard target ledger next client memory letter)
    (notAccepted : ledger.network.server.accepts letter.message = false) :
    next.sender = ledger.sender ∧ next.sentTo = ledger.sentTo ∧
      next.told = (ledger.told || ledger.network.server.decides client letter.message ledger.sender) := by
  have told : (decide (ledger.network.server.told next.network.server ledger.sender ≠ [])) =
      ledger.network.server.decides client letter.message ledger.sender := by
    rw [Bool.eq_iff_iff, decide_eq_true_iff, Server.told_ne_nil_iff heard.handled]
  have same : ledger.hear next.network.server client letter =
      { ledger with told := ledger.told || ledger.network.server.decides client letter.message ledger.sender } := by
    rw [hear, notAccepted, if_neg Bool.false_ne_true, told]
  rw [heard.sender, heard.sentTo, heard.told, same]
  exact ⟨rfl, rfl, rfl⟩

/-- The last answer to an open request is followed by the decision if the loop over the others comes to one and the
    sender's queue takes it. -/
theorem Heard.answered_iff {memory : Memory} {letter : Letter Nat} (heard : Heard target ledger next client memory letter)
    (notAccepted : ledger.network.server.accepts letter.message = false)
    (answers : letter.answers ledger.network.poll.transfer = true)
    (active : ledger.network.server.fileTransferModeActive_ = true) :
    (next.Due → next.told = true) ↔ (ledger.Open → (∃ peer, peer ≠ ledger.sender ∧ ledger.connected peer) →
      (∀ peer, ledger.Awaits peer → peer = client) →
      ledger.network.server.OthersAnswered client ∧ ledger.network.server.LastSender client ledger.sender ∧
        ledger.network.server.hasRoom ledger.sender = true) := by
  simp only [Letter.answers, Bool.and_eq_true, decide_eq_true_eq] at answers
  obtain ⟨sender, sentTo, told⟩ := heard.sameRequest notAccepted
  have answered : next.network.poll.answered = Function.update ledger.network.poll.answered client true := by
    rw [heard.poll, Poll.hear, if_neg (by simp [notAccepted]),
      if_pos (by simp [Server.isFileTransferModeActive, active, answers])]
  have mode : next.network.server.fileTransferModeActive_ = true := by
    rcases Server.mode_message heard.handled with ⟨accepts, -⟩ | ⟨-, -, same⟩
    · rw [accepts] at notAccepted
      cases notAccepted
    · rw [same answers.1, active]
  have awaits_iff : ∀ peer, next.Awaits peer ↔ ledger.Awaits peer ∧ peer ≠ client := by
    intro peer
    by_cases own : peer = client
    · refine iff_of_false (fun awaits => ?_) fun both => both.2 own
      have silent := awaits.silent
      rw [answered, own, Function.update_self] at silent
      cases silent
    · have same : next.network.poll.answered peer = ledger.network.poll.answered peer := by
        rw [answered, Function.update_of_ne own]
      constructor
      · exact fun awaits => ⟨awaits.before sentTo (heard.connected peer).mp fun silent => same ▸ silent, own⟩
      · exact fun both => both.1.before sentTo.symm (heard.connected peer).mpr fun silent => same ▸ silent
  constructor
  · rintro settled still ⟨peer, other, there⟩ last
    have due : next.Due := by
      refine ⟨mode, ?_, ⟨peer, sender ▸ other, (heard.connected peer).mpr there⟩, fun late awaits => ?_⟩
      · rw [heard.connected, sender]
        exact still.sender
      · obtain ⟨before, different⟩ := (awaits_iff late).mp awaits
        exact different (last late before)
    have decided := settled due
    rw [told, still.untold, Bool.false_or] at decided
    exact ((Server.decides_iff heard.known).mp decided).2.2
  · intro settles due
    rw [told, Bool.or_eq_true]
    cases untold : ledger.told with
    | true => exact Or.inl rfl
    | false =>
      obtain ⟨peer, other, there⟩ := due.other
      have connected : ledger.connected ledger.sender := by
        rw [← heard.connected, ← sender]
        exact due.sender
      refine Or.inr ((Server.decides_iff heard.known).mpr ⟨answers.1, active, settles ⟨active, connected, untold⟩
        ⟨peer, sender ▸ other, (heard.connected peer).mp there⟩ fun late awaits => ?_⟩)
      by_contra different
      exact due.answered late ((awaits_iff late).mpr ⟨awaits, different⟩)

theorem Heard.settled {memory : Memory} {letter : Letter Nat} (heard : Heard target ledger next client memory letter)
    (kept : ledger.Kept) (notAccepted : ledger.network.server.accepts letter.message = false)
    (late : ¬ (letter.answers ledger.network.poll.transfer = true ∧
      ledger.network.server.fileTransferModeActive_ = true)) : next.Due → next.told = true := by
  intro due
  obtain ⟨sender, sentTo, told⟩ := heard.sameRequest notAccepted
  have poll : next.network.poll = ledger.network.poll := by
    rw [heard.poll, Poll.hear, if_neg (by simp [notAccepted]), if_neg]
    simp only [Letter.answers, Bool.and_eq_true, decide_eq_true_eq] at late
    simp only [Server.isFileTransferModeActive, Bool.and_eq_true, decide_eq_true_eq]
    rintro ⟨⟨active, answer⟩, number⟩
    exact late ⟨⟨answer, number⟩, active⟩
  have mode : next.network.server.fileTransferModeActive_ = true →
      ledger.network.server.fileTransferModeActive_ = true := by
    rcases Server.mode_message heard.handled with ⟨accepts, -⟩ | ⟨-, mode, -⟩
    · rw [accepts] at notAccepted
      cases notAccepted
    · exact mode
  rw [told, kept.settled (due.before sender sentTo mode heard.connected (by rw [poll])), Bool.true_or]

theorem Heard.agree {memory : Memory} {letter : Letter Nat} (heard : Heard target ledger next client memory letter)
    (kept : ledger.Kept) (front : ledger.network.front client = some letter) :
    (next.Due → next.told = true) ↔ ledger.Settles (.message client memory) := by
  simp only [Settles, front, Option.some.injEq, forall_eq']
  cases accepts : ledger.network.server.accepts letter.message with
  | true =>
    rw [heard.accepted_iff accepts]
    have noAnswer : ¬ letter.answers ledger.network.poll.transfer = true := by
      intro answers
      simp only [Letter.answers, Bool.and_eq_true, Option.isSome_iff_exists] at answers
      obtain ⟨⟨code, answer⟩, -⟩ := answers
      rw [(Message.eq_of_answer answer).1] at accepts
      cases accepts
    constructor
    · exact fun somebody => ⟨fun _ => somebody, fun answers => absurd answers noAnswer⟩
    · exact fun settles => settles.1 rfl
  | false =>
    by_cases timely : letter.answers ledger.network.poll.transfer = true ∧
        ledger.network.server.fileTransferModeActive_ = true
    · rw [heard.answered_iff accepts timely.1 timely.2]
      constructor
      · exact fun decided => ⟨fun started => (Bool.false_ne_true started).elim, fun _ => decided⟩
      · exact fun settles => settles.2 timely.1
    · refine iff_of_true (heard.settled kept accepts timely) ⟨fun started => (Bool.false_ne_true started).elim, ?_⟩
      exact fun answers still => absurd ⟨answers, still.active⟩ timely

theorem agree_connect {fileTransferBuffer_ : Field maxMessageSize} {fileName_ : Field maxPathSize}
    {nickName_ sessionNickName_ : Field maxNicknameSize} (kept : ledger.Kept)
    (stepped : ledger.step target (.connect client fileTransferBuffer_ fileName_ nickName_ sessionNickName_) = some next) :
    (next.Due → next.told = true) ↔
      (ledger.Open → ∃ peer, peer ≠ ledger.sender ∧ ledger.connected peer) := by
  obtain ⟨network, moved, rfl⟩ := Option.map_eq_some_iff.mp stepped
  cases Network.steps_of_step moved with
  | connect unused unknown =>
    have stranger : ledger.sentTo client = false := by
      by_contra sent
      have known := kept.known client (Or.inl (Bool.eq_true_of_not_eq_false sent))
      rw [unused] at known
      cases known
    have other : ledger.network.server.fileTransferModeActive_ = true → ledger.sender ≠ client := by
      rintro active rfl
      have known := kept.known ledger.sender (Or.inr ⟨active, rfl⟩)
      rw [unused] at known
      cases known
    have joined : ∀ peer, ((ledger.network.server.addSession client sessionNickName_).findSession peer).isSome = true ↔
        peer = client ∨ ledger.connected peer := by
      intro peer
      rw [Server.addSession_find]
      by_cases own : peer = client
      · rw [if_pos own]
        exact iff_of_true rfl (Or.inl own)
      · rw [if_neg own]
        exact ⟨Or.inr, fun either => either.resolve_left own⟩
    constructor
    · intro settled still
      by_contra alone
      refine Bool.false_ne_true (still.untold.symm.trans (settled ⟨still.active, (joined _).mpr (Or.inr still.sender),
        ⟨client, (other still.active).symm, (joined client).mpr (Or.inl rfl)⟩, fun peer awaits => ?_⟩))
      rcases (joined peer).mp awaits.connected with rfl | there
      · cases stranger.symm.trans awaits.sent
      · refine alone ⟨peer, ?_, there⟩
        rintro rfl
        cases kept.apart.symm.trans awaits.sent
    · intro settles due
      cases untold : ledger.told with
      | true => rfl
      | false =>
        have sender : ledger.connected ledger.sender := ((joined _).mp due.sender).resolve_left (other due.active)
        obtain ⟨peer, different, there⟩ := settles ⟨due.active, sender, untold⟩
        refine untold.symm.trans (kept.settled ⟨due.active, sender, ⟨peer, different, there⟩, fun late awaits => ?_⟩)
        exact due.answered late ⟨awaits.sent, (joined late).mpr (Or.inr awaits.connected), awaits.silent⟩

theorem agree_removeSession (stepped : ledger.step target (.removeSession client) = some next) :
    (next.Due → next.told = true) ↔ ledger.Settles (.removeSession client) := by
  obtain ⟨network, moved, rfl⟩ := Option.map_eq_some_iff.mp stepped
  cases Network.steps_of_step moved with
  | @removeSession _ server removed =>
    obtain ⟨current, there, mode, -, sessions⟩ := Server.removeSession_ok removed
    have marked : ledger.network.server.IsSender client ↔ current.isFileTransferSender = true := by
      simp [Server.IsSender, there]
    have stays : ∀ peer, (server.findSession peer).isSome = true ↔ peer ≠ client ∧ ledger.connected peer := by
      intro peer
      rw [sessions]
      by_cases own : peer = client
      · simp [own]
      · rw [if_neg own]
        exact ⟨fun still => ⟨own, still⟩, fun both => both.2⟩
    have active_iff : server.fileTransferModeActive_ = true ↔
        ledger.network.server.fileTransferModeActive_ = true ∧ ¬ ledger.network.server.IsSender client := by
      rw [mode, marked, Bool.and_eq_true, Bool.not_eq_true', Bool.not_eq_true]
    simp only [Settles]
    constructor
    · rintro settled still notSender unmarked ⟨peer, other, different, connected⟩
      by_contra none
      refine Bool.false_ne_true (still.untold.symm.trans (settled ⟨active_iff.mpr ⟨still.active, unmarked⟩,
        (stays _).mpr ⟨notSender.symm, still.sender⟩, ⟨peer, other, (stays peer).mpr ⟨different, connected⟩⟩,
        fun late awaits => ?_⟩))
      obtain ⟨apart, before⟩ := (stays late).mp awaits.connected
      exact none ⟨late, apart, awaits.sent, before, awaits.silent⟩
    · intro settles due
      cases untold : ledger.told with
      | true => rfl
      | false =>
        obtain ⟨active, unmarked⟩ := active_iff.mp due.active
        obtain ⟨notSender, sender⟩ := (stays _).mp due.sender
        obtain ⟨peer, other, still⟩ := due.other
        obtain ⟨different, connected⟩ := (stays peer).mp still
        obtain ⟨late, apart, awaits⟩ := settles ⟨active, sender, untold⟩ notSender.symm unmarked
          ⟨peer, other, different, connected⟩
        exact absurd ⟨awaits.sent, (stays late).mpr ⟨apart, awaits.connected⟩, awaits.silent⟩ (due.answered late)

structure Unheard (ledger next : Ledger) : Prop where
  sender : next.sender = ledger.sender
  sentTo : next.sentTo = ledger.sentTo
  told : next.told = ledger.told
  poll : next.network.poll = ledger.network.poll
  mode : next.network.server.fileTransferModeActive_ = true → ledger.network.server.fileTransferModeActive_ = true
  connected : ∀ peer, next.connected peer → ledger.connected peer ∨ (next.network.connections peer).isSome = true

theorem unheard_of_step {event : Network.Event} (other : ∀ client memory, event ≠ .message client memory)
    (stepped : ledger.step target event = some next) : Unheard ledger next := by
  obtain ⟨network, moved, rfl⟩ := Option.map_eq_some_iff.mp stepped
  cases Network.steps_of_step moved with
  | message => exact absurd rfl (other _ _)
  | @connect client =>
    refine ⟨rfl, rfl, rfl, rfl, id, fun peer there => ?_⟩
    by_cases own : peer = client
    · subst own
      right
      simp only [Function.update_self]
      rfl
    · left
      rw [Ledger.connected, Server.addSession_find, if_neg own] at there
      exact there
  | client => exact ⟨rfl, rfl, rfl, rfl, id, fun _ => Or.inl⟩
  | writeData =>
    refine ⟨rfl, rfl, rfl, rfl, id, fun peer there => Or.inl ?_⟩
    exact ((Server.rewrites_modify _ _ _).isSome_eq peer).symm.trans there
  | removeSession removed =>
    obtain ⟨current, -, mode, -, sessions⟩ := Server.removeSession_ok removed
    refine ⟨rfl, rfl, rfl, rfl, fun active => ?_, fun peer there => Or.inl ?_⟩
    · rw [mode, Bool.and_eq_true] at active
      exact active.1
    · rw [Ledger.connected, sessions] at there
      split at there
      · cases there
      · exact there

theorem Unheard.settled (unheard : Unheard ledger next) (kept : ledger.Kept)
    (connected : ∀ peer, next.connected peer ↔ ledger.connected peer) : next.Due → next.told = true := by
  intro due
  rw [unheard.told]
  exact kept.settled (due.before unheard.sender unheard.sentTo unheard.mode connected (by rw [unheard.poll]))

theorem Kept.agree (kept : ledger.Kept) {event : Network.Event} (stepped : ledger.step target event = some next) :
    ledger.LeavesNoneOpen target event ↔ ledger.Settles event := by
  rw [leavesNoneOpen_iff stepped]
  cases event with
  | connect client fileTransferBuffer_ fileName_ nickName_ sessionNickName_ => exact agree_connect kept stepped
  | removeSession client => exact agree_removeSession stepped
  | message client memory =>
    obtain ⟨letter, front, heard⟩ := heard_of_step stepped
    exact heard.agree kept front
  | client client event =>
    have unheard := unheard_of_step (by rintro _ _ ⟨⟩) stepped
    refine iff_of_true (unheard.settled kept fun peer => ?_) trivial
    have moved := network_step stepped
    simp only [Network.step] at moved
    split at moved
    · cases moved
    · obtain ⟨acted, -, same⟩ := Option.map_eq_some_iff.mp moved
      rw [Ledger.connected, Ledger.connected, ← same]
  | writeData client =>
    have unheard := unheard_of_step (by rintro _ _ ⟨⟩) stepped
    refine iff_of_true (unheard.settled kept fun peer => ?_) trivial
    have moved := network_step stepped
    simp only [Network.step] at moved
    split at moved
    · have same := Option.some.inj moved
      rw [Ledger.connected, Ledger.connected, ← same]
      exact Eq.congr_left ((Server.rewrites_modify _ _ _).isSome_eq peer)
    · cases moved

theorem Kept.step (kept : ledger.Kept) {event : Network.Event} (settles : ledger.Settles event)
    (stepped : ledger.step target event = some next) : next.Kept := by
  have settled := (leavesNoneOpen_iff stepped).mp ((kept.agree stepped).mpr settles)
  have grown : ∀ peer, (ledger.network.connections peer).isSome = true →
      (next.network.connections peer).isSome = true :=
    fun peer => Network.isSome_connections_step (network_step stepped)
  by_cases message : ∃ client memory, event = .message client memory
  · obtain ⟨client, memory, rfl⟩ := message
    obtain ⟨letter, front, heard⟩ := heard_of_step stepped
    have sessions : ∀ peer, next.connected peer → (next.network.connections peer).isSome = true :=
      fun peer there => grown peer (kept.sessions peer ((heard.connected peer).mp there))
    cases accepts : ledger.network.server.accepts letter.message with
    | true =>
      have sender : next.sender = client := by rw [heard.sender, hear, if_pos accepts]
      have sentTo : ∀ peer, next.sentTo peer = (peer ≠ client && ledger.network.server.hasRoom peer) := by
        intro peer
        rw [heard.sentTo, hear, if_pos accepts]
      refine ⟨settled, by rw [sentTo, sender]; simp, fun peer given => sessions peer ?_, sessions⟩
      rw [heard.connected]
      rcases given with sent | ⟨-, rfl⟩
      · rw [sentTo, Bool.and_eq_true, Server.hasRoom_iff] at sent
        obtain ⟨-, data, there, -⟩ := sent
        rw [Ledger.connected, there]
        rfl
      · rw [sender]
        exact heard.known
    | false =>
      obtain ⟨sender, sentTo, -⟩ := heard.sameRequest accepts
      refine ⟨settled, by rw [sentTo, sender]; exact kept.apart, fun peer given => grown peer (kept.known peer ?_), sessions⟩
      rcases Server.mode_message heard.handled with ⟨started, -⟩ | ⟨-, mode, -⟩
      · rw [accepts] at started
        cases started
      · rw [← sentTo, ← sender]
        exact given.imp_right fun ⟨active, own⟩ => ⟨mode active, own⟩
  · have unheard := unheard_of_step (fun client memory same => message ⟨client, memory, same⟩) stepped
    refine ⟨settled, ?_, fun peer given => grown peer (kept.known peer ?_), fun peer there => ?_⟩
    · rw [unheard.sentTo, unheard.sender]
      exact kept.apart
    · rw [← unheard.sentTo, ← unheard.sender]
      exact given.imp_right fun ⟨active, own⟩ => ⟨unheard.mode active, own⟩
    · rcases unheard.connected peer there with before | known
      · exact grown peer (kept.sessions peer before)
      · exact known

/-- The runs in which no request is left undecided are those whose steps settle what they leave due. -/
theorem noneLeftOpen {events : List Network.Event} :
    Run (step target) (LeavesNoneOpen target) start events ledger ↔ Run (step target) Settles start events ledger :=
  Run.iff_of_invariant Kept kept_start (fun _ _ _ kept stepped => kept.agree stepped)
    fun _ _ _ kept leaves stepped => kept.step ((kept.agree stepped).mp leaves) stepped

open Network in
/-- The first client offers a file to two others, and one of them accepts it. -/
def halfAnswered : List Network.Event :=
  joining 1 ++ joining 2 ++ joining 3 ++ offering 1 ++ hearing 2 (.accept aFile) ++ speaking 2

theorem noneLeftOpen_gone :
    ∃ ledger : Ledger, exec (step .m64) start halfAnswered = some ledger ∧
      ¬ ledger.LeavesNoneOpen .m64 (.removeSession 3) := by
  have outcome : ((exec (step .m64) start halfAnswered).bind fun ledger =>
      (ledger.step .m64 (.removeSession 3)).map fun final =>
        (final.told, final.network.server.fileTransferModeActive_, final.sender,
          final.network.server.sessions_.toList.map Prod.fst, final.sentTo 1, final.network.poll.answered 2)) =
      some (false, true, 1, [1, 2], false, true) := by
    decide +kernel
  simp only [Option.bind_eq_some_iff, Option.map_eq_some_iff, Prod.mk.injEq] at outcome
  obtain ⟨ledger, executed, final, stepped, untold, active, sender, sessions, apart, answered⟩ := outcome
  have listed : ∀ peer, final.connected peer ↔ peer = 1 ∨ peer = 2 := by
    intro peer
    have member : final.connected peer ↔ peer ∈ final.network.server.sessions_.toList.map Prod.fst := by
      rw [Ledger.connected, Option.isSome_iff_exists, List.mem_map]
      constructor
      · rintro ⟨data, there⟩
        exact ⟨(peer, data), Server.mem_sessions.mpr there, rfl⟩
      · rintro ⟨⟨peer, data⟩, member, rfl⟩
        exact ⟨data, Server.mem_sessions.mp member⟩
    rw [member, sessions]
    simp
  have due : final.Due := by
    refine ⟨active, (listed _).mpr (Or.inl sender), ⟨2, by rw [sender]; decide, (listed 2).mpr (Or.inr rfl)⟩,
      fun peer awaits => ?_⟩
    rcases (listed peer).mp awaits.connected with rfl | rfl
    · cases apart.symm.trans awaits.sent
    · cases answered.symm.trans awaits.silent
  refine ⟨ledger, executed, fun leaves => ?_⟩
  cases untold.symm.trans (leaves final stepped due)

end Ledger

end LanMessenger
