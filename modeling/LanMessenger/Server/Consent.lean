import LanMessenger.Server.FileData
import LanMessenger.Server.Reactions

namespace LanMessenger

open CMemory Transition

variable {τ : Type}

/-- A server and the transfers it has been asked for, which are numbered: the last one; the one each session has
    started last; the one whose request it was sent last, whether it has answered since, and the one it accepts. -/
structure Ballot (τ : Type) where
  server : Server τ
  transfer : Nat
  started : SessionId → Option Nat
  asked : SessionId → Option Nat
  answered : SessionId → Bool
  consent : SessionId → Option Nat

namespace Ballot

open Server

def start : Ballot τ := ⟨.new, 0, fun _ => none, fun _ => none, fun _ => false, fun _ => none⟩

def request (ballot : Ballot τ) (client : SessionId) : Ballot τ :=
  let reaches (peer : SessionId) : Bool :=
    peer ≠ client && (ballot.server.findSession peer).any fun data => data.client.outbox.canSendMessages
  { ballot with
    transfer := ballot.transfer + 1
    started := Function.update ballot.started client (some (ballot.transfer + 1))
    asked := fun peer => if reaches peer then some (ballot.transfer + 1) else ballot.asked peer
    answered := fun peer => !reaches peer && ballot.answered peer }

def answer (ballot : Ballot τ) (client : SessionId) (code : StatusCode) : Ballot τ :=
  { ballot with
    answered := Function.update ballot.answered client true
    consent := Function.update ballot.consent client
      (if code = .acceptFileTransfer then ballot.asked client else none) }

def hear (ballot : Ballot τ) (client : SessionId) (message : Message) : Ballot τ :=
  match message.answer with
  | some code => ballot.answer client code
  | none => if ballot.server.accepts message then ballot.request client else ballot

def join (ballot : Ballot τ) (client : SessionId) : Ballot τ :=
  { ballot with
    started := Function.update ballot.started client none
    asked := Function.update ballot.asked client none
    answered := Function.update ballot.answered client false
    consent := Function.update ballot.consent client none }

def step (target : Target) (ballot : Ballot τ) (event : Event τ) : Option (Ballot τ) :=
  (ballot.server.step target event).map fun server =>
    match event with
    | .addSession client _ => { ballot.join client with server }
    | .message client _ _ message => { ballot.hear client message with server }
    | _ => { ballot with server }

/-- A block is queued only for peers whose last answer accepts the transfer the block belongs to. -/
def Consented (target : Target) (ballot : Ballot τ) : Event τ → Prop
  | .message client memory origin (.fileData block) => ∀ next peer before after,
    ballot.server.availableMessage target memory origin client (.fileData block) = .ok next →
    peer ≠ client → ballot.server.findSession peer = some before → next.findSession peer = some after →
    after.client.outbox.sendingQueue_ ≠ before.client.outbox.sendingQueue_ →
    ∃ number, ballot.started client = some number ∧ ballot.consent peer = some number
  | _ => True

/-- A block that can reach a peer is one of the transfer that is on, and the peer has answered that one's request. -/
def Consulted (ballot : Ballot τ) : Event τ → Prop
  | .message client _ _ (.fileData _) => ∀ peer data, ballot.server.findSession peer = some data → peer ≠ client →
    data.client.fileTransferStatus_ = .acceptFileTransfer → data.client.outbox.canSendMessages = true →
    ballot.server.fileTransferModeActive_ = true ∧ ballot.started client = some ballot.transfer ∧
      ballot.asked peer = some ballot.transfer ∧ ballot.answered peer = true
  | _ => True

instance (ballot : Ballot τ) (event : Event τ) : Decidable (ballot.Consulted event) := by
  unfold Consulted
  split <;> infer_instance

structure Recorded (ballot : Ballot τ) : Prop where
  asked : ∀ peer number, ballot.asked peer = some number → number ≤ ballot.transfer
  status : ballot.server.fileTransferModeActive_ = true → ∀ peer data, ballot.server.findSession peer = some data →
    ballot.asked peer = some ballot.transfer → ballot.answered peer = true →
    data.client.fileTransferStatus_ = .acceptFileTransfer → ballot.consent peer = some ballot.transfer

theorem recorded_start : (start : Ballot τ).Recorded := by
  refine ⟨fun peer number asked => ?_, fun active => ?_⟩
  · cases asked
  · cases active

variable {ballot next : Ballot τ} {target : Target} {server : Server τ} {client : SessionId} {memory : Memory} {origin : τ}
  {message : Message}

theorem hear_of_answer {code : StatusCode} (answer : message.answer = some code) :
    ballot.hear client message = ballot.answer client code := by
  simp only [hear, answer]

theorem hear_of_quiet (answer : message.answer = none) (accepts : ballot.server.accepts message = false) :
    ballot.hear client message = ballot := by
  simp only [hear, answer, accepts, Bool.false_eq_true, if_false]

theorem Recorded.kept (recorded : ballot.Recorded)
    (mode : server.fileTransferModeActive_ = true → ballot.server.fileTransferModeActive_ = true)
    (before : ∀ peer data, server.findSession peer = some data →
      data.client.fileTransferStatus_ = .acceptFileTransfer → ∃ was, ballot.server.findSession peer = some was ∧
        was.client.fileTransferStatus_ = .acceptFileTransfer) :
    ({ ballot with server } : Ballot τ).Recorded := by
  refine ⟨recorded.asked, fun active peer data there asked answered accepted => ?_⟩
  obtain ⟨was, known, before⟩ := before peer data there accepted
  exact recorded.status (mode active) peer was known asked answered before

theorem Recorded.idle (recorded : ballot.Recorded) (code : StatusCode) (idle : server.fileTransferModeActive_ = false) :
    ({ ballot.answer client code with server } : Ballot τ).Recorded := by
  refine ⟨recorded.asked, fun active => ?_⟩
  rw [idle] at active
  cases active

theorem Recorded.answered (recorded : ballot.Recorded) {code : StatusCode}
    (active : ballot.server.fileTransferModeActive_ = true)
    (before : ∀ peer data, server.findSession peer = some data → ∃ was, ballot.server.findSession peer = some was ∧
      data.client.fileTransferStatus_ = if peer = client then code else was.client.fileTransferStatus_) :
    ({ ballot.answer client code with server } : Ballot τ).Recorded := by
  refine ⟨recorded.asked, fun _ peer data there asked answered accepted => ?_⟩
  obtain ⟨was, known, status⟩ := before peer data there
  simp only [answer] at asked answered ⊢
  by_cases own : peer = client
  · subst own
    rw [if_pos rfl, accepted] at status
    rw [Function.update_self, if_pos status.symm, asked]
  · rw [if_neg own, accepted] at status
    rw [Function.update_of_ne own] at answered ⊢
    exact recorded.status active peer was known asked answered status.symm

theorem Recorded.requested (recorded : ballot.Recorded) : ({ ballot.request client with server } : Ballot τ).Recorded := by
  constructor
  · intro peer number asked
    simp only [request] at asked ⊢
    split at asked
    · cases asked
      exact le_rfl
    · exact (recorded.asked peer number asked).trans (Nat.le_succ _)
  · intro _ peer data there asked answered
    simp only [request, Bool.and_eq_true, Bool.not_eq_true'] at asked answered
    rw [if_neg (by simpa using answered.1)] at asked
    exact absurd (recorded.asked peer _ asked) (Nat.not_succ_le_self _)

theorem Recorded.hear (recorded : ballot.Recorded)
    (handled : ballot.server.availableMessage target memory origin client message = .ok server) :
    ({ ballot.hear client message with server } : Ballot τ).Recorded := by
  cases availableMessage_reaction handled with
  | quiet noAnswer noBlock notAccepted mode spreads =>
    rw [hear_of_quiet noAnswer notAccepted]
    refine recorded.kept (fun active => mode.symm.trans active) fun peer data there accepted => ?_
    obtain ⟨was, known, -, status, -⟩ := spreads.before there
    exact ⟨was, known, status.symm.trans accepted⟩
  | refused why mode spreads =>
    rcases why with ⟨answers, idle⟩ | ⟨⟨file, rfl⟩, active⟩
    · obtain ⟨code, answer⟩ := Option.isSome_iff_exists.mp answers
      rw [hear_of_answer answer]
      exact recorded.idle code (mode.trans idle)
    · rw [hear_of_quiet rfl (by simp [accepts, active])]
      refine recorded.kept (fun _ => active) fun peer data there accepted => ?_
      obtain ⟨was, known, -, status, -⟩ := spreads.before there
      exact ⟨was, known, status.symm.trans accepted⟩
  | answered answer active mode decided spreads =>
    rw [hear_of_answer answer]
    refine recorded.answered active fun peer data there => ?_
    obtain ⟨was, known, -, status, -⟩ := spreads.before there
    exact ⟨was, known, status⟩
  | accepted idle accepts mode current spreads =>
    simp only [hear, Message.answer, accepts, if_true]
    exact recorded.requested
  | relayed mode spreads =>
    rw [hear_of_quiet rfl rfl]
    refine recorded.kept (fun active => ?_) fun peer data there accepted => ?_
    · rw [mode, Bool.and_eq_true] at active
      exact active.1
    · obtain ⟨was, known, -, status, -⟩ := spreads.before there
      rw [accepted] at status
      split at status
      · cases status
      · exact ⟨was, known, status.symm⟩
  | spent mode spreads =>
    rw [hear_of_quiet rfl rfl]
    refine recorded.kept (fun active => mode.symm.trans active) fun peer data there accepted => ?_
    obtain ⟨was, known, -, status, -⟩ := spreads.before there
    rw [accepted] at status
    split at status
    · cases status
    · exact ⟨was, known, status.symm⟩

theorem Recorded.step (recorded : ballot.Recorded) {event : Event τ} (stepped : ballot.step target event = some next) :
    next.Recorded := by
  obtain ⟨server, taken, done⟩ := Option.map_eq_some_iff.mp stepped
  subst done
  cases steps_of_step taken with
  | @addSession client nickName_ unknown =>
    constructor
    · intro peer number asked
      by_cases own : peer = client
      · subst own
        simp [join] at asked
      · simp only [join, Function.update_of_ne own] at asked
        exact recorded.asked peer number asked
    · intro active peer data there asked answered accepted
      by_cases own : peer = client
      · subst own
        simp [join] at asked
      · rw [addSession_find, if_neg own] at there
        simp only [join, Function.update_of_ne own] at asked answered ⊢
        exact recorded.status active peer data there asked answered accepted
  | removeSession removed =>
    obtain ⟨current, -, mode, -⟩ := removeSession_ok removed
    refine recorded.kept (fun active => ?_) fun peer data there accepted =>
      ⟨data, find_removeSession removed there, accepted⟩
    rw [mode, Bool.and_eq_true] at active
    exact active.1
  | message handled => exact recorded.hear handled
  | writeData =>
    refine recorded.kept id fun peer data there accepted => ?_
    rw [findSession_modify] at there
    split at there
    · obtain ⟨was, known, rfl⟩ := Option.map_eq_some_iff.mp there
      exact ⟨was, known, accepted⟩
    · exact ⟨data, there, accepted⟩

theorem Recorded.consented (recorded : ballot.Recorded) {event : Event τ} (consulted : ballot.Consulted event) :
    ballot.Consented target event := by
  cases event with
  | message client memory origin message =>
    cases message with
    | fileData block =>
      intro next peer before after handled other there later grown
      obtain ⟨current, -, ⟨-, -, rewrites⟩ | ⟨-, -, rewrites⟩⟩ := fileData_ok handled
      · rw [rewrites.find, there, Option.map_some, if_neg other] at later
        cases later
        exact absurd rfl grown
      · rw [rewrites.find, there, Option.map_some, if_neg other] at later
        cases later
        have accepted : before.client.fileTransferStatus_ = .acceptFileTransfer := by
          by_contra refused
          apply grown
          simp [dataLetter, refused, SessionData.sendSome]
        have room : before.client.outbox.canSendMessages = true := by
          by_contra full
          apply grown
          simp only [dataLetter, accepted, ne_eq, not_true_eq_false, if_false]
          exact (before.client.outbox.send_eq_iff _).mpr (Bool.eq_false_of_not_eq_true full)
        obtain ⟨active, started, asked, answered⟩ := consulted peer before there other accepted room
        exact ⟨_, started, recorded.status active peer before there asked answered accepted⟩
    | _ => exact trivial
  | _ => exact trivial

/-- The second session accepts the first one's file and gets a block of it. -/
def accepted : List (Event Unit) := [.addSession 1 (Field.zero _), .addSession 2 (Field.zero _),
  .message 1 Memory.zeroed () (.fileRequest (.ofFileName (ascii ['f']))),
  .message 2 Memory.zeroed () (.status ⟨.acceptFileTransfer⟩),
  .message 1 Memory.zeroed () (.fileData Heap.zeroed.fileData)]

/-- The third session has accepted the first file. It has not answered the request of the second one when the
    first block of that file reaches it. -/
def leftover : List (Event Unit) := [.addSession 1 (Field.zero _), .addSession 2 (Field.zero _),
  .addSession 3 (Field.zero _), .message 1 Memory.zeroed () (.fileRequest (.ofFileName (ascii ['f']))),
  .message 2 Memory.zeroed () (.status ⟨.acceptFileTransfer⟩), .message 3 Memory.zeroed () (.status ⟨.acceptFileTransfer⟩),
  .message 1 Memory.zeroed () (.fileData Heap.zeroed.fileData.markLastBlock),
  .message 1 Memory.zeroed () (.fileRequest (.ofFileName (ascii ['g']))),
  .message 2 Memory.zeroed () (.status ⟨.rejectFileTransfer⟩)]

end Ballot

end LanMessenger
