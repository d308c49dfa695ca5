import LanMessenger.Server.TransferMode

namespace LanMessenger

open CMemory Transition

variable {τ : Type}

namespace Server

variable {server next : Server τ} {target : Target} {client : SessionId} {memory : Memory} {origin : τ}
  {block : FileDataMessage}

def transferState (data : SessionData τ) : List (Letter τ) × Bool × StatusCode :=
  (data.client.outbox.sendingQueue_, data.isFileTransferSender, data.client.fileTransferStatus_)

/-- Nothing is queued for any session, and no transfer is touched. -/
structure Untouched (server next : Server τ) : Prop where
  mode : next.fileTransferModeActive_ = server.fileTransferModeActive_
  sessions : Keeps transferState server next

/-- The block reaches no queue, and no transfer ends with it. -/
structure Harmless (server : Server τ) (client : SessionId) (block : FileDataMessage) : Prop where
  unheard : ∀ peer data, server.findSession peer = some data → peer ≠ client →
    data.client.fileTransferStatus_ = .acceptFileTransfer → data.client.outbox.canSendMessages = false
  ends : block.isLastBlock = true → (server.sessions_.size = 1 ∨ server.fileTransferModeActive_ = false) ∧
    ∀ current, server.findSession client = some current → current.client.fileTransferStatus_ = .fileTransferCanceled

theorem Rewrites.keeps_iff {β : Type} {field : SessionData τ → β} {change : SessionId → SessionData τ → SessionData τ}
    (rewrites : Rewrites server next change) :
    Keeps field server next ↔
      ∀ peer data, server.findSession peer = some data → field (change peer data) = field data := by
  constructor
  · intro keeps peer data there
    have kept := keeps peer
    rw [rewrites.find, there, Option.map_some, Option.map_some, Option.map_some] at kept
    exact Option.some.inj kept
  · intro same peer
    rw [rewrites.find]
    cases there : server.findSession peer with
    | none => rfl
    | some data => rw [Option.map_some, Option.map_some, Option.map_some, same peer data there]

theorem transferState_setStatus (data : SessionData τ) (code : StatusCode) :
    transferState (data.setStatus code) = transferState data ↔ data.client.fileTransferStatus_ = code := by
  simp [transferState, SessionData.setStatus, eq_comm]

theorem transferState_dataLetter (origin : τ) (peer : SessionId) (data : SessionData τ) :
    transferState (data.sendSome (dataLetter target memory origin block peer data)) = transferState data ↔
      (data.client.fileTransferStatus_ = .acceptFileTransfer → data.client.outbox.canSendMessages = false) := by
  unfold dataLetter
  by_cases accepted : data.client.fileTransferStatus_ = .acceptFileTransfer
  · have sent := data.client.outbox.send_eq_iff ⟨.fileData (copyFileData target (memory.heap peer).fileData block), origin⟩
    rw [if_neg (not_not.mpr accepted)]
    simpa [transferState, SessionData.sendSome, SessionData.send, accepted] using sent
  · rw [if_pos accepted]
    simp [SessionData.sendSome, accepted]

theorem untouched_iff (unmarked : ¬ server.IsSender client)
    (handled : server.availableMessage target memory origin client (.fileData block) = .ok next) :
    server.Untouched next ↔ server.Harmless client block := by
  obtain ⟨current, there, ⟨alone, mode, rewrites⟩ | ⟨several, mode, rewrites⟩⟩ := fileData_ok handled
  · have only : ∀ peer data, server.findSession peer = some data → peer = client := by
      intro peer data found
      by_contra other
      exact size_ne_one (by rw [found]; rfl) (by rw [there]; rfl) other alone
    constructor
    · rintro ⟨-, sessions⟩
      refine ⟨fun peer data found other => absurd (only peer data found) other, fun last => ⟨Or.inl alone, ?_⟩⟩
      intro now found
      have same := rewrites.keeps_iff.mp sessions client now found
      rw [if_pos rfl, if_pos last] at same
      exact (transferState_setStatus now _).mp same
    · rintro ⟨-, ends⟩
      refine ⟨mode, rewrites.keeps_iff.mpr fun peer data found => ?_⟩
      obtain rfl := only peer data found
      rw [if_pos rfl]
      split
      · rename_i last
        exact (transferState_setStatus data _).mpr ((ends last).2 data found)
      · rfl
  · have unflagged : ∀ data, server.findSession client = some data → data.isFileTransferSender = false := by
      intro data found
      apply Bool.eq_false_iff.mpr
      intro flagged
      exact unmarked (by rw [IsSender, found, Option.map_some, flagged])
    constructor
    · rintro ⟨modeSame, sessions⟩
      have each := rewrites.keeps_iff.mp sessions
      refine ⟨fun peer data found other => ?_, fun last => ⟨Or.inr ?_, fun now found => ?_⟩⟩
      · have same := each peer data found
        rw [if_neg other] at same
        exact (transferState_dataLetter origin peer data).mp same
      · rw [mode, last, Bool.not_true, Bool.and_false] at modeSame
        exact modeSame.symm
      · have same := each client now found
        rw [if_pos rfl, if_pos last] at same
        exact ((Prod.mk.inj (Prod.mk.inj same).2).2).symm
    · rintro ⟨unheard, ends⟩
      refine ⟨?_, rewrites.keeps_iff.mpr fun peer data found => ?_⟩
      · cases last : block.isLastBlock with
        | false => rw [mode, last, Bool.not_false, Bool.and_true]
        | true => rw [mode, last, ((ends last).1.resolve_left several), Bool.false_and]
      · by_cases own : peer = client
        · subst own
          rw [if_pos rfl]
          split
          · rename_i last
            simp [transferState, SessionData.setStatus, unflagged data found, (ends last).2 data found]
          · rfl
        · rw [if_neg own]
          exact (transferState_dataLetter origin peer data).mpr (unheard peer data found own)

/-- A block counts only if its session is the sender. -/
def SparesOthers (target : Target) (server : Server τ) : Event τ → Prop
  | .message client memory origin (.fileData block) => ¬ server.IsSender client → ∀ next,
    server.availableMessage target memory origin client (.fileData block) = .ok next → server.Untouched next
  | _ => True

def OthersHarmless (server : Server τ) : Event τ → Prop
  | .message client _ _ (.fileData block) => ¬ server.IsSender client → server.Harmless client block
  | _ => True

instance (server : Server τ) (client : SessionId) (block : FileDataMessage) : Decidable (server.Harmless client block) :=
  have : Decidable (∀ current, server.findSession client = some current →
      current.client.fileTransferStatus_ = .fileTransferCanceled) := Option.decidableForallMem (server.findSession client)
  have : Decidable (∀ peer data, server.findSession peer = some data → peer ≠ client →
    data.client.fileTransferStatus_ = .acceptFileTransfer → data.client.outbox.canSendMessages = false) := inferInstance
  decidable_of_iff (_ ∧ (_ → _ ∧ _)) ⟨fun parts => ⟨parts.1, parts.2⟩, fun harmless => ⟨harmless.unheard, harmless.ends⟩⟩

instance (server : Server τ) (event : Event τ) : Decidable (server.OthersHarmless event) :=
  match event with
  | .message _ _ _ (.fileData _) => inferInstanceAs (Decidable (¬ _ → _))
  | .message _ _ _ (.status _) | .message _ _ _ .hello | .message _ _ _ .bye | .message _ _ _ (.chat _)
  | .message _ _ _ (.fileRequest _) | .message _ _ _ (.nickname _) | .addSession _ _ | .removeSession _ _
  | .writeData _ => instDecidableTrue

/-- In every state the server comes to, a block from a session that is not the sender changes nothing exactly
    when it is harmless; so the runs in which no such block changes anything are those in which each is harmless. -/
theorem sendersData {events : List (Event τ)} :
    (Run (step target) Always new events server → ∀ client memory origin block next, ¬ server.IsSender client →
        server.availableMessage target memory origin client (.fileData block) = .ok next →
        (server.Untouched next ↔ server.Harmless client block)) ∧
      (Run (step target) (SparesOthers target) new events server ↔
        Run (step target) OthersHarmless new events server) := by
  refine ⟨fun _ client memory origin block next unmarked handled => untouched_iff unmarked handled, ?_⟩
  apply Run.congr
  intro state event after stepped
  cases event with
  | message client memory origin message =>
    cases message with
    | fileData block =>
      have handled := toOption_some stepped
      constructor
      · intro spares unmarked
        exact (untouched_iff unmarked handled).mp (spares unmarked after handled)
      · intro harmless unmarked next done
        exact (untouched_iff unmarked done).mpr (harmless unmarked)
    | _ => exact Iff.rfl
  | _ => exact Iff.rfl

/-- The first session has offered a file and turned it down itself, so that blocks are not for it. -/
def turnedDown : List (Event Unit) := [.addSession 1 (Field.zero _), .addSession 2 (Field.zero _),
  .message 1 Memory.zeroed () (.fileRequest (.ofFileName (ascii ['f']))),
  .message 1 Memory.zeroed () (.status ⟨.rejectFileTransfer⟩)]

theorem sendersData_turnedDown :
    ∃ server next : Server Unit, exec (step .m64) new turnedDown = some server ∧ server.IsSender 1 ∧
      server.fileTransferModeActive_ = true ∧
      server.availableMessage .m64 Memory.zeroed () 2 (.fileData Heap.zeroed.fileData) = .ok next ∧
      server.Untouched next ∧ Run (step .m64) (SparesOthers .m64) new
        (turnedDown ++ [.message 2 Memory.zeroed () (.fileData Heap.zeroed.fileData)]) next := by
  have outcome : (execMeets (step .m64) (fun server event => decide (server.OthersHarmless event)) (new : Server Unit)
      turnedDown).bind (fun server =>
        (server.availableMessage .m64 Memory.zeroed () 2 (.fileData Heap.zeroed.fileData)).toOption.map fun _ =>
          decide ((server.IsSender 1 ∧ ¬ server.IsSender 2) ∧ server.fileTransferModeActive_ = true ∧
            server.Harmless 2 Heap.zeroed.fileData)) = some true := by
    decide +kernel
  obtain ⟨server, ran, facts⟩ := Option.bind_eq_some_iff.mp outcome
  obtain ⟨next, handled, facts⟩ := Option.map_eq_some_iff.mp facts
  obtain ⟨⟨sends, other⟩, active, harmless⟩ := of_decide_eq_true facts
  have run := run_of_execDecide ran
  refine ⟨server, next, exec_of_execMeets ran, sends, active, toOption_some handled, ?_, ?_⟩
  · exact (sendersData.1 (run_of_exec (exec_of_execMeets ran)) 2 _ _ _ _ other (toOption_some handled)).mpr harmless
  · exact sendersData.2.mpr (run.snoc (fun _ => harmless) handled)

/-- The other session sends a last block while the first one's request is open: the block goes to the sender, and
    the transfer is over. -/
theorem sendersData_strayBlock :
    ∃ server next : Server Unit, exec (step .m64) new [.addSession 1 (Field.zero _), .addSession 2 (Field.zero _),
        .message 1 Memory.zeroed () (.fileRequest (.ofFileName (ascii ['f'])))] = some server ∧
      ¬ server.IsSender 2 ∧
      server.availableMessage .m64 Memory.zeroed () 2 (.fileData Heap.zeroed.fileData.markLastBlock) = .ok next ∧
      ¬ server.Untouched next := by
  have outcome : (exec (step .m64) (new : Server Unit) [.addSession 1 (Field.zero _), .addSession 2 (Field.zero _),
      .message 1 Memory.zeroed () (.fileRequest (.ofFileName (ascii ['f'])))]).map (fun server =>
        (server.fileTransferModeActive_, (server.findSession 2).map SessionData.isFileTransferSender,
          (server.availableMessage .m64 Memory.zeroed () 2 (.fileData Heap.zeroed.fileData.markLastBlock)).toOption.map
            fun next => next.fileTransferModeActive_)) = some (true, some false, some false) := by
    decide +kernel
  obtain ⟨server, ran, facts⟩ := Option.map_eq_some_iff.mp outcome
  rw [Prod.mk.injEq, Prod.mk.injEq] at facts
  obtain ⟨active, unmarked, ended⟩ := facts
  obtain ⟨next, handled, off⟩ := Option.map_eq_some_iff.mp ended
  refine ⟨server, next, ran, ?_, toOption_some handled, ?_⟩
  · rw [IsSender, unmarked]
    exact fun same => by cases same
  · rintro ⟨mode, -⟩
    rw [off, active] at mode
    cases mode

end Server

end LanMessenger
