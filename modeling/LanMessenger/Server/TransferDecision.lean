import LanMessenger.Server.TransferMode

namespace LanMessenger

open CMemory Transition

variable {τ : Type}

namespace Server

variable {server next : Server τ} {target : Target} {client sender : SessionId} {memory : Memory} {origin : τ}

def markedOthers (client : SessionId) (sessions : List (SessionId × SessionData τ)) : List (SessionId × SessionData τ) :=
  sessions.filter fun session => session.1 ≠ client && session.2.isFileTransferSender

theorem scanAnswers_answered {sessions : List (SessionId × SessionData τ)} (canStart : Bool) (sender : Option SessionId)
    (answered : ∀ session ∈ sessions, session.1 ≠ client → session.2.client.fileTransferStatus_ ≠ .fileTransferCanceled) :
    scanAnswers client sessions canStart sender = (true,
      canStart || sessions.any fun session =>
        session.1 ≠ client && session.2.client.fileTransferStatus_ = .acceptFileTransfer,
      ((markedOthers client sessions).getLast?.map fun session => session.1).or sender) := by
  induction sessions generalizing canStart sender with
  | nil => simp [scanAnswers, markedOthers]
  | cons session rest ih =>
    obtain ⟨peer, data⟩ := session
    have later : ∀ session ∈ rest, session.1 ≠ client →
        session.2.client.fileTransferStatus_ ≠ .fileTransferCanceled :=
      fun session member => answered session (List.mem_cons_of_mem _ member)
    rw [scanAnswers]
    by_cases own : peer = client
    · rw [if_pos own, ih canStart sender later]
      simp [markedOthers, own]
    · rw [if_neg own, if_neg (answered (peer, data) List.mem_cons_self own), ih _ _ later]
      cases flagged : data.isFileTransferSender with
      | false => simp [markedOthers, own, flagged, Bool.or_assoc]
      | true =>
        have counts : markedOthers client ((peer, data) :: rest) = (peer, data) :: markedOthers client rest := by
          simp [markedOthers, own, flagged]
        rw [counts, List.getLast?_cons]
        -- the session is the sender unless one behind it is marked too
        cases (markedOthers client rest).getLast? <;> simp [own, Bool.or_assoc]

/-- A session other than the sender answers the request of a transfer that is on, and the sender can be told. -/
structure OpenRequest (server : Server τ) (client sender : SessionId) : Prop where
  active : server.fileTransferModeActive_ = true
  answers : (server.findSession client).isSome = true
  other : client ≠ sender
  sends : ∃ data, server.findSession sender = some data ∧ data.isFileTransferSender = true ∧
    data.client.fileTransferStatus_ = .acceptFileTransfer ∧ data.client.outbox.canSendMessages = true
  only : ∀ peer, server.IsSender peer → peer = sender
  statuses : ∀ peer data, server.findSession peer = some data → peer ≠ sender →
    data.client.fileTransferStatus_ = .fileTransferCanceled ∨ StatusAnswers data.client.fileTransferStatus_

def AllAnswered (server : Server τ) (sender : SessionId) : Prop :=
  ∀ peer data, server.findSession peer = some data → peer ≠ sender →
    data.client.fileTransferStatus_ ≠ .fileTransferCanceled

def SomeAccepted (server : Server τ) (sender : SessionId) : Prop :=
  ∃ peer data, server.findSession peer = some data ∧ peer ≠ sender ∧
    data.client.fileTransferStatus_ = .acceptFileTransfer

/-- The sender is told to send the file if everybody has answered the request and at least one has said yes,
    not to if everybody has answered and nobody has, and nothing before that. -/
def TellsAsCommented (origin : τ) (server next : Server τ) (sender : SessionId) : Prop :=
  ∀ before after, server.findSession sender = some before → next.findSession sender = some after →
    (next.AllAnswered sender → next.SomeAccepted sender → after.client.outbox.sendingQueue_ =
      before.client.outbox.sendingQueue_ ++ [⟨.status ⟨.acceptFileTransfer⟩, origin⟩]) ∧
    (next.AllAnswered sender → ¬ next.SomeAccepted sender → after.client.outbox.sendingQueue_ =
      before.client.outbox.sendingQueue_ ++ [⟨.status ⟨.rejectFileTransfer⟩, origin⟩]) ∧
    (¬ next.AllAnswered sender → after.client.outbox.sendingQueue_ = before.client.outbox.sendingQueue_)

theorem status_answered {code : StatusCode} (answer : StatusAnswers code) (active : server.fileTransferModeActive_ = true)
    (handled : server.availableMessage target memory origin client (.status ⟨code⟩) = .ok next) (peer : SessionId) :
    (next.findSession peer).map (fun data => data.client.fileTransferStatus_) =
      (server.findSession peer).map fun data => if peer = client then code else data.client.fileTransferStatus_ := by
  obtain ⟨current, found⟩ := availableMessage_found handled
  rw [answer_active found answer active] at handled
  cases handled
  have kept : Keeps (fun data => data.client.fileTransferStatus_)
      (server.modify client fun data => data.setStatus code) (server.afterAnswer origin client code) := by
    simp only [afterAnswer]
    split
    · exact Keeps.refl _
    · split
      · exact Keeps.refl _
      · exact keeps_modify _ _ fun _ => rfl
  rw [kept peer, findSession_modify]
  by_cases own : peer = client
  · simp only [if_pos own, Option.map_map]
    rfl
  · simp only [if_neg own]

theorem allAnswered_iff {code : StatusCode} (answer : StatusAnswers code) (active : server.fileTransferModeActive_ = true)
    (handled : server.availableMessage target memory origin client (.status ⟨code⟩) = .ok next) :
    next.AllAnswered sender ↔ ∀ peer data, server.findSession peer = some data → peer ≠ client → peer ≠ sender →
      data.client.fileTransferStatus_ ≠ .fileTransferCanceled := by
  have statuses := status_answered answer active handled
  constructor
  · intro all peer data there different other
    have later := statuses peer
    rw [there, Option.map_some, if_neg different, Option.map_eq_some_iff] at later
    obtain ⟨after, found, same⟩ := later
    exact same ▸ all peer after found other
  · intro others peer after found other
    have before := statuses peer
    rw [found, Option.map_some, eq_comm, Option.map_eq_some_iff] at before
    obtain ⟨data, there, same⟩ := before
    rw [← same]
    by_cases own : peer = client
    · rw [if_pos own]
      rcases answer with rfl | rfl <;> exact StatusCode.noConfusion
    · rw [if_neg own]
      exact others peer data there own other

theorem someAccepted_iff {code : StatusCode} (answer : StatusAnswers code) (active : server.fileTransferModeActive_ = true)
    (other : client ≠ sender)
    (handled : server.availableMessage target memory origin client (.status ⟨code⟩) = .ok next) :
    next.SomeAccepted sender ↔ code = .acceptFileTransfer ∨
      ∃ peer data, server.findSession peer = some data ∧ peer ≠ client ∧ peer ≠ sender ∧
        data.client.fileTransferStatus_ = .acceptFileTransfer := by
  have statuses := status_answered answer active handled
  obtain ⟨current, known⟩ := availableMessage_found handled
  constructor
  · rintro ⟨peer, after, found, different, accepted⟩
    have before := statuses peer
    rw [found, Option.map_some, eq_comm, Option.map_eq_some_iff] at before
    obtain ⟨data, there, same⟩ := before
    by_cases own : peer = client
    · rw [if_pos own] at same
      exact Or.inl (same.trans accepted)
    · rw [if_neg own] at same
      exact Or.inr ⟨peer, data, there, own, different, same.trans accepted⟩
  · rintro (accepts | ⟨peer, data, there, own, different, accepted⟩)
    · have later := statuses client
      rw [known, Option.map_some, if_pos rfl, Option.map_eq_some_iff] at later
      obtain ⟨after, found, same⟩ := later
      exact ⟨client, after, found, other, same.trans accepts⟩
    · have later := statuses peer
      rw [there, Option.map_some, if_neg own, Option.map_eq_some_iff] at later
      obtain ⟨after, found, same⟩ := later
      exact ⟨peer, after, found, different, same.trans accepted⟩

namespace OpenRequest

variable {code : StatusCode}

theorem decision_eq (request : server.OpenRequest client sender)
    (answered : ∀ peer data, server.findSession peer = some data → peer ≠ client → peer ≠ sender →
      data.client.fileTransferStatus_ ≠ .fileTransferCanceled) :
    (server.modify client fun data => data.setStatus code).decision client = some (sender, .acceptFileTransfer) := by
  obtain ⟨data, there, marked, accepts, -⟩ := request.sends
  have still : (sender, data) ∈ (server.modify client fun data => data.setStatus code).sessions_.toList := by
    apply mem_sessions.mpr
    exact (findSession_modify server client sender _).trans (by rw [if_neg request.other.symm, there])
  have before : ∀ session ∈ (server.modify client fun data => data.setStatus code).sessions_.toList,
      session.1 ≠ client → server.findSession session.1 = some session.2 := by
    intro session member different
    have found := (findSession_modify server client session.1 _).symm.trans
      (mem_sessions.mp member)
    rwa [if_neg different] at found
  have answeredAll : ∀ session ∈ (server.modify client fun data => data.setStatus code).sessions_.toList,
      session.1 ≠ client → session.2.client.fileTransferStatus_ ≠ .fileTransferCanceled := by
    intro session member different
    have found := before session member different
    by_cases own : session.1 = sender
    · rw [own, there] at found
      cases found
      rw [accepts]
      exact StatusCode.noConfusion
    · exact answered session.1 session.2 found different own
  have canStart : (server.modify client fun data => data.setStatus code).sessions_.toList.any (fun session =>
      session.1 ≠ client && session.2.client.fileTransferStatus_ = .acceptFileTransfer) = true :=
    List.any_eq_true.mpr ⟨_, still, by simp [request.other.symm, accepts]⟩
  have listed : (sender, data) ∈ markedOthers client (server.modify client fun data => data.setStatus code).sessions_.toList :=
    List.mem_filter.mpr ⟨still, by simp [request.other.symm, marked]⟩
  obtain ⟨last, chosen⟩ := Option.isSome_iff_exists.mp (List.getLast?_isSome.mpr (List.ne_nil_of_mem listed))
  have only : last.1 = sender := by
    obtain ⟨member, passes⟩ := List.mem_filter.mp (List.mem_of_getLast? chosen)
    simp only [ne_eq, Bool.and_eq_true, decide_eq_true_eq] at passes
    apply request.only
    rw [IsSender, before last member passes.1, Option.map_some, passes.2]
  rw [decision, scanAnswers_answered false none answeredAll, canStart, chosen]
  simp [only]

/-- Everybody else has answered: the sender, whose own status counts as an answer, is told to send. -/
theorem told_accept (request : server.OpenRequest client sender) (answer : StatusAnswers code)
    (answered : ∀ peer data, server.findSession peer = some data → peer ≠ client → peer ≠ sender →
      data.client.fileTransferStatus_ ≠ .fileTransferCanceled)
    (handled : server.availableMessage target memory origin client (.status ⟨code⟩) = .ok next)
    {before after : SessionData τ} (there : server.findSession sender = some before)
    (later : next.findSession sender = some after) :
    after.client.outbox.sendingQueue_ =
      before.client.outbox.sendingQueue_ ++ [⟨.status ⟨.acceptFileTransfer⟩, origin⟩] := by
  obtain ⟨current, found⟩ := availableMessage_found handled
  obtain ⟨data, known, -, -, room⟩ := request.sends
  rw [there] at known
  cases known
  have several : (server.modify client fun data => data.setStatus code).sessions_.size ≠ 1 := by
    refine size_ne_one ?_ ?_ request.other
    · rw [findSession_modify, if_pos rfl, Option.isSome_map]
      exact request.answers
    · rw [findSession_modify, if_neg request.other.symm, there]
      rfl
  rw [answer_active found answer request.active, afterAnswer, if_neg several, request.decision_eq answered] at handled
  cases handled
  simp only [send, findSession_modify, if_true, if_neg request.other.symm, there, Option.map_some] at later
  cases later
  simp only [SessionData.send, Outbox.send_of_room room]

theorem told_nothing (request : server.OpenRequest client sender) (answer : StatusAnswers code)
    (waited : ∃ peer data, server.findSession peer = some data ∧ peer ≠ client ∧
      data.client.fileTransferStatus_ = .fileTransferCanceled)
    (handled : server.availableMessage target memory origin client (.status ⟨code⟩) = .ok next)
    {before after : SessionData τ} (there : server.findSession sender = some before)
    (later : next.findSession sender = some after) :
    after.client.outbox.sendingQueue_ = before.client.outbox.sendingQueue_ := by
  obtain ⟨current, found⟩ := availableMessage_found handled
  obtain ⟨peer, data, known, different, canceled⟩ := waited
  have undecided : (server.modify client fun data => data.setStatus code).decision client = none := by
    apply Option.eq_none_iff_forall_ne_some.mpr
    rintro ⟨chosen, verdict⟩ decided
    apply (decision_some decided).1 peer data _ different canceled
    rw [findSession_modify, if_neg different, known]
  rw [answer_active found answer request.active, afterAnswer, undecided] at handled
  simp only [ite_self] at handled
  cases handled
  rw [findSession_modify, if_neg request.other.symm, there] at later
  cases later
  rfl

end OpenRequest

/-- The decision is the one the comment states, if and only if somebody has not answered or has said yes. -/
theorem transferDecision {code : StatusCode} (request : server.OpenRequest client sender) (answer : StatusAnswers code)
    (handled : server.availableMessage target memory origin client (.status ⟨code⟩) = .ok next) :
    TellsAsCommented origin server next sender ↔ code = .acceptFileTransfer ∨
      ∃ peer data, server.findSession peer = some data ∧ peer ≠ client ∧ peer ≠ sender ∧
        (data.client.fileTransferStatus_ = .fileTransferCanceled ∨
          data.client.fileTransferStatus_ = .acceptFileTransfer) := by
  obtain ⟨before, there, -⟩ := request.sends
  have stays := status_answered answer request.active handled sender
  rw [there, Option.map_some, Option.map_eq_some_iff] at stays
  obtain ⟨after, later, -⟩ := stays
  have all : next.AllAnswered sender ↔ _ := allAnswered_iff answer request.active handled
  have some := someAccepted_iff answer request.active request.other handled
  by_cases answered : next.AllAnswered sender
  · have told := request.told_accept answer (all.mp answered) handled there later
    -- the other case of the comment would be a rejection
    have accepts : TellsAsCommented origin server next sender ↔ next.SomeAccepted sender := by
      constructor
      · intro comment
        by_contra none
        have rejected := (comment before after there later).2.1 answered none
        rw [told] at rejected
        simp at rejected
      · intro accepted was now known found
        rw [there] at known
        rw [later] at found
        cases known
        cases found
        exact ⟨fun _ _ => told, fun _ none => absurd accepted none, fun none => absurd answered none⟩
    rw [accepts, some]
    refine or_congr_right ⟨?_, ?_⟩
    · rintro ⟨peer, data, known, own, other, accepted⟩
      exact ⟨peer, data, known, own, other, Or.inr accepted⟩
    · rintro ⟨peer, data, known, own, other, canceled | accepted⟩
      · exact absurd canceled (all.mp answered peer data known own other)
      · exact ⟨peer, data, known, own, other, accepted⟩
  · have waits := answered
    simp only [all, not_forall, not_not] at waits
    obtain ⟨peer, data, known, own, other, canceled⟩ := waits
    have told := request.told_nothing answer ⟨peer, data, known, own, canceled⟩ handled there later
    refine iff_of_true ?_ (Or.inr ⟨peer, data, known, own, other, Or.inl canceled⟩)
    intro was now known found
    rw [there] at known
    rw [later] at found
    cases known
    cases found
    exact ⟨fun all => absurd all answered, fun all => absurd all answered, fun _ => told⟩

def requested : List (Event Unit) := [.addSession 1 (Field.zero _), .addSession 2 (Field.zero _),
  .message 1 Memory.zeroed () (.fileRequest (.ofFileName (ascii ['f'])))]

theorem openRequest_requested :
    ∃ server, exec (step .m64) new requested = some server ∧ server.OpenRequest 2 1 ∧
      ∀ peer, (server.findSession peer).isSome = true → peer = 1 ∨ peer = 2 := by
  have outcome : (exec (step .m64) new requested).map (fun server =>
      (server.fileTransferModeActive_, server.sessions_.toList.map fun session => (session.1,
        session.2.isFileTransferSender, session.2.client.fileTransferStatus_,
        session.2.client.outbox.canSendMessages))) =
      some (true, [(1, true, .acceptFileTransfer, true), (2, false, .fileTransferCanceled, true)]) := by
    decide +kernel
  obtain ⟨server, ran, facts⟩ := Option.map_eq_some_iff.mp outcome
  obtain ⟨active, listed⟩ := Prod.mk.inj facts
  obtain ⟨⟨first, sender⟩, others, sessions, one, listed⟩ := List.map_eq_cons_iff.mp listed
  obtain ⟨⟨second, answerer⟩, none, rest, two, empty⟩ := List.map_eq_cons_iff.mp listed
  rw [rest, List.map_eq_nil_iff.mp empty] at sessions
  simp only [Prod.mk.injEq] at one two
  obtain ⟨rfl, marked, accepts, room⟩ := one
  obtain ⟨rfl, unmarked, canceled, -⟩ := two
  have cases : ∀ peer data, server.findSession peer = some data → peer = 1 ∧ data = sender ∨ peer = 2 ∧ data = answerer := by
    intro peer data there
    have member := mem_sessions.mpr there
    simpa [sessions] using member
  have there : ∀ session ∈ server.sessions_.toList, server.findSession session.1 = some session.2 :=
    fun session member => mem_sessions.mp member
  simp only [sessions, List.mem_cons, List.not_mem_nil, or_false, forall_eq_or_imp, forall_eq] at there
  refine ⟨server, ran, ⟨active, by rw [there.2]; rfl, by decide, ⟨sender, there.1, marked, accepts, room⟩, ?_, ?_⟩, ?_⟩
  · intro peer mark
    obtain ⟨data, found, flagged⟩ := Option.map_eq_some_iff.mp mark
    rcases cases peer data found with ⟨same, -⟩ | ⟨-, rfl⟩
    · exact same
    · rw [unmarked] at flagged
      cases flagged
  · intro peer data found other
    rcases cases peer data found with ⟨same, -⟩ | ⟨-, rfl⟩
    · exact absurd same other
    · exact Or.inl canceled
  · intro peer known
    obtain ⟨data, found⟩ := Option.isSome_iff_exists.mp known
    rcases cases peer data found with ⟨same, -⟩ | ⟨same, -⟩
    · exact Or.inl same
    · exact Or.inr same

theorem transferDecision_accepted :
    ∃ server next : Server Unit, exec (step .m64) new requested = some server ∧
      server.availableMessage .m64 Memory.zeroed () 2 (.status ⟨.acceptFileTransfer⟩) = .ok next ∧
      TellsAsCommented () server next 1 := by
  obtain ⟨server, ran, request, -⟩ := openRequest_requested
  obtain ⟨current, found⟩ := Option.isSome_iff_exists.mp request.answers
  have handled : server.availableMessage .m64 Memory.zeroed () 2 (.status ⟨.acceptFileTransfer⟩) = _ :=
    answer_active found (Or.inl rfl) request.active
  exact ⟨server, _, ran, handled, (transferDecision request (Or.inl rfl) handled).mpr (Or.inl rfl)⟩

/-- The other session rejects, and the sender is told that it may send. -/
theorem transferDecision_rejected :
    ∃ server next : Server Unit, exec (step .m64) new requested = some server ∧ server.OpenRequest 2 1 ∧
      server.availableMessage .m64 Memory.zeroed () 2 (.status ⟨.rejectFileTransfer⟩) = .ok next ∧
      ¬ TellsAsCommented () server next 1 := by
  obtain ⟨server, ran, request, only⟩ := openRequest_requested
  obtain ⟨current, found⟩ := Option.isSome_iff_exists.mp request.answers
  have handled : server.availableMessage .m64 Memory.zeroed () 2 (.status ⟨.rejectFileTransfer⟩) = _ :=
    answer_active found (Or.inr rfl) request.active
  have nobody : ∀ peer data, server.findSession peer = some data → peer ≠ 2 → peer ≠ 1 → False := by
    intro peer data there own other
    exact (only peer (by rw [there]; rfl)).elim other own
  refine ⟨server, _, ran, request, handled, fun comment => ?_⟩
  obtain ⟨before, there, -⟩ := request.sends
  have stays := status_answered (Or.inr rfl) request.active handled 1
  rw [there, Option.map_some, Option.map_eq_some_iff] at stays
  obtain ⟨after, later, -⟩ := stays
  have told := request.told_accept (Or.inr rfl) (fun peer data known own other => (nobody peer data known own other).elim)
    handled there later
  have rejected := (comment before after there later).2.1
    ((allAnswered_iff (Or.inr rfl) request.active handled).mpr
      fun peer data known own other => (nobody peer data known own other).elim)
    (fun accepted => ?_)
  · rw [told] at rejected
    simp at rejected
  · rcases (someAccepted_iff (Or.inr rfl) request.active request.other handled).mp accepted with
      same | ⟨peer, data, known, own, other, -⟩
    · cases same
    · exact nobody peer data known own other

end Server

end LanMessenger
