import LanMessenger.Server.FileData
import LanMessenger.Server.Relays

namespace LanMessenger

open CMemory Transition

variable {τ : Type}

def Server.advance (course : ClientState × Bool) (messageType : MessageType) : ClientState × Bool :=
  match Server.stateChange messageType with
  | none => course
  | some (expectedStates, nextState) =>
    if course.1 ∉ expectedStates then (course.1, true) else (nextState, course.2)

theorem Outbox.flag_disconnect (outbox : Outbox τ) (origin : τ) : (outbox.disconnect origin).disconnectionFlag_ = true := by
  unfold disconnect isConnected
  cases flag : outbox.disconnectionFlag_
  · rfl
  · exact flag

namespace SessionData

def course (data : SessionData τ) : ClientState × Bool := (data.state, data.client.outbox.disconnectionFlag_)

theorem course_send (data : SessionData τ) (letter : Letter τ) : (data.send letter).course = data.course := by
  simp only [course, send, Outbox.send, Outbox.sendMessage]
  split <;> rfl

theorem course_changeState (data : SessionData τ) (origin : τ) (messageType : MessageType) :
    (data.changeState origin messageType).course = Server.advance data.course messageType := by
  simp only [changeState, Server.advance]
  cases Server.stateChange messageType with
  | none => rfl
  | some states =>
    obtain ⟨expectedStates, nextState⟩ := states
    change (if data.state ∉ expectedStates then data.disconnect origin else { data with state := nextState }).course =
      if data.state ∉ expectedStates then (data.state, true) else (nextState, data.client.outbox.disconnectionFlag_)
    by_cases unexpected : data.state ∉ expectedStates
    · rw [if_pos unexpected, if_pos unexpected]
      simp only [course, disconnect, Outbox.flag_disconnect]
    · rw [if_neg unexpected, if_neg unexpected]
      rfl

end SessionData

namespace Server

variable {server next : Server τ} {target : Target} {client : SessionId} {memory : Memory} {origin : τ} {message : Message}

theorem keeps_course_unchanging (unchanging : stateChange message.type = none)
    (handled : server.availableMessage target memory origin client message = .ok next) :
    Keeps SessionData.course server next :=
  keeps_unchanging (fun data letter _ => data.course_send letter) (fun _ _ => rfl) (fun _ _ => rfl) unchanging handled

theorem course_message (handled : server.availableMessage target memory origin client message = .ok next)
    (peer : SessionId) : (next.findSession peer).map SessionData.course = (server.findSession peer).map fun data =>
      if peer = client then advance data.course message.type else data.course := by
  have kept : Keeps SessionData.course server next → stateChange message.type = none →
      (next.findSession peer).map SessionData.course = (server.findSession peer).map fun data =>
        if peer = client then advance data.course message.type else data.course := by
    intro keeps stays
    simp only [keeps peer, advance, stays, ite_self]
  have changed : ∀ change, Rewrites server next change →
      (∀ data, (change peer data).course = if peer = client then advance data.course message.type else data.course) →
      (next.findSession peer).map SessionData.course = (server.findSession peer).map fun data =>
        if peer = client then advance data.course message.type else data.course := by
    intro change rewrites each
    rw [rewrites.find, Option.map_map]
    congr 1
    funext data
    exact each data
  cases message with
  | hello =>
    refine changed _ (hello_ok handled).2 fun data => ?_
    split
    · rw [SessionData.course_send, SessionData.course_changeState]
      rfl
    · rfl
  | bye =>
    refine changed _ (bye_ok handled).2 fun data => ?_
    split
    · exact data.course_changeState origin .bye
    · rfl
  | nickname name =>
    obtain ⟨accepted, -, -, rewrites⟩ := nickname_ok handled
    refine changed _ rewrites fun data => ?_
    split
    · cases accepted
      · exact (SessionData.course_send _ _).trans (data.course_changeState origin .nickname)
      · exact (SessionData.course_send _ _).trans (data.course_changeState origin .nickname)
    · rfl
  | status status => exact kept (keeps_course_unchanging rfl handled) rfl
  | chat chat => exact kept (keeps_course_unchanging rfl handled) rfl
  | fileRequest file => exact kept (keeps_course_unchanging rfl handled) rfl
  | fileData block => exact kept (keeps_course_unchanging rfl handled) rfl

theorem isSome_message (handled : server.availableMessage target memory origin client message = .ok next)
    (peer : SessionId) : (next.findSession peer).isSome = (server.findSession peer).isSome := by
  rw [← Option.isSome_map (f := SessionData.course), course_message handled peer, Option.isSome_map]

def Reaches (server : Server τ) (client : SessionId) (message : Message) : Prop :=
  ∃ peer data, server.findSession peer = some data ∧ peer ≠ client ∧ data.client.outbox.canSendMessages = true ∧
    match message with
    | .chat _ => True
    | .fileRequest _ => server.fileTransferModeActive_ = false
    | .fileData _ => data.client.fileTransferStatus_ = .acceptFileTransfer
    | _ => False

def Queues (server next : Server τ) (client : SessionId) : Prop :=
  ∃ peer before after, peer ≠ client ∧ server.findSession peer = some before ∧ next.findSession peer = some after ∧
    after.client.outbox.sendingQueue_ ≠ before.client.outbox.sendingQueue_

theorem queues_iff {change : SessionId → SessionData τ → SessionData τ}
    {letter : SessionId → SessionData τ → Option (Letter τ)} (rewrites : Rewrites server next change)
    (others : ∀ peer data, peer ≠ client → change peer data = data.sendSome (letter peer data)) :
    server.Queues next client ↔ ∃ peer data, server.findSession peer = some data ∧ peer ≠ client ∧
      data.client.outbox.canSendMessages = true ∧ (letter peer data).isSome = true := by
  have grows : ∀ (data : SessionData τ) (letter : Option (Letter τ)),
      (data.sendSome letter).client.outbox.sendingQueue_ ≠ data.client.outbox.sendingQueue_ ↔
        data.client.outbox.canSendMessages = true ∧ letter.isSome = true := by
    intro data letter
    cases letter with
    | none => simp [SessionData.sendSome]
    | some letter => simpa [SessionData.sendSome, SessionData.send] using not_congr (data.client.outbox.send_eq_iff letter)
  constructor
  · rintro ⟨peer, before, after, other, there, later, grown⟩
    rw [rewrites.find, there, Option.map_some, others peer before other] at later
    cases later
    exact ⟨peer, before, there, other, (grows before _).mp grown⟩
  · rintro ⟨peer, before, there, other, queued⟩
    refine ⟨peer, before, _, other, there, ?_, (grows before _).mpr queued⟩
    rw [rewrites.find, there, Option.map_some, others peer before other]

theorem not_queues {change : SessionId → SessionData τ → SessionData τ} (rewrites : Rewrites server next change)
    (others : ∀ peer data, peer ≠ client → change peer data = data) : ¬ server.Queues next client := by
  rintro ⟨peer, before, after, other, there, later, grown⟩
  rw [rewrites.find, there, Option.map_some, others peer before other] at later
  cases later
  exact grown rfl

theorem queues_iff_reaches (relayed : message.isRelayed = true)
    (handled : server.availableMessage target memory origin client message = .ok next) :
    server.Queues next client ↔ server.Reaches client message := by
  obtain ⟨current, found⟩ := availableMessage_found handled
  have nobody : server.sessions_.size = 1 → ¬ server.Reaches client message := by
    rintro alone ⟨peer, data, there, other, -⟩
    exact size_ne_one (by rw [there]; rfl) (by rw [found]; rfl) other alone
  have replied : ∀ letter : Letter τ, ¬ server.Queues (server.send client letter) client := fun letter =>
    not_queues (rewrites_modify server client _) fun peer data other => if_neg other
  cases message with
  | chat chat =>
    obtain ⟨current, -, -, ⟨alone, rfl⟩ | ⟨several, rewrites⟩⟩ := chat_ok handled
    · exact iff_of_false (replied _) (nobody alone)
    · rw [queues_iff rewrites fun peer data other => if_neg other]
      simp [Reaches, chatLetter]
  | fileRequest file =>
    obtain ⟨current, -, ⟨active, rfl⟩ | ⟨-, alone, rfl⟩ | ⟨idle, -, -, rewrites⟩⟩ := fileRequest_ok handled
    · refine iff_of_false (replied _) ?_
      rintro ⟨peer, data, there, other, room, idle⟩
      rw [active] at idle
      cases idle
    · exact iff_of_false (replied _) (nobody alone)
    · rw [queues_iff rewrites fun peer data other => if_neg other]
      simp [Reaches, requestLetter, idle]
  | fileData block =>
    obtain ⟨current, -, ⟨alone, -, rewrites⟩ | ⟨several, -, rewrites⟩⟩ := fileData_ok handled
    · exact iff_of_false (not_queues rewrites fun peer data other => if_neg other) (nobody alone)
    · rw [queues_iff rewrites fun peer data other => if_neg other]
      have accepted : ∀ peer (data : SessionData τ), (dataLetter target memory origin block peer data).isSome = true ↔
          data.client.fileTransferStatus_ = .acceptFileTransfer := by
        intro peer data
        unfold dataLetter
        by_cases accepted : data.client.fileTransferStatus_ = .acceptFileTransfer <;> simp [accepted]
      simp only [accepted, Reaches]
  | _ => cases relayed

end Server

def stateChanges (messageTypes : List MessageType) : List MessageType :=
  messageTypes.filter fun messageType => (Server.stateChange messageType).isSome

def course (messageTypes : List MessageType) : ClientState × Bool := messageTypes.foldl Server.advance (.start, false)

theorem course_append (messageTypes : List MessageType) (messageType : MessageType) :
    course (messageTypes ++ [messageType]) = Server.advance (course messageTypes) messageType := by
  simp [course]

/-- The client has said `HELLO`, and nothing but `NICKNAME` after it that changes its state. -/
def Conforms (messageTypes : List MessageType) : Prop :=
  ∃ names, stateChanges messageTypes = .hello :: List.replicate names .nickname

def Greeted (state : ClientState) : Prop := state = .identify ∨ state = .ready

theorem stateChanges_append (messageTypes : List MessageType) (messageType : MessageType) :
    stateChanges (messageTypes ++ [messageType]) =
      stateChanges messageTypes ++ stateChanges [messageType] := List.filter_append _ _

theorem conforms_append {messageTypes : List MessageType} {messageType : MessageType}
    (changes : stateChanges [messageType] = [messageType]) (begun : stateChanges messageTypes ≠ []) :
    Conforms (messageTypes ++ [messageType]) ↔ Conforms messageTypes ∧ messageType = .nickname := by
  simp only [Conforms, stateChanges_append, changes]
  obtain ⟨first, later, front⟩ := List.exists_cons_of_ne_nil begun
  rw [front, List.cons_append]
  constructor
  · rintro ⟨names, same⟩
    obtain ⟨rfl, rest⟩ := List.cons.inj same
    obtain ⟨-, before, last⟩ := List.append_eq_replicate_iff.mp rest
    exact ⟨⟨later.length, by rw [← before]⟩, List.singleton_inj.mp last⟩
  · rintro ⟨⟨names, same⟩, rfl⟩
    obtain ⟨rfl, rfl⟩ := List.cons.inj same
    exact ⟨names + 1, by rw [List.replicate_succ']⟩

theorem advance_over {state : ClientState × Bool} (ended : state.1 = .invalid ∨ state.2 = true)
    (messageType : MessageType) :
    (Server.advance state messageType).1 = .invalid ∨ (Server.advance state messageType).2 = true := by
  obtain ⟨state, flag⟩ := state
  rcases ended with rfl | rfl
  · cases messageType <;> simp [Server.advance, Server.stateChange]
  · simp only [Server.advance]
    split
    · exact Or.inr rfl
    · split <;> exact Or.inr rfl

theorem course_cases (messageTypes : List MessageType) :
    (stateChanges messageTypes = [] ∧ course messageTypes = (.start, false)) ∨
      (Conforms messageTypes ∧ Greeted (course messageTypes).1 ∧ (course messageTypes).2 = false) ∨
      (stateChanges messageTypes ≠ [] ∧ ¬ Conforms messageTypes ∧
        ((course messageTypes).1 = .invalid ∨ (course messageTypes).2 = true)) := by
  induction messageTypes using List.reverseRecOn with
  | nil => exact Or.inl ⟨rfl, rfl⟩
  | append_singleton messageTypes messageType ih =>
    rw [course_append]
    cases changes : Server.stateChange messageType with
    | none =>
      have same : stateChanges (messageTypes ++ [messageType]) = stateChanges messageTypes := by
        rw [stateChanges_append]
        simp [stateChanges, changes]
      simpa only [Conforms, same, Server.advance, changes] using ih
    | some states =>
      have counts : stateChanges [messageType] = [messageType] := by simp [stateChanges, changes]
      have begun : stateChanges (messageTypes ++ [messageType]) ≠ [] := by simp [stateChanges_append, counts]
      rcases ih with ⟨first, course_eq⟩ | ⟨conforms, greeted, live⟩ | ⟨before, broken, ended⟩
      · -- the first message that changes the state
        have only : stateChanges (messageTypes ++ [messageType]) = [messageType] := by
          rw [stateChanges_append, first, counts, List.nil_append]
        rw [course_eq]
        cases messageType with
        | hello => exact Or.inr (Or.inl ⟨⟨0, only⟩, Or.inl rfl, rfl⟩)
        | nickname =>
          refine Or.inr (Or.inr ⟨begun, ?_, Or.inr rfl⟩)
          rintro ⟨names, same⟩
          rw [only] at same
          cases same
        | bye =>
          refine Or.inr (Or.inr ⟨begun, ?_, Or.inl rfl⟩)
          rintro ⟨names, same⟩
          rw [only] at same
          cases same
        | _ => cases changes
      · have started : stateChanges messageTypes ≠ [] := by
          obtain ⟨names, same⟩ := conforms
          rw [same]
          exact List.cons_ne_nil _ _
        rw [conforms_append counts started]
        obtain ⟨state, flag, reached⟩ : ∃ state flag, course messageTypes = (state, flag) := ⟨_, _, rfl⟩
        rw [reached] at greeted live ⊢
        change Greeted state at greeted
        change flag = false at live
        subst live
        cases messageType with
        | nickname =>
          refine Or.inr (Or.inl ⟨⟨conforms, rfl⟩, ?_⟩)
          rcases greeted with rfl | rfl <;> exact ⟨Or.inr rfl, rfl⟩
        | hello =>
          refine Or.inr (Or.inr ⟨begun, fun both => MessageType.noConfusion both.2, Or.inr ?_⟩)
          rcases greeted with rfl | rfl <;> rfl
        | bye =>
          refine Or.inr (Or.inr ⟨begun, fun both => MessageType.noConfusion both.2, Or.inl ?_⟩)
          rcases greeted with rfl | rfl <;> rfl
        | _ => cases changes
      · rw [conforms_append counts before]
        exact Or.inr (Or.inr ⟨begun, fun both => broken both.1, advance_over ended messageType⟩)

/-- A session is greeted and not told to disconnect if and only if its messages conform. -/
theorem live_iff_conforms (messageTypes : List MessageType) :
    (Greeted (course messageTypes).1 ∧ (course messageTypes).2 = false) ↔ Conforms messageTypes := by
  rcases course_cases messageTypes with ⟨first, start⟩ | ⟨conforms, live⟩ | ⟨-, broken, ended⟩
  · rw [start]
    refine iff_of_false (fun live => live.1.elim ClientState.noConfusion ClientState.noConfusion) ?_
    rintro ⟨names, same⟩
    rw [first] at same
    cases same
  · exact iff_of_true live conforms
  · refine iff_of_false (fun live => ?_) broken
    rcases ended with invalid | told
    · rw [invalid] at live
      exact live.1.elim ClientState.noConfusion ClientState.noConfusion
    · rw [told] at live
      cases live.2

theorem greeted_advance (state : ClientState × Bool) (messageType : MessageType) :
    Greeted (Server.advance state messageType).1 ↔
      match messageType with
      | .hello => Greeted state.1 ∨ state.1 = .start
      | .bye => False
      | _ => Greeted state.1 := by
  obtain ⟨state, flag⟩ := state
  cases messageType <;> cases state <;> simp [Server.advance, Server.stateChange, Greeted]

/-- A server, the sessions whose `HELLO` it has accepted and that have not sent `BYE` since, and the types of the
    messages each session has sent. -/
structure Attendance (τ : Type) where
  server : Server τ
  greeted : SessionId → Bool
  sent : SessionId → List MessageType

namespace Attendance

open Server

def start : Attendance τ := ⟨.new, fun _ => false, fun _ => []⟩

def greets (attendance : Attendance τ) (client : SessionId) : MessageType → Bool
  | .hello => attendance.greeted client || (attendance.server.findSession client).any fun data => data.state = .start
  | .bye => false
  | _ => attendance.greeted client

def step (target : Target) (attendance : Attendance τ) (event : Event τ) : Option (Attendance τ) :=
  (attendance.server.step target event).map fun server =>
    match event with
    | .addSession client _ => ⟨server, Function.update attendance.greeted client false,
        Function.update attendance.sent client []⟩
    | .message client _ _ message => ⟨server,
        Function.update attendance.greeted client (attendance.greets client message.type),
        Function.update attendance.sent client (attendance.sent client ++ [message.type])⟩
    | _ => { attendance with server }

/-- A message that queues anything for another session comes from one that was greeted, has not said `BYE` since
    and was not told to disconnect. -/
def HearsGreeted (target : Target) (attendance : Attendance τ) : Event τ → Prop
  | .message client memory origin message => ∀ next,
    attendance.server.availableMessage target memory origin client message = .ok next →
    message.isRelayed = true → attendance.server.Queues next client →
    attendance.greeted client = true ∧ ∀ data, attendance.server.findSession client = some data →
      data.state ≠ .start ∧ data.state ≠ .invalid ∧ data.client.outbox.disconnectionFlag_ = false
  | _ => True

/-- A message that reaches another session comes from a client that keeps to the order of messages. -/
def KeepsOrder (attendance : Attendance τ) : Event τ → Prop
  | .message client _ _ message => message.isRelayed = true → attendance.server.Reaches client message →
    Conforms (attendance.sent client)
  | _ => True

structure Followed (attendance : Attendance τ) : Prop where
  course : ∀ client data, attendance.server.findSession client = some data →
    data.course = LanMessenger.course (attendance.sent client)
  greeted : ∀ client data, attendance.server.findSession client = some data →
    (attendance.greeted client = true ↔ Greeted data.state)

theorem followed_start : (start : Attendance τ).Followed := by
  constructor <;> intro client data there <;> simp [start] at there

variable {attendance next : Attendance τ} {target : Target}

theorem Followed.kept (followed : attendance.Followed) {server : Server τ}
    (before : ∀ client data, server.findSession client = some data →
      ∃ before, attendance.server.findSession client = some before ∧ data.course = before.course) :
    ({ attendance with server } : Attendance τ).Followed := by
  constructor
  · intro client data there
    obtain ⟨was, known, same⟩ := before client data there
    exact same.trans (followed.course client was known)
  · intro client data there
    obtain ⟨was, known, same⟩ := before client data there
    rw [(Prod.mk.inj same).1]
    exact followed.greeted client was known

theorem Followed.message (followed : attendance.Followed) {client : SessionId} {memory : Memory} {origin : τ}
    {message : Message} {server : Server τ}
    (handled : attendance.server.availableMessage target memory origin client message = .ok server) :
    (⟨server, Function.update attendance.greeted client (attendance.greets client message.type),
      Function.update attendance.sent client (attendance.sent client ++ [message.type])⟩ : Attendance τ).Followed := by
  have before : ∀ peer data, server.findSession peer = some data →
      ∃ was, attendance.server.findSession peer = some was ∧
        data.course = if peer = client then advance was.course message.type else was.course := by
    intro peer data there
    have moved := course_message handled peer
    rw [there, Option.map_some, eq_comm, Option.map_eq_some_iff] at moved
    obtain ⟨was, known, same⟩ := moved
    exact ⟨was, known, same.symm⟩
  constructor
  · intro peer data there
    obtain ⟨was, known, moved⟩ := before peer data there
    by_cases own : peer = client
    · subst own
      rw [if_pos rfl, followed.course peer was known, ← course_append] at moved
      simpa only [Function.update_self] using moved
    · rw [if_neg own] at moved
      simp only [Function.update_of_ne own]
      exact moved.trans (followed.course peer was known)
  · intro peer data there
    obtain ⟨was, known, moved⟩ := before peer data there
    by_cases own : peer = client
    · subst own
      rw [if_pos rfl] at moved
      have state : data.state = (advance was.course message.type).1 := (Prod.ext_iff.mp moved).1
      have greeted := followed.greeted peer was known
      simp only [Function.update_self]
      rw [state, greeted_advance]
      cases message <;> simp [greets, Message.type, greeted, known, SessionData.course]
    · rw [if_neg own] at moved
      simp only [Function.update_of_ne own]
      rw [(Prod.mk.inj moved).1]
      exact followed.greeted peer was known

theorem Followed.step (followed : attendance.Followed) {event : Event τ}
    (stepped : attendance.step target event = some next) : next.Followed := by
  obtain ⟨server, taken, done⟩ := Option.map_eq_some_iff.mp stepped
  subst done
  cases steps_of_step taken with
  | @addSession client nickName_ unknown =>
    have others : ∀ peer, peer ≠ client → (attendance.server.addSession client nickName_).findSession peer =
        attendance.server.findSession peer := by
      intro peer other
      rw [addSession_find, if_neg other]
    constructor
    · intro peer data there
      by_cases own : peer = client
      · subst own
        rw [addSession_find, if_pos rfl] at there
        cases there
        simp only [Function.update_self]
        rfl
      · rw [others peer own] at there
        simpa only [Function.update_of_ne own] using followed.course peer data there
    · intro peer data there
      by_cases own : peer = client
      · subst own
        rw [addSession_find, if_pos rfl] at there
        cases there
        simp [newSession, Greeted]
      · rw [others peer own] at there
        simpa only [Function.update_of_ne own] using followed.greeted peer data there
  | removeSession removed =>
    exact followed.kept fun peer data there => ⟨data, find_removeSession removed there, rfl⟩
  | message handled => exact followed.message handled
  | writeData =>
    refine followed.kept fun peer data there => ?_
    rw [findSession_modify] at there
    split at there
    · obtain ⟨was, known, rfl⟩ := Option.map_eq_some_iff.mp there
      refine ⟨was, known, ?_⟩
      simp only [SessionData.course, Outbox.writeData]
      split <;> rfl
    · exact ⟨data, there, rfl⟩

theorem hearsGreeted_iff (followed : attendance.Followed) {event : Event τ}
    (stepped : attendance.step target event = some next) :
    HearsGreeted target attendance event ↔ KeepsOrder attendance event := by
  obtain ⟨server, taken, -⟩ := Option.map_eq_some_iff.mp stepped
  cases event with
  | message client memory origin message =>
    have handled := toOption_some taken
    obtain ⟨current, found⟩ := availableMessage_found handled
    have course := followed.course client current found
    have live := live_iff_conforms (attendance.sent client)
    rw [← course] at live
    constructor
    · intro hears relayed reaches
      obtain ⟨greeted, alive⟩ := hears server handled relayed ((queues_iff_reaches relayed handled).mpr reaches)
      exact live.mp ⟨(followed.greeted client current found).mp greeted, (alive current found).2.2⟩
    · intro order after done relayed queues
      obtain ⟨greeted, flag⟩ := live.mpr (order relayed ((queues_iff_reaches relayed done).mp queues))
      refine ⟨(followed.greeted client current found).mpr greeted, fun data there => ?_⟩
      rw [found] at there
      cases there
      refine ⟨?_, ?_, flag⟩
      · intro same
        exact greeted.elim (fun other => by cases same.symm.trans other) fun other => by cases same.symm.trans other
      · intro same
        exact greeted.elim (fun other => by cases same.symm.trans other) fun other => by cases same.symm.trans other
  | _ => exact Iff.rfl

/-- The runs in which only greeted, live sessions are heard are those in which the messages that reach another
    session come from clients that keep to the order of messages. -/
theorem onlyGreetedHeard {events : List (Event τ)} :
    Run (step target) (HearsGreeted target) start events attendance ↔ Run (step target) KeepsOrder start events attendance :=
  Run.iff_of_invariant Followed followed_start (fun _ _ _ followed stepped => hearsGreeted_iff followed stepped)
    fun _ _ _ followed _ stepped => followed.step stepped

theorem onlyGreetedHeard_noHello :
    ∃ attendance : Attendance Unit, exec (step .m64) start [.addSession 1 (Field.zero _), .addSession 2 (Field.zero _)] =
        some attendance ∧
      ¬ HearsGreeted .m64 attendance (.message 1 Memory.zeroed () (.chat (.ofMessage Heap.zeroed.chat (ascii ['x'])))) := by
  have outcome : (exec (step .m64) (start : Attendance Unit) [.addSession 1 (Field.zero _),
      .addSession 2 (Field.zero _)]).map (fun attendance => (attendance.greeted 1,
        (attendance.server.availableMessage .m64 Memory.zeroed () 1
          (.chat (.ofMessage Heap.zeroed.chat (ascii ['x'])))).toOption.map fun next =>
          ((attendance.server.findSession 2).map fun data => data.client.outbox.sendingQueue_.length,
            (next.findSession 2).map fun data => data.client.outbox.sendingQueue_.length))) =
      some (false, some (some 0, some 1)) := by
    decide +kernel
  obtain ⟨attendance, ran, facts⟩ := Option.map_eq_some_iff.mp outcome
  obtain ⟨unknown, relayed⟩ := Prod.mk.inj facts
  obtain ⟨next, handled, lengths⟩ := Option.map_eq_some_iff.mp relayed
  rw [Prod.mk.injEq, Option.map_eq_some_iff, Option.map_eq_some_iff] at lengths
  obtain ⟨⟨before, there, none⟩, after, later, one⟩ := lengths
  refine ⟨attendance, ran, fun hears => ?_⟩
  have greeted := (hears next (toOption_some handled) rfl ⟨2, before, after, by decide, there, later, fun same => ?_⟩).1
  · rw [unknown] at greeted
    cases greeted
  · rw [same, none] at one
    cases one

end Attendance

end LanMessenger
