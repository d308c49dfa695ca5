import LanMessenger.Server.Greeting
import LanMessenger.Session.PollForData

namespace LanMessenger

open CMemory Transition Server

variable {τ : Type}

/-- Where the thread of a session is: at the poll, within `availableMessages` with the messages still to be handled,
    or behind the loop, before the session is deleted. -/
inductive SessionThread
  | polling (inbox : Inbox)
  | dispatching (inbox : Inbox) (messages : List Message)
  | ending

/-- How far the accepting thread has come in `addSession`. -/
inductive Adding (τ : Type)
  | idle
  | created (client : SessionId) (newSession : SessionData τ)
  | named (client : SessionId) (newSession : SessionData τ)
  | started (client : SessionId) (newSession : SessionData τ)

/-- The server with its accepting thread and the threads of its sessions. `fatal` tells that `Common::fatal` was
    called, which ends the process. -/
structure Acceptor (τ : Type) where
  server : Server τ
  adding : Adding τ
  threads : SessionId → Option SessionThread
  fatal : Bool

namespace Inbox

variable {inbox next : Inbox} {heap : Heap} {chunk : List Byte}

def Waits (heap : Heap) (inbox : Inbox) : Prop :=
  inbox.bufferOffset_ < messageHeaderSize ∨ inbox.parseMessage heap = .ok .null

theorem readData_waits (nonempty : chunk ≠ []) (waits : (inbox.receive chunk).Waits heap) :
    inbox.readData heap (some chunk) = .error .outOfBounds ∨
      inbox.readData heap (some chunk) = .ok (false, [], inbox.receive chunk) := by
  obtain ⟨head, tail, rfl⟩ := List.exists_cons_of_ne_nil nonempty
  simp only [readData]
  split
  · exact Or.inl rfl
  · right
    rcases waits with short | null
    · rw [if_pos short]
    · rw [null, ite_self]

theorem waits_of_readData (read : inbox.readData heap (some chunk) = .ok (false, [], next)) :
    chunk ≠ [] ∧ (inbox.receive chunk).Waits heap := by
  cases chunk with
  | nil => cases read
  | cons head tail =>
    refine ⟨List.cons_ne_nil _ _, ?_⟩
    simp only [readData] at read
    split at read
    · cases read
    · by_cases short : (inbox.receive (head :: tail)).bufferOffset_ < messageHeaderSize
      · exact Or.inl short
      · right
        rw [if_neg short] at read
        cases parsed : (inbox.receive (head :: tail)).parseMessage heap with
        | error undefined =>
          rw [parsed] at read
          cases read
        | ok outcome =>
          cases outcome with
          | null => rfl
          | invalid =>
            rw [parsed] at read
            cases read
          | message message after =>
            simp [parsed, availableMessages_eq] at read

end Inbox

namespace Acceptor

def start : Acceptor τ := ⟨.new, .idle, fun _ => none, false⟩

/-- What a turn of `pollForData` meets before anything is handled. -/
structure Poll where
  ready : Ready
  revents : Revents
  heap : Heap
  recv : Option (List Byte)

inductive Event (τ : Type)
  | create (client : SessionId) (nickName_ : Field maxNicknameSize)
  | name
  | startThread (buffer : Field maxMessageSize)
  | insert
  | poll (client : SessionId) (poll : Poll)
  | dispatch (client : SessionId) (memory : Memory) (origin : τ)
  | write (client : SessionId)
  | leave (client : SessionId)
  | remove (client : SessionId) (origin : τ)

def setThread (acceptor : Acceptor τ) (client : SessionId) (thread : Option SessionThread) : Acceptor τ :=
  { acceptor with threads := Function.update acceptor.threads client thread }

/-- A turn of the loop up to the handling of messages. The outcome of a write takes the place of an error; the write
    itself is a step of its own. -/
def Poll.outcome (poll : Poll) (inbox : Inbox) : Except Undefined SessionThread :=
  if poll.ready = .timeout then .ok (.polling inbox)
  else
    let after (hasError : Bool) (inbox : Inbox) : SessionThread :=
      if hasError && !poll.revents.pollOut then .ending else .polling inbox
    if poll.revents.pollIn then
      match inbox.readData poll.heap poll.recv with
      | .error undefined => .error undefined
      | .ok (hasError, [], inbox) => .ok (after hasError inbox)
      | .ok (_, handled, inbox) => .ok (.dispatching inbox handled)
    else
      .ok (after (poll.ready = Ready.failure || poll.revents.pollErr || poll.revents.pollHup || poll.revents.pollNval) inbox)

/-- `POLLOUT` is asked for while the queue of the session, which a session not yet inserted has not filled, is not
    empty. -/
def watchesOut (acceptor : Acceptor τ) (client : SessionId) : Bool :=
  (acceptor.server.findSession client).any fun data => !data.client.outbox.sendingQueue_.isEmpty

/-- No step is taken into an undefined operation. -/
def act (target : Target) (acceptor : Acceptor τ) : Event τ → Option (Acceptor τ)
  | .create client nickName_ =>
    match acceptor.adding, acceptor.server.findSession client, acceptor.threads client with
    | .idle, none, none => some { acceptor with
        server.connectionsCounter_ := acceptor.server.connectionsCounter_ + 1
        adding := .created client ⟨.new nickName_, .start, false⟩ }
    | _, _, _ => none
  | .name =>
    match acceptor.adding with
    | .created client newSession =>
      let nickName := defaultNickName acceptor.server.connectionsCounter_
      some { acceptor with
        adding := .named client { newSession with client := newSession.client.setNickName nickName } }
    | _ => none
  | .startThread buffer =>
    match acceptor.adding with
    | .named client newSession =>
      some { acceptor.setThread client (some (.polling (.new buffer))) with adding := .started client newSession }
    | _ => none
  | .insert =>
    match acceptor.adding with
    | .started client newSession => some { acceptor with
        server.sessions_ := acceptor.server.sessions_.insert client newSession
        adding := .idle }
    | _ => none
  | .poll client poll =>
    match acceptor.threads client with
    | some (.polling inbox) =>
      if poll.revents.pollOut && !acceptor.watchesOut client then none
      else
        match poll.outcome inbox with
        | .ok .ending => some { acceptor.setThread client (some .ending) with
            server := acceptor.server.modify client fun data => { data with client.outbox.disconnectionFlag_ := true } }
        | .ok thread => some (acceptor.setThread client (some thread))
        | .error _ => none
    | _ => none
  | .dispatch client memory origin =>
    match acceptor.threads client with
    | some (.dispatching inbox (message :: rest)) =>
      match acceptor.server.availableMessage target memory origin client message with
      | .ok server => some { acceptor.setThread client
          (some (if rest = [] then .polling inbox else .dispatching inbox rest)) with server }
      | .error .fatal => some { acceptor with fatal := true }
      | .error (.undefined _) => none
    | _ => none
  | .write client =>
    match acceptor.threads client with
    | some (.polling _) =>
      if acceptor.watchesOut client then some { acceptor with
          server := acceptor.server.modify client fun data => { data with client.outbox := data.client.outbox.writeData.2 } }
      else none
    | _ => none
  | .leave client =>
    match acceptor.threads client, acceptor.server.findSession client with
    | some (.polling _), some data =>
      if data.client.outbox.disconnectionFlag_ && data.client.outbox.sendingQueue_.isEmpty then
        some (acceptor.setThread client (some .ending))
      else none
    | _, _ => none
  | .remove client origin =>
    match acceptor.threads client with
    | some .ending =>
      match acceptor.server.removeSession origin client with
      | .ok server => some { acceptor.setThread client none with server }
      | .error .fatal => some { acceptor with fatal := true }
      | .error (.undefined _) => none
    | _ => none

/-- Nor is one taken after `Common::fatal`. -/
def step (target : Target) (acceptor : Acceptor τ) (event : Event τ) : Option (Acceptor τ) :=
  if acceptor.fatal then none else acceptor.act target event

/-- Only a session in `sessions_` has a message handled, or is removed. -/
def ServesRegistered (acceptor : Acceptor τ) : Event τ → Prop
  | .dispatch client _ _ | .remove client _ => (acceptor.server.findSession client).isSome = true
  | _ => True

instance (parsed : Except Undefined Parsed) : Decidable (parsed = .ok .null) :=
  match parsed with
  | .ok .null => isTrue rfl
  | .ok .invalid | .ok (.message _ _) | .error _ => isFalse fun same => nomatch same

/-- The poll meets no error, and what it receives neither is, nor is refused as, a whole message. -/
def Poll.Quiet (poll : Poll) (inbox : Inbox) : Prop :=
  poll.ready ≠ .timeout →
    if poll.revents.pollIn then
      match poll.recv with
      | none => False
      | some chunk => chunk ≠ [] ∧ (inbox.receive chunk).Waits poll.heap
    else
      poll.ready ≠ .failure ∧ poll.revents.pollErr = false ∧ poll.revents.pollHup = false ∧ poll.revents.pollNval = false

instance (heap : Heap) (inbox : Inbox) : Decidable (inbox.Waits heap) := inferInstanceAs (Decidable (_ ∨ _))

instance (poll : Poll) (inbox : Inbox) : Decidable (poll.Quiet inbox) := by
  unfold Poll.Quiet
  cases poll.recv <;> infer_instance

/-- Until its session is in `sessions_`, a thread has quiet polls only. -/
def QuietUntilRegistered (acceptor : Acceptor τ) : Event τ → Prop
  | .poll client poll => acceptor.server.findSession client = none →
    match acceptor.threads client with
    | some (.polling inbox) => poll.Quiet inbox
    | _ => True
  | _ => True

instance (acceptor : Acceptor τ) (event : Event τ) : Decidable (QuietUntilRegistered acceptor event) := by
  cases event with
  | poll client poll =>
    unfold QuietUntilRegistered
    refine @instDecidableForall _ _ ?_ ?_
    · cases acceptor.server.findSession client with
      | none => exact isTrue rfl
      | some data => exact isFalse fun same => nomatch same
    · split <;> infer_instance
  | _ => exact inferInstanceAs (Decidable True)

structure Registered (acceptor : Acceptor τ) : Prop where
  alive : acceptor.fatal = false
  known : ∀ client thread, acceptor.threads client = some thread → (∃ inbox, thread = .polling inbox) ∨
    (acceptor.server.findSession client).isSome = true

theorem registered_start : (start : Acceptor τ).Registered := by
  refine ⟨rfl, fun client thread runs => ?_⟩
  cases runs

variable {acceptor next : Acceptor τ} {target : Target} {client : SessionId}

theorem step_alive (alive : acceptor.fatal = false) (event : Event τ) :
    acceptor.step target event = acceptor.act target event := by
  rw [step, if_neg (by simp [alive])]

theorem threads_setThread (acceptor : Acceptor τ) (client : SessionId) (thread : Option SessionThread) :
    (acceptor.setThread client thread).threads client = thread :=
  Function.update_self ..

theorem Registered.setThread (registered : acceptor.Registered) {thread : Option SessionThread}
    (fine : ∀ now, thread = some now → (∃ inbox, now = .polling inbox) ∨
      (acceptor.server.findSession client).isSome = true) : (acceptor.setThread client thread).Registered := by
  refine ⟨registered.alive, fun peer now runs => ?_⟩
  by_cases own : peer = client
  · subst own
    exact fine now (by simpa [Acceptor.setThread] using runs)
  · exact registered.known peer now (by simpa [Acceptor.setThread, Function.update_of_ne own] using runs)

theorem Registered.withServer (registered : acceptor.Registered) {server : Server τ} {adding : Adding τ}
    (stays : ∀ peer, acceptor.threads peer ≠ none → (acceptor.server.findSession peer).isSome = true →
      (server.findSession peer).isSome = true) : ({ acceptor with server, adding } : Acceptor τ).Registered := by
  refine ⟨registered.alive, fun peer thread runs => ?_⟩
  rcases registered.known peer thread runs with polling | known
  · exact Or.inl polling
  · exact Or.inr (stays peer (by rw [runs]; exact Option.some_ne_none _) known)

theorem isSome_modify {server : Server τ} (change : SessionData τ → SessionData τ) (peer : SessionId) :
    ((server.modify client change).findSession peer).isSome = (server.findSession peer).isSome :=
  (rewrites_modify server client change).isSome_eq peer

theorem check_known {server : Server τ} {current : SessionData τ} (found : server.findSession client = some current)
    (origin : τ) (messageType : MessageType) :
    ∃ middle, server.checkSessionStateChange origin client messageType = .ok middle ∧
      ∃ later, middle.findSession client = some later := by
  obtain ⟨middle, checked⟩ : ∃ middle, server.checkSessionStateChange origin client messageType = .ok middle := by
    simp only [checkSessionStateChange, found]
    repeat' split
    all_goals exact ⟨_, rfl⟩
  refine ⟨middle, checked, Option.isSome_iff_exists.mp ?_⟩
  rw [(checkSessionStateChange_ok checked).2.isSome_eq, found]
  rfl

theorem availableMessage_known {server : Server τ} {current : SessionData τ}
    (found : server.findSession client = some current) {memory : Memory} {origin : τ} (message : Message) :
    server.availableMessage target memory origin client message ≠ .error .fatal := by
  have fine : ∀ {result : Except Fault (Server τ)}, (∃ next, result = .ok next) → result ≠ .error .fatal := by
    rintro result ⟨next, rfl⟩ same
    cases same
  obtain ⟨middle, checked, later, stays⟩ := check_known found origin message.type
  cases message with
  | hello =>
    simp only [availableMessage, checked, bind, Except.bind]
    exact fun same => by cases same
  | bye =>
    simp only [availableMessage, checked, bind, Except.bind]
    exact fun same => by cases same
  | nickname name =>
    simp only [availableMessage, checked, bind, Except.bind, clientChangedNickName, stays]
    split
    · rename_i error undefined
      split at undefined
      · cases undefined
        exact fun same => by cases same
      · cases undefined
    · split <;> exact fun same => by cases same
  | status status =>
    obtain ⟨code⟩ := status
    by_cases answer : StatusAnswers code
    · cases active : server.fileTransferModeActive_ with
      | true => exact fine ⟨_, answer_active found answer active⟩
      | false => exact fine ⟨_, answer_inactive found answer active⟩
    · exact fine ⟨_, status_ignored found answer⟩
  | chat chat =>
    rw [chat_eq found]
    split
    · exact fun same => by cases same
    · split <;> exact fun same => by cases same
  | fileRequest file => exact fine ⟨_, fileRequest_eq found file⟩
  | fileData block => exact fine ⟨_, fileData_eq found block⟩

theorem outcome_quiet {poll : Poll} {inbox : Inbox} {thread : SessionThread} (quiet : poll.Quiet inbox)
    (turned : poll.outcome inbox = .ok thread) : ∃ inbox, thread = .polling inbox := by
  unfold Poll.outcome at turned
  unfold Poll.Quiet at quiet
  by_cases slept : poll.ready = .timeout
  · rw [if_pos slept] at turned
    cases turned
    exact ⟨inbox, rfl⟩
  · rw [if_neg slept] at turned
    have quiet := quiet slept
    cases input : poll.revents.pollIn with
    | false =>
      rw [input] at quiet turned
      obtain ⟨ready, err, hup, nval⟩ := quiet
      simp only [err, hup, nval, ready, decide_false, Bool.or_self, Bool.false_and] at turned
      cases turned
      exact ⟨inbox, rfl⟩
    | true =>
      rw [input] at quiet turned
      cases received : poll.recv with
      | none =>
        rw [received] at quiet
        exact quiet.elim
      | some chunk =>
        rw [received] at quiet turned
        obtain ⟨nonempty, waits⟩ := quiet
        rcases Inbox.readData_waits nonempty waits with undefined | read
        · rw [undefined] at turned
          cases turned
        · rw [read] at turned
          cases turned
          exact ⟨_, rfl⟩

theorem quiet_of_outcome {poll : Poll} {inbox next : Inbox} (nothing : poll.revents.pollOut = false)
    (turned : poll.outcome inbox = .ok (.polling next)) : poll.Quiet inbox := by
  intro awake
  unfold Poll.outcome at turned
  rw [if_neg awake] at turned
  cases input : poll.revents.pollIn with
  | false =>
    simp only [input, nothing, Bool.not_false, Bool.and_true, Bool.false_eq_true, if_false] at turned ⊢
    split at turned
    · cases turned
    · rename_i fine
      simpa [and_assoc] using fine
  | true =>
    simp only [input, nothing, Bool.not_false, Bool.and_true, if_true] at turned ⊢
    cases received : poll.recv with
    | none =>
      rw [received] at turned
      cases turned
    | some chunk =>
      rw [received] at turned
      split at turned
      · cases turned
      · rename_i error _ read
        cases error with
        | true => cases turned
        | false => exact Inbox.waits_of_readData read
      · cases turned

theorem Registered.poll (registered : acceptor.Registered) {poll : Poll}
    (quiet : acceptor.QuietUntilRegistered (.poll client poll))
    (stepped : acceptor.step target (.poll client poll) = some next) : next.Registered := by
  rw [step_alive registered.alive, act] at stepped
  split at stepped
  · rename_i inbox runs
    split at stepped
    · cases stepped
    · have fine : ∀ {thread}, poll.outcome inbox = .ok thread → ∀ now, some thread = some now →
          (∃ inbox, now = .polling inbox) ∨ (acceptor.server.findSession client).isSome = true := by
        intro thread turned now same
        cases same
        cases known : acceptor.server.findSession client with
        | some data => exact Or.inr rfl
        | none =>
          have quiet := quiet known
          rw [runs] at quiet
          exact Or.inl (outcome_quiet quiet turned)
      split at stepped
      · rename_i turned
        cases stepped
        exact (registered.setThread (fine turned)).withServer fun peer _ there => (isSome_modify _ peer).trans there
      · rename_i turned
        cases stepped
        exact registered.setThread (fine turned)
      · cases stepped
  · cases stepped

theorem Registered.known_of_runs (registered : acceptor.Registered) {thread : SessionThread}
    (runs : acceptor.threads client = some thread) (behind : ∀ inbox, thread ≠ .polling inbox) :
    (acceptor.server.findSession client).isSome = true := by
  rcases registered.known client thread runs with ⟨inbox, same⟩ | known
  · exact absurd same (behind inbox)
  · exact known

theorem Registered.dispatch (registered : acceptor.Registered) {memory : Memory} {origin : τ}
    (stepped : acceptor.step target (.dispatch client memory origin) = some next) :
    (acceptor.server.findSession client).isSome = true ∧ next.Registered := by
  rw [step_alive registered.alive, act] at stepped
  split at stepped
  · rename_i inbox message rest runs
    have known := registered.known_of_runs runs (by rintro _ ⟨⟩)
    obtain ⟨current, found⟩ := Option.isSome_iff_exists.mp known
    refine ⟨known, ?_⟩
    split at stepped
    · rename_i server handled
      cases stepped
      have moved : (acceptor.setThread client
          (some (if rest = [] then .polling inbox else .dispatching inbox rest))).Registered :=
        registered.setThread fun _ _ => Or.inr known
      exact moved.withServer fun peer _ there => (Server.isSome_message handled peer).trans there
    · rename_i fault
      exact absurd fault (availableMessage_known found message)
    · cases stepped
  · cases stepped

theorem Registered.remove (registered : acceptor.Registered) {origin : τ}
    (stepped : acceptor.step target (.remove client origin) = some next) :
    (acceptor.server.findSession client).isSome = true ∧ next.Registered := by
  rw [step_alive registered.alive, act] at stepped
  split at stepped
  · rename_i runs
    have known := registered.known_of_runs runs (by rintro _ ⟨⟩)
    obtain ⟨current, found⟩ := Option.isSome_iff_exists.mp known
    refine ⟨known, ?_⟩
    split at stepped
    · rename_i server removed
      cases stepped
      obtain ⟨-, -, -, -, left⟩ := removeSession_ok removed
      have moved : (acceptor.setThread client none).Registered := registered.setThread fun _ same => by cases same
      refine moved.withServer fun peer runs there => ?_
      have other : peer ≠ client := by
        rintro rfl
        exact runs (by simp [Acceptor.setThread])
      rw [left, if_neg other]
      exact there
    · rename_i fault
      simp only [removeSession, found] at fault
      cases fault
    · cases stepped
  · cases stepped

theorem Registered.step (registered : acceptor.Registered) {event : Event τ}
    (quiet : acceptor.QuietUntilRegistered event) (stepped : acceptor.step target event = some next) :
    acceptor.ServesRegistered event ∧ next.Registered := by
  cases event with
  | poll client poll => exact ⟨trivial, registered.poll quiet stepped⟩
  | dispatch client memory origin => exact registered.dispatch stepped
  | remove client origin => exact registered.remove stepped
  | create client nickName_ =>
    rw [step_alive registered.alive, act] at stepped
    split at stepped
    · cases stepped
      exact ⟨trivial, registered.withServer fun _ _ there => there⟩
    · cases stepped
  | name =>
    rw [step_alive registered.alive, act] at stepped
    split at stepped
    · cases stepped
      exact ⟨trivial, registered.withServer fun _ _ there => there⟩
    · cases stepped
  | startThread buffer =>
    rw [step_alive registered.alive, act] at stepped
    split at stepped
    · rename_i client newSession _
      cases stepped
      have moved : (acceptor.setThread client (some (.polling (.new buffer)))).Registered :=
        registered.setThread fun now same => by
          cases same
          exact Or.inl ⟨_, rfl⟩
      exact ⟨trivial, moved.withServer fun _ _ there => there⟩
    · cases stepped
  | insert =>
    rw [step_alive registered.alive, act] at stepped
    split at stepped
    · rename_i client newSession _
      cases stepped
      refine ⟨trivial, registered.withServer fun peer _ there => ?_⟩
      simp only [findSession, Std.TreeMap.getElem?_insert]
      split
      · rfl
      · exact there
    · cases stepped
  | write client =>
    rw [step_alive registered.alive, act] at stepped
    split at stepped
    · split at stepped
      · cases stepped
        exact ⟨trivial, registered.withServer fun peer _ there => (isSome_modify _ peer).trans there⟩
      · cases stepped
    · cases stepped
  | leave client =>
    rw [step_alive registered.alive, act] at stepped
    split at stepped
    · rename_i found
      split at stepped
      · cases stepped
        exact ⟨trivial, registered.setThread fun _ _ => Or.inr (by rw [found]; rfl)⟩
      · cases stepped
    · cases stepped

/-- The four steps of the accepting thread in a row are `addSession`. -/
theorem addSession_steps (alive : acceptor.fatal = false) (idle : acceptor.adding = .idle)
    (unknown : acceptor.server.findSession client = none) (free : acceptor.threads client = none)
    (nickName_ : Field maxNicknameSize) (buffer : Field maxMessageSize) :
    ∃ next, exec (Acceptor.step target) acceptor [.create client nickName_, .name, .startThread buffer, .insert] =
        some next ∧ next.server = acceptor.server.addSession client nickName_ ∧ next.adding = .idle := by
  simp only [exec, Acceptor.step, alive, Bool.false_eq_true, if_false, act, idle, unknown, free, setThread]
  exact ⟨_, rfl, rfl, rfl⟩

theorem unregistered_fatal (alive : acceptor.fatal = false) (unknown : acceptor.server.findSession client = none)
    {thread : SessionThread} (runs : acceptor.threads client = some thread)
    (serves : thread = .ending ∨ ∃ inbox message rest, thread = .dispatching inbox (message :: rest))
    (memory : Memory) (origin : τ) :
    ∃ event next, acceptor.step target event = some next ∧ ¬ acceptor.ServesRegistered event ∧ next.fatal = true := by
  have stranger : ¬ (acceptor.server.findSession client).isSome = true := by
    rw [unknown]
    exact Bool.false_ne_true
  rcases serves with rfl | ⟨inbox, message, rest, rfl⟩
  · have removed : acceptor.server.removeSession origin client = .error .fatal := by
      simp only [removeSession, unknown]
    refine ⟨.remove client origin, { acceptor with fatal := true }, ?_, stranger, rfl⟩
    rw [step_alive alive]
    simp only [act, runs, removed]
  · have handled : acceptor.server.availableMessage target memory origin client message = .error .fatal := by
      simp only [availableMessage, checkSessionStateChange, unknown]
      rfl
    refine ⟨.dispatch client memory origin, { acceptor with fatal := true }, ?_, stranger, rfl⟩
    rw [step_alive alive]
    simp only [act, runs, handled]

theorem outcome_dispatching {poll : Poll} {inbox next : Inbox} {messages : List Message}
    (turned : poll.outcome inbox = .ok (.dispatching next messages)) : messages ≠ [] := by
  unfold Poll.outcome at turned
  split at turned
  · cases turned
  · dsimp only at turned
    split at turned
    · split at turned
      · cases turned
      · split at turned <;> cases turned
      · rename_i handled _ some _
        cases turned
        exact fun none => some none
    · split at turned <;> cases turned

theorem noisy_fatal (alive : acceptor.fatal = false) {event : Event τ} (noisy : ¬ acceptor.QuietUntilRegistered event)
    (stepped : acceptor.step target event = some next) (memory : Memory) (origin : τ) :
    ∃ event final, next.step target event = some final ∧ ¬ next.ServesRegistered event ∧ final.fatal = true := by
  cases event with
  | poll client poll =>
    simp only [QuietUntilRegistered, Classical.not_imp] at noisy
    obtain ⟨unknown, noisy⟩ := noisy
    rw [step_alive alive, act] at stepped
    split at stepped
    · rename_i inbox runs
      rw [runs] at noisy
      have nothing : acceptor.watchesOut client = false := by
        rw [watchesOut, unknown]
        rfl
      split at stepped
      · cases stepped
      · rename_i ready
        have silent : poll.revents.pollOut = false := by
          simpa [nothing] using ready
        split at stepped
        · cases stepped
          have gone : (acceptor.server.modify client fun data =>
              { data with client.outbox.disconnectionFlag_ := true }).findSession client = none := by
            rw [findSession_modify, unknown, Option.map_none, ite_self]
          exact unregistered_fatal alive gone (threads_setThread _ _ _) (Or.inl rfl) memory origin
        · rename_i thread notEnding turned
          cases stepped
          refine unregistered_fatal alive unknown (threads_setThread _ _ _) (Or.inr ?_) memory origin
          cases thread with
          | polling after => exact absurd (quiet_of_outcome silent turned) noisy
          | ending => exact absurd rfl notEnding
          | dispatching after messages =>
            obtain ⟨message, rest, rfl⟩ := List.exists_cons_of_ne_nil (outcome_dispatching turned)
            exact ⟨after, message, rest, rfl⟩
        · cases stepped
    · cases stepped
  | _ => exact absurd trivial noisy

/-- In the runs in which each thread is quiet until its session is in `sessions_`, only sessions that are in it are
    served, and the process is not ended. -/
theorem registeredFirst {events : List (Event τ)}
    (run : Run (Acceptor.step target) QuietUntilRegistered start events acceptor) :
    Run (Acceptor.step target) ServesRegistered start events acceptor ∧ acceptor.fatal = false := by
  refine ⟨run.of_invariant Registered registered_start (fun _ _ _ registered quiet stepped => ?_) ?_, ?_⟩
  · exact (registered.step quiet stepped).1
  · exact fun _ _ _ registered quiet stepped => (registered.step quiet stepped).2
  · exact (run.invariant Registered registered_start fun _ _ _ registered quiet stepped =>
      (registered.step quiet stepped).2).alive

def accepts : List (Event Unit) := [.create 1 (Field.zero _), .name, .startThread (Field.zero _), .insert]

def helloPoll : Poll :=
  ⟨.ready, ⟨false, false, false, true, false⟩, Heap.zeroed, some Message.hello.frame⟩

def servesHello : List (Event Unit) := [.poll 1 helloPoll, .dispatch 1 Memory.zeroed ()]

theorem registeredFirst_lateHello :
    ∃ acceptor : Acceptor Unit, exec (step .m64) start (accepts ++ servesHello) = some acceptor ∧
      Run (step .m64) ServesRegistered start (accepts ++ servesHello) acceptor ∧ acceptor.fatal = false := by
  have possible : (execMeets (step .m64) (fun acceptor event => decide (QuietUntilRegistered acceptor event))
      (start : Acceptor Unit) (accepts ++ servesHello)).isSome = true := by
    decide +kernel
  obtain ⟨acceptor, executed⟩ := Option.isSome_iff_exists.mp possible
  have run : Run (step .m64) QuietUntilRegistered start (accepts ++ servesHello) acceptor :=
    run_of_execDecide executed
  exact ⟨acceptor, exec_of_execMeets executed, registeredFirst run⟩

theorem registeredFirst_waitingHello :
    ∃ acceptor final : Acceptor Unit,
      exec (step .m64) start (accepts.take 3 ++ servesHello.take 1) = some acceptor ∧
        ¬ acceptor.ServesRegistered (.dispatch 1 Memory.zeroed ()) ∧
        acceptor.step .m64 (.dispatch 1 Memory.zeroed ()) = some final ∧ final.fatal = true := by
  have outcome : (exec (step .m64) (start : Acceptor Unit) (accepts.take 3 ++ servesHello.take 1)).map (fun acceptor =>
      ((acceptor.server.findSession 1).isSome,
        (acceptor.step .m64 (.dispatch 1 Memory.zeroed ())).map Acceptor.fatal)) = some (false, some true) := by
    decide +kernel
  obtain ⟨acceptor, executed, facts⟩ := Option.map_eq_some_iff.mp outcome
  obtain ⟨unknown, ended⟩ := Prod.mk.inj facts
  obtain ⟨final, stepped, fatal⟩ := Option.map_eq_some_iff.mp ended
  refine ⟨acceptor, final, executed, fun known => ?_, stepped, fatal⟩
  rw [ServesRegistered, unknown] at known
  cases known

end Acceptor

end LanMessenger
