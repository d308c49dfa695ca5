import LanMessenger.Server.Effects
import LanMessenger.Transition.Runs

namespace LanMessenger

open CMemory Transition

variable {τ : Type}

theorem text_copyNickName (field : Field maxNicknameSize) (newNickName : List Byte) :
    ((field.overwrite (List.replicate maxNicknameSize 0#8)).overwrite
      (strncpy newNickName (maxNicknameSize - 1))).text = (cString newNickName).take (maxNicknameSize - 1) := by
  have zeroed : (field.overwrite (List.replicate maxNicknameSize 0#8)).bytes = List.replicate maxNicknameSize 0#8 :=
    Field.overwrite_whole _ (by simp)
  rw [Field.text, Field.overwrite_bytes _ (by simp), zeroed, strncpy_length]
  exact cString_strncpy_append_zero _ _ _

theorem SessionClient.nickName_setNickName (client : SessionClient τ) (newNickName : List Byte) :
    (client.setNickName newNickName).nickName = (cString newNickName).take (maxNicknameSize - 1) :=
  text_copyNickName _ _

theorem strcaseEq_comm (left right : List Byte) : strcaseEq left right = strcaseEq right left := by
  simp only [strcaseEq, eq_comm]

/-- What the loop of `clientChangedNickName` makes of one character. -/
def sanitise (byte : Byte) : Byte := if isprint byte then byte else 32#8

theorem sanitise_ne_zero (byte : Byte) : sanitise byte ≠ 0#8 := by
  unfold sanitise
  split
  · rename_i printable
    rintro rfl
    exact absurd printable (by decide)
  · decide

theorem zero_not_mem_sanitised (name : List Byte) : 0#8 ∉ name.map sanitise := by
  intro member
  rcases List.mem_map.mp member with ⟨byte, -, zero⟩
  exact sanitise_ne_zero byte zero

theorem tolower_eq_blank_iff (byte : Byte) : tolower byte = 32#8 ↔ byte = 32#8 := by
  unfold tolower
  split
  · constructor <;> intro same <;> bv_omega
  · exact Iff.rfl

namespace Server

variable {server next : Server τ} {target : Target} {client : SessionId} {memory : Memory} {origin : τ}

/-- The string in the buffer of the loop goes on behind the name: its terminator has become a space. -/
theorem cString_verifiedNickName (memory : Memory) (requested : List Byte) :
    cString (verifiedNickName memory requested) =
      requested.map sanitise ++ 32#8 :: cString (memory.stack.drop (requested.length + 1)) := by
  have buffer : verifiedNickName memory requested =
      requested.map sanitise ++ 32#8 :: memory.stack.drop (requested.length + 1) := by
    rw [verifiedNickName, List.map_append, List.append_assoc]
    rfl
  rw [buffer, cString_append_of_not_mem (zero_not_mem_sanitised requested), cString, if_neg (by decide)]

/-- The name is the requested one ignoring case, with a blank for each byte that is not printable, and goes on with a blank
    and with what lies in memory from there up to a NUL. -/
structure GoesOn (memory : Memory) (requested name : List Byte) : Prop where
  front : (name.take requested.length).map tolower =
    requested.map fun byte => tolower (if isprint byte then byte else 32#8)
  blank : name[requested.length]? = some 32#8
  behind : (name.drop (requested.length + 1)).map tolower =
    (cString (memory.stack.drop (requested.length + 1))).map tolower

instance (memory : Memory) (requested name : List Byte) : Decidable (GoesOn memory requested name) :=
  decidable_of_iff (_ ∧ _ ∧ _) ⟨fun parts => ⟨parts.1, parts.2.1, parts.2.2⟩, fun goesOn =>
    ⟨goesOn.front, goesOn.blank, goesOn.behind⟩⟩

theorem strcaseEq_verifiedNickName_iff (requested : List Byte) (client : SessionClient τ) :
    strcaseEq (verifiedNickName memory requested) client.nickName = true ↔ GoesOn memory requested client.nickName := by
  rw [strcaseEq, decide_eq_true_iff, cString_verifiedNickName, SessionClient.nickName, Field.text, cString_cString,
    List.map_append, List.map_cons, List.map_map]
  generalize cString client.nickName_.bytes = name
  constructor
  · intro same
    have whole := same.symm
    refine ⟨?_, ?_, ?_⟩
    · rw [List.map_take, whole, List.take_left' (by simp)]
      rfl
    · have blank := congrArg (·[requested.length]?) whole
      simp only [List.getElem?_map, List.getElem?_append_right (List.length_map _).le, List.length_map, Nat.sub_self,
        List.getElem?_cons_zero, Option.map_eq_some_iff] at blank
      obtain ⟨byte, there, lower⟩ := blank
      rw [there, (tolower_eq_blank_iff byte).mp lower]
    · rw [List.map_drop, whole, List.drop_append, List.length_map]
      simp
  · rintro ⟨front, blank, behind⟩
    have split : name = name.take requested.length ++ 32#8 :: name.drop (requested.length + 1) := by
      obtain ⟨inside, byte⟩ := List.getElem?_eq_some_iff.mp blank
      rw [← byte, List.getElem_cons_drop, List.take_append_drop]
    rw [split, List.map_append, List.map_cons, front, behind]
    rfl

/-- Another session has a name that goes on behind the requested one. -/
def Refuses (memory : Memory) (server : Server τ) (client : SessionId) (requested : List Byte) : Prop :=
  ∃ peer data, server.findSession peer = some data ∧ peer ≠ client ∧ GoesOn memory requested data.client.nickName

instance (memory : Memory) (server : Server τ) (client : SessionId) (requested : List Byte) :
    Decidable (server.Refuses memory client requested) :=
  decidable_of_iff (¬ ∀ peer data, server.findSession peer = some data →
    ¬ (peer ≠ client ∧ GoesOn memory requested data.client.nickName))
    (by simp only [Refuses, not_forall, not_not, exists_prop])

theorem refuses_iff (message : NicknameMessage) :
    server.Refuses memory client (message.nickName memory.beyond) ↔ ¬ NickNameFree memory server client message := by
  constructor
  · rintro ⟨peer, data, there, other, goesOn⟩ free
    have held := (strcaseEq_verifiedNickName_iff _ _).mpr goesOn
    rw [free peer data there other] at held
    cases held
  · intro taken
    by_contra none
    refine taken fun peer data there other => ?_
    by_contra held
    rw [Bool.not_eq_false, strcaseEq_verifiedNickName_iff] at held
    exact none ⟨peer, data, there, other, held⟩

theorem stable_nickName : Stable fun data : SessionData τ => data.client.nickName_ where
  send _ _ _ := rfl
  setStatus _ _ := rfl
  changeState := SessionData.nickName_changeState

theorem keepsNickNames_message {message : Message} (other : ∀ name, message ≠ .nickname name)
    (handled : server.availableMessage target memory origin client message = .ok next) :
    Keeps (fun data => data.client.nickName_) server next := by
  have unchanging : stateChange message.type = none → Keeps (fun data => data.client.nickName_) server next := by
    intro unchanging
    exact keeps_unchanging (fun _ _ _ => rfl) (fun _ _ => rfl) (fun _ _ => rfl) unchanging handled
  cases message with
  | nickname message => exact absurd rfl (other message)
  | hello => exact stable_nickName.keeps_hello handled
  | bye => exact stable_nickName.keeps_bye handled
  | status message => exact unchanging rfl
  | chat message => exact unchanging rfl
  | fileRequest message => exact unchanging rfl
  | fileData message => exact unchanging rfl

def UniqueNickNames (server : Server τ) : Prop :=
  ∀ left right leftData rightData, server.findSession left = some leftData → server.findSession right = some rightData →
    strcaseEq leftData.client.nickName rightData.client.nickName = true → left = right

/-- Where a name is given: the default name is held by no session, and a requested one, as it will be
    stored, by no other session. It will not be stored if some other session has a name that goes on behind it. -/
def GivesFreeName (server : Server τ) : Event τ → Prop
  | .addSession _ nickName_ => ∀ peer data, server.findSession peer = some data →
      strcaseEq (newSession (τ := τ) (server.connectionsCounter_ + 1) nickName_).client.nickName data.client.nickName = false
  | .message client memory _ (.nickname message) =>
    let requested := message.nickName memory.beyond
    server.Refuses memory client requested ∨
    ∀ peer data, server.findSession peer = some data → peer ≠ client →
      strcaseEq (requested.take (maxNicknameSize - 1)) data.client.nickName = false
  | _ => True

instance (server : Server τ) (event : Event τ) : Decidable (server.GivesFreeName event) :=
  match event with
  | .addSession _ _ => inferInstanceAs (Decidable (∀ peer data, server.findSession peer = some data → _ = false))
  | .message client _ _ (.nickname _) =>
    inferInstanceAs (Decidable (_ ∨ ∀ peer data, server.findSession peer = some data → peer ≠ client → _ = false))
  | .message _ _ _ (.status _) | .message _ _ _ .hello | .message _ _ _ .bye | .message _ _ _ (.chat _)
  | .message _ _ _ (.fileRequest _) | .message _ _ _ (.fileData _) | .removeSession _ _ | .writeData _ => instDecidableTrue

theorem UniqueNickNames.of_keeps (unique : server.UniqueNickNames)
    (keeps : Keeps (fun data => data.client.nickName_) server next) : next.UniqueNickNames := by
  intro left right leftData rightData leftThere rightThere same
  have leftKept := keeps left
  have rightKept := keeps right
  rw [leftThere, Option.map_some, eq_comm, Option.map_eq_some_iff] at leftKept
  rw [rightThere, Option.map_some, eq_comm, Option.map_eq_some_iff] at rightKept
  obtain ⟨leftBefore, leftThere, leftName⟩ := leftKept
  obtain ⟨rightBefore, rightThere, rightName⟩ := rightKept
  refine unique left right leftBefore rightBefore leftThere rightThere ?_
  simpa only [SessionClient.nickName, leftName, rightName] using same

/-- One session has a new name and the others have the names they had: the names are unique if and
    only if none of the others is the new one. -/
theorem uniqueNickNames_iff (unique : server.UniqueNickNames) {renamedData : SessionData τ}
    (renamed : next.findSession client = some renamedData)
    (others : ∀ peer, peer ≠ client →
      (next.findSession peer).map (fun data => data.client.nickName_) =
        (server.findSession peer).map fun data => data.client.nickName_) :
    next.UniqueNickNames ↔ ∀ peer data, server.findSession peer = some data → peer ≠ client →
      strcaseEq renamedData.client.nickName data.client.nickName = false := by
  have lift : ∀ peer data, next.findSession peer = some data → peer ≠ client →
      ∃ before, server.findSession peer = some before ∧ before.client.nickName = data.client.nickName := by
    intro peer data there other
    have kept := others peer other
    rw [there, Option.map_some, eq_comm, Option.map_eq_some_iff] at kept
    obtain ⟨before, there, name⟩ := kept
    exact ⟨before, there, by simp only [SessionClient.nickName, name]⟩
  constructor
  · intro after peer data there other
    have kept := others peer other
    rw [there, Option.map_some, Option.map_eq_some_iff] at kept
    obtain ⟨later, thereLater, name⟩ := kept
    apply Bool.eq_false_iff.mpr
    intro same
    refine other (after client peer renamedData later renamed thereLater ?_).symm
    simpa only [SessionClient.nickName, name] using same
  · intro free left right leftData rightData leftThere rightThere same
    by_cases leftOwn : left = client
    · by_cases rightOwn : right = client
      · rw [leftOwn, rightOwn]
      · obtain ⟨before, there, name⟩ := lift right rightData rightThere rightOwn
        rw [leftOwn, renamed] at leftThere
        cases leftThere
        rw [← name, free right before there rightOwn] at same
        cases same
    · obtain ⟨leftBefore, leftThere, leftName⟩ := lift left leftData leftThere leftOwn
      by_cases rightOwn : right = client
      · rw [rightOwn, renamed] at rightThere
        cases rightThere
        rw [strcaseEq_comm, ← leftName, free left leftBefore leftThere leftOwn] at same
        cases same
      · obtain ⟨rightBefore, rightThere, rightName⟩ := lift right rightData rightThere rightOwn
        exact unique left right leftBefore rightBefore leftThere rightThere (by rw [leftName, rightName, same])

theorem nickname_unique_iff (unique : server.UniqueNickNames) {message : NicknameMessage}
    (handled : server.availableMessage target memory origin client (.nickname message) = .ok next) :
    next.UniqueNickNames ↔ server.GivesFreeName (.message client memory origin (.nickname message)) := by
  obtain ⟨current, found⟩ := availableMessage_found handled
  obtain ⟨accepted, free, -, rewrites⟩ := nickname_ok handled
  cases accepted with
  | true =>
    have renamedThere := rewrites.find client
    rw [found, Option.map_some, if_pos rfl] at renamedThere
    rw [uniqueNickNames_iff unique renamedThere]
    · have stored : (renamed memory origin message true current).client.nickName =
          (message.nickName memory.beyond).take (maxNicknameSize - 1) := by
        have name := SessionClient.nickName_setNickName (current.changeState origin .nickname).client
          (message.nickName memory.beyond)
        rwa [NicknameMessage.nickName, cString_cString] at name
      rw [stored]
      constructor
      · exact Or.inr
      · rintro (refused | unheld)
        · exact absurd (free.mp rfl) ((refuses_iff message).mp refused)
        · exact unheld
    · intro peer other
      rw [rewrites.find, Option.map_map]
      congr 1
      funext data
      simp only [Function.comp_apply, if_neg other]
  | false =>
    constructor
    · intro _
      exact Or.inl ((refuses_iff message).mpr fun unheld => Bool.false_ne_true (free.mpr unheld))
    · intro _
      refine unique.of_keeps (rewrites.keeps fun peer data => ?_)
      split
      · exact SessionData.nickName_changeState data origin .nickname
      · rfl

theorem step_unique_iff {event : Event τ} (unique : server.UniqueNickNames)
    (stepped : server.step target event = some next) : next.UniqueNickNames ↔ server.GivesFreeName event := by
  cases steps_of_step stepped with
  | @addSession client nickName_ unknown =>
    rw [uniqueNickNames_iff unique (by rw [addSession_find, if_pos rfl])]
    · constructor
      · intro free peer data there
        refine free peer data there ?_
        rintro rfl
        rw [unknown] at there
        cases there
      · exact fun free peer data there _ => free peer data there
    · intro peer other
      rw [addSession_find, if_neg other]
  | removeSession removed =>
    refine iff_of_true ?_ trivial
    intro left right leftData rightData leftThere rightThere same
    exact unique left right leftData rightData (find_removeSession removed leftThere)
      (find_removeSession removed rightThere) same
  | @message client memory origin message _ handled =>
    by_cases naming : ∃ name, message = .nickname name
    · obtain ⟨name, rfl⟩ := naming
      exact nickname_unique_iff unique handled
    · rw [not_exists] at naming
      have kept := unique.of_keeps (keepsNickNames_message naming handled)
      cases message with
      | nickname name => exact absurd rfl (naming name)
      | _ => exact iff_of_true kept trivial
  | writeData => exact iff_of_true (unique.of_keeps (keeps_modify _ _ fun _ => rfl)) trivial

/-- In the runs in which only free names are given, and in no others, the names stay unique. -/
theorem nickNames {events : List (Event τ)} {server : Server τ} :
    (Run (step target) (fun server event => ∀ next, server.step target event = some next → next.UniqueNickNames)
        new events server ↔ Run (step target) GivesFreeName new events server) ∧
      (Run (step target) GivesFreeName new events server → server.UniqueNickNames) := by
  have initial : (new : Server τ).UniqueNickNames := by
    intro left right leftData rightData there
    simp at there
  have same : Run (step target) GivesFreeName new events server ↔ Run (step target)
      (fun server event => ∀ next, server.step target event = some next → next.UniqueNickNames) new events server :=
    Run.iff_of_invariant UniqueNickNames initial
      (fun before event next unique stepped => by
        rw [← step_unique_iff unique stepped, stepped]
        simp)
      (fun before event next unique free stepped => (step_unique_iff unique stepped).mpr free)
  refine ⟨same.symm, fun run => run.invariant UniqueNickNames initial ?_⟩
  exact fun before event next unique free stepped => (step_unique_iff unique stepped).mpr free

/-- The first session takes the name `Bob `, with a blank at its end, and the second is refused the name `bob`. -/
def twoNames : List (Event Unit) := [.addSession 1 (Field.zero _), .addSession 2 (Field.zero _),
  .message 1 Memory.zeroed () .hello, .message 2 Memory.zeroed () .hello,
  .message 1 Memory.zeroed () (.nickname (.ofNickName (ascii ['B', 'o', 'b', ' ']))),
  .message 2 Memory.zeroed () (.nickname (.ofNickName (ascii ['b', 'o', 'b'])))]

theorem nickNames_twoNames :
    ∃ server first second, exec (step .m64) new twoNames = some server ∧
      server.findSession 1 = some first ∧ first.client.nickName = ascii ['B', 'o', 'b', ' '] ∧
      server.findSession 2 = some second ∧ second.client.nickName = defaultNickName 2 ∧ server.UniqueNickNames := by
  have outcome : (execMeets (step .m64) (fun server event => decide (server.GivesFreeName event)) new twoNames).map
      (fun server => ((server.findSession 1).map fun data => data.client.nickName,
        (server.findSession 2).map fun data => data.client.nickName)) =
      some (some (ascii ['B', 'o', 'b', ' ']), some (defaultNickName 2)) := by
    decide +kernel
  obtain ⟨server, executed, names⟩ := Option.map_eq_some_iff.mp outcome
  rw [Prod.mk.injEq, Option.map_eq_some_iff, Option.map_eq_some_iff] at names
  obtain ⟨⟨first, firstThere, taken⟩, second, secondThere, kept⟩ := names
  exact ⟨server, first, second, exec_of_execMeets executed, firstThere, taken, secondThere, kept,
    nickNames.2 (run_of_execDecide executed)⟩

/-- Two sessions are called `User 1` once the second has asked for that name. -/
theorem nickNames_taken :
    ∃ server, exec (step .m64) (new : Server Unit) [.addSession 1 (Field.zero _), .addSession 2 (Field.zero _),
        .message 2 Memory.zeroed () .hello,
        .message 2 Memory.zeroed () (.nickname (.ofNickName (ascii ['U', 's', 'e', 'r', ' ', '1'])))] = some server ∧
      ¬ server.UniqueNickNames := by
  have outcome : ((exec (step .m64) (new : Server Unit) [.addSession 1 (Field.zero _), .addSession 2 (Field.zero _),
        .message 2 Memory.zeroed () .hello,
        .message 2 Memory.zeroed () (.nickname (.ofNickName (ascii ['U', 's', 'e', 'r', ' ', '1'])))]).map
      fun server => ((server.findSession 1).map (fun data => data.client.nickName),
        (server.findSession 2).map fun data => data.client.nickName)) =
      some (some (ascii ['U', 's', 'e', 'r', ' ', '1']), some (ascii ['U', 's', 'e', 'r', ' ', '1'])) := by
    decide +kernel
  obtain ⟨server, executed, names⟩ := Option.map_eq_some_iff.mp outcome
  rw [Prod.mk.injEq, Option.map_eq_some_iff, Option.map_eq_some_iff] at names
  obtain ⟨⟨first, firstThere, firstName⟩, second, secondThere, secondName⟩ := names
  refine ⟨server, executed, fun unique => ?_⟩
  have same := unique 1 2 first second firstThere secondThere (by rw [firstName, secondName]; decide)
  exact absurd same (by decide)

end Server

end LanMessenger
