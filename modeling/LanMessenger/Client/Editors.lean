import LanMessenger.Client.FileTransfer
import LanMessenger.Transition.Runs

namespace LanMessenger

open CMemory Transition

abbrev keycodeEsc : Int := 27
abbrev keycodeEnter : Int := 10
abbrev keycodeBackspace : Int := 263

abbrev keyF (number : Nat) : Int := 264 + number

structure Write where
  index : Nat
  size : Nat

def Write.Inside (write : Write) : Prop := write.index < write.size

/-- A question that `askQuestion` has put: the array its caller has passed as `answer`, and `pos`. -/
structure Question where
  answer : List Byte
  answerSize : Nat
  pos : Nat

namespace Question

def ask (answer : List Byte) (answerSize : Nat) : Question := ⟨answer, answerSize, strlen answer⟩

inductive Outcome
  | goesOn (question : Question)
  | done (result : Bool) (answer : List Byte)

/-- A turn of the loop of `askQuestion`, for what `getch` returns. -/
def key (connected : Bool) (ch : Int) (question : Question) : List Write × Outcome :=
  let cell (index : Nat) : Write := ⟨index, question.answer.length⟩
  if ch ≤ 1 then ([], .goesOn question)
  else if !connected then ([], .done false question.answer)
  else if ch = keycodeEsc then ([cell 0], .done false (question.answer.set 0 0#8))
  else if ch = keycodeEnter then
    ([cell question.pos], .done (decide (question.pos ≠ 0)) (question.answer.set question.pos 0#8))
  else if ch = keycodeBackspace then
    if question.pos = 0 then ([], .goesOn question)
    else ([cell (question.pos - 1)],
      .goesOn { question with answer := question.answer.set (question.pos - 1) 0#8, pos := question.pos - 1 })
  else if question.pos ≥ question.answerSize - 1 then ([], .goesOn question)
  else ([cell question.pos],
    .goesOn { question with answer := question.answer.set question.pos (BitVec.ofInt 8 ch), pos := question.pos + 1 })

end Question

inductive Purpose
  | newName
  | fileName

/-- What `gotFileTransferRequest` asks, at first with the file's name in hand. -/
inductive RequestQuestion
  | accept (fileName : List Byte) (question : Question)
  | targetFileName (question : Question)

inductive Call
  | chat (message : List Byte)
  | setNickName (nickName : List Byte)
  | sendFile (fileName : List Byte)
  | sendStatus (status : StatusCode)
  | disconnect

/-- The main thread in `run`, and the thread of the connection in `gotFileTransferRequest`. -/
structure Editors where
  currentMessage_ : Field maxChatMessageSize
  currentMessagePos_ : Nat
  quit : Bool
  connected : Bool
  nickName_ : Field maxNicknameSize
  hasFileTransfer : Bool
  own : Option (Purpose × Question)
  request : Option RequestQuestion
  calls : List Call

namespace Editors

inductive Event
  /-- `getch` returns to the main thread. -/
  | key (ch : Int)
  /-- `getch` returns to the connection's thread. -/
  | requestKey (ch : Int)
  | gotFileTransferRequest (fileName : List Byte)
  | session (nickName_ : Field maxNicknameSize) (hasFileTransfer : Bool)
  | connectionClosed

def start (currentMessage_ : Field maxChatMessageSize) (nickName_ : Field maxNicknameSize) : Editors where
  currentMessage_
  currentMessagePos_ := 0
  quit := false
  connected := true
  nickName_
  hasFileTransfer := false
  own := none
  request := none
  calls := []

def call (editors : Editors) (call : Call) : Editors := { editors with calls := editors.calls ++ [call] }

/-- `strcpy` into an array of which nothing else is read before it is written. -/
def strcpy (size : Nat) (text : List Byte) : List Byte := ((Field.zero size).overwrite (text ++ [0#8])).bytes

/-- A turn of the loop of `run`. A nickname without a NUL runs over `newName`. -/
def runKey (ch : Int) (editors : Editors) : Option (List Write × Editors) :=
  let cell (index : Nat) : Write := ⟨index, maxChatMessageSize⟩
  -- the input lock is taken, and the key is lost
  if editors.request.isSome then some ([], editors)
  else if ch ≤ 1 then some ([], editors)
  else if !editors.connected then some ([], { editors with quit := true })
  else if ch = keycodeEsc then some ([], { editors.call .disconnect with quit := true })
  else if ch = keyF 2 then
    if maxNicknameSize ≤ editors.nickName_.text.length then none
    else some ([], { editors with
      own := some (.newName, .ask (strcpy maxNicknameSize editors.nickName_.text) maxNicknameSize) })
  else if ch = keyF 4 then
    if editors.hasFileTransfer then some ([], editors)
    else some ([], { editors with own := some (.fileName, .ask (List.replicate maxPathSize 0#8) maxPathSize) })
  else if ch = keycodeEnter then
    if editors.currentMessagePos_ = 0 then some ([], editors)
    else
      let currentMessage_ := editors.currentMessage_.set editors.currentMessagePos_ 0#8
      some ([cell editors.currentMessagePos_],
        { editors.call (.chat currentMessage_.text) with currentMessage_, currentMessagePos_ := 0 })
  else if ch = keycodeBackspace then
    if editors.currentMessagePos_ = 0 then some ([], editors)
    else some ([cell (editors.currentMessagePos_ - 1)], { editors with
      currentMessage_ := editors.currentMessage_.set (editors.currentMessagePos_ - 1) 0#8
      currentMessagePos_ := editors.currentMessagePos_ - 1 })
  else some ([cell editors.currentMessagePos_], { editors with
    currentMessage_ := editors.currentMessage_.set editors.currentMessagePos_ (BitVec.ofInt 8 ch)
    currentMessagePos_ := editors.currentMessagePos_ + 1 })

def answered (editors : Editors) (purpose : Purpose) (result : Bool) (answer : List Byte) : Editors :=
  if result && decide (1 ≤ strlen answer) then
    editors.call (match purpose with
      | .newName => .setNickName (cString answer)
      | .fileName => .sendFile (cString answer))
  else editors

def ownKey (ch : Int) (editors : Editors) (purpose : Purpose) (question : Question) : List Write × Editors :=
  match question.key editors.connected ch with
  | (writes, .goesOn question) => (writes, { editors with own := some (purpose, question) })
  | (writes, .done result answer) => (writes, { editors with own := none }.answered purpose result answer)

def reply (editors : Editors) (accept : Bool) : Editors :=
  { editors with request := none }.call (.sendStatus (if accept then .acceptFileTransfer else .rejectFileTransfer))

/-- `strcasecmp` finds the string equal to the one of this letter. -/
def isLetter (answer : List Byte) (small large : Char) : Bool :=
  decide (cString answer = ascii [small] ∨ cString answer = ascii [large])

def requestKey (ch : Int) (editors : Editors) : RequestQuestion → List Write × Editors
  | .accept fileName question =>
    match question.key editors.connected ch with
    | (writes, .goesOn question) => (writes, { editors with request := some (.accept fileName question) })
    | (writes, .done false _) => (writes, editors.reply false)
    | (writes, .done true answer) =>
      if isLetter answer 'y' 'Y' then
        (writes, { editors with request := some (.targetFileName (.ask (strcpy maxPathSize fileName) maxPathSize)) })
      else if isLetter answer 'n' 'N' then (writes, editors.reply false)
      else (writes, { editors with request := some (.accept fileName (.ask answer 5)) })
  | .targetFileName question =>
    match question.key editors.connected ch with
    | (writes, .goesOn question) => (writes, { editors with request := some (.targetFileName question) })
    | (writes, .done result _) => (writes, editors.reply result)

/-- The cells that are written, and the state behind the event. -/
def react (editors : Editors) : Event → Option (List Write × Editors)
  | .key ch =>
    if editors.quit then none
    else
      match editors.own with
      | some (purpose, question) => some (editors.ownKey ch purpose question)
      | none => editors.runKey ch
  | .requestKey ch => editors.request.map (editors.requestKey ch)
  | .gotFileTransferRequest fileName =>
    -- a longer name has run over `fileName_` before
    if editors.request.isSome || !editors.connected || decide (maxPathSize ≤ strlen fileName) then none
    else some ([], { editors with
      request := some (.accept (cString fileName) (.ask (strcpy 3 (ascii ['y'])) 5)) })
  | .session nickName_ hasFileTransfer => some ([], { editors with nickName_, hasFileTransfer })
  | .connectionClosed => if editors.request.isSome then none else some ([], { editors with connected := false })

def step (editors : Editors) (event : Event) : Option Editors := (editors.react event).map Prod.snd

/-- Each cell that the event writes is one of its array, and the position in the line stays one. -/
def StaysInside (editors : Editors) (event : Event) : Prop :=
  ∀ writes next, editors.react event = some (writes, next) →
    (∀ write ∈ writes, write.Inside) ∧ next.currentMessagePos_ < maxChatMessageSize

def Types (ch : Int) : Prop :=
  1 < ch ∧ ch ≠ keycodeEsc ∧ ch ≠ keyF 2 ∧ ch ≠ keyF 4 ∧ ch ≠ keycodeEnter ∧ ch ≠ keycodeBackspace

/-- `askQuestion` puts the key, or a NUL for it, behind the answer. -/
def Adds (ch : Int) : Prop := 1 < ch ∧ ch ≠ keycodeEsc ∧ ch ≠ keycodeBackspace

instance (ch : Int) : Decidable (Types ch) := inferInstanceAs (Decidable (_ ∧ _))

instance (ch : Int) : Decidable (Adds ch) := inferInstanceAs (Decidable (_ ∧ _))

/-- A key is typed into the line before its last cell, and behind an answer of less than three to the first question. -/
def HasRoom (editors : Editors) : Event → Prop
  | .key ch => editors.own = none → editors.request = none → editors.connected = true → Types ch →
    editors.currentMessagePos_ < maxChatMessageSize - 1
  | .requestKey ch => ∀ fileName question, editors.request = some (.accept fileName question) →
    editors.connected = true → Adds ch → question.pos < 3
  | _ => True

end Editors

namespace Question

/-- The caller has passed the size of its array, and the position is in it. -/
structure Sized (question : Question) (size : Nat) : Prop where
  array : question.answer.length = size
  passed : question.answerSize = size
  inside : question.pos < size

/-- A question about a letter, with an array of three and a size of five. -/
structure Short (question : Question) : Prop where
  array : question.answer.length = 3
  passed : question.answerSize = 5
  inside : question.pos ≤ 3

variable {question : Question} {size : Nat}

theorem Sized.key (sized : question.Sized size) (connected : Bool) (ch : Int) :
    (∀ write ∈ (question.key connected ch).1, write.Inside) ∧
      ∀ next, (question.key connected ch).2 = .goesOn next → next.Sized size := by
  rcases sized with ⟨array, passed, inside⟩
  have cell : ∀ index, index ≤ question.pos → ∀ write ∈ [(⟨index, question.answer.length⟩ : Write)], write.Inside := by
    intro index before write member
    rw [List.mem_singleton.mp member, Write.Inside, array]
    exact Nat.lt_of_le_of_lt before inside
  have none : ∀ write ∈ ([] : List Write), write.Inside := fun _ member => by cases member
  unfold Question.key
  simp only
  split
  · exact ⟨none, fun next same => by cases same; exact ⟨array, passed, inside⟩⟩
  split
  · exact ⟨none, fun next same => by cases same⟩
  split
  · exact ⟨cell 0 (Nat.zero_le _), fun next same => by cases same⟩
  split
  · exact ⟨cell question.pos (Nat.le_refl _), fun next same => by cases same⟩
  split
  · split
    · exact ⟨none, fun next same => by cases same; exact ⟨array, passed, inside⟩⟩
    · refine ⟨cell _ (Nat.sub_le _ _), fun next same => ?_⟩
      cases same
      exact ⟨List.length_set.trans array, passed, Nat.lt_of_le_of_lt (Nat.sub_le _ _) inside⟩
  split
  · exact ⟨none, fun next same => by cases same; exact ⟨array, passed, inside⟩⟩
  · rename_i room
    refine ⟨cell question.pos (Nat.le_refl _), fun next same => ?_⟩
    cases same
    refine ⟨List.length_set.trans array, passed, ?_⟩
    show question.pos + 1 < size
    omega

def Outcome.Short : Outcome → Prop
  | goesOn question => question.Short
  | done _ answer => answer.length = 3 ∧ strlen answer < 3

theorem Short.key (short : question.Short) {connected : Bool} (alive : connected = true) (ch : Int) :
    ((∀ write ∈ (question.key connected ch).1, write.Inside) ↔ (Editors.Adds ch → question.pos < 3)) ∧
      ((Editors.Adds ch → question.pos < 3) → (question.key connected ch).2.Short ∨
        ∃ answer, (question.key connected ch).2 = .done false answer) := by
  rcases short with ⟨array, passed, inside⟩
  have none : ∀ write ∈ ([] : List Write), write.Inside := fun _ member => by cases member
  have cell : ∀ index, (∀ write ∈ [(⟨index, question.answer.length⟩ : Write)], write.Inside) ↔ index < 3 := by
    intro index
    rw [List.forall_mem_singleton, Write.Inside, array]
  subst alive
  unfold Question.key
  simp only [Bool.not_true, Bool.false_eq_true, if_false]
  split
  · rename_i nothing
    exact ⟨iff_of_true none fun adds => absurd adds.1 (not_lt.mpr nothing), fun _ => Or.inl ⟨array, passed, inside⟩⟩
  rename_i typed
  split
  · rename_i escape
    exact ⟨iff_of_true ((cell 0).mpr (by decide)) fun adds => absurd escape adds.2.1, fun _ => Or.inr ⟨_, rfl⟩⟩
  rename_i noEscape
  split
  · rename_i enter
    have adds : Editors.Adds ch := by
      subst enter
      decide
    refine ⟨(cell question.pos).trans ⟨fun room _ => room, fun room => room adds⟩, fun room => Or.inl ⟨?_, ?_⟩⟩
    · rw [List.length_set, array]
    · exact Nat.lt_of_le_of_lt (strlen_set_zero_le _ (by rw [array]; exact room adds)) (room adds)
  split
  · rename_i back
    have idle : Editors.Adds ch → question.pos < 3 := fun adds => absurd back adds.2.2
    split
    · exact ⟨iff_of_true none idle, fun _ => Or.inl ⟨array, passed, inside⟩⟩
    · refine ⟨iff_of_true ((cell _).mpr (by omega)) idle, fun _ => Or.inl ⟨List.length_set.trans array, passed, ?_⟩⟩
      show question.pos - 1 ≤ 3
      omega
  rename_i noBack
  have adds : Editors.Adds ch := ⟨not_le.mp typed, noEscape, noBack⟩
  split
  · rename_i full
    rw [passed] at full
    omega
  · refine ⟨(cell question.pos).trans ⟨fun room _ => room, fun room => room adds⟩, fun room => Or.inl ⟨?_, passed, ?_⟩⟩
    · exact List.length_set.trans array
    · exact room adds

theorem ask_strcpy {text : List Byte} (noNul : 0#8 ∉ text) (short : text.length < size) :
    (ask (Editors.strcpy size text) size).Sized size := by
  refine ⟨Field.length_bytes _, rfl, ?_⟩
  have copied : strlen (Editors.strcpy size text) = text.length :=
    congrArg List.length (SessionServer.text_overwrite (Field.zero size) noNul short)
  exact copied.trans_lt short

theorem ask_short {answer : List Byte} (array : answer.length = 3) (short : strlen answer < 3) : (ask answer 5).Short :=
  ⟨array, rfl, Nat.le_of_lt short⟩

end Question

def Purpose.size : Purpose → Nat
  | newName => maxNicknameSize
  | fileName => maxPathSize

/-- The open question is one about a letter, or has the size of its array. -/
def RequestQuestion.Sized : RequestQuestion → Prop
  | accept fileName question => question.Short ∧ 0#8 ∉ fileName ∧ fileName.length < maxPathSize
  | targetFileName question => question.Sized maxPathSize

namespace Editors

structure Consistent (editors : Editors) : Prop where
  line : editors.currentMessagePos_ < maxChatMessageSize
  own : ∀ purpose question, editors.own = some (purpose, question) → question.Sized purpose.size
  request : ∀ question, editors.request = some question → question.Sized ∧ editors.connected = true

theorem consistent_start (currentMessage_ : Field maxChatMessageSize) (nickName_ : Field maxNicknameSize) :
    (start currentMessage_ nickName_).Consistent :=
  ⟨Nat.zero_lt_succ _, fun _ _ same => (by cases same), fun _ same => by cases same⟩

variable {editors next : Editors} {writes : List Write} {ch : Int}

theorem Consistent.call (consistent : editors.Consistent) (call : Call) : (editors.call call).Consistent :=
  ⟨consistent.line, consistent.own, consistent.request⟩

theorem Consistent.asks (consistent : editors.Consistent) {purpose : Purpose} {question : Question}
    (sized : question.Sized purpose.size) : { editors with own := some (purpose, question) }.Consistent := by
  refine ⟨consistent.line, fun asked now same => ?_, consistent.request⟩
  cases same
  exact sized

theorem Consistent.closes (consistent : editors.Consistent) : { editors with own := none }.Consistent :=
  ⟨consistent.line, fun _ _ same => (by cases same), consistent.request⟩

theorem Consistent.reply (consistent : editors.Consistent) (accept : Bool) : (editors.reply accept).Consistent :=
  ⟨consistent.line, consistent.own, fun _ same => by cases same⟩

theorem Consistent.requests (consistent : editors.Consistent) (alive : editors.connected = true) {question : RequestQuestion}
    (sized : question.Sized) : { editors with request := some question }.Consistent := by
  refine ⟨consistent.line, consistent.own, fun asked same => ?_⟩
  cases same
  exact ⟨sized, alive⟩

theorem Consistent.ownKey (consistent : editors.Consistent) (ch : Int) {purpose : Purpose} {question : Question}
    (asked : editors.own = some (purpose, question)) :
    (∀ write ∈ (editors.ownKey ch purpose question).1, write.Inside) ∧ (editors.ownKey ch purpose question).2.Consistent := by
  rcases (consistent.own purpose question asked).key editors.connected ch with ⟨inside, goes⟩
  unfold Editors.ownKey
  split
  · rename_i writes asks same
    rw [same] at inside goes
    exact ⟨inside, consistent.asks (goes asks rfl)⟩
  · rename_i writes result answer same
    rw [same] at inside
    refine ⟨inside, ?_⟩
    unfold answered
    split
    · exact consistent.closes.call _
    · exact consistent.closes

theorem runKey_types (unlocked : editors.request = none) (alive : editors.connected = true) (types : Types ch) :
    editors.runKey ch = some ([⟨editors.currentMessagePos_, maxChatMessageSize⟩], { editors with
      currentMessage_ := editors.currentMessage_.set editors.currentMessagePos_ (BitVec.ofInt 8 ch)
      currentMessagePos_ := editors.currentMessagePos_ + 1 }) := by
  rcases types with ⟨typed, noEscape, noName, noFile, noEnter, noBack⟩
  simp only [runKey, unlocked, alive, Option.isSome_none, Bool.not_true, Bool.false_eq_true, if_false,
    if_neg (not_le.mpr typed), if_neg noEscape, if_neg noName, if_neg noFile, if_neg noEnter, if_neg noBack]

theorem Consistent.runKey (consistent : editors.Consistent)
    (other : ¬ (editors.request = none ∧ editors.connected = true ∧ Types ch))
    (reacted : editors.runKey ch = some (writes, next)) : (∀ write ∈ writes, write.Inside) ∧ next.Consistent := by
  have none : ∀ write ∈ ([] : List Write), write.Inside := fun _ member => by cases member
  have cell : ∀ index, index ≤ editors.currentMessagePos_ →
      ∀ write ∈ [(⟨index, maxChatMessageSize⟩ : Write)], write.Inside := by
    intro index before write member
    rw [List.mem_singleton.mp member]
    exact Nat.lt_of_le_of_lt before consistent.line
  unfold Editors.runKey at reacted
  simp only at reacted
  by_cases locked : editors.request.isSome = true
  · rw [if_pos locked] at reacted
    cases reacted
    exact ⟨none, consistent⟩
  rw [if_neg locked] at reacted
  by_cases nothing : ch ≤ 1
  · rw [if_pos nothing] at reacted
    cases reacted
    exact ⟨none, consistent⟩
  rw [if_neg nothing] at reacted
  by_cases gone : (!editors.connected) = true
  · rw [if_pos gone] at reacted
    cases reacted
    exact ⟨none, consistent.line, consistent.own, consistent.request⟩
  rw [if_neg gone] at reacted
  by_cases escape : ch = keycodeEsc
  · rw [if_pos escape] at reacted
    cases reacted
    exact ⟨none, consistent.line, consistent.own, consistent.request⟩
  rw [if_neg escape] at reacted
  by_cases changesName : ch = keyF 2
  · rw [if_pos changesName] at reacted
    split at reacted
    · cases reacted
    · rename_i short
      cases reacted
      refine ⟨none, consistent.asks ?_⟩
      exact Question.ask_strcpy (zero_not_mem_cString _) (Nat.lt_of_not_le short)
  rw [if_neg changesName] at reacted
  by_cases sendsFile : ch = keyF 4
  · rw [if_pos sendsFile] at reacted
    split at reacted
    · cases reacted
      exact ⟨none, consistent⟩
    · cases reacted
      exact ⟨none, consistent.asks ⟨List.length_replicate, rfl, Nat.zero_lt_succ _⟩⟩
  rw [if_neg sendsFile] at reacted
  by_cases enter : ch = keycodeEnter
  · rw [if_pos enter] at reacted
    split at reacted
    · cases reacted
      exact ⟨none, consistent⟩
    · cases reacted
      exact ⟨cell _ (Nat.le_refl _), Nat.zero_lt_succ _, consistent.own, consistent.request⟩
  rw [if_neg enter] at reacted
  by_cases back : ch = keycodeBackspace
  · rw [if_pos back] at reacted
    split at reacted
    · cases reacted
      exact ⟨none, consistent⟩
    · cases reacted
      exact ⟨cell _ (Nat.sub_le _ _), Nat.lt_of_le_of_lt (Nat.sub_le _ _) consistent.line, consistent.own, consistent.request⟩
  · exact absurd ⟨by simpa using locked, by simpa using gone, not_le.mp nothing, escape, changesName, sendsFile, enter, back⟩
      other

theorem writes_accept (fileName : List Byte) (question : Question) :
    (editors.requestKey ch (.accept fileName question)).1 = (question.key editors.connected ch).1 := by
  simp only [Editors.requestKey]
  rcases question.key editors.connected ch with ⟨writes, outcome⟩
  cases outcome with
  | goesOn asks => rfl
  | done result answer =>
    cases result with
    | false => rfl
    | true =>
      simp only
      split
      · rfl
      · split <;> rfl

theorem writes_targetFileName (question : Question) :
    (editors.requestKey ch (.targetFileName question)).1 = (question.key editors.connected ch).1 := by
  simp only [Editors.requestKey]
  rcases question.key editors.connected ch with ⟨writes, outcome⟩
  cases outcome <;> rfl

def Agrees (editors : Editors) (event : Event) (outcome : List Write × Editors) : Prop :=
  ((∀ write ∈ outcome.1, write.Inside) ∧ outcome.2.currentMessagePos_ < maxChatMessageSize ↔ editors.HasRoom event) ∧
    (editors.HasRoom event → outcome.2.Consistent)

theorem agrees_of_room {event : Event} {outcome : List Write × Editors} (inside : ∀ write ∈ outcome.1, write.Inside)
    (consistent : outcome.2.Consistent) (room : editors.HasRoom event) : editors.Agrees event outcome :=
  ⟨iff_of_true ⟨inside, consistent.line⟩ room, fun _ => consistent⟩

theorem Consistent.key (consistent : editors.Consistent) (free : editors.own = none)
    (reacted : editors.runKey ch = some (writes, next)) : editors.Agrees (.key ch) (writes, next) := by
  by_cases types : editors.request = none ∧ editors.connected = true ∧ Types ch
  · rcases types with ⟨unlocked, alive, types⟩
    rw [runKey_types unlocked alive types] at reacted
    cases reacted
    have room : editors.HasRoom (.key ch) ↔ editors.currentMessagePos_ + 1 < maxChatMessageSize := by
      constructor
      · intro room
        exact Nat.add_lt_of_lt_sub (room free unlocked alive types)
      · intro room _ _ _ _
        exact Nat.lt_sub_of_add_lt room
    constructor
    · rw [room]
      constructor
      · intro stays
        exact stays.2
      · intro below
        refine ⟨?_, below⟩
        rw [List.forall_mem_singleton]
        exact consistent.line
    · rw [room]
      intro below
      exact ⟨below, consistent.own, consistent.request⟩
  · rcases consistent.runKey types reacted with ⟨inside, kept⟩
    exact agrees_of_room inside kept fun _ unlocked alive typed => absurd ⟨unlocked, alive, typed⟩ types

theorem Consistent.acceptKey (consistent : editors.Consistent) (ch : Int) {fileName : List Byte} {question : Question}
    (asked : editors.request = some (.accept fileName question)) (room : Adds ch → question.pos < 3) :
    (editors.requestKey ch (.accept fileName question)).2.Consistent := by
  rcases consistent.request _ asked with ⟨⟨short, noNul, named⟩, alive⟩
  have comes := (short.key alive ch).2 room
  simp only [Editors.requestKey]
  generalize question.key editors.connected ch = result at comes
  rcases result with ⟨writes, outcome⟩
  cases outcome with
  | goesOn asks =>
    rcases comes with short | ⟨_, ends⟩
    · exact consistent.requests alive ⟨short, noNul, named⟩
    · cases ends
  | done result answer =>
    cases result with
    | false => exact consistent.reply false
    | true =>
      rcases comes with ⟨array, few⟩ | ⟨_, ends⟩
      · simp only
        split
        · exact consistent.requests alive (Question.ask_strcpy noNul named)
        · split
          · exact consistent.reply false
          · exact consistent.requests alive ⟨Question.ask_short array few, noNul, named⟩
      · cases ends

theorem Consistent.targetFileNameKey (consistent : editors.Consistent) (ch : Int) {question : Question}
    (asked : editors.request = some (.targetFileName question)) :
    (editors.requestKey ch (.targetFileName question)).2.Consistent := by
  rcases consistent.request _ asked with ⟨sized, alive⟩
  have goes := (Question.Sized.key sized editors.connected ch).2
  simp only [Editors.requestKey]
  generalize question.key editors.connected ch = result at goes
  rcases result with ⟨writes, outcome⟩
  cases outcome with
  | goesOn asks => exact consistent.requests alive (goes asks rfl)
  | done result answer => exact consistent.reply result

theorem Consistent.requestKey (consistent : editors.Consistent) (ch : Int) {asked : RequestQuestion}
    (waiting : editors.request = some asked) : editors.Agrees (.requestKey ch) (editors.requestKey ch asked) := by
  rcases consistent.request _ waiting with ⟨sized, alive⟩
  cases asked with
  | accept fileName question =>
    have room : editors.HasRoom (.requestKey ch) ↔ (Adds ch → question.pos < 3) := by
      constructor
      · intro room
        exact room fileName question waiting alive
      · intro room _ _ again _
        rw [waiting] at again
        cases again
        exact room
    have inside := (Question.Short.key sized.1 alive ch).1
    rw [← writes_accept fileName] at inside
    rw [Agrees, room, ← inside]
    refine ⟨⟨fun stays => stays.1, fun stays => ⟨stays, ?_⟩⟩, fun stays => ?_⟩
    · exact (consistent.acceptKey ch waiting (inside.mp stays)).line
    · exact consistent.acceptKey ch waiting (inside.mp stays)
  | targetFileName question =>
    have inside := (Question.Sized.key sized editors.connected ch).1
    rw [← writes_targetFileName] at inside
    apply agrees_of_room inside (consistent.targetFileNameKey ch waiting)
    intro fileName asked other
    rw [waiting] at other
    cases other

theorem Consistent.react (consistent : editors.Consistent) {event : Event} {outcome : List Write × Editors}
    (reacted : editors.react event = some outcome) : editors.Agrees event outcome := by
  have none : ∀ write ∈ ([] : List Write), write.Inside := fun _ member => by cases member
  cases event with
  | key ch =>
    simp only [Editors.react] at reacted
    split at reacted
    · cases reacted
    · split at reacted
      · rename_i purpose question asked
        cases reacted
        rcases consistent.ownKey ch asked with ⟨inside, kept⟩
        apply agrees_of_room inside kept
        intro free
        rw [asked] at free
        cases free
      · rename_i free
        exact consistent.key free reacted
  | requestKey ch =>
    rcases Option.map_eq_some_iff.mp reacted with ⟨asked, waiting, rfl⟩
    exact consistent.requestKey ch waiting
  | gotFileTransferRequest fileName =>
    simp only [Editors.react] at reacted
    split at reacted
    · cases reacted
    · rename_i free
      simp only [Bool.or_eq_true, Bool.not_eq_true', decide_eq_true_eq, not_or] at free
      rcases free with ⟨⟨_, alive⟩, short⟩
      cases reacted
      refine agrees_of_room none (consistent.requests (by simpa using alive) ⟨?_, zero_not_mem_cString fileName, ?_⟩) trivial
      · exact Question.ask_short (Field.length_bytes _) (by decide)
      · exact Nat.lt_of_not_le short
  | session nickName_ hasFileTransfer =>
    cases reacted
    exact agrees_of_room none ⟨consistent.line, consistent.own, consistent.request⟩ trivial
  | connectionClosed =>
    simp only [Editors.react] at reacted
    split at reacted
    · cases reacted
    · rename_i free
      cases reacted
      refine agrees_of_room none ⟨consistent.line, consistent.own, fun question asked => ?_⟩ trivial
      exact absurd (Option.isSome_iff_exists.mpr ⟨question, asked⟩) free

theorem Consistent.stays_iff (consistent : editors.Consistent) {event : Event}
    (stepped : editors.step event = some next) : StaysInside editors event ↔ editors.HasRoom event := by
  rcases Option.map_eq_some_iff.mp stepped with ⟨⟨writes, after⟩, reacted, rfl⟩
  rw [← (consistent.react reacted).1]
  constructor
  · intro stays
    exact stays writes after reacted
  · intro inside _ _ again
    rw [reacted] at again
    cases again
    exact inside

theorem Consistent.step (consistent : editors.Consistent) {event : Event} (room : editors.HasRoom event)
    (stepped : editors.step event = some next) : next.Consistent := by
  rcases Option.map_eq_some_iff.mp stepped with ⟨⟨writes, after⟩, reacted, rfl⟩
  exact (consistent.react reacted).2 room

/-- The runs in which each cell that is written is one of its array, and the position in the line stays one, are those
    in which the line has room for each key typed into it, and so has the answer to the first question about a file. -/
theorem staysInside_iff {currentMessage_ : Field maxChatMessageSize} {nickName_ : Field maxNicknameSize}
    {events : List Event} : Run Editors.step StaysInside (start currentMessage_ nickName_) events editors ↔
      Run Editors.step HasRoom (start currentMessage_ nickName_) events editors :=
  Run.iff_of_invariant Consistent (consistent_start currentMessage_ nickName_)
    (fun _ _ _ consistent stepped => consistent.stays_iff stepped)
    fun _ _ _ consistent stays stepped => consistent.step ((consistent.stays_iff stepped).mp stays) stepped

structure AtLine (editors : Editors) : Prop where
  going : editors.quit = false
  own : editors.own = none
  request : editors.request = none
  alive : editors.connected = true

theorem react_types (line : editors.AtLine) (types : Types ch) :
    editors.react (.key ch) = some ([⟨editors.currentMessagePos_, maxChatMessageSize⟩], { editors with
      currentMessage_ := editors.currentMessage_.set editors.currentMessagePos_ (BitVec.ofInt 8 ch)
      currentMessagePos_ := editors.currentMessagePos_ + 1 }) := by
  rw [react, if_neg (by simp [line.going])]
  split
  · rename_i asked
    rw [line.own] at asked
    cases asked
  · exact runKey_types line.request line.alive types

theorem exec_types (line : editors.AtLine) (types : Types ch) (count : Nat) :
    ∃ next, exec Editors.step editors (List.replicate count (.key ch)) = some next ∧ next.AtLine ∧
      next.currentMessagePos_ = editors.currentMessagePos_ + count := by
  induction count generalizing editors with
  | zero => exact ⟨editors, rfl, line, rfl⟩
  | succ count ih =>
    have typed := react_types line types
    have after : ({ editors with
        currentMessage_ := editors.currentMessage_.set editors.currentMessagePos_ (BitVec.ofInt 8 ch)
        currentMessagePos_ := editors.currentMessagePos_ + 1 } : Editors).AtLine :=
      ⟨line.going, line.own, line.request, line.alive⟩
    rcases ih after with ⟨next, ran, still, moved⟩
    refine ⟨next, ?_, still, ?_⟩
    · rw [List.replicate_succ, exec, Editors.step, typed]
      exact ran
    · rw [moved, Nat.add_assoc, Nat.add_comm 1]

/-- A line as long as its array is typed, or a file is accepted by the word "yes". -/
theorem staysInside_overrun :
    (∃ editors, exec Editors.step (start (Field.zero _) (Field.zero _)) (List.replicate 1023 (.key 97)) = some editors ∧
        ¬ StaysInside editors (.key 97)) ∧
      ∃ editors, exec Editors.step (start (Field.zero _) (Field.zero _))
          [.gotFileTransferRequest (ascii ['f']), .requestKey 101, .requestKey 115] = some editors ∧
        ¬ StaysInside editors (.requestKey 10) := by
  constructor
  · have types : Types 97 := by decide
    have line : (start (Field.zero _) (Field.zero _)).AtLine := ⟨rfl, rfl, rfl, rfl⟩
    rcases exec_types line types 1023 with ⟨editors, ran, still, moved⟩
    refine ⟨editors, ran, fun stays => ?_⟩
    have past := (stays _ _ (react_types still types)).2
    simp only [moved] at past
    exact absurd past (by decide)
  · have outcome : (exec Editors.step (start (Field.zero _) (Field.zero _))
        [.gotFileTransferRequest (ascii ['f']), .requestKey 101, .requestKey 115]).map
        (fun editors => (editors.react (.requestKey 10)).map fun outcome =>
          outcome.1.all fun write => decide (write.index < write.size)) = some (some false) := by
      decide +kernel
    rcases Option.map_eq_some_iff.mp outcome with ⟨editors, ran, reacted⟩
    rcases Option.map_eq_some_iff.mp reacted with ⟨⟨writes, next⟩, reacted, outside⟩
    refine ⟨editors, ran, fun stays => ?_⟩
    have inside := (stays writes next reacted).1
    have all : writes.all (fun write => decide (write.index < write.size)) = true :=
      List.all_eq_true.mpr fun write member => decide_eq_true (inside write member)
    rw [all] at outside
    cases outside

end Editors

end LanMessenger
