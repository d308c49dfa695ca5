import LanMessenger.Client.Editors
import LanMessenger.Text.Buffers
import LanMessenger.Transition.Simulation

/-! What the user types, as lines of text that grow and shrink at their ends: no arrays, and no positions in them. -/

namespace CMemory

open Text

theorem cString_set_of_holds {array line : List Byte} {position : Nat} (holds : Holds array position line)
    (room : position < array.length) : cString (array.set position 0#8) = cString line := by
  rw [List.set_eq_take_append_cons_drop, if_pos room, holds.text]
  by_cases ends : 0#8 ∈ line
  · exact cString_append_of_mem ends _
  · rw [cString_terminated ends, cString_of_not_mem ends]

theorem holds_cString (array : List Byte) : Holds array (strlen array) (cString array) :=
  ⟨strlen_le_length array, take_strlen array⟩

end CMemory

namespace LanMessenger

open CMemory Transition Text

namespace Desk

inductive Reply
  | goesOn (answer : List Byte)
  | done (result : Bool) (answer : List Byte)

/-- A key that is pressed over an answer, for which there is so much room. -/
def answerKey (room : Nat) (connected : Bool) (ch : Int) (answer : List Byte) : Reply :=
  if ch ≤ 1 then .goesOn answer
  else if !connected then .done false answer
  else if ch = keycodeEsc then .done false []
  else if ch = keycodeEnter then .done (decide (answer ≠ [])) (cString answer)
  else if ch = keycodeBackspace then .goesOn answer.dropLast
  else if room ≤ answer.length then .goesOn answer
  else .goesOn (answer ++ [BitVec.ofInt 8 ch])

inductive Asked
  | accept (fileName answer : List Byte)
  | targetFileName (answer : List Byte)

end Desk

structure Desk where
  line : List Byte
  quit : Bool
  connected : Bool
  nickName : List Byte
  hasFileTransfer : Bool
  own : Option (Purpose × List Byte)
  request : Option Desk.Asked
  calls : List Call

namespace Desk

def start (nickName : List Byte) : Desk := ⟨[], false, true, nickName, false, none, none, []⟩

def call (desk : Desk) (call : Call) : Desk := { desk with calls := desk.calls ++ [call] }

def lineKey (ch : Int) (desk : Desk) : Option Desk :=
  if desk.request.isSome then some desk
  else if ch ≤ 1 then some desk
  else if !desk.connected then some { desk with quit := true }
  else if ch = keycodeEsc then some { desk.call .disconnect with quit := true }
  else if ch = keyF 2 then
    if maxNicknameSize ≤ desk.nickName.length then none else some { desk with own := some (.newName, desk.nickName) }
  else if ch = keyF 4 then
    if desk.hasFileTransfer then some desk else some { desk with own := some (.fileName, []) }
  else if ch = keycodeEnter then
    if desk.line = [] then some desk else some { desk.call (.chat (cString desk.line)) with line := [] }
  else if ch = keycodeBackspace then some { desk with line := desk.line.dropLast }
  else some { desk with line := desk.line ++ [BitVec.ofInt 8 ch] }

def answered (desk : Desk) (purpose : Purpose) (result : Bool) (answer : List Byte) : Desk :=
  if result && decide (answer ≠ []) then
    desk.call (match purpose with
      | .newName => .setNickName answer
      | .fileName => .sendFile answer)
  else desk

def ownKey (ch : Int) (desk : Desk) (purpose : Purpose) (answer : List Byte) : Desk :=
  match answerKey (purpose.size - 1) desk.connected ch answer with
  | .goesOn answer => { desk with own := some (purpose, answer) }
  | .done result answer => { desk with own := none }.answered purpose result answer

def reply (desk : Desk) (accept : Bool) : Desk :=
  { desk with request := none }.call (.sendStatus (if accept then .acceptFileTransfer else .rejectFileTransfer))

def requestKey (ch : Int) (desk : Desk) : Asked → Desk
  | .accept fileName answer =>
    match answerKey 4 desk.connected ch answer with
    | .goesOn answer => { desk with request := some (.accept fileName answer) }
    | .done false _ => desk.reply false
    | .done true answer =>
      if answer = ascii ['y'] ∨ answer = ascii ['Y'] then { desk with request := some (.targetFileName fileName) }
      else if answer = ascii ['n'] ∨ answer = ascii ['N'] then desk.reply false
      else { desk with request := some (.accept fileName answer) }
  | .targetFileName answer =>
    match answerKey (maxPathSize - 1) desk.connected ch answer with
    | .goesOn answer => { desk with request := some (.targetFileName answer) }
    | .done result _ => desk.reply result

def step (desk : Desk) : Editors.Event → Option Desk
  | .key ch =>
    if desk.quit then none
    else
      match desk.own with
      | some (purpose, answer) => some (desk.ownKey ch purpose answer)
      | none => desk.lineKey ch
  | .requestKey ch => desk.request.map (desk.requestKey ch)
  | .gotFileTransferRequest fileName =>
    if desk.request.isSome || !desk.connected || decide (maxPathSize ≤ (cString fileName).length) then none
    else some { desk with request := some (.accept (cString fileName) (ascii ['y'])) }
  | .session nickName_ hasFileTransfer => some { desk with nickName := nickName_.text, hasFileTransfer }
  | .connectionClosed => if desk.request.isSome then none else some { desk with connected := false }

end Desk

namespace Question

inductive Outcome.Shows : Outcome → Desk.Reply → Prop
  | goesOn {question : Question} {answer : List Byte} (holds : Holds question.answer question.pos answer) :
      Shows (.goesOn question) (.goesOn answer)
  | done {result : Bool} {array answer : List Byte} (same : result = true → cString array = answer) :
      Shows (.done result array) (.done result answer)

variable {question : Question} {answer : List Byte}

theorem key_shows (holds : Holds question.answer question.pos answer) (connected : Bool) (ch : Int)
    (room : connected = true → Editors.Adds ch → question.pos < question.answer.length) :
    (question.key connected ch).2.Shows (Desk.answerKey (question.answerSize - 1) connected ch answer) := by
  unfold key Desk.answerKey
  simp only
  by_cases nothing : ch ≤ 1
  · rw [if_pos nothing, if_pos nothing]
    exact .goesOn holds
  rw [if_neg nothing, if_neg nothing]
  by_cases gone : (!connected) = true
  · rw [if_pos gone, if_pos gone]
    exact .done nofun
  rw [if_neg gone, if_neg gone]
  by_cases escape : ch = keycodeEsc
  · rw [if_pos escape, if_pos escape]
    exact .done nofun
  rw [if_neg escape, if_neg escape]
  by_cases back : ch = keycodeBackspace
  · subst back
    simp only [show (keycodeBackspace = keycodeEnter) = False from by decide, if_false, if_true]
    split
    · rename_i first
      have empty : answer = [] := holds.eq_nil_iff.mpr first
      subst empty
      exact .goesOn holds
    · exact .goesOn (holds.erase 0#8)
  have cell : question.pos < question.answer.length :=
    room (by simpa using gone) ⟨not_le.mp nothing, escape, back⟩
  by_cases enter : ch = keycodeEnter
  · rw [if_pos enter, if_pos enter]
    have empty : decide (question.pos ≠ 0) = decide (answer ≠ []) := by
      rw [decide_eq_decide, not_iff_not]
      exact holds.eq_nil_iff.symm
    rw [empty]
    exact .done fun _ => cString_set_of_holds holds cell
  rw [if_neg enter, if_neg enter, if_neg back, if_neg back, holds.length]
  split
  · exact .goesOn holds
  · exact .goesOn (holds.put cell _)

end Question

deriving instance DecidableEq for Call

inductive RequestQuestion.Shows : RequestQuestion → Desk.Asked → Prop
  | accept {fileName answer : List Byte} {question : Question}
      (holds : Text.Holds question.answer question.pos answer) : Shows (.accept fileName question) (.accept fileName answer)
  | targetFileName {answer : List Byte} {question : Question} (holds : Text.Holds question.answer question.pos answer) :
      Shows (.targetFileName question) (.targetFileName answer)

namespace Editors

instance (editors : Editors) (event : Event) : Decidable (editors.HasRoom event) :=
  match event with
  | .key _ => inferInstanceAs (Decidable (_ → _ → _ → _ → _))
  | .requestKey ch =>
    match waiting : editors.request with
    | some (.accept fileName question) =>
      decidable_of_iff (editors.connected = true → Adds ch → question.pos < 3)
        ⟨fun room _ _ same => by rw [waiting] at same; cases same; exact room, fun room => room fileName question waiting⟩
    | some (.targetFileName _) | none => isTrue fun _ _ same => by rw [waiting] at same; cases same
  | .gotFileTransferRequest _ | .session _ _ | .connectionClosed => instDecidableTrue

def OwnShows (asked : Purpose × Question) (shown : Purpose × List Byte) : Prop :=
  asked.1 = shown.1 ∧ Holds asked.2.answer asked.2.pos shown.2

/-- The arrays and positions, and the lines of text. -/
structure Shows (editors : Editors) (desk : Desk) : Prop where
  line : Holds editors.currentMessage_.bytes editors.currentMessagePos_ desk.line
  quit : editors.quit = desk.quit
  connected : editors.connected = desk.connected
  nickName : editors.nickName_.text = desk.nickName
  hasFileTransfer : editors.hasFileTransfer = desk.hasFileTransfer
  own : Option.Rel OwnShows editors.own desk.own
  request : Option.Rel RequestQuestion.Shows editors.request desk.request
  calls : editors.calls = desk.calls

variable {editors next : Editors} {desk : Desk} {ch : Int}

theorem shows_start (currentMessage_ : Field maxChatMessageSize) (nickName_ : Field maxNicknameSize) :
    (start currentMessage_ nickName_).Shows (.start nickName_.text) :=
  ⟨.empty _, rfl, rfl, rfl, rfl, .none, .none, rfl⟩

theorem isSome_of_rel {α β : Type} {related : α → β → Prop} {left : Option α} {right : Option β}
    (rel : Option.Rel related left right) : left.isSome = right.isSome := by
  cases rel <;> rfl

theorem some_of_rel {α β : Type} {related : α → β → Prop} {value : α} {shown : Option β}
    (rel : Option.Rel related (some value) shown) : ∃ other, shown = some other ∧ related value other := by
  cases rel with
  | some same => exact ⟨_, rfl, same⟩

theorem Shows.call (shows : editors.Shows desk) (call : Call) : (editors.call call).Shows (desk.call call) :=
  ⟨shows.line, shows.quit, shows.connected, shows.nickName, shows.hasFileTransfer, shows.own, shows.request,
    congrArg (· ++ [call]) shows.calls⟩

theorem Shows.leaves (shows : editors.Shows desk) : { editors with quit := true }.Shows { desk with quit := true } :=
  ⟨shows.line, rfl, shows.connected, shows.nickName, shows.hasFileTransfer, shows.own, shows.request, shows.calls⟩

theorem Shows.types (shows : editors.Shows desk) {line : List Byte} {currentMessage_ : Field maxChatMessageSize}
    {position : Nat} (holds : Holds currentMessage_.bytes position line) :
    { editors with currentMessage_, currentMessagePos_ := position }.Shows { desk with line } :=
  ⟨holds, shows.quit, shows.connected, shows.nickName, shows.hasFileTransfer, shows.own, shows.request, shows.calls⟩

theorem Shows.asks (shows : editors.Shows desk) (purpose : Purpose) {question : Question} {answer : List Byte}
    (holds : Holds question.answer question.pos answer) :
    { editors with own := some (purpose, question) }.Shows { desk with own := some (purpose, answer) } :=
  ⟨shows.line, shows.quit, shows.connected, shows.nickName, shows.hasFileTransfer, .some ⟨rfl, holds⟩, shows.request,
    shows.calls⟩

theorem Shows.closes (shows : editors.Shows desk) : { editors with own := none }.Shows { desk with own := none } :=
  ⟨shows.line, shows.quit, shows.connected, shows.nickName, shows.hasFileTransfer, .none, shows.request, shows.calls⟩

theorem Shows.requests (shows : editors.Shows desk) {question : RequestQuestion} {asked : Desk.Asked}
    (same : question.Shows asked) : { editors with request := some question }.Shows { desk with request := some asked } :=
  ⟨shows.line, shows.quit, shows.connected, shows.nickName, shows.hasFileTransfer, shows.own, .some same, shows.calls⟩

theorem Shows.reply (shows : editors.Shows desk) (accept : Bool) : (editors.reply accept).Shows (desk.reply accept) :=
  ⟨shows.line, shows.quit, shows.connected, shows.nickName, shows.hasFileTransfer, shows.own, .none,
    congrArg (· ++ [_]) shows.calls⟩

theorem holds_strcpy {size : Nat} {text : List Byte} (noNul : 0#8 ∉ text) (short : text.length < size) :
    Holds (strcpy size text) (strlen (strcpy size text)) text := by
  have copied : cString (strcpy size text) = text := SessionServer.text_overwrite (Field.zero size) noNul short
  have holds := holds_cString (strcpy size text)
  rwa [copied] at holds

theorem Shows.runKey (shows : editors.Shows desk) (consistent : editors.Consistent) {writes : List Write}
    (reacted : editors.runKey ch = some (writes, next)) :
    ∃ after, desk.lineKey ch = some after ∧ next.Shows after := by
  have inside : editors.currentMessagePos_ < editors.currentMessage_.bytes.length := by
    rw [Field.length_bytes]
    exact consistent.line
  have lock := isSome_of_rel shows.request
  unfold Editors.runKey at reacted
  unfold Desk.lineKey
  simp only at reacted
  by_cases locked : editors.request.isSome = true
  · rw [if_pos locked] at reacted
    rw [if_pos (by rwa [← lock])]
    cases reacted
    exact ⟨desk, rfl, shows⟩
  rw [if_neg locked] at reacted
  rw [if_neg (by rwa [← lock])]
  by_cases nothing : ch ≤ 1
  · rw [if_pos nothing] at reacted ⊢
    cases reacted
    exact ⟨desk, rfl, shows⟩
  rw [if_neg nothing] at reacted ⊢
  by_cases gone : (!editors.connected) = true
  · rw [if_pos gone] at reacted
    rw [if_pos (by rwa [← shows.connected])]
    cases reacted
    exact ⟨_, rfl, shows.leaves⟩
  rw [if_neg gone] at reacted
  rw [if_neg (by rwa [← shows.connected])]
  by_cases escape : ch = keycodeEsc
  · rw [if_pos escape] at reacted ⊢
    cases reacted
    exact ⟨_, rfl, (shows.call .disconnect).leaves⟩
  rw [if_neg escape] at reacted ⊢
  by_cases changesName : ch = keyF 2
  · rw [if_pos changesName] at reacted ⊢
    split at reacted
    · cases reacted
    · rename_i short
      cases reacted
      rw [if_neg (by rwa [← shows.nickName])]
      refine ⟨_, rfl, shows.asks .newName ?_⟩
      rw [← shows.nickName]
      exact holds_strcpy (zero_not_mem_cString _) (Nat.lt_of_not_le short)
  rw [if_neg changesName] at reacted ⊢
  by_cases sendsFile : ch = keyF 4
  · rw [if_pos sendsFile] at reacted ⊢
    split at reacted
    · rename_i busy
      cases reacted
      rw [if_pos (by rwa [← shows.hasFileTransfer])]
      exact ⟨_, rfl, shows⟩
    · rename_i free
      cases reacted
      rw [if_neg (by rwa [← shows.hasFileTransfer])]
      have empty := holds_cString (List.replicate maxPathSize 0#8)
      rw [cString_replicate] at empty
      exact ⟨_, rfl, shows.asks .fileName empty⟩
  rw [if_neg sendsFile] at reacted ⊢
  by_cases enter : ch = keycodeEnter
  · rw [if_pos enter] at reacted ⊢
    split at reacted
    · rename_i first
      cases reacted
      rw [if_pos (shows.line.eq_nil_iff.mpr first)]
      exact ⟨_, rfl, shows⟩
    · rename_i typed
      cases reacted
      rw [if_neg (mt shows.line.eq_nil_iff.mp typed)]
      have sent : (editors.currentMessage_.set editors.currentMessagePos_ 0#8).text = cString desk.line :=
        cString_set_of_holds shows.line inside
      rw [sent]
      exact ⟨_, rfl, (shows.call (.chat (cString desk.line))).types (.empty _)⟩
  rw [if_neg enter] at reacted ⊢
  by_cases back : ch = keycodeBackspace
  · rw [if_pos back] at reacted ⊢
    split at reacted
    · rename_i first
      cases reacted
      have empty : desk.line.dropLast = desk.line := by rw [shows.line.eq_nil_iff.mpr first]; rfl
      rw [empty]
      exact ⟨desk, rfl, shows⟩
    · cases reacted
      exact ⟨_, rfl, shows.types (shows.line.erase 0#8)⟩
  · rw [if_neg back] at reacted ⊢
    cases reacted
    exact ⟨_, rfl, shows.types (shows.line.put inside _)⟩

theorem Shows.answered (shows : editors.Shows desk) (purpose : Purpose) {result : Bool} {array answer : List Byte}
    (same : result = true → cString array = answer) :
    (editors.answered purpose result array).Shows (desk.answered purpose result answer) := by
  unfold Editors.answered Desk.answered
  cases result with
  | false => exact shows
  | true =>
    have text := same rfl
    have given : 1 ≤ strlen array ↔ answer ≠ [] := by
      rw [strlen, text, Nat.one_le_iff_ne_zero, ne_eq, List.length_eq_zero_iff]
    simp only [Bool.true_and, decide_eq_true_eq, given, text]
    split
    · exact shows.call _
    · exact shows

theorem Shows.ownKey (shows : editors.Shows desk) {purpose : Purpose} {question : Question} {answer : List Byte}
    (holds : Holds question.answer question.pos answer) (sized : question.Sized purpose.size) (ch : Int) :
    (editors.ownKey ch purpose question).2.Shows (desk.ownKey ch purpose answer) := by
  have room : question.pos < question.answer.length := by
    rw [sized.array]
    exact sized.inside
  have after : (question.key editors.connected ch).2.Shows (Desk.answerKey (purpose.size - 1) desk.connected ch answer) := by
    rw [← shows.connected, ← sized.passed]
    exact question.key_shows holds editors.connected ch fun _ _ => room
  unfold Editors.ownKey Desk.ownKey
  generalize question.key editors.connected ch = outcome at after ⊢
  generalize Desk.answerKey (purpose.size - 1) desk.connected ch answer = reply at after ⊢
  rcases outcome with ⟨writes, outcome⟩
  cases after with
  | goesOn holds => exact shows.asks purpose holds
  | done same => exact shows.closes.answered purpose same

theorem isLetter_iff {array answer : List Byte} (same : cString array = answer) (small large : Char) :
    isLetter array small large = true ↔ answer = ascii [small] ∨ answer = ascii [large] := by
  rw [isLetter, same, decide_eq_true_eq]

theorem Shows.requestKey (shows : editors.Shows desk) {question : RequestQuestion} {asked : Desk.Asked}
    (same : question.Shows asked) (sized : question.Sized) (ch : Int)
    (room : ∀ fileName open_, question = .accept fileName open_ → editors.connected = true → Adds ch → open_.pos < 3) :
    (editors.requestKey ch question).2.Shows (desk.requestKey ch asked) := by
  cases same with
  | @accept fileName answer question holds =>
    rcases sized with ⟨⟨array, passed, inside⟩, noNul, named⟩
    have after : (question.key editors.connected ch).2.Shows (Desk.answerKey 4 desk.connected ch answer) := by
      have cell : editors.connected = true → Adds ch → question.pos < question.answer.length := by
        rw [array]
        exact room fileName question rfl
      have shown := question.key_shows holds editors.connected ch cell
      rw [passed] at shown
      rwa [← shows.connected]
    simp only [Editors.requestKey, Desk.requestKey]
    generalize question.key editors.connected ch = outcome at after ⊢
    generalize Desk.answerKey 4 desk.connected ch answer = reply at after ⊢
    rcases outcome with ⟨writes, outcome⟩
    cases after with
    | goesOn holds => exact shows.requests (.accept holds)
    | @done result array answer same =>
      cases result with
      | false => exact shows.reply false
      | true =>
        simp only [isLetter_iff (same rfl)]
        split
        · have begins : Holds (Question.ask (strcpy maxPathSize fileName) maxPathSize).answer
              (Question.ask (strcpy maxPathSize fileName) maxPathSize).pos fileName := holds_strcpy noNul named
          exact shows.requests (.targetFileName begins)
        · split
          · exact shows.reply false
          · have again : Holds (Question.ask array 5).answer (Question.ask array 5).pos answer := by
              rw [← same rfl]
              exact holds_cString array
            exact shows.requests (.accept again)
  | @targetFileName answer question holds =>
    have inside : question.pos < question.answer.length := by
      rw [sized.array]
      exact sized.inside
    have after : (question.key editors.connected ch).2.Shows
        (Desk.answerKey (maxPathSize - 1) desk.connected ch answer) := by
      rw [← shows.connected, ← sized.passed]
      exact question.key_shows holds editors.connected ch fun _ _ => inside
    simp only [Editors.requestKey, Desk.requestKey]
    generalize question.key editors.connected ch = outcome at after ⊢
    generalize Desk.answerKey (maxPathSize - 1) desk.connected ch answer = reply at after ⊢
    rcases outcome with ⟨writes, outcome⟩
    cases after with
    | goesOn holds => exact shows.requests (.targetFileName holds)
    | done same => exact shows.reply _

theorem Shows.step (shows : editors.Shows desk) (consistent : editors.Consistent) {event : Event}
    (room : editors.HasRoom event) (stepped : editors.step event = some next) :
    ∃ after, desk.step event = some after ∧ next.Shows after := by
  rcases Option.map_eq_some_iff.mp stepped with ⟨⟨writes, after⟩, reacted, rfl⟩
  cases event with
  | key ch =>
    simp only [Editors.react] at reacted
    split at reacted
    · cases reacted
    · rename_i going
      simp only [Desk.step]
      rw [if_neg (by rwa [← shows.quit])]
      have own := shows.own
      split at reacted
      · rename_i purpose question asked
        rw [asked] at own
        rcases some_of_rel own with ⟨⟨_, answer⟩, shown, rfl, holds⟩
        rw [shown]
        refine ⟨_, rfl, ?_⟩
        have still := shows.ownKey holds (consistent.own _ question asked) ch
        rw [Option.some.inj reacted] at still
        exact still
      · rename_i free
        rw [free] at own
        cases shown : desk.own with
        | none => exact shows.runKey consistent reacted
        | some line =>
          rw [shown] at own
          cases own
  | requestKey ch =>
    rcases Option.map_eq_some_iff.mp reacted with ⟨question, waiting, same⟩
    have request := shows.request
    rw [waiting] at request
    rcases some_of_rel request with ⟨asked, shown, related⟩
    refine ⟨desk.requestKey ch asked, by rw [Desk.step, shown]; rfl, ?_⟩
    have still := shows.requestKey related (consistent.request question waiting).1 ch ?_
    · rw [same] at still
      exact still
    · rintro fileName open_ rfl alive adds
      exact room fileName open_ waiting alive adds
  | gotFileTransferRequest fileName =>
    simp only [Editors.react] at reacted
    split at reacted
    · cases reacted
    · rename_i free
      cases reacted
      refine ⟨_, ?_, shows.requests (.accept (holds_strcpy (by decide) (by decide)))⟩
      rw [Desk.step, ← isSome_of_rel shows.request, ← shows.connected]
      exact if_neg free
  | session nickName_ hasFileTransfer =>
    cases reacted
    exact ⟨_, rfl, shows.line, shows.quit, shows.connected, rfl, rfl, shows.own, shows.request, shows.calls⟩
  | connectionClosed =>
    simp only [Editors.react] at reacted
    split at reacted
    · cases reacted
    · rename_i free
      cases reacted
      rw [isSome_of_rel shows.request] at free
      exact ⟨_, if_neg free, shows.line, shows.quit, rfl, shows.nickName, shows.hasFileTransfer, shows.own, shows.request,
        shows.calls⟩

/-- In the runs that stay inside the arrays, what is sent is what was typed: the session is called as it is by someone who
writes lines, takes characters off their ends and hands them in. -/
theorem typedAsSent {currentMessage_ : Field maxChatMessageSize} {nickName_ : Field maxNicknameSize} {events : List Event}
    (run : Run Editors.step HasRoom (start currentMessage_ nickName_) events editors) :
    ∃ desk, exec Desk.step (.start nickName_.text) events = some desk ∧ editors.calls = desk.calls ∧
      Holds editors.currentMessage_.bytes editors.currentMessagePos_ desk.line := by
  have initial : (start currentMessage_ nickName_).Consistent ∧ (start currentMessage_ nickName_).Shows (.start nickName_.text) :=
    ⟨consistent_start currentMessage_ nickName_, shows_start currentMessage_ nickName_⟩
  have follows : ∀ (state : Editors) (shadow : Desk) event next, state.Consistent ∧ state.Shows shadow →
      state.HasRoom event → state.step event = some next →
        ∃ after, shadow.step event = some after ∧ next.Consistent ∧ next.Shows after := by
    rintro state shadow event next ⟨consistent, shows⟩ room stepped
    rcases shows.step consistent room stepped with ⟨after, moved, still⟩
    exact ⟨after, moved, consistent.step room stepped, still⟩
  rcases run.lockstep initial follows with ⟨desk, ran, -, shows⟩
  exact ⟨desk, ran, shows.calls, shows.line⟩

def scribbling : List Event :=
  [104, 111, 263, 105, 10].map Event.key ++ [.key (keyF 2), .key 97, .key 10, .key 121]

theorem scribbled :
    ∃ editors, execMeets Editors.step (fun editors event => decide (editors.HasRoom event))
        (start (Field.zero _) (Field.zero _)) scribbling = some editors ∧
      editors.calls = [.chat (ascii ['h', 'i']), .setNickName (ascii ['a'])] := by
  have outcome : (execMeets Editors.step (fun editors event => decide (editors.HasRoom event))
      (start (Field.zero _) (Field.zero _)) scribbling).map (fun editors => editors.calls) =
        some [.chat (ascii ['h', 'i']), .setNickName (ascii ['a'])] := by
    decide +kernel
  rcases Option.map_eq_some_iff.mp outcome with ⟨editors, executed, calls⟩
  exact ⟨editors, executed, calls⟩

theorem typedAsSent_scribbling :
    ∃ editors, exec Editors.step (start (Field.zero _) (Field.zero _)) scribbling = some editors ∧
      ∃ desk, exec Desk.step (.start (Field.zero maxNicknameSize).text) scribbling = some desk ∧
        desk.calls = [.chat (ascii ['h', 'i']), .setNickName (ascii ['a'])] ∧
          Holds editors.currentMessage_.bytes editors.currentMessagePos_ desk.line := by
  rcases scribbled with ⟨editors, executed, calls⟩
  rcases typedAsSent (run_of_execDecide executed) with ⟨desk, ran, same, line⟩
  exact ⟨editors, exec_of_execMeets executed, desk, ran, same.symm.trans calls, line⟩

end Editors

/-- A call that its callee has room for. -/
def Call.Within : Call → Prop
  | .chat message => strlen message < maxChatMessageSize
  | .setNickName nickName => nickName ≠ [] ∧ 0#8 ∉ nickName ∧ nickName.length < maxNicknameSize
  | .sendFile fileName => ∃ name : FileName, name.text = fileName
  | .sendStatus _ | .disconnect => True

namespace Question

variable {question : Question} {size : Nat}

theorem Sized.done (sized : question.Sized size) {connected : Bool} {ch : Int} {answer : List Byte}
    (finished : (question.key connected ch).2 = .done true answer) : strlen answer < size := by
  have inside : question.pos < question.answer.length := by
    rw [sized.array]
    exact sized.inside
  unfold Question.key at finished
  simp only at finished
  split at finished
  · cases finished
  split at finished
  · cases finished
  split at finished
  · cases finished
  split at finished
  · injection finished with _ ended
    rw [← ended]
    exact Nat.lt_of_le_of_lt (strlen_set_zero_le _ inside) sized.inside
  split at finished
  · split at finished <;> cases finished
  split at finished <;> cases finished

end Question

namespace Editors

variable {editors next : Editors} {ch : Int}

def CallsWithin (editors : Editors) : Prop := ∀ call ∈ editors.calls, call.Within

theorem CallsWithin.call (within : editors.CallsWithin) {call : Call} (inside : call.Within) :
    (editors.call call).CallsWithin := by
  intro other member
  rcases List.mem_append.mp member with earlier | now
  · exact within other earlier
  · rw [List.mem_singleton.mp now]
    exact inside

theorem within_answered {answer : List Byte} (purpose : Purpose) (given : 1 ≤ strlen answer) (short : strlen answer < purpose.size) :
    (match purpose with
      | .newName => Call.setNickName (cString answer)
      | .fileName => .sendFile (cString answer)).Within := by
  have nonempty : cString answer ≠ [] := List.ne_nil_of_length_pos given
  cases purpose with
  | newName => exact ⟨nonempty, zero_not_mem_cString answer, short⟩
  | fileName => exact ⟨⟨cString answer, nonempty, zero_not_mem_cString answer, short⟩, rfl⟩

theorem CallsWithin.ownKey (within : editors.CallsWithin) {purpose : Purpose} {question : Question}
    (sized : question.Sized purpose.size) (ch : Int) : (editors.ownKey ch purpose question).2.CallsWithin := by
  unfold Editors.ownKey
  split
  · exact within
  · rename_i writes result answer same
    unfold answered
    split
    · rename_i given
      simp only [Bool.and_eq_true, decide_eq_true_eq] at given
      rcases given with ⟨rfl, given⟩
      have closed : ({ editors with own := none } : Editors).CallsWithin := within
      exact closed.call (within_answered purpose given (sized.done (congrArg Prod.snd same)))
    · exact within

theorem CallsWithin.runKey (within : editors.CallsWithin) (consistent : editors.Consistent) {writes : List Write}
    (reacted : editors.runKey ch = some (writes, next)) : next.CallsWithin := by
  have inside : editors.currentMessagePos_ < editors.currentMessage_.bytes.length := by
    rw [Field.length_bytes]
    exact consistent.line
  have short : strlen (editors.currentMessage_.set editors.currentMessagePos_ 0#8).text < maxChatMessageSize := by
    rw [strlen, Field.text, cString_cString]
    exact Nat.lt_of_le_of_lt (strlen_set_zero_le _ inside) consistent.line
  unfold Editors.runKey at reacted
  simp only at reacted
  split at reacted
  · cases reacted
    exact within
  split at reacted
  · cases reacted
    exact within
  split at reacted
  · cases reacted
    exact within
  split at reacted
  · cases reacted
    exact within.call (show Call.Within .disconnect from trivial)
  split at reacted
  · split at reacted <;> cases reacted
    exact within
  split at reacted
  · split at reacted <;> cases reacted <;> exact within
  split at reacted
  · split at reacted <;> cases reacted
    · exact within
    · exact within.call (show Call.Within (.chat _) from short)
  split at reacted
  · split at reacted <;> cases reacted <;> exact within
  · cases reacted
    exact within

theorem CallsWithin.reply (within : editors.CallsWithin) (accept : Bool) : (editors.reply accept).CallsWithin := by
  have closed : ({ editors with request := none } : Editors).CallsWithin := within
  exact closed.call trivial

theorem CallsWithin.requestKey (within : editors.CallsWithin) (ch : Int) (question : RequestQuestion) :
    (editors.requestKey ch question).2.CallsWithin := by
  cases question with
  | accept fileName question =>
    simp only [Editors.requestKey]
    split
    · exact within
    · exact within.reply false
    · split
      · exact within
      · split
        · exact within.reply false
        · exact within
  | targetFileName question =>
    simp only [Editors.requestKey]
    split
    · exact within
    · exact within.reply _

theorem CallsWithin.step (within : editors.CallsWithin) (consistent : editors.Consistent) {event : Event}
    (stepped : editors.step event = some next) : next.CallsWithin := by
  rcases Option.map_eq_some_iff.mp stepped with ⟨⟨writes, after⟩, reacted, rfl⟩
  cases event with
  | key ch =>
    simp only [Editors.react] at reacted
    split at reacted
    · cases reacted
    · split at reacted
      · rename_i purpose question asked
        have still := within.ownKey (consistent.own purpose question asked) ch
        rw [Option.some.inj reacted] at still
        exact still
      · exact within.runKey consistent reacted
  | requestKey ch =>
    rcases Option.map_eq_some_iff.mp reacted with ⟨question, waiting, same⟩
    have still := within.requestKey ch question
    rw [same] at still
    exact still
  | gotFileTransferRequest fileName =>
    simp only [Editors.react] at reacted
    split at reacted <;> cases reacted
    exact within
  | session nickName_ hasFileTransfer =>
    cases reacted
    exact within
  | connectionClosed =>
    simp only [Editors.react] at reacted
    split at reacted <;> cases reacted
    exact within

/-- Whatever is typed, the session is called with texts that it has room for: with chat messages of less than
`MAX_CHATMESSAGE_SIZE`, and with names that are not empty and that end in their arrays. -/
theorem callsWithin {currentMessage_ : Field maxChatMessageSize} {nickName_ : Field maxNicknameSize} {events : List Event}
    (run : Run Editors.step HasRoom (start currentMessage_ nickName_) events editors) :
    ∀ call ∈ editors.calls, call.Within := by
  have both : editors.Consistent ∧ editors.CallsWithin := by
    apply run.invariant fun editors => editors.Consistent ∧ editors.CallsWithin
    · exact ⟨consistent_start currentMessage_ nickName_, fun call none => by cases none⟩
    · rintro state event next ⟨consistent, within⟩ room stepped
      exact ⟨consistent.step room stepped, within.step consistent stepped⟩
  exact both.2

theorem callsWithin_scribbling : Call.Within (.setNickName (ascii ['a'])) := by
  rcases scribbled with ⟨editors, executed, calls⟩
  apply callsWithin (run_of_execDecide executed)
  rw [calls]
  exact List.mem_cons_of_mem _ List.mem_cons_self

end Editors

end LanMessenger
