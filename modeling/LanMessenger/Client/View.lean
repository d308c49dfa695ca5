import LanMessenger.Client.Formatting
import LanMessenger.Transition.Runs
import Mathlib.Data.List.DropRight

namespace LanMessenger

open CMemory Transition

abbrev historySize : Nat := 128

/-- Hide status messages after this amount of time. -/
abbrev statusMessageTimeout : Int := 5

inductive Draw
  | mvaddch (y x : Int) (ch : Byte)
  | mvaddstr (y x : Int) (string : List Byte)
  | mvaddnstr (y x : Int) (string : List Byte) (count : Int)
  | attron
  | attroff
  | clrtoeol
  | wmove (y x : Int)
  | refresh

/-- What the clock and the terminal say while a function runs. -/
structure Moment where
  now : Int
  lines : Int
  columns : Int

structure Entry where
  row : Client.Row
  dateTime : Int
  incoming : Bool
  special : Bool

/-- What the window shows of a client. `connection_` is the nickname in the session, while there is one. -/
structure View where
  chatHistory_ : List Entry
  connection_ : Option (Field maxNicknameSize)
  connectionThread_ : Bool
  currentMessagePos_ : Nat
  currentMessage_ : Field maxChatMessageSize
  maxX_ : Int
  maxY_ : Int
  statusMessage_ : Field maxChatMessageSize
  statusMessageTime_ : Int

def Draw.row? : Draw → Option (Int × List Byte × Int)
  | mvaddnstr y _ string count => some (y, string, count)
  | _ => none

namespace View

variable (localtime : Int → Fin 24 × Fin 60)

def shown (entry : Entry) : List Byte :=
  (Client.updateView (localtime entry.dateTime).1 (localtime entry.dateTime).2 entry.row).text

def drawEntry (maxX_ currentRow : Int) (entry : Entry) : List Draw :=
  (if entry.special then [.attron] else []) ++ [.mvaddnstr currentRow 0 (shown localtime entry) maxX_] ++
    (if entry.special then [.attroff] else []) ++ [.clrtoeol]

def Fits (entry : Entry) : Prop :=
  entry.row.sender.text.length < maxNicknameSize ∧
    (Client.updateView (localtime entry.dateTime).1 (localtime entry.dateTime).2 entry.row).Fits

instance (entry : Entry) : Decidable (Fits localtime entry) := inferInstanceAs (Decidable (_ ∧ _))

/-- The loop over the history, from its end; `none` where it formats past the end of `string`. -/
def drawHistory (maxX_ chatHistoryFirstRow : Int) : Int → List Entry → Option (List Draw)
  | _, [] => some []
  | currentRow, entry :: earlier =>
    if ¬ Fits localtime entry then none
    else if currentRow - 1 < chatHistoryFirstRow then some (drawEntry localtime maxX_ currentRow entry)
    else (drawHistory maxX_ chatHistoryFirstRow (currentRow - 1) earlier).map fun draws =>
      drawEntry localtime maxX_ currentRow entry ++ draws

def upTo (bound : Int) : List Nat := List.range bound.toNat

/-- The message above the history: an old one goes, and a default takes the place of none. -/
def statusMessage (now : Int) (view : View) : Field maxChatMessageSize :=
  let statusMessage_ :=
    if view.statusMessageTime_ ≠ 0 ∧ now - view.statusMessageTime_ > statusMessageTimeout then view.statusMessage_.set 0 0#8
    else view.statusMessage_
  if statusMessage_.text = [] then
    statusMessage_.overwrite ((match view.connectionThread_, view.connection_ with
      | true, some nickName => sprintf "In chat as %s" [.string nickName.text]
      | _, _ => sprintf "Disconnected" []) ++ [0#8])
  else statusMessage_

def updateView (moment : Moment) (view : View) : Option (View × List Draw) :=
  let maxX_ := moment.columns - 1
  let maxY_ := moment.lines - 1
  let chatHistoryFirstRow := 2
  let chatHistoryLastRow := maxY_ - 3
  let lineAbove := chatHistoryFirstRow - 1
  let lineBelow := chatHistoryLastRow + 1
  let statusMessage_ := statusMessage moment.now view
  let string : Formatted := ⟨maxChatMessageSize, sprintf "LAN Messenger - %s" [.string statusMessage_.text]⟩
  if ¬ string.Fits then none
  else
    (drawHistory localtime maxX_ chatHistoryFirstRow chatHistoryLastRow view.chatHistory_.reverse).map fun rows =>
      ({ view with maxX_, maxY_, statusMessage_ },
        ((upTo maxX_).flatMap fun i =>
            [.mvaddch 0 i 32#8, .mvaddch lineAbove i 61#8, .mvaddch lineBelow i 61#8]) ++
          [.mvaddstr 0 1 string.text] ++ rows ++
          ((upTo maxX_).map fun i =>
            .mvaddch maxY_ i (if i < view.currentMessagePos_ then view.currentMessage_.bytes.getD i 0#8 else 32#8)) ++
          [.wmove maxY_ view.currentMessagePos_, .refresh])

def andThen (first second : View → Option (View × List Draw)) (view : View) : Option (View × List Draw) :=
  (first view).bind fun (view, draws) => (second view).map fun (view, more) => (view, draws ++ more)

def changeStatusMessage (moment : Moment) (message : Option (List Byte)) (permanent : Bool) (view : View) :
    Option (View × List Draw) :=
  updateView localtime moment { view with
    statusMessage_ := (Field.zero _).overwrite ((message.map fun text => strncpy text maxChatMessageSize).getD [])
    statusMessageTime_ := if permanent then 0 else moment.now }

/-- The history has one row more than its size before the oldest goes. -/
def remember (chatHistory_ : List Entry) (entry : Entry) : List Entry :=
  (if chatHistory_.length > historySize then chatHistory_.tail else chatHistory_) ++ [entry]

def addRow (moment : Moment) (entry : Entry) (view : View) : Option (View × List Draw) :=
  andThen (changeStatusMessage localtime moment none false) (updateView localtime moment)
    { view with chatHistory_ := remember view.chatHistory_ entry }

def gotChatMessage (moment : Moment) (sender message : List Byte) (view : View) : Option (View × List Draw) :=
  addRow localtime moment ⟨Client.row sender message, moment.now, true, false⟩ view

/-- The string is formatted into an array of `MAX_CHATMESSAGE_SIZE` first. -/
def gotStatusMessage (moment : Moment) (statusMessage : List Byte) (view : View) : Option (View × List Draw) :=
  if maxChatMessageSize ≤ statusMessage.length then none
  else addRow localtime moment ⟨Client.row (ascii ['S', 'E', 'R', 'V', 'E', 'R']) statusMessage, moment.now, true, true⟩ view

def gotNicknameChange (moment : Moment) (nickName : List Byte) (view : View) : Option (View × List Draw) :=
  andThen (gotStatusMessage localtime moment (sprintf "Your nickname is now \"%s\"" [.string nickName]))
    (andThen (changeStatusMessage localtime moment none false) (updateView localtime moment)) view

def sendChatMessage (moment : Moment) (message : List Byte) (view : View) : Option (View × List Draw) :=
  view.connection_.bind fun nickName =>
    addRow localtime moment ⟨Client.row nickName.text message, moment.now, false, false⟩ view

def connectionClosed (moment : Moment) (view : View) : Option (View × List Draw) :=
  (changeStatusMessage localtime moment (some (ascii "Disconnected! Bye!".toList)) true view).map fun (view, draws) =>
    ({ view with connection_ := none }, draws)

inductive Event
  | gotChatMessage (sender message : List Byte)
  | gotStatusMessage (statusMessage : List Byte)
  | gotNicknameChange (nickName : List Byte)
  | sendChatMessage (message : List Byte)
  | changeStatusMessage (message : Option (List Byte)) (permanent : Bool)
  | connectionClosed
  | updateView
  /-- `initialize`, and what the session does to its nickname. -/
  | session (connection_ : Option (Field maxNicknameSize)) (connectionThread_ : Bool)
  /-- `run` changes the line that is typed. -/
  | line (currentMessage_ : Field maxChatMessageSize) (currentMessagePos_ : Nat)

def react (moment : Moment) (view : View) : Event → Option (View × List Draw)
  | .gotChatMessage sender message => view.gotChatMessage localtime moment sender message
  | .gotStatusMessage statusMessage => view.gotStatusMessage localtime moment statusMessage
  | .gotNicknameChange nickName => view.gotNicknameChange localtime moment nickName
  | .sendChatMessage message => view.sendChatMessage localtime moment message
  | .changeStatusMessage message permanent => view.changeStatusMessage localtime moment message permanent
  | .connectionClosed => view.connectionClosed localtime moment
  | .updateView => view.updateView localtime moment
  | .session connection_ connectionThread_ => some ({ view with connection_, connectionThread_ }, [])
  | .line currentMessage_ currentMessagePos_ => some ({ view with currentMessage_, currentMessagePos_ }, [])

def start (currentMessage_ statusMessage_ : Field maxChatMessageSize) : View where
  chatHistory_ := []
  connection_ := none
  connectionThread_ := false
  currentMessagePos_ := 0
  currentMessage_
  maxX_ := 0
  maxY_ := 0
  statusMessage_
  statusMessageTime_ := 0

/-- The row that an event is about. -/
def added? (moment : Moment) (view : View) : Event → Option Entry
  | .gotChatMessage sender message => some ⟨Client.row sender message, moment.now, true, false⟩
  | .gotStatusMessage statusMessage =>
    some ⟨Client.row (ascii ['S', 'E', 'R', 'V', 'E', 'R']) statusMessage, moment.now, true, true⟩
  | .gotNicknameChange nickName =>
    some ⟨Client.row (ascii ['S', 'E', 'R', 'V', 'E', 'R']) (sprintf "Your nickname is now \"%s\"" [.string nickName]),
      moment.now, true, true⟩
  | .sendChatMessage message =>
    view.connection_.map fun nickName => ⟨Client.row nickName.text message, moment.now, false, false⟩
  | _ => none

variable {localtime}

section History

variable {moment : Moment} {view next : View} {draws : List Draw}

theorem chatHistory_of_updateView (drawn : view.updateView localtime moment = some (next, draws)) :
    next.chatHistory_ = view.chatHistory_ := by
  simp only [updateView] at drawn
  split at drawn
  · cases drawn
  · obtain ⟨rows, -, made⟩ := Option.map_eq_some_iff.mp drawn
    cases made
    rfl

theorem chatHistory_of_andThen {first second : View → Option (View × List Draw)}
    (before : ∀ {middle draws}, first view = some (middle, draws) → middle.chatHistory_ = view.chatHistory_)
    (after : ∀ {middle last draws}, second middle = some (last, draws) → last.chatHistory_ = middle.chatHistory_)
    (drawn : andThen first second view = some (next, draws)) : next.chatHistory_ = view.chatHistory_ := by
  obtain ⟨⟨middle, early⟩, done, rest⟩ := Option.bind_eq_some_iff.mp drawn
  obtain ⟨⟨last, late⟩, finished, made⟩ := Option.map_eq_some_iff.mp rest
  cases made
  exact (after finished).trans (before done)

theorem chatHistory_of_changeStatusMessage {message : Option (List Byte)} {permanent : Bool}
    (drawn : view.changeStatusMessage localtime moment message permanent = some (next, draws)) :
    next.chatHistory_ = view.chatHistory_ := by
  have same := chatHistory_of_updateView drawn
  exact same

theorem chatHistory_of_redrawn
    (drawn : andThen (changeStatusMessage localtime moment none false) (updateView localtime moment) view =
      some (next, draws)) : next.chatHistory_ = view.chatHistory_ :=
  chatHistory_of_andThen chatHistory_of_changeStatusMessage chatHistory_of_updateView drawn

theorem chatHistory_of_addRow {entry : Entry} (drawn : view.addRow localtime moment entry = some (next, draws)) :
    next.chatHistory_ = remember view.chatHistory_ entry := by
  have same := chatHistory_of_redrawn drawn
  exact same

theorem chatHistory_of_gotStatusMessage {statusMessage : List Byte}
    (drawn : view.gotStatusMessage localtime moment statusMessage = some (next, draws)) :
    next.chatHistory_ = remember view.chatHistory_
      ⟨Client.row (ascii ['S', 'E', 'R', 'V', 'E', 'R']) statusMessage, moment.now, true, true⟩ := by
  unfold gotStatusMessage at drawn
  split at drawn
  · cases drawn
  · exact chatHistory_of_addRow drawn

theorem chatHistory_of_react {event : Event} (reacted : view.react localtime moment event = some (next, draws)) :
    next.chatHistory_ = ((view.added? moment event).map (remember view.chatHistory_)).getD view.chatHistory_ := by
  cases event with
  | gotChatMessage sender message => exact chatHistory_of_addRow reacted
  | gotStatusMessage statusMessage => exact chatHistory_of_gotStatusMessage reacted
  | gotNicknameChange nickName =>
    obtain ⟨⟨middle, early⟩, done, rest⟩ := Option.bind_eq_some_iff.mp reacted
    obtain ⟨⟨last, late⟩, finished, made⟩ := Option.map_eq_some_iff.mp rest
    cases made
    exact (chatHistory_of_redrawn finished).trans (chatHistory_of_gotStatusMessage done)
  | sendChatMessage message =>
    obtain ⟨nickName, there, drawn⟩ := Option.bind_eq_some_iff.mp reacted
    simp only [added?, there, Option.map_some, Option.getD_some]
    exact chatHistory_of_addRow drawn
  | changeStatusMessage message permanent => exact chatHistory_of_changeStatusMessage reacted
  | connectionClosed =>
    obtain ⟨⟨last, drawn⟩, changed, made⟩ := Option.map_eq_some_iff.mp reacted
    cases made
    show last.chatHistory_ = view.chatHistory_
    exact chatHistory_of_changeStatusMessage changed
  | updateView => exact chatHistory_of_updateView reacted
  | session | line =>
    cases reacted
    rfl

end History

/-- A queue that drops its oldest entry when it has more than its limit, and then takes another, keeps one more than that
of the newest. -/
theorem rtake_concat {α : Type} (limit : Nat) (added : List α) (entry : α) :
    (if (added.rtake (limit + 1)).length > limit then (added.rtake (limit + 1)).tail else added.rtake (limit + 1)) ++
      [entry] = (added ++ [entry]).rtake (limit + 1) := by
  rw [List.rtake_concat_succ]
  congr 1
  simp only [List.rtake, List.length_drop, List.tail_drop]
  split
  · congr 1
    omega
  · congr 1
    omega

theorem remember_rtake (added : List Entry) (entry : Entry) :
    remember (added.rtake (historySize + 1)) entry = (added ++ [entry]).rtake (historySize + 1) :=
  rtake_concat historySize added entry

theorem rows_drawEntry (maxX_ currentRow : Int) (entry : Entry) :
    (drawEntry localtime maxX_ currentRow entry).filterMap Draw.row? = [(currentRow, shown localtime entry, maxX_)] := by
  unfold drawEntry
  cases entry.special <;> rfl

theorem rows_drawHistory {maxX_ first current : Int} {newest : List Entry} {draws : List Draw}
    (drawn : drawHistory localtime maxX_ first current newest = some draws) :
    draws.filterMap Draw.row? = (newest.take (max 1 (current + 1 - first).toNat)).mapIdx fun above entry =>
      (current - above, shown localtime entry, maxX_) := by
  induction newest generalizing current draws with
  | nil =>
    cases drawn
    simp
  | cons entry earlier ih =>
    obtain ⟨rest, more⟩ : ∃ rest, max 1 (current + 1 - first).toNat = rest + 1 :=
      ⟨max 1 (current + 1 - first).toNat - 1, by omega⟩
    rw [more, List.take_succ_cons, List.mapIdx_cons, Nat.cast_zero, sub_zero]
    simp only [drawHistory] at drawn
    split at drawn
    · cases drawn
    · split at drawn
      · have last : rest = 0 := by omega
        cases drawn
        rw [rows_drawEntry, last, List.take_zero]
        rfl
      · obtain ⟨above, further, made⟩ := Option.map_eq_some_iff.mp drawn
        have room : max 1 (current - 1 + 1 - first).toNat = rest := by omega
        rw [← made, List.filterMap_append, rows_drawEntry, List.singleton_append, ih further, room]
        congr 2
        funext index entry
        rw [Nat.cast_add, Nat.cast_one]
        congr 1
        omega

theorem rows_cells {draws : List Draw} (cells : ∀ draw ∈ draws, ∃ y x ch, draw = .mvaddch y x ch) :
    draws.filterMap Draw.row? = [] := by
  rw [List.filterMap_eq_nil_iff]
  intro draw member
  rcases cells draw member with ⟨y, x, ch, rfl⟩
  rfl

theorem rows_updateView {moment : Moment} {view next : View} {draws : List Draw}
    (drawn : view.updateView localtime moment = some (next, draws)) :
    draws.filterMap Draw.row? =
      (view.chatHistory_.reverse.take (max 1 (moment.lines - 5).toNat)).mapIdx fun above entry =>
        (moment.lines - 4 - above, shown localtime entry, moment.columns - 1) := by
  have heading : ∀ (columns : List Nat) (above below : Int), (columns.flatMap fun (i : Nat) =>
      [Draw.mvaddch 0 i 32#8, .mvaddch above i 61#8, .mvaddch below i 61#8]).filterMap Draw.row? = [] := by
    intro columns above below
    apply rows_cells
    intro draw member
    rcases List.mem_flatMap.mp member with ⟨i, -, cell⟩
    simp only [List.mem_cons, List.not_mem_nil, or_false] at cell
    rcases cell with rfl | rfl | rfl <;> exact ⟨_, _, _, rfl⟩
  have typed : ∀ (columns : List Nat) (cell : Nat → Byte),
      (columns.map fun (i : Nat) => Draw.mvaddch (moment.lines - 1) i (cell i)).filterMap Draw.row? = [] := by
    intro columns cell
    apply rows_cells
    intro draw member
    rcases List.mem_map.mp member with ⟨i, -, rfl⟩
    exact ⟨_, _, _, rfl⟩
  have title : ∀ string, [Draw.mvaddstr 0 1 string].filterMap Draw.row? = [] := fun _ => rfl
  have cursor : ∀ y x, [Draw.wmove y x, .refresh].filterMap Draw.row? = [] := fun _ _ => rfl
  have last : moment.lines - 1 - 3 = moment.lines - 4 := by omega
  have room : moment.lines - 4 + 1 - 2 = moment.lines - 5 := by omega
  simp only [updateView] at drawn
  split at drawn
  · cases drawn
  · obtain ⟨rows, history, made⟩ := Option.map_eq_some_iff.mp drawn
    cases made
    rw [List.filterMap_append, List.filterMap_append, List.filterMap_append, List.filterMap_append, heading, title, typed,
      cursor, rows_drawHistory history, last, room]
    simp only [List.nil_append, List.append_nil]

end View

/-- A client's window, with all the rows that were ever added to its history. -/
structure Chronicle where
  view : View
  added : List Entry

namespace Chronicle

variable (localtime : Int → Fin 24 × Fin 60)

def start (currentMessage_ statusMessage_ : Field maxChatMessageSize) : Chronicle :=
  ⟨.start currentMessage_ statusMessage_, []⟩

def step (chronicle : Chronicle) (event : Moment × View.Event) : Option Chronicle :=
  (chronicle.view.react localtime event.1 event.2).map fun (view, _) =>
    ⟨view, chronicle.added ++ (chronicle.view.added? event.1 event.2).toList⟩

variable {localtime} {chronicle next : Chronicle}

theorem kept_of_step {event : Moment × View.Event} (kept : chronicle.view.chatHistory_ = chronicle.added.rtake (historySize + 1))
    (stepped : chronicle.step localtime event = some next) : next.view.chatHistory_ = next.added.rtake (historySize + 1) := by
  rcases Option.map_eq_some_iff.mp stepped with ⟨⟨view, draws⟩, reacted, rfl⟩
  show view.chatHistory_ = _
  rw [View.chatHistory_of_react reacted]
  cases chronicle.view.added? event.1 event.2 with
  | none =>
    rw [Option.toList_none, List.append_nil]
    exact kept
  | some entry =>
    show View.remember chronicle.view.chatHistory_ entry = _
    rw [kept]
    exact View.remember_rtake chronicle.added entry

/-- Whatever has happened, the window shows the newest of all rows, the last one lowest, as many as there are lines for;
and of those that are kept there are never more than 129. -/
theorem newestShown {currentMessage_ statusMessage_ : Field maxChatMessageSize} {events : List (Moment × View.Event)}
    (run : Run (step localtime) Always (start currentMessage_ statusMessage_) events chronicle) (moment : Moment) :
    chronicle.view.chatHistory_ = chronicle.added.rtake (historySize + 1) ∧
      ∀ view draws, chronicle.view.updateView localtime moment = some (view, draws) → draws.filterMap Draw.row? =
        (chronicle.added.reverse.take (min (historySize + 1) (max 1 (moment.lines - 5).toNat))).mapIdx fun above entry =>
          (moment.lines - 4 - above, View.shown localtime entry, moment.columns - 1) := by
  have kept : chronicle.view.chatHistory_ = chronicle.added.rtake (historySize + 1) := by
    apply run.invariant fun chronicle => chronicle.view.chatHistory_ = chronicle.added.rtake (historySize + 1)
    · exact (List.rtake_nil _).symm
    · intro state event next kept _ stepped
      exact kept_of_step kept stepped
  refine ⟨kept, fun view draws drawn => ?_⟩
  rw [View.rows_updateView drawn, kept, List.rtake_eq_reverse_take_reverse, List.reverse_reverse, List.take_take, Nat.min_comm]

def terminal : Moment := ⟨0, 24, 80⟩

def noon (_ : Int) : Fin 24 × Fin 60 := (⟨12, by decide⟩, ⟨0, by decide⟩)

theorem newestShown_two :
    ∃ chronicle view draws, exec (step noon) (start (Field.zero _) (Field.zero _))
        [(terminal, .gotChatMessage (ascii ['b']) (ascii ['h', 'i'])), (terminal, .gotStatusMessage (ascii ['o', 'k']))] =
          some chronicle ∧
      chronicle.added.map (View.shown noon) = [ascii "12.00 <b> hi".toList, ascii "12.00 <SERVER> ok".toList] ∧
      chronicle.view.updateView noon terminal = some (view, draws) ∧
      draws.filterMap Draw.row? =
        (chronicle.added.reverse.take (min (historySize + 1) (max 1 (terminal.lines - 5).toNat))).mapIdx fun above entry =>
          (terminal.lines - 4 - above, View.shown noon entry, terminal.columns - 1) := by
  have outcome : (exec (step noon) (start (Field.zero _) (Field.zero _))
      [(terminal, .gotChatMessage (ascii ['b']) (ascii ['h', 'i'])), (terminal, .gotStatusMessage (ascii ['o', 'k']))]).map
        (fun chronicle => (chronicle.added.map (View.shown noon), (chronicle.view.updateView noon terminal).isSome)) =
          some ([ascii "12.00 <b> hi".toList, ascii "12.00 <SERVER> ok".toList], true) := by
    decide +kernel
  rcases Option.map_eq_some_iff.mp outcome with ⟨chronicle, ran, facts⟩
  rw [Prod.mk.injEq] at facts
  rcases Option.isSome_iff_exists.mp facts.2 with ⟨⟨view, draws⟩, drawn⟩
  exact ⟨chronicle, view, draws, ran, facts.1, drawn, (newestShown (run_of_exec ran) terminal).2 view draws drawn⟩

end Chronicle

end LanMessenger
