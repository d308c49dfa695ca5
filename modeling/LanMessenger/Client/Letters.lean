import LanMessenger.Client.Offers

/-! The letters that a client puts behind the others in its queue, and the chat messages among them. -/

namespace LanMessenger

open CMemory

def Message.chat? : Message → Option ChatMessage
  | chat message => some message
  | _ => none

/-- Chat messages and blocks carry as much as their authors put into them; the others are of one size each. -/
def Message.isSized : Message → Bool
  | chat _ | fileData _ => true
  | _ => false

/-- What is said of a connection or in reply: no text, no request, no block. -/
def Message.isNote : Message → Bool
  | status _ | hello | nickname _ | bye => true
  | _ => false

theorem Message.not_sized_of_note {message : Message} (note : message.isNote = true) : message.isSized = false := by
  cases message with
  | chat | fileData => cases note
  | _ => rfl

theorem Message.chat?_of_note {message : Message} (note : message.isNote = true) : message.chat? = none := by
  cases message with
  | chat => cases note
  | _ => rfl

theorem Message.withinLimits_of_not_sized {message : Message} (fixed : message.isSized = false) : message.WithinLimits := by
  cases message with
  | chat => cases fixed
  | fileData => cases fixed
  | _ => trivial

variable {τ : Type}

def chats (letters : List (Letter τ)) : List ChatMessage := letters.filterMap fun letter => letter.message.chat?

@[simp] theorem chats_append (front back : List (Letter τ)) : chats (front ++ back) = chats front ++ chats back :=
  List.filterMap_append ..

/-- The queue is longer by notes. -/
def Extended (before after : List (Letter τ)) : Prop :=
  ∃ sent, after = before ++ sent ∧ ∀ letter ∈ sent, letter.message.isNote = true

namespace Extended

variable {before middle after : List (Letter τ)}

theorem refl (queue : List (Letter τ)) : Extended queue queue := ⟨[], (List.append_nil queue).symm, by simp⟩

theorem behind (extended : Extended before after) (front : List (Letter τ)) : Extended (front ++ before) (front ++ after) := by
  rcases extended with ⟨sent, rfl, notes⟩
  exact ⟨sent, (List.append_assoc ..).symm, notes⟩

theorem send (outbox : Outbox τ) (letter : Letter τ) (note : letter.message.isNote = true) :
    Extended outbox.sendingQueue_ (outbox.send letter).sendingQueue_ := by
  unfold Outbox.send Outbox.sendMessage
  split
  · exact refl _
  · refine ⟨[letter], rfl, fun sent member => ?_⟩
    rw [List.mem_singleton.mp member]
    exact note

theorem chats (extended : Extended before after) : chats after = chats before := by
  rcases extended with ⟨sent, rfl, notes⟩
  have none : LanMessenger.chats sent = [] :=
    List.filterMap_eq_nil_iff.mpr fun letter member => Message.chat?_of_note (notes letter member)
  rw [chats_append, none, List.append_nil]

theorem all {holds : Message → Prop} (extended : Extended before after)
    (fixed : ∀ message, message.isSized = false → holds message) (earlier : ∀ letter ∈ before, holds letter.message) :
    ∀ letter ∈ after, holds letter.message := by
  rcases extended with ⟨sent, rfl, notes⟩
  intro letter member
  rcases List.mem_append.mp member with was | now
  · exact earlier letter was
  · exact fixed letter.message (Message.not_sized_of_note (notes letter now))

end Extended

theorem Outbox.mem_send {outbox : Outbox τ} {letter other : Letter τ} (member : other ∈ (outbox.send letter).sendingQueue_) :
    other ∈ outbox.sendingQueue_ ∨ other = letter := by
  unfold send sendMessage at member
  split at member
  · exact Or.inl member
  · exact (List.mem_append.mp member).imp_right List.mem_singleton.mp

theorem Outbox.chats_send (outbox : Outbox τ) (letter : Letter τ) :
    chats (outbox.send letter).sendingQueue_ =
      chats outbox.sendingQueue_ ++ if outbox.canSendMessages then letter.message.chat?.toList else [] := by
  have alone : chats [letter] = letter.message.chat?.toList := by
    cases chat : letter.message.chat? with
    | none => exact List.filterMap_cons_none chat
    | some message => exact List.filterMap_cons_some chat
  by_cases room : outbox.canSendMessages = true
  · rw [Outbox.send_of_room room, chats_append, alone, if_pos room]
  · rw [(Outbox.send_eq_iff outbox letter).mpr (Bool.eq_false_of_not_eq_true room), if_neg room, List.append_nil]

namespace SessionServer

variable {target : Target} {session : SessionServer τ}

theorem extended_disconnect (origin : τ) :
    Extended session.outbox.sendingQueue_ (session.disconnect origin).outbox.sendingQueue_ := by
  unfold disconnect Outbox.disconnect
  split
  · exact Extended.send _ _ rfl
  · exact .refl _

theorem extended_availableMessage {answer : Answer} {opens : Bool} {elapsed : Int} {origin : τ} {message : Message}
    {after : SessionServer τ}
    {effects : List FileEffect}
    (handled : session.availableMessage target answer opens elapsed origin message = .ok (after, effects)) :
    Extended session.outbox.sendingQueue_ after.outbox.sendingQueue_ := by
  cases message with
  | status message =>
    simp only [availableMessage] at handled
    split at handled
    · split at handled <;> cases handled
      exact .refl _
    · split at handled <;> cases handled
      exact .refl _
    · split at handled <;> cases handled
      exact .refl _
    · cases handled
      exact .refl _
  | fileRequest message =>
    simp only [availableMessage] at handled
    split at handled
    · cases handled
    · cases handled
      cases answer with
      | refuse => exact Extended.send _ _ rfl
      | cancelName => exact Extended.send _ _ rfl
      | accept targetFileName => exact Extended.send _ _ rfl
  | fileData message =>
    simp only [availableMessage] at handled
    split at handled
    · cases handled
      exact .refl _
    · have same : (session.saveData opens message.buffer (message.fileOffset target)).1.outbox = session.outbox := by
        rcases saveData_leaves opens session message.buffer (message.fileOffset target) with ended | ⟨handle, kept⟩
        · rw [ended]
          rfl
        · rw [kept]
      split at handled <;> cases handled
      · simp only [disableFileTransferMode, same]
        exact .refl _
      · rw [same]
        exact .refl _
  | chat chat =>
    rw [(same_of_chat handled).1]
    exact .refl _
  | _ =>
    cases handled
    exact .refl _

end SessionServer

end LanMessenger
