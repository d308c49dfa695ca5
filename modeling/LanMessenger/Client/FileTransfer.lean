import LanMessenger.Client.SessionServer

namespace LanMessenger

open CMemory

structure FileTransfer where
  handle : Option FileHandle
  receiving : Bool
  sending : Bool
  started : Bool
  fileName : List Byte

def FileTransfer.disabled : FileTransfer := ⟨none, false, false, false, []⟩

namespace SessionServer

variable {τ : Type}

def fileTransfer (session : SessionServer τ) : FileTransfer :=
  ⟨session.fileTransferHandle_, session.isReceivingFile_, session.isSendingFile_, session.hasFileTransferStarted_,
    session.fileName_.text⟩

theorem sending_of_verdict {session : SessionServer τ}
    (going : ¬ (!session.isSendingFile_ || session.fileName_.text = []) = true) : session.isSendingFile_ = true := by
  by_contra idle
  exact going (by simp [idle])

theorem text_set_zero {size : Nat} (field : Field size) : (field.set 0 0#8).text = [] := by
  obtain ⟨bytes, length⟩ := field
  cases bytes with
  | nil => rfl
  | cons byte rest => simp [Field.text, Field.set]

@[simp] theorem fileTransfer_disable (session : SessionServer τ) :
    session.disableFileTransferMode.fileTransfer = .disabled := by
  simp [fileTransfer, disableFileTransferMode, FileTransfer.disabled, text_set_zero]

theorem text_overwrite {size : Nat} (field : Field size) {text : List Byte} (noNul : 0#8 ∉ text)
    (fits : text.length < size) : (field.overwrite (text ++ [0#8])).text = text := by
  rw [Field.text, Field.overwrite_bytes _ (by simp; omega), List.append_assoc]
  exact cString_terminated noNul _

theorem text_overwrite_strncpy (field : Field maxPathSize) (fileName : FileName) :
    (field.overwrite (strncpy fileName.text maxPathSize)).text = fileName.text := by
  rw [Field.text, Field.overwrite_whole _ (by simp), cString_strncpy, cString_of_not_mem fileName.noNul]
  exact List.take_of_length_le (Nat.le_of_lt fileName.fits)

@[simp] theorem fileTransfer_send (session : SessionServer τ) (letter : Letter τ) :
    (session.send letter).fileTransfer = session.fileTransfer := rfl

theorem fileTransfer_sendFile (session : SessionServer τ) (origin : τ) (fileName : FileName) :
    (session.sendFile origin fileName).fileTransfer =
      { session.fileTransfer with sending := true, fileName := fileName.text } := by
  simp only [sendFile, fileTransfer_send]
  simp only [fileTransfer, text_overwrite_strncpy]

end SessionServer

def Answer.applied (answer : Answer) (before : FileTransfer) : FileTransfer :=
  match answer with
  | refuse => { before with receiving := false }
  | cancelName => { before with receiving := false, fileName := [] }
  | accept targetFileName => { before with receiving := true, fileName := targetFileName.text }

@[simp] theorem Answer.sending_applied (answer : Answer) (before : FileTransfer) :
    (answer.applied before).sending = before.sending := by
  cases answer <;> rfl

@[simp] theorem Answer.started_applied (answer : Answer) (before : FileTransfer) :
    (answer.applied before).started = before.started := by
  cases answer <;> rfl

end LanMessenger
