import LanMessenger.Client.SessionServer
import LanMessenger.Messages.Built
import LanMessenger.Server.Server

namespace LanMessenger

open CMemory

/-- What a user types, and what `CHAT` carries. -/
structure ChatText where
  bytes : List Byte
  noNul : 0#8 ∉ bytes
  fits : bytes.length ≤ maxChatMessageSize - 1

structure NickName where
  bytes : List Byte
  noNul : 0#8 ∉ bytes
  fits : bytes.length ≤ maxNicknameSize - 1

namespace Client

structure Row where
  sender : Field maxNicknameSize
  message : Field maxChatMessageSize

/-- The row that `sendChatMessage` makes, and `gotChatMessage` too. -/
def row (sender message : List Byte) : Row := ⟨setText (Field.zero _) sender, setText (Field.zero _) message⟩

/-- `strftime` for `"%H.%M"`. -/
def dateTime (hour : Fin 24) (minute : Fin 60) : List Byte :=
  ascii [Nat.digitChar (hour.val / 10), Nat.digitChar (hour.val % 10), '.', Nat.digitChar (minute.val / 10),
    Nat.digitChar (minute.val % 10)]

/-- A turn of the loop of `updateView` over the history. -/
def updateView (hour : Fin 24) (minute : Fin 60) (row : Row) : Formatted where
  size := maxChatMessageSize
  text := sprintf "%s <%s> %s" [.string (dateTime hour minute), .string row.sender.text, .string row.message.text]

/-- The call of `debug` in `run` when Enter is pressed behind a text. -/
def enterPressed (elapsed : Int) (currentMessage_ : List Byte) : List Formatted :=
  Common.debug elapsed "Sending message: %s (%d bytes)" [.string currentMessage_, .int currentMessage_.length]

end Client

/-- A chat text on its way: the name its sender has at home, the name that the server and the other clients give it, the
    three programs' running times, and the time of day. -/
structure ChatPassage where
  text : ChatText
  ownName : NickName
  sender : NickName
  typed : Int
  relayed : Int
  received : Int
  hour : Fin 24
  minute : Fin 60

namespace ChatPassage

def formatted (passage : ChatPassage) : List Formatted :=
  Client.enterPressed passage.typed passage.text.bytes ++
    [Client.updateView passage.hour passage.minute (Client.row passage.ownName.bytes passage.text.bytes)] ++
    Server.chatRelayed passage.relayed passage.sender.bytes passage.text.bytes ++
    SessionServer.chatReceived passage.received passage.sender.bytes passage.text.bytes ++
    [Client.updateView passage.hour passage.minute (Client.row passage.sender.bytes passage.text.bytes)]

end ChatPassage

namespace Client

theorem fits_enterPressed_iff (elapsed : Int) (currentMessage_ : List Byte) :
    (∀ buffer ∈ enterPressed elapsed currentMessage_, buffer.Fits) ↔
      Common.elapsedWidth elapsed + currentMessage_.length + (decimal currentMessage_.length).length ≤ 482 := by
  have printed : (sprintf "Sending message: %s (%d bytes)" [.string currentMessage_, .int currentMessage_.length]).length =
      26 + (currentMessage_.length + (decimal currentMessage_.length).length) :=
    length_sprintf (by rfl) (by decide)
  rw [enterPressed, Common.fits_debug_iff, printed]
  omega

theorem fits_updateView_iff (hour : Fin 24) (minute : Fin 60) (sender : NickName) (text : ChatText) :
    (updateView hour minute (row sender.bytes text.bytes)).Fits ↔ sender.bytes.length + text.bytes.length ≤ 1014 := by
  have named : (setText (Field.zero maxNicknameSize) sender.bytes).text = sender.bytes := by
    rw [text_setText, cString_of_not_mem sender.noNul]
    exact List.take_of_length_le (sender.fits.trans (Nat.sub_le _ _))
  have said : (setText (Field.zero maxChatMessageSize) text.bytes).text = text.bytes := by
    rw [text_setText, cString_of_not_mem text.noNul]
    exact List.take_of_length_le (text.fits.trans (Nat.sub_le _ _))
  have printed : (updateView hour minute (row sender.bytes text.bytes)).text.length =
      4 + (5 + (sender.bytes.length + text.bytes.length)) := by
    simp only [updateView, row, named, said]
    exact length_sprintf (by rfl) (by decide)
  rw [Formatted.Fits, printed]
  simp only [updateView, maxChatMessageSize]
  omega

end Client

namespace ChatPassage

/-- What a text may measure on its way is what the lines of the three logs leave of 512 bytes; the views have room for
    all that is left. -/
theorem fits_iff (passage : ChatPassage) : (∀ buffer ∈ passage.formatted, buffer.Fits) ↔
    Common.elapsedWidth passage.typed + passage.text.bytes.length + (decimal passage.text.bytes.length).length ≤ 482 ∧
      Common.elapsedWidth passage.relayed + passage.sender.bytes.length + passage.text.bytes.length ≤ 482 ∧
      Common.elapsedWidth passage.received + passage.sender.bytes.length + passage.text.bytes.length ≤ 489 := by
  have own := passage.ownName.fits
  have other := passage.sender.fits
  simp only [maxNicknameSize] at own other
  simp only [formatted, List.forall_mem_append, List.forall_mem_singleton, Client.fits_enterPressed_iff,
    Client.fits_updateView_iff, Server.fits_chatRelayed_iff, SessionServer.fits_chatReceived_iff]
  omega

def longest : ChatPassage where
  text := ⟨List.replicate 1023 97#8, fun nul => absurd (List.eq_of_mem_replicate nul) (by decide),
    Nat.le_of_eq List.length_replicate⟩
  ownName := ⟨ascii ['a', 'l', 'i'], by decide, by decide⟩
  sender := ⟨ascii ['a', 'l', 'i'], by decide, by decide⟩
  typed := 1250
  relayed := 1250
  received := 1250
  hour := 12
  minute := 30

theorem fits_longest : ¬ ∀ buffer ∈ longest.formatted, buffer.Fits := by
  intro fits
  have typed : ∀ buffer ∈ Client.enterPressed longest.typed longest.text.bytes, buffer.Fits := by
    intro buffer member
    apply fits buffer
    simp only [formatted, List.mem_append, member, true_or]
  have long : longest.text.bytes.length = 1023 := List.length_replicate
  rw [Client.fits_enterPressed_iff, long] at typed
  omega

end ChatPassage

end LanMessenger
