import LanMessenger.Common.Debug
import LanMessenger.Server.Sessions

namespace LanMessenger

open CMemory

/-- What `fread` comes to when it is asked for one byte. -/
inductive Fread
  | byte (value : Byte)
  | endOfFile
  | error

/-- A file opened for reading: the outcome of `fread` at a position, after a number of calls. -/
abbrev Readable := Nat → Nat → Fread

/-- A `FILE*` that `fopen` returned for `"r"` or for `"w"`. -/
inductive FileHandle
  | reading (file : Readable) (position calls : Nat)
  | writing (fileName : List Byte) (position : Nat)

/-- What a client does to the files on its disk, and the message that tells the user of it. -/
inductive FileEffect
  | truncate (fileName : List Byte)
  | write (fileName : List Byte) (position : Nat) (data : List Byte)
  | received (fileName : List Byte)
deriving DecidableEq

namespace FileHandle

/-- A stream opened for writing cannot be read, and is not at its end for that. -/
def fread : FileHandle → Fread × FileHandle
  | reading file position calls =>
    match file position calls with
    | .byte value => (.byte value, reading file (position + 1) (calls + 1))
    | outcome => (outcome, reading file position (calls + 1))
  | writing fileName position => (.error, writing fileName position)

def fseek (offset : Int) : FileHandle → FileHandle
  | reading file position calls => reading file (if offset < 0 then position else offset.toNat) calls
  | writing fileName position => writing fileName (if offset < 0 then position else offset.toNat)

def fwrite (data : List Byte) : FileHandle → FileHandle × List FileEffect
  | reading file position calls => (reading file position calls, [])
  | writing fileName position => (writing fileName (position + data.length), [.write fileName position data])

end FileHandle

/-- What `askQuestion` leaves in a buffer of `MAX_PATH_SIZE` when it returns true. -/
structure FileName where
  text : List Byte
  nonempty : text ≠ []
  noNul : 0#8 ∉ text
  fits : text.length < maxPathSize

/-- The user's answers to the two questions of `gotFileTransferRequest`. -/
inductive Answer
  | refuse
  | cancelName
  | accept (targetFileName : FileName)

structure SessionServer (τ : Type) where
  outbox : Outbox τ
  fileTransferHandle_ : Option FileHandle
  fileTransferOffset_ : BitVec 64
  isReceivingFile_ : Bool
  isSendingFile_ : Bool
  hasFileTransferStarted_ : Bool
  fileTransferBuffer_ : Field maxMessageSize
  fileName_ : Field maxPathSize
  nickName_ : Field maxNicknameSize

namespace SessionServer

variable {τ : Type}

/-- The constructor leaves the arrays as they are in memory, but for the first byte of `fileName_`. -/
def new (fileTransferBuffer_ : Field maxMessageSize) (fileName_ : Field maxPathSize)
    (nickName_ : Field maxNicknameSize) (origin : τ) : SessionServer τ where
  outbox := Outbox.new.send ⟨.hello, origin⟩
  fileTransferHandle_ := none
  fileTransferOffset_ := 0#64
  isReceivingFile_ := false
  isSendingFile_ := false
  hasFileTransferStarted_ := false
  fileTransferBuffer_
  fileName_ := fileName_.set 0 0#8
  nickName_

def send (session : SessionServer τ) (letter : Letter τ) : SessionServer τ :=
  { session with outbox := session.outbox.send letter }

/-- Undefined for a text that leaves no NUL in the `message_` of the new object. -/
def chat (raw : ChatMessage) (origin : τ) (session : SessionServer τ) (message : List Byte) : Option (SessionServer τ) :=
  if (raw.setMessage message).message_.Terminated then
    some (session.send ⟨.chat (ChatMessage.ofMessage raw message), origin⟩)
  else none

theorem chat_some {raw : ChatMessage} {origin : τ} {session next : SessionServer τ} {message : List Byte}
    (chatted : session.chat raw origin message = some next) :
    next = session.send ⟨.chat (ChatMessage.ofMessage raw message), origin⟩ := by
  unfold chat at chatted
  split at chatted
  · cases chatted
    rfl
  · cases chatted

def setNickName (origin : τ) (session : SessionServer τ) (nickName : List Byte) : SessionServer τ :=
  session.send ⟨.nickname (.ofNickName nickName), origin⟩

def disconnect (origin : τ) (session : SessionServer τ) : SessionServer τ :=
  { session with outbox := session.outbox.disconnect origin }

def hasFileTransfer (session : SessionServer τ) : Bool := session.isReceivingFile_ || session.isSendingFile_

def fileTransferName (session : SessionServer τ) : List Byte := session.fileName_.text

def sendFile (origin : τ) (session : SessionServer τ) (fileName : FileName) : SessionServer τ :=
  { session with
    isSendingFile_ := true
    fileName_ := session.fileName_.overwrite (strncpy fileName.text maxPathSize) }.send
      ⟨.fileRequest (.ofFileName fileName.text), origin⟩

def disableFileTransferMode (session : SessionServer τ) : SessionServer τ :=
  { session with
    fileTransferHandle_ := none
    fileTransferOffset_ := 0#64
    isReceivingFile_ := false
    isSendingFile_ := false
    hasFileTransferStarted_ := false
    fileName_ := session.fileName_.set 0 0#8 }

/-- The loop of `cycle`, over the cells of `fileTransferBuffer_` that it may fill: the block, whether
    the end of the file was reached, and the handle after it. -/
def readBlock : List Byte → FileHandle → List Byte × Bool × FileHandle
  | [], handle => ([], false, handle)
  | cell :: cells, handle =>
    match handle.fread with
    | (.endOfFile, handle) => ([], true, handle)
    | (.byte value, handle) =>
      let (block, endOfFile, handle) := readBlock cells handle
      (value :: block, endOfFile, handle)
    | (.error, handle) =>
      -- the offset goes on, and the cell keeps what it held
      let (block, endOfFile, handle) := readBlock cells handle
      (cell :: block, endOfFile, handle)

def sendBlock (target : Target) (raw : FileDataMessage) (origin : τ) (session : SessionServer τ)
    (handle : FileHandle) : SessionServer τ :=
  let message := FileDataMessage.new raw
  let (block, endOfFile, handle) :=
    readBlock (session.fileTransferBuffer_.bytes.take (maxPayloadSize - message.size)) handle
  let message := (message.setBuffer block).setFileOffset target session.fileTransferOffset_.toNat
  let session := { session with
    fileTransferHandle_ := some handle
    fileTransferBuffer_ := session.fileTransferBuffer_.overwrite block
    fileTransferOffset_ := session.fileTransferOffset_ + BitVec.ofNat 64 block.length }
  if endOfFile then session.disableFileTransferMode.send ⟨.fileData message.markLastBlock, origin⟩
  else session.send ⟨.fileData message, origin⟩

/-- `fopen` is what opening the file comes to, if it is tried. -/
def cycle (target : Target) (raw : FileDataMessage) (fopen : Option Readable) (origin : τ)
    (session : SessionServer τ) : SessionServer τ :=
  if !session.isSendingFile_ || !session.hasFileTransferStarted_ then session
  else
    match session.fileTransferHandle_ <|> fopen.map (FileHandle.reading · 0 0) with
    | none => session.disableFileTransferMode
    | some handle =>
      if !session.outbox.canSendMessages then { session with fileTransferHandle_ := some handle }
      else session.sendBlock target raw origin handle

/-- `opens` says whether opening the file for writing succeeds, if it is tried. -/
def saveData (opens : Bool) (session : SessionServer τ) (buffer : List Byte) (offset : Int) :
    SessionServer τ × List FileEffect :=
  if !session.isReceivingFile_ then (session, [])
  else
    match session.fileTransferHandle_ with
    | some handle =>
      let (handle, effects) := (handle.fseek offset).fwrite buffer
      ({ session with fileTransferHandle_ := some handle }, effects)
    | none =>
      if !opens then (session.disableFileTransferMode, [])
      else
        let fileName := session.fileName_.text
        let (handle, effects) := ((FileHandle.writing fileName 0).fseek offset).fwrite buffer
        ({ session with fileTransferHandle_ := some handle }, .truncate fileName :: effects)

/-- `Client::gotFileTransferRequest`, with the reply it sends. `fileName_` is the buffer in which the
    name is edited; what the user leaves behind its end is not read. -/
def gotFileTransferRequest (origin : τ) (answer : Answer) (session : SessionServer τ) (filename : List Byte) :
    Bool × SessionServer τ :=
  let offered := session.fileName_.overwrite (filename ++ [0#8])
  let reply (status : StatusCode) (targetFileName : Field maxPathSize) : SessionServer τ :=
    { session with fileName_ := targetFileName }.send ⟨.status ⟨status⟩, origin⟩
  match answer with
  | .refuse => (false, reply .rejectFileTransfer session.fileName_)
  | .cancelName => (false, reply .rejectFileTransfer (offered.set 0 0#8))
  | .accept targetFileName => (true, reply .acceptFileTransfer (offered.overwrite (targetFileName.text ++ [0#8])))

/-- The call of `debug` in `availableMessages` for a chat message. -/
def chatReceived (elapsed : Int) (sender message : List Byte) : List Formatted :=
  Common.debug elapsed "Got message by '%s': %s" [.string sender, .string message]

theorem fits_chatReceived_iff (elapsed : Int) (sender message : List Byte) :
    (∀ buffer ∈ chatReceived elapsed sender message, buffer.Fits) ↔
      Common.elapsedWidth elapsed + sender.length + message.length ≤ 489 := by
  have printed : (sprintf "Got message by '%s': %s" [.string sender, .string message]).length =
      19 + (sender.length + message.length) :=
    length_sprintf (by rfl) (by decide)
  rw [chatReceived, Common.fits_debug_iff, printed]
  omega

/-- One turn of the loop of `SessionServer::availableMessages`, at a time `elapsed`. -/
def availableMessage (target : Target) (answer : Answer) (opens : Bool) (elapsed : Int) (origin : τ) (session : SessionServer τ)
    (message : Message) : Except Fault (SessionServer τ × List FileEffect) :=
  match message with
  | .status statusMessage =>
    match statusMessage.status with
    | .acceptFileTransfer =>
      if !session.isSendingFile_ || session.fileName_.text = [] then .error .fatal
      else .ok ({ session with hasFileTransferStarted_ := true }, [])
    | .rejectFileTransfer =>
      if !session.isSendingFile_ || session.fileName_.text = [] then .error .fatal
      else .ok (session.disableFileTransferMode, [])
    | .fileTransferCanceled =>
      if !session.isSendingFile_ then .error .fatal else .ok (session.disableFileTransferMode, [])
    | _ => .ok (session, [])
  | .nickname nickNameMessage =>
    .ok ({ session with
      nickName_ := (session.nickName_.overwrite (List.replicate maxNicknameSize 0#8)).overwrite
        (strncpy (nickNameMessage.nickName []) (maxNicknameSize - 1)) }, [])
  | .fileRequest fileMessage =>
    -- the name is copied into fileName_ up to its NUL, and the sender's is read up to there
    if maxPathSize ≤ fileMessage.fileName.length ∨ maxNicknameSize ≤ fileMessage.sender.length then
      .error (.undefined .outOfBounds)
    else
      let (accepted, session) := session.gotFileTransferRequest origin answer fileMessage.fileName
      .ok ({ session with isReceivingFile_ := accepted }, [])
  | .fileData dataMessage =>
    if !session.isReceivingFile_ then .ok (session, [])
    else
      let (session, effects) := session.saveData opens dataMessage.buffer (dataMessage.fileOffset target)
      if dataMessage.isLastBlock then
        .ok (session.disableFileTransferMode, effects ++ [.received session.fileName_.text])
      else .ok (session, effects)
  | .chat chatMessage =>
    if ∃ buffer ∈ chatReceived elapsed chatMessage.sender chatMessage.message, ¬ buffer.Fits then
      .error (.undefined .outOfBounds)
    else .ok (session, [])
  | .hello | .bye => .ok (session, [])

theorem same_of_chat {target : Target} {answer : Answer} {opens : Bool} {elapsed : Int} {origin : τ}
    {session after : SessionServer τ} {chat : ChatMessage} {effects : List FileEffect}
    (handled : session.availableMessage target answer opens elapsed origin (.chat chat) = .ok (after, effects)) :
    after = session ∧ effects = [] := by
  simp only [availableMessage] at handled
  split at handled
  · cases handled
  · cases handled
    exact ⟨rfl, rfl⟩

end SessionServer

end LanMessenger
