import LanMessenger.Session.SessionBase

namespace LanMessenger

open CMemory

/-- The address of a `SessionClient`: `sessions_` is a map ordered by it. -/
abbrev SessionId := Nat

/-- Why a handler does not come to its end: a call of `Common::fatal`, or an undefined operation. -/
inductive Fault
  | fatal
  | undefined (cause : Undefined)
deriving DecidableEq

inductive ClientState
  | invalid
  | start
  | identify
  | ready
  | end_
deriving DecidableEq

structure SessionClient (τ : Type) where
  outbox : Outbox τ
  fileTransferStatus_ : StatusCode
  nickName_ : Field maxNicknameSize

namespace SessionClient

variable {τ : Type}

def nickName (client : SessionClient τ) : List Byte := client.nickName_.text

def setNickName (client : SessionClient τ) (newNickName : List Byte) : SessionClient τ :=
  { client with
    nickName_ := (client.nickName_.overwrite (List.replicate maxNicknameSize 0#8)).overwrite
      (strncpy newNickName (maxNicknameSize - 1)) }

/-- The constructor leaves the bytes of the name as they are in memory. -/
def new (nickName_ : Field maxNicknameSize) : SessionClient τ := ⟨.new, .fileTransferCanceled, nickName_⟩

end SessionClient

structure SessionData (τ : Type) where
  client : SessionClient τ
  state : ClientState
  isFileTransferSender : Bool

namespace SessionData

variable {τ : Type}

def send (data : SessionData τ) (letter : Letter τ) : SessionData τ :=
  { data with client.outbox := data.client.outbox.send letter }

def queued (data : SessionData τ) (letter : Letter τ) : SessionData τ :=
  { data with client.outbox.sendingQueue_ := data.client.outbox.sendingQueue_ ++ [letter] }

theorem send_of_room {data : SessionData τ} (room : data.client.outbox.canSendMessages = true) (letter : Letter τ) :
    data.send letter = data.queued letter := by
  rw [send, Outbox.send_of_room room, queued]

def sendSome (data : SessionData τ) : Option (Letter τ) → SessionData τ
  | none => data
  | some letter => data.send letter

def disconnect (data : SessionData τ) (origin : τ) : SessionData τ :=
  { data with client.outbox := data.client.outbox.disconnect origin }

def setStatus (data : SessionData τ) (status : StatusCode) : SessionData τ :=
  { data with client.fileTransferStatus_ := status }

variable (data : SessionData τ) (letter : Option (Letter τ))

@[simp] theorem status_sendSome :
    (data.sendSome letter).client.fileTransferStatus_ = data.client.fileTransferStatus_ := by
  cases letter <;> rfl

@[simp] theorem isFileTransferSender_sendSome :
    (data.sendSome letter).isFileTransferSender = data.isFileTransferSender := by
  cases letter <;> rfl

end SessionData

structure Server (τ : Type) where
  connectionsCounter_ : Nat
  fileTransferModeActive_ : Bool
  sessions_ : Std.TreeMap SessionId (SessionData τ)

namespace Server

variable {τ : Type}

def new : Server τ := ⟨0, false, ∅⟩

def findSession (server : Server τ) (client : SessionId) : Option (SessionData τ) := server.sessions_[client]?

def isFileTransferModeActive (server : Server τ) : Bool := server.fileTransferModeActive_

def modify (server : Server τ) (client : SessionId) (change : SessionData τ → SessionData τ) : Server τ :=
  { server with sessions_ := server.sessions_.modify client change }

def send (server : Server τ) (client : SessionId) (letter : Letter τ) : Server τ :=
  server.modify client fun data => data.send letter

/-- The loop of the relaying functions: each session but the client is sent its letter, if there is
    one for it. No caller looks at the result of `sendMessage`. -/
def sendToPeers (server : Server τ) (client : SessionId) (letter : SessionId → SessionData τ → Option (Letter τ)) :
    Server τ :=
  { server with sessions_ := server.sessions_.map fun peer data =>
      if peer = client then data
      else data.sendSome (letter peer data) }

variable (server : Server τ) (client peer : SessionId)

@[simp] theorem findSession_new : (new : Server τ).findSession client = none := by
  simp [findSession, new]

@[simp] theorem findSession_modify (change : SessionData τ → SessionData τ) :
    (server.modify client change).findSession peer =
      if peer = client then (server.findSession peer).map change else server.findSession peer := by
  simp only [findSession, modify, Std.TreeMap.getElem?_modify, compare_eq_iff_eq]
  by_cases same : peer = client
  · rw [if_pos same, if_pos same.symm, same]
  · rw [if_neg same, if_neg (Ne.symm same)]

variable {client peer} in
theorem findSession_modify_of_ne {change : SessionData τ → SessionData τ} (other : peer ≠ client) :
    (server.modify client change).findSession peer = server.findSession peer := by
  rw [findSession_modify, if_neg other]

@[simp] theorem findSession_sendToPeers (letter : SessionId → SessionData τ → Option (Letter τ)) :
    (server.sendToPeers client letter).findSession peer =
      (server.findSession peer).map fun data =>
        if peer = client then data
        else data.sendSome (letter peer data) := by
  simp only [findSession, sendToPeers, Std.TreeMap.getElem?_map]

@[simp] theorem connectionsCounter_modify (change : SessionData τ → SessionData τ) :
    (server.modify client change).connectionsCounter_ = server.connectionsCounter_ := rfl

@[simp] theorem fileTransferModeActive_modify (change : SessionData τ → SessionData τ) :
    (server.modify client change).fileTransferModeActive_ = server.fileTransferModeActive_ := rfl

@[simp] theorem fileTransferModeActive_sendToPeers (letter : SessionId → SessionData τ → Option (Letter τ)) :
    (server.sendToPeers client letter).fileTransferModeActive_ = server.fileTransferModeActive_ := rfl

theorem mem_sessions {server : Server τ} {peer : SessionId} {data : SessionData τ} :
    (peer, data) ∈ server.sessions_.toList ↔ server.findSession peer = some data :=
  Std.TreeMap.mem_toList_iff_getElem?_eq_some

/-- What is to hold of every session is decided by going through them. -/
instance (server : Server τ) (property : SessionId → SessionData τ → Prop) [∀ peer data, Decidable (property peer data)] :
    Decidable (∀ peer data, server.findSession peer = some data → property peer data) :=
  decidable_of_iff (∀ session ∈ server.sessions_.toList, property session.1 session.2)
    ⟨fun all peer data there => all (peer, data) (mem_sessions.mpr there),
      fun all session member => all session.1 session.2 (mem_sessions.mp member)⟩

theorem size_ne_one {server : Server τ} {left right : SessionId} (leftThere : (server.findSession left).isSome = true)
    (rightThere : (server.findSession right).isSome = true) (different : left ≠ right) :
    server.sessions_.size ≠ 1 := by
  intro single
  rw [← Std.TreeMap.length_toList, List.length_eq_one_iff] at single
  obtain ⟨only, single⟩ := single
  have listed : ∀ peer, (server.findSession peer).isSome = true → peer = only.1 := by
    intro peer there
    obtain ⟨data, found⟩ := Option.isSome_iff_exists.mp there
    have member : (peer, data) ∈ server.sessions_.toList := mem_sessions.mpr found
    rw [single, List.mem_singleton] at member
    rw [← member]
  exact different ((listed left leftThere).trans (listed right rightThere).symm)

theorem exists_other {server : Server τ} {client : SessionId} (there : (server.findSession client).isSome = true)
    (more : server.sessions_.size ≠ 1) : ∃ peer, peer ≠ client ∧ (server.findSession peer).isSome = true := by
  by_contra none
  have only : ∀ entry ∈ server.sessions_.toList, entry.1 = client := by
    intro entry member
    by_contra other
    have found : server.findSession entry.1 = some entry.2 := mem_sessions.mp member
    exact none ⟨entry.1, other, by rw [found]; rfl⟩
  obtain ⟨data, found⟩ := Option.isSome_iff_exists.mp there
  have member : (client, data) ∈ server.sessions_.toList := mem_sessions.mpr found
  have ordered := Std.TreeMap.ordered_keys_toList (t := server.sessions_)
  rw [← Std.TreeMap.length_toList] at more
  cases entries : server.sessions_.toList with
  | nil =>
    rw [entries] at member
    cases member
  | cons first rest =>
    cases rest with
    | nil =>
      rw [entries] at more
      exact more rfl
    | cons second rest =>
      rw [entries] at only ordered
      have less := (List.pairwise_cons.mp ordered).1 second List.mem_cons_self
      rw [only first List.mem_cons_self, only second (List.mem_cons_of_mem _ List.mem_cons_self)] at less
      exact absurd less (by simp)

end Server

end LanMessenger
