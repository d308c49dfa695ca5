import LanMessenger.Client.Series
import LanMessenger.Network.Letters
import LanMessenger.Network.Requests

/-! The blocks that a client sends, in its queue, and those that come to a client, in its journal. -/

namespace LanMessenger

open CMemory

variable {target : Target}

namespace Connection

variable {connection acted : Connection} {event : ClientEvent} {heard : Series}
  {sources : Nat → Option (List Byte × File target)} {offered : List (List Byte)} {opened : List (List Byte × File target)}

theorem sending_of_step (oneRole : connection.client.isSendingFile_ = true → connection.client.isReceivingFile_ = false)
    (acts : connection.step target event = some acted) (idle : ∀ raw fopen, event ≠ .cycle raw fopen)
    (quiet : ∀ fileName, event ≠ .sendFile fileName) (sending : acted.client.isSendingFile_ = true) :
    connection.client.isSendingFile_ = true ∧
      acted.client.fileTransferHandle_ = connection.client.fileTransferHandle_ ∧
      acted.client.fileTransferOffset_ = connection.client.fileTransferOffset_ := by
  unfold step at acts
  simp only at acts
  split at acts
  · cases acts
  · cases event with
    | sendFile fileName => exact absurd rfl (quiet fileName)
    | cycle raw fopen => exact absurd rfl (idle raw fopen)
    | chooseFile =>
      simp only at acts
      split at acts <;> cases acts
      exact ⟨sending, rfl, rfl⟩
    | readData answer opens elapsed =>
      simp only at acts
      split at acts
      · cases acts
      · unfold handle at acts
        split at acts
        · rename_i handled
          cases acts
          exact SessionServer.sending_of_availableMessage oneRole handled sending
        · cases acts
          exact ⟨sending, rfl, rfl⟩
        · cases acts
    | chat raw message =>
      rcases Option.map_eq_some_iff.mp acts with ⟨client, chatted, rfl⟩
      cases SessionServer.chat_some chatted
      exact ⟨sending, rfl, rfl⟩
    | _ =>
      cases acts
      exact ⟨sending, rfl, rfl⟩

theorem supplies_of_cycle {raw : FileDataMessage} {file : Option (File target)}
    (supplies : connection.client.Supplies (heard.after connection.outgoing) sources)
    (acts : connection.step target (.cycle raw (file.map File.reads)) = some acted) :
    acted.client.Supplies (heard.after acted.outgoing)
      (connection.client.recordSources (heard.after connection.outgoing) file sources) := by
  unfold step at acts
  simp only at acts
  split at acts
  · cases acts
  · cases acts
    rcases supplies.cycle file raw 0 with ⟨sent, queue, after⟩
    simp only [outgoing, queue, Series.after_append] at after ⊢
    exact after

theorem supplies_of_step (supplies : connection.client.Supplies (heard.after connection.outgoing) sources)
    (offers : connection.client.Offers offered opened) (acts : connection.step target event = some acted)
    (idle : ∀ raw fopen, event ≠ .cycle raw fopen)
    (free : ∀ fileName, event = .sendFile fileName → connection.client.hasFileTransfer = false ∧
      connection.client.outbox.canSendMessages = true) :
    acted.client.Supplies (heard.after acted.outgoing) sources := by
  have still := sending_of_step offers.oneRole acts idle
  cases carries_of_step acts with
  | types raw message up outbox down =>
    have same : heard.after acted.outgoing = heard.after connection.outgoing := by
      rw [outgoing, outgoing, up, outbox, Outbox.send, Outbox.sendMessage]
      split
      · rfl
      · simp only [Series.after_append, Series.after_cons, Series.after_nil]
        exact Series.enter_other (fun _ other => by cases other) fun _ other => by cases other
    rw [same]
    exact supplies.of_client (still fun _ other => by cases other)
  | offers fileName up client down =>
    rcases free fileName rfl with ⟨free, room⟩
    have queued : acted.outgoing = connection.outgoing ++ [⟨.fileRequest (.ofFileName fileName.text), 0⟩] := by
      rw [outgoing, outgoing, up, client, SessionServer.sendFile, SessionServer.send, Outbox.send_of_room room,
        List.append_assoc]
    rw [queued, Series.after_append, client]
    exact supplies.sendFile offers free 0 fileName (.ofFileName fileName.text)
  | cycles raw fopen => exact absurd rfl (idle raw fopen)
  | reads answer opens elapsed letter waiting up extended handled =>
    rw [Series.after_extended extended]
    exact supplies.of_client (still fun _ other => by cases other)
  | plain other extended down =>
    rw [Series.after_extended extended]
    apply supplies.of_client (still _)
    rintro fileName rfl
    cases other

end Connection

def Letter.blockOf (transfer : Nat) (letter : Letter Nat) : Option FileDataMessage :=
  match letter.message with
  | .fileData block => if letter.origin = transfer then some block else none
  | _ => none

theorem Letter.blockOf_fileData (block : FileDataMessage) (origin transfer : Nat) :
    Letter.blockOf transfer ⟨.fileData block, origin⟩ = if origin = transfer then some block else none := rfl

theorem Letter.blockOf_of_not_block {letter : Letter Nat} (transfer : Nat) (other : letter.isBlock = false) :
    letter.blockOf transfer = none := by
  obtain ⟨message, origin⟩ := letter
  cases message with
  | fileData block => cases other
  | _ => rfl

def Journal.arrived (journal : Journal) (transfer : Nat) : List FileDataMessage :=
  (journal.arrivals.filter fun arrival => arrival.transfer = transfer).map Arrival.block

theorem Journal.arrivals_record_request (journal : Journal) (client : SessionServer Nat) (answer : Answer) (opens : Bool)
    (file : FileTransferMessage) (origin : Nat) (effects : List FileEffect) :
    (journal.record client answer opens ⟨.fileRequest file, origin⟩ effects).arrivals = journal.arrivals := by
  cases answer <;> rfl

def Party.pieces (party : Party) (transfer : Nat) : List FileDataMessage :=
  party.journal.arrived transfer ++ party.downstream.filterMap (Letter.blockOf transfer)

namespace Connection

variable {connection next : Connection}

theorem downstream_of_transfers (session : Option (SessionData Nat))
    (down : transferLetters next.down = transferLetters connection.down) :
    next.downstream session = connection.downstream session := by
  cases session <;> simp only [downstream, down]

theorem pieces_congr (session : Option (SessionData Nat)) (down : transferLetters next.down = transferLetters connection.down)
    (journal : next.journal = connection.journal) (transfer : Nat) :
    (next.party session).pieces transfer = (connection.party session).pieces transfer := by
  cases session <;> simp only [Party.pieces, party, downstream, down, journal]

theorem pieces_other (session : Option (SessionData Nat)) {letter : Letter Nat} {rest : List (Letter Nat)}
    (waiting : connection.down = letter :: rest) (transfers : letter.message.ofTransfer = true) (left : next.down = rest)
    (other : letter.isBlock = false) (arrivals : next.journal.arrivals = connection.journal.arrivals) (transfer : Nat) :
    (next.party session).pieces transfer = (connection.party session).pieces transfer := by
  simp only [Party.pieces, Journal.arrived, party, arrivals, downstream_cons session waiting transfers left]
  rw [List.filterMap_cons_none (Letter.blockOf_of_not_block transfer other)]

theorem Acts.pieces {event : ClientEvent} (acts : connection.Acts target next event) (session : Option (SessionData Nat))
    (transfer : Nat) : (next.party session).pieces transfer = (connection.party session).pieces transfer := by
  cases acts with
  | quiet client up down journal => exact pieces_congr session down journal transfer
  | requested client up down journal => exact pieces_congr session (by rw [down]) journal transfer
  | cycled sending started sent client up down journal => exact pieces_congr session (by rw [down]) journal transfer
  | handled letter rest waiting transfers handled =>
    rcases handles_of_handle transfers handled with ⟨left, handles⟩
    cases handles with
    | aborts why client up journal | starts sending client up journal | stops turnedDown sending client up journal =>
      exact pieces_other session waiting transfers left rfl (by rw [journal]) transfer
    | @asks file origin client up journal =>
      refine pieces_other session waiting transfers left rfl ?_ transfer
      rw [journal]
      exact Journal.arrivals_record_request ..
    | @receives _ block origin effects result client up journal =>
      simp only [Party.pieces, Journal.arrived, party, downstream_cons session waiting transfers left, journal,
        Journal.record, List.filter_append, List.map_append, List.append_assoc]
      congr 1
      by_cases same : origin = transfer
      · simp [Letter.blockOf, same]
      · simp [Letter.blockOf, same]

end Connection

namespace Network

variable {network next : Network} {client peer : SessionId} {letter : Letter Nat}
  {sent : SessionId → SessionData Nat → Option (Letter Nat)} {status : SessionId → StatusCode → StatusCode}
  {sender : SessionId → Bool → Bool}

theorem front_of_waiting {connection : Connection} {rest : List (Letter Nat)}
    (there : network.connections client = some connection) (waiting : connection.up = letter :: rest) :
    network.front client = some letter := by
  rw [front, there, Option.bind_some, waiting, List.head?_cons]

theorem Serves.pieces (serves : Serves network next client letter sent status sender) {after : Party}
    (found : next.party peer = some after) :
    ∃ before, network.party peer = some before ∧ ((∀ transfer, after.pieces transfer = before.pieces transfer) ∨
      ∃ data told, sent peer data = some told ∧
        ∀ transfer, after.pieces transfer = before.pieces transfer ++ (told.blockOf transfer).toList) := by
  rcases serves.parties peer after found with ⟨before, was, -, -, journal, -, sessions⟩
  refine ⟨before, was, ?_⟩
  rcases sessions with ⟨-, -, same⟩ | ⟨data, -, -, -, same | ⟨told, offered, grown⟩⟩
  · exact Or.inl fun transfer => by rw [Party.pieces, Party.pieces, journal, same]
  · exact Or.inl fun transfer => by rw [Party.pieces, Party.pieces, journal, same]
  · refine Or.inr ⟨data, told, offered, fun transfer => ?_⟩
    have alone : [told].filterMap (Letter.blockOf transfer) = (told.blockOf transfer).toList := by
      cases carried : told.blockOf transfer with
      | none => exact List.filterMap_cons_none carried
      | some block => exact List.filterMap_cons_some carried
    rw [Party.pieces, Party.pieces, journal, grown, List.filterMap_append, alone, List.append_assoc]

theorem Serves.pieces_same (serves : Serves network next client letter sent status sender)
    (none : ∀ peer data told, sent peer data = some told → told.isBlock = false) {after : Party}
    (found : next.party peer = some after) :
    ∃ before, network.party peer = some before ∧ ∀ transfer, after.pieces transfer = before.pieces transfer := by
  rcases serves.pieces found with ⟨before, was, same | ⟨data, told, offered, grown⟩⟩
  · exact ⟨before, was, same⟩
  · refine ⟨before, was, fun transfer => ?_⟩
    rw [grown, Letter.blockOf_of_not_block transfer (none peer data told offered), Option.toList_none, List.append_nil]

end Network

end LanMessenger
