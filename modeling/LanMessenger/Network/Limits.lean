import LanMessenger.Messages.Built
import LanMessenger.Network.Posts

namespace LanMessenger

open CMemory

namespace Network

/-- The texts that the users type are shorter than `MAX_CHATMESSAGE_SIZE`. -/
def Brief (_ : Network) : Event → Prop
  | .client _ (.chat _ message) => strlen message < maxChatMessageSize
  | _ => True

instance (network : Network) (event : Event) : Decidable (network.Brief event) := by
  unfold Brief
  split <;> infer_instance

abbrev Measured : Network → Prop := Posted (fun _ => Message.WithinLimits) fun _ => Message.WithinLimits

end Network

theorem ChatMessage.withinLimits_ofMessage (raw : ChatMessage) {message : List Byte}
    (short : strlen message < maxChatMessageSize) : (Message.chat (ChatMessage.ofMessage raw message)).WithinLimits := by
  refine ⟨?_, rfl⟩
  show (raw.setMessage message).messageSize < maxChatMessageSize
  rw [messageSize_setMessage, message_setMessage raw short]
  exact short

theorem Message.withinLimits_of_not_relayed {message : Message} (own : message.isRelayed = false) : message.WithinLimits := by
  cases message with
  | chat => cases own
  | fileData => cases own
  | _ => trivial

namespace Server

variable {target : Target}

theorem withinLimits_relayLetter {memory : Memory} {origin : Nat} {server : Server Nat} {message : Message}
    {peer : SessionId} {data current : SessionData Nat} {letter : Letter Nat} (limits : message.WithinLimits)
    (relayed : relayLetter target memory origin server current message peer data = some letter) :
    letter.message.WithinLimits := by
  unfold relayLetter at relayed
  split at relayed
  · cases relayed
  · cases message with
    | chat chat =>
      cases relayed
      have short : strlen chat.message < maxChatMessageSize :=
        lt_of_le_of_lt (strlen_le_length _) (lt_of_eq_of_lt limits.2 limits.1)
      exact ChatMessage.withinLimits_ofMessage _ short
    | fileRequest file =>
      simp only at relayed
      split at relayed <;> cases relayed
      trivial
    | fileData block =>
      rw [dataLetter_some relayed]
      exact le_of_eq_of_le (size_copyFileData _ block) limits
    | _ => cases relayed

theorem passes_limits : Passes target (fun _ => Message.WithinLimits) fun _ => Message.WithinLimits where
  fixed _ _ := Message.withinLimits_of_not_sized
  replies _ _ := Message.withinLimits_of_not_relayed
  relays _ := withinLimits_relayLetter

end Server

namespace Network

variable {target : Target} {network next : Network}

theorem measured_start : start.Measured := posted_start

theorem Measured.step (measured : network.Measured) {event : Event} (brief : network.Brief event)
    (stepped : network.step target event = some next) : next.Measured := by
  apply Posted.step measured Server.passes_limits _ stepped
  intro client act connection same _
  subst same
  constructor
  · intro raw message typed
    subst typed
    exact ChatMessage.withinLimits_ofMessage raw brief
  · intro raw fopen handle _ _ _ _
    exact SessionServer.size_blockMessage_le

end Network

end LanMessenger
