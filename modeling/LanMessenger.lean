import LanMessenger.CMemory.LittleEndian
import LanMessenger.CMemory.CString
import LanMessenger.CMemory.Field
import LanMessenger.CMemory.Printf
import LanMessenger.Common.Debug
import LanMessenger.Messages.Protocol
import LanMessenger.Messages.Payloads
import LanMessenger.Messages.Message
import LanMessenger.Messages.RoundTrip
import LanMessenger.Messages.Built
import LanMessenger.Messages.InnerSizes
import LanMessenger.Messages.Decoding
import LanMessenger.Messages.StringFields
import LanMessenger.Stream.Framing
import LanMessenger.Stream.Offers
import LanMessenger.Transition.Runs
import LanMessenger.Transition.Exclusion
import LanMessenger.Transition.Simulation
import LanMessenger.Conversation.Room
import LanMessenger.Session.SessionBase
import LanMessenger.Session.Frames
import LanMessenger.Session.Reception
import LanMessenger.Session.Delivery
import LanMessenger.Session.Waiting
import LanMessenger.Session.Consumption
import LanMessenger.Session.PollForData
import LanMessenger.Session.Refusal
import LanMessenger.Session.RoundTrips
import LanMessenger.Session.Malformed
import LanMessenger.Session.ConnectionErrors
import LanMessenger.Session.Sending
import LanMessenger.Server.Sessions
import LanMessenger.Server.Server
import LanMessenger.Server.Effects
import LanMessenger.Server.Reactions
import LanMessenger.Server.NickNames
import LanMessenger.Server.NickNameReplies
import LanMessenger.Server.Sanitising
import LanMessenger.Server.Relays
import LanMessenger.Server.Broadcast
import LanMessenger.Server.TransferMode
import LanMessenger.Server.TransferDecision
import LanMessenger.Server.FileData
import LanMessenger.Server.TransferEnd
import LanMessenger.Server.Departure
import LanMessenger.Server.Consent
import LanMessenger.Server.Greeting
import LanMessenger.Server.OutOfTurn
import LanMessenger.Server.Registration
import LanMessenger.Files.Blocks
import LanMessenger.Files.Pieces
import LanMessenger.Client.SessionServer
import LanMessenger.Client.FileTransfer
import LanMessenger.Client.TransferState
import LanMessenger.Client.Transfer
import LanMessenger.Client.Upload
import LanMessenger.Client.Download
import LanMessenger.Client.Loop
import LanMessenger.Client.Saving
import LanMessenger.Client.Positions
import LanMessenger.Client.Offers
import LanMessenger.Client.Letters
import LanMessenger.Client.Series
import LanMessenger.Client.Flushing
import LanMessenger.Client.Reading
import LanMessenger.Client.Formatting
import LanMessenger.Client.View
import LanMessenger.Text.Buffers
import LanMessenger.Client.Editors
import LanMessenger.Client.Desk
import LanMessenger.Network.Network
import LanMessenger.Network.Parties
import LanMessenger.Network.Moves
import LanMessenger.Network.Decisions
import LanMessenger.Network.Requests
import LanMessenger.Network.Aborts
import LanMessenger.Network.Feeds
import LanMessenger.Network.Receptions
import LanMessenger.Network.Answers
import LanMessenger.Network.NickNames
import LanMessenger.Network.Letters
import LanMessenger.Network.Posts
import LanMessenger.Network.Limits
import LanMessenger.Network.Exchange
import LanMessenger.Network.Conversation
import LanMessenger.Network.Supplies
import LanMessenger.Network.Handover
import LanMessenger.Network.Disks
import LanMessenger.Network.Completion
import LanMessenger.Network.Ownership
import LanMessenger.Network.Transfers
import LanMessenger.Wire.Cable
import LanMessenger.Wire.Wire
import LanMessenger.Wire.Received
import LanMessenger.Wire.Refinement
