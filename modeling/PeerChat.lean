import PeerChat.Main
import PeerChat.Session.Picture
import PeerChat.Service.Script
import PeerChat.Peer.Routes
import PeerChat.Proofs.Store.Call
import PeerChat.Proofs.Session.Coherence
import PeerChat.Proofs.Store.History
import PeerChat.Proofs.Store.Counted
import PeerChat.Proofs.Store.Specification
import PeerChat.Proofs.Store.Refresh
import PeerChat.Proofs.Transfer.Act
import PeerChat.Proofs.Transfer.Lifecycle
import PeerChat.Proofs.Session.PromptActs
import PeerChat.Proofs.Session.PromptDialogue
import PeerChat.Proofs.Session.Connection
import PeerChat.Proofs.Exchange.MessagePolls
import PeerChat.Proofs.Exchange.OfferAnswers
import PeerChat.Proofs.Store.Growth
import PeerChat.Proofs.Session.Drafting
import PeerChat.Proofs.Console.Transcript
import PeerChat.Proofs.Console.Following
import PeerChat.Proofs.Console.Runs
import PeerChat.Proofs.Exchange.PlainLines
import PeerChat.Proofs.Exchange.PrivateMessages
import PeerChat.Proofs.Exchange.BlockToggles
import PeerChat.Proofs.Session.Independence
import PeerChat.Proofs.Session.Repolling
import PeerChat.Proofs.Session.Setbacks
import PeerChat.Proofs.Schedule.Cadence
import PeerChat.Proofs.Peer.MessageLog
import PeerChat.Proofs.Peer.OfferQueue
import PeerChat.Proofs.Peer.Grammar
import PeerChat.Proofs.Peer.Uploads
import PeerChat.Proofs.Transfer.Draining
import PeerChat.Proofs.Conversation.Threads
import PeerChat.Proofs.Size.Label
import PeerChat.Proofs.Message.Content
import PeerChat.Proofs.Console.Lines
import PeerChat.Proofs.Settings.Resolution
import PeerChat.Proofs.Wire.Leniency
import PeerChat.Proofs.Message.Rewiring
