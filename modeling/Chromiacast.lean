import Chromiacast.Basis.Machine
import Chromiacast.Basis.Labels
import Chromiacast.Basis.Serial
import Chromiacast.Basis.Bytes
import Chromiacast.Basis.Outcome
import Chromiacast.Basis.Table
import Chromiacast.Basis.Varint
import Chromiacast.Basis.Scan
import Chromiacast.Basis.Transport
import Chromiacast.Basis.Unsigned
import Chromiacast.Basis.Requests
import Chromiacast.Basis.Text
import Chromiacast.Basis.Announcements
import Chromiacast.Basis.Ordered
import Chromiacast.Basis.Numerals
import Chromiacast.Basis.Reach
import Chromiacast.Basis.Challenge
import Chromiacast.Basis.Dialogue
import Chromiacast.Frame
import Chromiacast.Crypto
import Chromiacast.Rtp
import Chromiacast.Ntp
import Chromiacast.Rtcp
import Chromiacast.Stream
import Chromiacast.StreamRelease
import Chromiacast.Feedback
import Chromiacast.StreamRun
import Chromiacast.StreamLedger
import Chromiacast.StreamQueues
import Chromiacast.FeedbackOrder
import Chromiacast.RtpRoundTrip
import Chromiacast.RtcpFields
import Chromiacast.RtcpPackets
import Chromiacast.RtcpGrammar
import Chromiacast.EventLoop
import Chromiacast.Routing
import Chromiacast.FeedbackEncoding
import Chromiacast.Protocol
import Chromiacast.ProtocolSafety
import Chromiacast.Recovery
import Chromiacast.Stall
import Chromiacast.MediaPath
import Chromiacast.Negotiation
import Chromiacast.Isolation
import Chromiacast.OfferedStreams
import Chromiacast.OfferDocument
import Chromiacast.BurstBudget
import Chromiacast.Pacing
import Chromiacast.WireFields
import Chromiacast.CastMessage
import Chromiacast.CastGrammar
import Chromiacast.Walkers
import Chromiacast.VarintCodecs
import Chromiacast.DeviceAuth
import Chromiacast.DeviceCredential
import Chromiacast.DeviceAgreement
import Chromiacast.WalkerAgreement
import Chromiacast.Revocations
import Chromiacast.ChunkedBody
import Chromiacast.SetupResponse
import Chromiacast.ChunkedLimits
import Chromiacast.Discovery
import Chromiacast.DiscoveredRoutes
import Chromiacast.RemoteHandshake
import Chromiacast.HandshakeStages
import Chromiacast.RemoteSession
import Chromiacast.RemoteIdentity
import Chromiacast.PairingCode
import Chromiacast.Pairing
import Chromiacast.PairingTurns
import Chromiacast.PairingAgreement
import Chromiacast.ControlFraming
import Chromiacast.TvFraming
import Chromiacast.Json
import Chromiacast.ControlMessages
import Chromiacast.ControlRouting
import Chromiacast.ControlLoop
import Chromiacast.ControlLifecycle
import Chromiacast.IdAllocation
import Chromiacast.ControlApplications
import Chromiacast.ControlReplies
import Chromiacast.DeviceInfo
import Chromiacast.ControlCalls
import Chromiacast.ControlSessions
import Chromiacast.ControlClosing
import Chromiacast.AudioOnly
import Chromiacast.Basis.Channel
import Chromiacast.Statistics
import Chromiacast.SenderLoop
import Chromiacast.HandlerCases
import Chromiacast.EventChannel
import Chromiacast.StatisticsNotice
import Chromiacast.LoopStreams
import Chromiacast.LoopReports
import Chromiacast.Watchdog
import Chromiacast.HandlerWatch
import Chromiacast.AcknowledgementTimeout
import Chromiacast.LoopPacing
import Chromiacast.PacketIds
import Chromiacast.RetransmitBacklog
import Chromiacast.FrameAcceptance
import Chromiacast.SenderClock
