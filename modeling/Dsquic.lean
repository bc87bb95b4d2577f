import Dsquic.Connection.AckDelay
import Dsquic.Connection.AckTruth
import Dsquic.Connection.Amplification
import Dsquic.Connection.Authentication
import Dsquic.Connection.Congestion
import Dsquic.Connection.CreditCustody
import Dsquic.Connection.CryptoOrder
import Dsquic.Connection.CryptoStreams
import Dsquic.Connection.DatagramSize
import Dsquic.Connection.Dispatch
import Dsquic.Connection.EarlyData
import Dsquic.Connection.KeyUpdate
import Dsquic.Connection.Lifecycle
import Dsquic.Connection.Malformed
import Dsquic.Connection.Pacing
import Dsquic.Connection.PacketCodec
import Dsquic.Connection.Probes
import Dsquic.Connection.Replay
import Dsquic.Connection.RetryOnce
import Dsquic.Connection.SendLoop
import Dsquic.Connection.StreamBytes
import Dsquic.Connection.Timers
import Dsquic.Connection.Walk
import Dsquic.Endpoint.Requests
import Dsquic.Endpoint.RetryRoundTrip
import Dsquic.Endpoint.Sessions
import Dsquic.Recovery.Blackout
import Dsquic.Recovery.Completeness
import Dsquic.Recovery.Conservation
import Dsquic.Recovery.RttRange
import Dsquic.Recovery.Window
import Dsquic.Streams.Agreement
import Dsquic.Streams.Delivery
import Dsquic.Streams.ReceiveCredit
import Dsquic.Streams.RejectedLimits
import Dsquic.Streams.SendPartition
import Dsquic.Streams.StreamCount
import Dsquic.Tls.Authentication
import Dsquic.Tls.TicketAge
import Dsquic.Tls.TicketOffer
import Dsquic.Wire.FrameCodec
import Dsquic.Wire.ParameterCodec
