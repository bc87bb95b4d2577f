import Dsquic.Connection.Space
import Dsquic.Streams.Manager
import Dsquic.Wire.Protection
import Dsquic.Wire.TransportParameters

/-!
The state of a connection. The TLS machine and the cryptographic primitives are parameters: any machine
with the interface below will do.
-/

namespace Dsquic.Connection

open Lib Wire Streams Recovery

/-- The secrets of the Initial level are not of TLS. -/
inductive TlsEvent
  | sendData (level : Level) (data : Bytes)
  | secretAvailable (level : Level) (ofClient : Bool) (secret : Bytes) (cipherSuite : ℕ) (h : level ≠ .initial)
  | handshakeComplete (alpn : String) (peerTransportParameters : Bytes)

/-- `newClient` and `newServer` take the encoded transport parameters, the rest of the TLS configuration
being fixed. `decodeUtf8` is the decoding that replaces what is not UTF-8. `shiftLimit` is the longest shift
that memory holds. A client that starts only sends its ClientHello. -/
structure Env extends Primitives where
  Tls : Type
  Destination : Type
  newClient : Bytes → Tls
  newServer : Bytes → Tls
  start : Tls → ℚ → Tls
  receive : Level → Bytes → ℚ → EStateM Raised Tls PUnit
  takeEvents : Tls → List TlsEvent × Tls
  earlySecret : Tls → Option Bytes
  earlyDataAccepted : Tls → Bool
  cipherSuite : Tls → ℕ
  clientTransportParameters : Tls → Bytes
  decodeUtf8 : Bytes → String
  shiftLimit : ℕ
  start_events : ∀ parameters now, ∀ event ∈ (takeEvents (start (newClient parameters) now)).1,
    ∃ level data, event = .sendData level data

inductive Event
  | streamDataReceived (data : StreamDataReceived)
  | handshakeCompleted (alpn : String)
  | handshakeConfirmed (alpn : String)
  | versionNegotiationReceived (versions : List ℕ)
  | connectionTerminated (errorCode : ℕ) (reason : String)
  deriving DecidableEq

structure RetryContext where
  originalDestinationCid : Bytes
  sourceCid : Bytes
  deriving DecidableEq

structure Config where
  maxDatagramSize : ℕ
  transportParameters : TransportParameters
  keyUpdateInterval : Option ℕ
  retry : Option RetryContext
  version : ℕ
  token : Bytes

def Config.default : Config where
  maxDatagramSize := 1200
  transportParameters := {
    maxIdleTimeoutMs := 30000
    initialMaxData := 1048576
    initialMaxStreamDataBidiLocal := 262144
    initialMaxStreamDataBidiRemote := 262144
    initialMaxStreamDataUni := 262144
    initialMaxStreamsBidi := 100
    initialMaxStreamsUni := 16 }
  keyUpdateInterval := none
  retry := none
  version := quicV1
  token := []

def flowLimits (parameters : TransportParameters) : FlowControlLimits where
  maxData := parameters.initialMaxData
  maxStreamDataBidiLocal := parameters.initialMaxStreamDataBidiLocal
  maxStreamDataBidiRemote := parameters.initialMaxStreamDataBidiRemote
  maxStreamDataUni := parameters.initialMaxStreamDataUni
  maxStreamsBidi := parameters.initialMaxStreamsBidi
  maxStreamsUni := parameters.initialMaxStreamsUni

structure OutgoingDatagram (env : Env) where
  data : Bytes
  destination : Option env.Destination
  ecn : ℕ

/-- A record of what was done and in what state, which the program does not keep and nothing reads.
An allowance is how many bytes a client not yet validated had paid for; an `owed` count is that of the
probes pending at the level; `early` says that a server's TLS has accepted early data. A packet is
`unsealed` under its keys, and `processed` as a number not seen before; `keyed` are the 1-RTT keys to open
packets with, as they are derived; of a CRYPTO frame `reassembled`, TLS is `passed` what is now in order.
A server has `adopted` the connection IDs of its first Initial, a client has `retried` with the CRYPTO frames
then `queued`, and the transport parameters of a peer are `agreed` to once they are found to match, its
connection ID being `source` at the time. -/
inductive Note
  | sealed (level : Level) (keys : PacketKeys) (packetNumber : ℕ) (frames : List Frame)
  | opened (level : Level) (zeroRtt : Bool)
  | unsealed (level : Level) (zeroRtt : Bool) (packet : Bytes) (pnOffset : ℕ) (keys : Option PacketKeys)
      (revealed : Space.Revealed)
  | processed (level : Level) (packetNumber ecn : ℕ) (payload : Bytes)
  | keyed (keys : Option PacketKeys)
  | reassembled (level : Level) (frame : Crypto) (passed : Bytes)
  | drained
  | handled (state : ConnectionState) (frame : Frame)
  | acked (packet : SentPacket)
  | emitted (level : Level) (data : Bytes)
  | completed (state : ConnectionState)
  | closing (state : ConnectionState)
  | aborted (state : ConnectionState)
  | confirmed
  | synced (early confirmed : Bool)
  | discarded (level : Level) (owed : ℕ)
  | expired (state : ConnectionState)
  | probed (level : Level) (owed : ℕ) (discarded : Bool)
  | built (unvalidated : Bool) (allowance : ℤ)
  | closed (unvalidated : Bool) (allowance : ℤ) (reasonLength size : ℕ)
  | adopted (dcid scid : Bytes)
  | retried (data : Bytes) (packet : Primitives.Retry) (queued : List Crypto)
  | agreed (extension : Bytes) (peer : TransportParameters) (source : Bytes)
  deriving DecidableEq

structure Conn (env : Env) where
  isClient : Bool
  config : Config
  state : ConnectionState
  destination : Option env.Destination
  alpn : String
  hostCid : Bytes
  peerCid : Bytes
  initialDcid : Bytes
  pathValidated : Bool
  pathChallenges : List Bytes
  ecnEnabled : Bool
  retryToken : Bytes
  newTokens : List Bytes
  retrySourceCid : Option Bytes
  originalDcid : Option Bytes
  localParameters : TransportParameters
  peerParameters : Option TransportParameters
  tls : Option env.Tls
  rememberedParameters : Option TransportParameters
  spaces : Level → Space PacketKeys Bytes
  recovery : LossDetection
  streams : Option StreamManager
  events : List Event
  pending : List (OutgoingDatagram env)
  controlFrames : List Frame
  probesPending : Level → ℕ
  handshakeDonePending : Bool
  pacingCredit : ℚ
  pacingUpdated : Option ℚ
  pacingDeadline : Option ℚ
  closeFrame : Option ConnectionClose
  closeSent : Bool
  bytesReceived : ℕ
  bytesSent : ℕ
  addressValidated : Bool
  idleStarted : Option ℚ
  closingDeadline : Option ℚ
  peerCidConfirmed : Bool
  largestTimeReceived : Level → Option ℚ
  trace : List Note

abbrev M (env : Env) := EStateM Raised (Conn env)

namespace Conn

variable {env : Env}

def note (c : Conn env) (note : Note) : Conn env := { c with trace := note :: c.trace }

def setSpace (c : Conn env) (level : Level) (space : Space PacketKeys Bytes) : Conn env :=
  { c with spaces := Function.update c.spaces level space }

def onSpace (c : Conn env) (level : Level) (f : Space PacketKeys Bytes → Space PacketKeys Bytes) : Conn env :=
  c.setSpace level (f (c.spaces level))

def parametersFor (c : Conn env) (initialDcid : Bytes) : TransportParameters :=
  let parameters := { c.config.transportParameters with initialSourceConnectionId := some c.hostCid }
  if c.isClient then parameters
  else { parameters with
    originalDestinationConnectionId := some (c.originalDcid.getD initialDcid)
    retrySourceConnectionId := c.retrySourceCid }

def installInitialKeys (c : Conn env) (dcid : Bytes) : Conn env :=
  let secrets := env.deriveInitialSecrets dcid
  let clientKeys := env.derivePacketKeys secrets.client tlsAes128GcmSha256
  let serverKeys := env.derivePacketKeys secrets.server tlsAes128GcmSha256
  c.onSpace .initial fun space => { space with
    keysSend := some (if c.isClient then clientKeys else serverKeys)
    keysRecv := some (if c.isClient then serverKeys else clientKeys) }

def blank (isClient : Bool) (config : Config) (hostCid peerCid : Bytes)
    (destination : Option env.Destination) : Conn env where
  isClient := isClient
  config := config
  state := .handshaking
  destination := destination
  alpn := ""
  hostCid := hostCid
  peerCid := peerCid
  initialDcid := peerCid
  pathValidated := true
  pathChallenges := []
  ecnEnabled := true
  retryToken := []
  newTokens := []
  retrySourceCid := config.retry.map (·.sourceCid)
  originalDcid := config.retry.map (·.originalDestinationCid)
  localParameters := config.transportParameters
  peerParameters := none
  tls := none
  rememberedParameters := none
  spaces _ := .new
  recovery := .new (.new config.maxDatagramSize) isClient
  streams := none
  events := []
  pending := []
  controlFrames := []
  probesPending _ := 0
  handshakeDonePending := false
  pacingCredit := 0
  pacingUpdated := none
  pacingDeadline := none
  closeFrame := none
  closeSent := false
  bytesReceived := 0
  bytesSent := 0
  addressValidated := isClient
  idleStarted := none
  closingDeadline := none
  peerCidConfirmed := !isClient
  largestTimeReceived _ := none
  trace := []

abbrev Cid := { cid : Bytes // cid.length = 8 }

def newServer (env : Env) (config : Config) (hostCid : Cid) (destination : Option env.Destination) :
    Conn env :=
  let c := blank false config hostCid.1 [] destination
  { c with localParameters := c.parametersFor [] }

/-- `ticketParameters` are the transport parameters of a session ticket under which early data is
offered. -/
def newClient (env : Env) (config : Config) (hostCid peerCid : Cid) (ticketParameters : Option Bytes)
    (destination : Option env.Destination) : Except Raised (Conn env) := do
  let c := blank true config hostCid.1 peerCid.1 destination
  let parameters := c.parametersFor c.initialDcid
  let encoded ← parameters.encode
  let remembered ← ticketParameters.mapM TransportParameters.decode
  return { c with
    localParameters := parameters
    tls := some (env.newClient encoded)
    rememberedParameters := remembered }.installInitialKeys c.initialDcid

end Conn

end Dsquic.Connection
