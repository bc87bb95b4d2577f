import Dsquic.Connection.State
import Dsquic.Lib.Slice

/-!
The receive path of a connection, from a datagram down to its frames and the TLS events they cause.
-/

namespace Dsquic.Connection

open Lib Wire Streams Recovery

variable {env : Env}

namespace Conn

def queueControl (c : Conn env) (frame : Frame) : Conn env :=
  { c with controlFrames := c.controlFrames ++ [frame] }

def armIdleTimer (c : Conn env) (now : ℚ) : Conn env := { c with idleStarted := some now }

def setStreams (c : Conn env) (streams : StreamManager) : Conn env := { c with streams := some streams }

def setRecovery (c : Conn env) (recovery : LossDetection) : Conn env := { c with recovery := recovery }

def discardSpace (c : Conn env) (level : Level) : Conn env :=
  if (c.spaces level).discarded then c
  else { (c.note (.discarded level (c.probesPending level))).onSpace level (fun space => { space with
      discarded := true
      keysSend := none
      keysRecv := none
      cryptoPending := []
      cryptoRetransmit := [] }) with
    recovery := c.recovery.discardSpace level }

def close (c : Conn env) (errorCode : ℕ) (reason : String) (frameType : Option ℕ) : Conn env :=
  if c.state = .closing ∨ c.state = .draining then c
  else { c.note (.closing c.state) with
    closeFrame := some ⟨errorCode, reason.toUTF8.data.toList, frameType⟩
    state := .closing }

def onConnectionClose (c : Conn env) (frame : ConnectionClose) (now : ℚ) : Conn env :=
  { c.note .drained with
    state := .draining
    closingDeadline := some (now + 3 * c.recovery.pto)
    events := c.events ++ [.connectionTerminated frame.errorCode (env.decodeUtf8 frame.reason)] }

def confirmHandshake (c : Conn env) : Conn env :=
  let c := (c.note .confirmed).onSpace .oneRtt fun space => { space with keysRecvEarly := none }
  let c := c.setRecovery { c.recovery with handshakeConfirmed := true }
  let c := c.discardSpace .handshake
  let c := if c.isClient then c.discardSpace .initial else c
  { c with events := c.events ++ [.handshakeConfirmed c.alpn] }

def onSecret (c : Conn env) (level : Level) (ofClient : Bool) (secret : Bytes) (cipherSuite : ℕ) : Conn env :=
  let keys := env.derivePacketKeys secret cipherSuite
  if ofClient = c.isClient then
    c.onSpace level fun space => { space with keysSend := some keys, secretSend := some secret }
  else if level = .oneRtt then
    let (secretRecvNext, keysRecvNext) := env.nextGeneration (some secret) keys
    ((c.note (.keyed (some keys))).note (.keyed (some keysRecvNext))).onSpace level fun space => { space with
      keysRecv := some keys
      secretRecvNext := some secretRecvNext
      keysRecvNext := some keysRecvNext }
  else c.onSpace level fun space => { space with keysRecv := some keys }

def hasPendingData (c : Conn env) (level : Level) : Bool :=
  let space := c.spaces level
  if space.cryptoPending ≠ [] ∨ space.cryptoRetransmit ≠ [] then true
  else if level ≠ .oneRtt then false
  else if c.controlFrames ≠ [] ∨ c.handshakeDonePending then true
  else
    match c.streams with
    | none => false
    | some streams => streams.writableStreams ≠ []

def validateEcn (c : Conn env) (level : Level) (ack : Ack) (acked : List SentPacket) (now : ℚ) : Conn env :=
  if acked = [] then c
  else
    match ack.ecn with
    | none => { c with ecnEnabled := false }
    | some counts =>
      let space := c.spaces level
      if counts.ect0 < space.ecnAckedEct0 ∨ counts.ect1 < space.ecnAckedEct1 ∨
          counts.ce < space.ecnAckedCe ∨ counts.ect1 > 0 then { c with ecnEnabled := false }
      else
        let controller := if counts.ce > space.ecnAckedCe
          then c.recovery.controller.onEcnCe (NewReno.latestSent acked) now else c.recovery.controller
        { c.setSpace level { space with
            ecnAckedEct0 := counts.ect0
            ecnAckedEct1 := counts.ect1
            ecnAckedCe := counts.ce } with
          recovery := { c.recovery with controller := controller } }

end Conn

def onStreams {α : Type} (streams : StreamManager) (m : EStateM Raised StreamManager α) : M env α :=
  zoom (fun _ => streams) (fun streams c => c.setStreams streams) m

def rotateKeys (level : Level) (now : ℚ) : M env PUnit := do
  let c ← get
  let space ← lift ((c.spaces level).rotateKeys env.nextGeneration now (3 * c.recovery.pto))
  set ((c.note (.keyed space.keysRecvNext)).setSpace level space)

def initiateKeyUpdate (now : ℚ) : M env Bool := do
  let c ← get
  let starts := (c.spaces .oneRtt).mayUpdate c.recovery.handshakeConfirmed (c.recovery.largestAcked .oneRtt)
  doIf starts (rotateKeys .oneRtt now)
  return starts

def Conn.unprotect (c : Conn env) (level : Level) (packet : Bytes) (pnOffset : ℕ) (now : ℚ) (zeroRtt : Bool) :
    Except Raised (Space.Revealed × Bytes × Bool) :=
  let space := c.spaces level
  if zeroRtt then
    match space.keysRecvEarly with
    | none => .error .assertion
    | some keys => do
      let unprotected ← env.removeHeaderProtection keys packet pnOffset space.largestReceived
      let payload ← env.decryptPayload keys unprotected
      return (⟨unprotected.packetNumber, unprotected.keyPhase⟩, payload, false)
  else
    match space.keysRecv with
    | none => .error .assertion
    | some current => do
      let unprotected ← env.removeHeaderProtection current packet pnOffset space.largestReceived
      let revealed : Space.Revealed := ⟨unprotected.packetNumber, unprotected.keyPhase⟩
      let (keys, updating) ← space.receiveKeys level revealed c.recovery.handshakeConfirmed now
      let payload ← env.decryptPayload keys unprotected
      return (revealed, payload, updating)

def Conn.openingKeys (c : Conn env) (level : Level) (revealed : Space.Revealed) (now : ℚ) (zeroRtt : Bool) :
    Option PacketKeys :=
  let space := c.spaces level
  if zeroRtt then space.keysRecvEarly
  else (space.receiveKeys level revealed c.recovery.handshakeConfirmed now).toOption.map (·.1)

def decrypt (level : Level) (packet : Bytes) (pnOffset : ℕ) (now : ℚ) (zeroRtt : Bool) :
    M env (Option (ℕ × Bytes)) := do
  let c ← get
  match c.unprotect level packet pnOffset now zeroRtt with
  | .error .invalidTag | .error (.value _) => return none
  | .error e => throw e
  | .ok (revealed, payload, updating) =>
    doIf updating (rotateKeys level now)
    doIf (level = .oneRtt ∧ ¬zeroRtt) (modify fun c => c.onSpace level (·.noteKeyPhase revealed))
    let keys := c.openingKeys level revealed now zeroRtt
    modify fun c => (c.note (.unsealed level zeroRtt packet pnOffset keys revealed)).note (.opened level zeroRtt)
    return some (revealed.packetNumber, payload)

def requeueFrame (level : Level) (frame : Frame) : M env PUnit := do
  let c ← get
  match frame with
  | .crypto crypto =>
    set (c.onSpace level fun space => { space with cryptoRetransmit := space.cryptoRetransmit ++ [crypto] })
  | .handshakeDone => set { c with handshakeDonePending := true }
  | .newToken _ | .pathChallenge _ => set (c.queueControl frame)
  | .stream stream =>
    match c.streams with
    | none => pure ⟨⟩
    | some streams =>
      onStreams streams (StreamManager.withSend stream.streamId fun send => .ok (send.requeue stream))
  | .maxData _ =>
    match c.streams with
    | none => pure ⟨⟩
    | some streams => set (c.queueControl (.maxData streams.localMaxData))
  | .maxStreamData streamId _ =>
    match c.streams with
    | none => pure ⟨⟩
    | some streams => do
      let recv ← lift (streams.recvStream streamId)
      set (c.queueControl (.maxStreamData streamId recv.maxStreamData))
  | .maxStreams _ bidirectional =>
    match c.streams with
    | none => pure ⟨⟩
    | some streams => set (c.queueControl (.maxStreams
        (if bidirectional then streams.localMaxStreamsBidi else streams.localMaxStreamsUni) bidirectional))
  | _ => pure ⟨⟩

def requeueLost (packet : SentPacket) : M env PUnit := each (requeueFrame packet.level) packet.frames

def resendEarlyApplicationData : M env PUnit := do
  let c ← get
  if c.hasPendingData .oneRtt then pure ⟨⟩
  else each requeueLost ((c.recovery.unacked .oneRtt).take 2)

def prepareProbe (level : Level) : M env PUnit := do
  let c ← get
  doIf (level = .handshake ∧ ¬c.recovery.handshakeConfirmed) resendEarlyApplicationData
  let c ← get
  if c.hasPendingData level then pure ⟨⟩
  else each requeueLost ((c.recovery.unacked level).take 2)

/-- Midway between the largest float and 2^1024. -/
@[irreducible] def floatLimit : ℕ := 2 ^ 1024 - 2 ^ 970

/-- The power is computed also for a delay of 0. The quotient of two integers raises when it is nearer to 2^1024
than to any float. -/
def ackDelaySeconds (shiftLimit delay exponent : ℕ) : Except Raised ℚ :=
  if exponent > shiftLimit then .error .memory
  else if delay * 2 ^ exponent ≥ 1000000 * floatLimit then
    .error (.overflow "integer division result too large for a float")
  else .ok ((delay * 2 ^ exponent : ℕ) / 1000000)

def onFrameAcked (frame : Frame) : M env PUnit := do
  let c ← get
  match frame, c.streams with
  | .stream stream, some streams =>
    onStreams streams (StreamManager.withSend stream.streamId fun send => .ok (send.onFrameAcked stream))
  | _, _ => pure ⟨⟩

def onPacketAcked (packet : SentPacket) : M env PUnit := do
  modify fun c => c.note (.acked packet)
  each onFrameAcked packet.frames

def refuseAckOfUnsent : Raised → Raised
  | .ackOfUnsent reason => .connection protocolViolation reason (some 0)
  | e => e

def handleAck (level : Level) (ack : Ack) (now : ℚ) : M env PUnit := do
  let c ← get
  let exponent := (c.peerParameters.map (·.ackDelayExponent)).getD 3
  let ackDelay ← lift (ackDelaySeconds env.shiftLimit ack.delay exponent)
  let outcome ← tryCatch (zoom Conn.recovery (fun recovery c => c.setRecovery recovery)
    (LossDetection.onAckReceived level ack ackDelay now)) fun e => throw (refuseAckOfUnsent e)
  modify fun c => c.validateEcn level ack outcome.acked now
  each onPacketAcked outcome.acked
  each requeueLost outcome.lost
  let c ← get
  doIf (c.isClient ∧ level = .handshake) (modify fun c => c.discardSpace .initial)

def maxStreamsLimit : ℕ := 2 ^ 60

def handleMaxStreams (maximum : ℕ) (bidirectional : Bool) : M env PUnit := do
  raiseIf (maximum > maxStreamsLimit)
    (.connection frameEncodingError s!"MAX_STREAMS {maximum} exceeds 2^60" (some 0))
  modify fun c => { c with streams := c.streams.map (·.onMaxStreams maximum bidirectional) }

def handleMaxStreamData (streamId maximum : ℕ) : M env PUnit := do
  let c ← get
  match c.streams with
  | none => pure ⟨⟩
  | some streams =>
    onStreams streams (StreamManager.withSend streamId fun send => .ok (send.onMaxStreamData maximum))

def refuseStream : Raised → Raised
  | .stream errorCode reason => .connection errorCode reason (some 0)
  | e => e

def handleStream (frame : Stream) : M env PUnit := do
  let c ← get
  match c.streams with
  | none => throw (.connection protocolViolation "STREAM frame before transport parameters" (some 0))
  | some streams => do
    let (event, control) ← tryCatch (onStreams streams (StreamManager.handleStream frame)) fun e =>
      throw (refuseStream e)
    modify fun c => { c with
      events := c.events ++ (event.map Event.streamDataReceived).toList
      controlFrames := c.controlFrames ++ control }

def syncEarlyKeys (tls : env.Tls) : M env PUnit := do
  modify fun c => c.note (.synced (!c.isClient && (env.earlySecret tls).isSome) c.recovery.handshakeConfirmed)
  let c ← get
  let space := c.spaces .oneRtt
  match env.earlySecret tls with
  | none => set (c.setSpace .oneRtt { space with keysSendEarly := none })
  | some secret =>
    let keys := env.derivePacketKeys secret (env.cipherSuite tls)
    if c.isClient then
      if space.keysSendEarly = none then set (c.setSpace .oneRtt { space with keysSendEarly := some keys })
      else pure ⟨⟩
    else if space.keysRecvEarly = none then do
      set (c.setSpace .oneRtt { space with keysRecvEarly := some keys })
      if c.streams.isNone then do
        let peer ← lift (TransportParameters.decode (env.clientTransportParameters tls))
        modify fun c => { c with
          peerParameters := some peer
          streams := some (.new false (flowLimits c.localParameters) (flowLimits peer)) }
      else pure ⟨⟩
    else pure ⟨⟩

def validatePeerParameters (peer : TransportParameters) : M env PUnit := do
  let c ← get
  raiseIf (peer.initialSourceConnectionId ≠ none ∧ peer.initialSourceConnectionId ≠ some c.peerCid)
    (.connection transportParameterError "initial_source_connection_id mismatch" (some 0))
  raiseIf (c.isClient ∧ peer.originalDestinationConnectionId ≠ none ∧
      peer.originalDestinationConnectionId ≠ some c.initialDcid)
    (.connection transportParameterError "original_destination_connection_id mismatch" (some 0))
  raiseIf (c.isClient ∧ peer.retrySourceConnectionId ≠ c.retrySourceCid)
    (.connection transportParameterError "retry_source_connection_id mismatch" (some 0))

def adoptPeerLimits (peer : TransportParameters) : M env PUnit := do
  let c ← get
  match c.streams with
  | none => set (c.setStreams (.new c.isClient (flowLimits c.localParameters) (flowLimits peer)))
  | some streams =>
    if c.isClient then do
      match c.tls, c.rememberedParameters with
      | some tls, some remembered => do
        raiseIf (env.earlyDataAccepted tls ∧ remembered.reducesZeroRttLimits peer)
          (.connection protocolViolation "limits reduced under accepted 0-RTT (RFC 9001 §7.4.1)" (some 0))
        set (c.setStreams (streams.updatePeerLimits (flowLimits peer)))
      | _, _ => throw .assertion
    else pure ⟨⟩

def resendRejectedEarlyData : M env PUnit := do
  let c ← get
  match c.tls with
  | none => pure ⟨⟩
  | some tls =>
    if c.isClient ∧ env.earlySecret tls ≠ none ∧ ¬env.earlyDataAccepted tls then do
      let (packets, recovery) := c.recovery.restartSpace .oneRtt
      set (c.setRecovery recovery)
      each requeueLost packets
    else pure ⟨⟩

def Conn.connected (c : Conn env) : Conn env :=
  { c.note (.completed c.state) with
    state := .connected
    events := c.events ++ [.handshakeCompleted c.alpn] }

def onHandshakeComplete (alpn : String) (peerTransportParameters : Bytes) (now : ℚ) : M env PUnit := do
  modify fun c => { c with alpn := alpn }
  let peer ← lift (TransportParameters.decode peerTransportParameters)
  modify fun c => { c with peerParameters := some peer }
  validatePeerParameters peer
  modify fun c => c.note (.agreed peerTransportParameters peer c.peerCid)
  adoptPeerLimits peer
  modify fun c => c.onSpace .oneRtt fun space => { space with keysSendEarly := none }
  resendRejectedEarlyData
  modify Conn.connected
  let c ← get
  doIf (¬c.isClient) (modify fun c => { c with handshakeDonePending := true }.confirmHandshake)
  modify fun c => c.armIdleTimer now

def onTlsEvent (now : ℚ) : TlsEvent → M env PUnit
  | .sendData level data => modify fun c => (c.note (.emitted level data)).onSpace level fun space =>
      { space with cryptoPending := space.cryptoPending ++ data }
  | .secretAvailable level ofClient secret cipherSuite _ =>
    modify fun c => c.onSecret level ofClient secret cipherSuite
  | .handshakeComplete alpn peerTransportParameters => onHandshakeComplete alpn peerTransportParameters now

def drainTlsEvents (now : ℚ) : M env PUnit := do
  let c ← get
  match c.tls with
  | none => pure ⟨⟩
  | some tls => do
    let (events, tls) := env.takeEvents tls
    set { c with tls := some tls }
    each (onTlsEvent now) events
    syncEarlyKeys tls

def maxCryptoBuffer : ℕ := 65536

def Space.acceptCrypto (space : Space PacketKeys Bytes) (frame : Crypto) :
    Bytes × Space PacketKeys Bytes :=
  let stop := frame.offset + frame.data.length
  let buffer := splice 0 space.cryptoBuffer frame.offset frame.data
  let received := space.cryptoReceived.add frame.offset stop
  let readable := received.contiguousFrom space.cryptoReadOffset
  ((buffer.take readable).drop space.cryptoReadOffset,
    { space with cryptoBuffer := buffer, cryptoReceived := received, cryptoReadOffset := readable })

def refuseAlert : Raised → Raised
  | .tlsAlert alert reason => .connection (cryptoErrorBase + alert) reason (some 0)
  | e => e

def handleCrypto (level : Level) (frame : Crypto) (now : ℚ) : M env PUnit := do
  let c ← get
  match c.tls with
  | none => throw (.connection protocolViolation "CRYPTO frame before Initial" (some 0))
  | some tls => do
    let stop := frame.offset + frame.data.length
    raiseIf (stop > maxCryptoBuffer)
      (.connection cryptoBufferExceeded s!"CRYPTO offset {stop} exceeds the buffer limit" (some 0))
    let (ordered, space) := (c.spaces level).acceptCrypto frame
    set ((c.note (.reassembled level frame ordered)).setSpace level space)
    if space.cryptoReadOffset = (c.spaces level).cryptoReadOffset then pure ⟨⟩
    else do
      tryCatch (zoom (fun _ => tls) (fun tls c => { c with tls := some tls }) (env.receive level ordered now))
        fun e => throw (refuseAlert e)
      drainTlsEvents now

def handleFrame (level : Level) (frame : Frame) (now : ℚ) : M env PUnit := do
  let c ← get
  match frame with
  | .ack ack => handleAck level ack now
  | .crypto crypto => handleCrypto level crypto now
  | .stream stream => handleStream stream
  | .maxData maximum => modify fun c => { c with streams := c.streams.map (·.onMaxData maximum) }
  | .maxStreamData streamId maximum => handleMaxStreamData streamId maximum
  | .maxStreams maximum bidirectional => handleMaxStreams maximum bidirectional
  | .handshakeDone => do
    raiseIf (¬c.isClient) (.connection protocolViolation "client sent HANDSHAKE_DONE" (some 0))
    set c.confirmHandshake
  | .newToken token => do
    raiseIf (¬c.isClient) (.connection protocolViolation "client sent NEW_TOKEN" (some 0))
    set { c with newTokens := c.newTokens ++ [token] }
  | .pathChallenge data => set (c.queueControl (.pathResponse data))
  | .pathResponse data =>
    set (if data ∈ c.pathChallenges then { c with pathChallenges := [], pathValidated := true } else c)
  | .connectionClose close => set (c.onConnectionClose close now)
  | _ => pure ⟨⟩

def barredFromZeroRtt : Frame → Bool
  | .ack _ | .crypto _ | .newToken _ | .pathResponse _ => true
  | _ => false

def handlePacketFrame (level : Level) (zeroRtt : Bool) (now : ℚ) (frame : Frame) : M env PUnit := do
  modify fun c => c.note (.handled c.state frame)
  raiseIf (zeroRtt ∧ barredFromZeroRtt frame)
    (.connection protocolViolation "frame not permitted in a 0-RTT packet" (some 0))
  doIf (isAckEliciting frame) (modify fun c => c.onSpace level fun space =>
    { space with ackElicitingPending := true })
  handleFrame level frame now

def handleFrames (level : Level) (frames : List Frame) (now : ℚ) (zeroRtt : Bool) : M env PUnit :=
  each (handlePacketFrame level zeroRtt now) frames

def refuseMalformed : Raised → Raised
  | .frameParse reason | .bufferRead reason => .connection frameEncodingError reason (some 0)
  | e => e

def handlePayload (level : Level) (payload : Bytes) (now : ℚ) (zeroRtt : Bool) : M env PUnit := do
  let frames ← lift ((parseFrames payload).mapError refuseMalformed)
  handleFrames level frames now zeroRtt

def handleVersionNegotiation (data : Bytes) : M env PUnit := do
  let c ← get
  if c.peerCidConfirmed then pure ⟨⟩
  else
    match parseVersionNegotiation data with
    | .error (.bufferRead _) => pure ⟨⟩
    | .error e => throw e
    | .ok packet =>
      if c.config.version ∈ packet.versions ∨ packet.destinationCid ≠ c.hostCid ∨ packet.sourceCid ≠ c.peerCid
      then pure ⟨⟩
      else modify fun c => { c with
        events := c.events ++ [.versionNegotiationReceived packet.versions]
        state := .terminated }

def isHeaderFailure : Raised → Bool
  | .headerParse _ | .bufferRead _ | .unsupportedVersion _ => true
  | _ => false

/-- The handshake starts again under the server's token; packet numbers do not. -/
def Conn.afterRetry (c : Conn env) (packet : Primitives.Retry) : Conn env :=
  { c with
    retryToken := packet.token
    retrySourceCid := some packet.sourceCid
    peerCid := packet.sourceCid }.installInitialKeys packet.sourceCid

def requeueCrypto (packet : SentPacket) : M env PUnit :=
  each (fun
    | .crypto crypto => requeueFrame .initial (.crypto crypto)
    | _ => pure ⟨⟩) packet.frames

def acceptRetry (data : Bytes) (packet : Primitives.Retry) : M env PUnit := do
  modify fun c => c.afterRetry packet
  let c ← get
  let (packets, recovery) := c.recovery.restartSpace .initial
  set (c.setRecovery recovery)
  each requeueCrypto packets
  modify fun c => c.note (.retried data packet (c.spaces .initial).cryptoRetransmit)

def handleRetry (data : Bytes) : M env PUnit := do
  let c ← get
  if c.retryToken ≠ [] ∨ c.peerCidConfirmed then pure ⟨⟩
  else
    match env.parseRetry data c.initialDcid with
    | .error e => raiseIf (¬isHeaderFailure e) e
    | .ok packet => if packet.token = [] then pure ⟨⟩ else acceptRetry data packet

def adoptClientInitial (dcid scid : Bytes) : M env PUnit := do
  let c ← get
  doIf c.tls.isNone (do
    let c := { c with initialDcid := dcid, localParameters := c.parametersFor dcid }
    set c
    let encoded ← lift c.localParameters.encode
    set (({ c with tls := some (env.newServer encoded) }.installInitialKeys dcid).note (.adopted dcid scid)))
  modify fun c => if c.peerCid = [] then { c with peerCid := scid } else c

structure Located where
  level : Level
  pnOffset : ℕ
  packet : Bytes
  packetEnd : ℕ

def levelOf : PacketType → Option Level
  | .initial => some .initial
  | .handshake => some .handshake
  | .zeroRtt => some .oneRtt
  | .retry => none

def noteLongHeader (header : LongHeader) (level : Level) : M env PUnit := do
  let c ← get
  if ¬c.isClient ∧ level = .initial then adoptClientInitial header.destinationCid header.sourceCid
  else if c.isClient ∧ ¬c.peerCidConfirmed then
    set { c with peerCid := header.sourceCid, peerCidConfirmed := true }
  else pure ⟨⟩

def locateLong (data : Bytes) : M env (Option Located) := do
  let c ← get
  let header ← lift (parseLongHeader data)
  match levelOf header.packetType with
  | none => return none
  | some level =>
    if c.isClient ∧ header.packetType = .zeroRtt then return none
    else do
      noteLongHeader header level
      let packetEnd := header.pnOffset + header.length
      return some ⟨level, header.pnOffset, data.take packetEnd, packetEnd⟩

def locatePacket (data : Bytes) : M env (Option Located) := do
  let c ← get
  if ¬isLong (data.headD 0) then do
    let header ← lift (parseShortHeader data c.hostCid.length)
    return some ⟨.oneRtt, header.pnOffset, data, data.length⟩
  else if c.isClient ∧ isVersionNegotiation data then do
    handleVersionNegotiation data
    return none
  else if c.isClient ∧ Primitives.isRetry data then do
    handleRetry data
    return none
  else locateLong data

def Conn.noteReceived (c : Conn env) (level : Level) (packetNumber : ℕ) (now : ℚ) (ecn : ℕ) : Conn env :=
  let largest := (c.spaces level).largestReceived
  let c := c.onSpace level (·.noteReceived packetNumber ecn)
  let c := if (packetNumber : ℤ) > largest
    then { c with largestTimeReceived := Function.update c.largestTimeReceived level (some now) } else c
  if ¬c.isClient ∧ level = .handshake then { c.discardSpace .initial with addressValidated := true } else c

def openPacket (located : Located) (zeroRtt : Bool) (now : ℚ) (ecn : ℕ) : M env ℕ := do
  let decrypted ← decrypt located.level located.packet located.pnOffset now zeroRtt
  match decrypted with
  | none => return located.packetEnd
  | some (packetNumber, payload) => do
    let c ← get
    if (c.spaces located.level).received.covers packetNumber (packetNumber + 1) then
      return located.packetEnd
    else do
      set ((c.noteReceived located.level packetNumber now ecn).note
        (.processed located.level packetNumber ecn payload))
      handlePayload located.level payload now zeroRtt
      return located.packetEnd

def admits (c : Conn env) (level : Level) (zeroRtt : Bool) : Bool :=
  let space := c.spaces level
  let keys := if zeroRtt then space.keysRecvEarly else space.keysRecv
  keys.isSome && !space.discarded && !(level = .oneRtt && !zeroRtt && c.state = .handshaking)

/-- The number of bytes consumed, zero when the rest of the datagram is given up. -/
def processPacket (data : Bytes) (now : ℚ) (ecn : ℕ) : M env ℕ := do
  let located ← tryCatch (locatePacket data) fun e =>
    if isHeaderFailure e then pure none else throw e
  match located with
  | none => return 0
  | some located =>
    let zeroRtt : Bool := located.level = .oneRtt && isLong (located.packet.headD 0)
    let c ← get
    if admits c located.level zeroRtt then openPacket located zeroRtt now ecn
    else return located.packetEnd

/-- Every round but the last consumes a byte, so the length of the datagram bounds the rounds. -/
def processPackets (now : ℚ) (ecn : ℕ) : ℕ → Bytes → M env PUnit
  | 0, _ => pure ⟨⟩
  | rounds + 1, data =>
    if data = [] then pure ⟨⟩
    else do
      let consumed ← processPacket data now ecn
      if consumed = 0 then pure ⟨⟩ else processPackets now ecn rounds (data.drop consumed)

def receiveDatagram (data : Bytes) (now : ℚ) (source : Option env.Destination) (ecn : ℕ) : M env PUnit := do
  let c ← get
  if c.state = .terminated ∨ c.state = .draining then pure ⟨⟩
  else do
    set { c with
      bytesReceived := c.bytesReceived + data.length
      destination := c.destination <|> source }
    processPackets now ecn data.length data
    modify fun c => c.armIdleTimer now

/-- A transport error becomes a CONNECTION_CLOSE and an event; other exceptions escape. -/
def closeOnError : Raised → M env PUnit
  | .connection errorCode reason frameType => modify fun c =>
    let c := (c.note (.aborted c.state)).close errorCode reason frameType
    { c with events := c.events ++ [.connectionTerminated errorCode reason] }
  | e => throw e

def datagramReceived (data : Bytes) (now : ℚ) (source : Option env.Destination) (ecn : ℕ) : M env PUnit :=
  tryCatch (receiveDatagram data now source ecn) closeOnError

end Dsquic.Connection
