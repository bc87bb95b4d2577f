import Dsquic.Connection.Session
import Dsquic.Streams.Credit
import Mathlib.Logic.Relation

/-!
The part of a connection's state that its invariants speak of, and the effects by which the operations
change it. Every run is a path of effects, so an invariant need only survive each of them.
-/

namespace Dsquic.Connection

open Lib Wire Streams Recovery

/-- What is still to be sent of one packet number space. `early` says that it has keys for 0-RTT. -/
structure Queue where
  nextPacketNumber : ℕ
  cryptoPending : Bytes
  cryptoOffsetSent : ℕ
  cryptoRetransmit : List Crypto
  discarded : Bool
  early : Bool
  sendKeys : Option PacketKeys

def Space.queue (space : Space PacketKeys Bytes) : Queue where
  nextPacketNumber := space.nextPacketNumber
  cryptoPending := space.cryptoPending
  cryptoOffsetSent := space.cryptoOffsetSent
  cryptoRetransmit := space.cryptoRetransmit
  discarded := space.discarded
  early := space.keysRecvEarly.isSome
  sendKeys := space.keysSend

structure Receipts where
  received : RangeSet ℕ
  largestReceived : ℤ
  ecnEct0 : ℕ
  ecnEct1 : ℕ
  ecnCe : ℕ

def Receipts.new : Receipts := ⟨.empty, -1, 0, 0, 0⟩

def Receipts.add (receipts : Receipts) (packetNumber ecn : ℕ) : Receipts where
  received := receipts.received.add packetNumber (packetNumber + 1)
  largestReceived := max receipts.largestReceived packetNumber
  ecnEct0 := if ecn = 2 then receipts.ecnEct0 + 1 else receipts.ecnEct0
  ecnEct1 := if ecn = 1 then receipts.ecnEct1 + 1 else receipts.ecnEct1
  ecnCe := if ecn = 3 then receipts.ecnCe + 1 else receipts.ecnCe

structure Reassembly where
  received : RangeSet ℕ
  buffer : Bytes
  readOffset : ℕ

def Reassembly.new : Reassembly := ⟨.empty, [], 0⟩

def Reassembly.accept (r : Reassembly) (frame : Crypto) : Bytes × Reassembly :=
  let buffer := splice 0 r.buffer frame.offset frame.data
  let received := r.received.add frame.offset (frame.offset + frame.data.length)
  let readable := received.contiguousFrom r.readOffset
  ((buffer.take readable).drop r.readOffset, ⟨received, buffer, readable⟩)

structure Phase where
  current : Option PacketKeys
  next : Option PacketKeys
  previous : Option PacketKeys
  bit : Bool
  first : Option ℕ

def Phase.new : Phase := ⟨none, none, none, false, some 0⟩

/-- What one packet number space has taken in. `sendsEarly` says that it has keys to send 0-RTT with. -/
structure Inbox where
  receipts : Receipts
  reassembly : Reassembly
  phase : Phase
  sendsEarly : Bool

def Inbox.new : Inbox := ⟨.new, .new, .new, false⟩

def Space.inbox (space : Space PacketKeys Bytes) : Inbox where
  receipts := ⟨space.received, space.largestReceived, space.ecnEct0, space.ecnEct1, space.ecnCe⟩
  reassembly := ⟨space.cryptoReceived, space.cryptoBuffer, space.cryptoReadOffset⟩
  phase := ⟨space.keysRecv, space.keysRecvNext, space.keysRecvPrevious, space.keyPhase, space.keyPhaseFirst⟩
  sendsEarly := space.keysSendEarly.isSome

/-- What the caller of a connection has given it and been given, and whether every call to send has returned. A
`lax` caller hands over frames that no packet brought. A client is `retrying` while it answers a Retry, and a
connection is `confirming` until the spaces of its handshake are gone. -/
structure Caller where
  passed : ℕ
  returned : ℕ
  taken : List Event
  written : ℕ → ℕ
  finished : ℕ → Bool
  intact : Bool
  lax : Bool
  retrying : Bool
  confirming : Bool

def Caller.new : Caller := ⟨0, 0, [], fun _ => 0, fun _ => false, true, false, false, false⟩

/-- `held` are the frames in hand: out of a queue or of a packet, and not yet in another. -/
structure Core where
  prims : Primitives
  isClient : Bool
  config : Config
  hostCid : Bytes
  peerCid : Bytes
  peerCidConfirmed : Bool
  initialDcid : Bytes
  retryToken : Bytes
  retrySourceCid : Option Bytes
  state : ConnectionState
  events : List Event
  trace : List Note
  queues : Level → Queue
  inboxes : Level → Inbox
  hasTls : Bool
  recovery : LossDetection
  streams : Option StreamManager
  controlFrames : List Frame
  probesPending : Level → ℕ
  donePending : Bool
  closeFrame : Option ConnectionClose
  closeSent : Bool
  bytesReceived : ℕ
  bytesSent : ℕ
  addressValidated : Bool
  pending : ℕ
  caller : Caller
  held : List (Level × Frame)

def Conn.core {env : Env} (c : Conn env) (caller : Caller) (held : List (Level × Frame)) : Core where
  prims := env.toPrimitives
  isClient := c.isClient
  config := c.config
  hostCid := c.hostCid
  peerCid := c.peerCid
  peerCidConfirmed := c.peerCidConfirmed
  initialDcid := c.initialDcid
  retryToken := c.retryToken
  retrySourceCid := c.retrySourceCid
  state := c.state
  events := c.events
  trace := c.trace
  queues level := (c.spaces level).queue
  inboxes level := (c.spaces level).inbox
  hasTls := c.tls.isSome
  recovery := c.recovery
  streams := c.streams
  controlFrames := c.controlFrames
  probesPending := c.probesPending
  donePending := c.handshakeDonePending
  closeFrame := c.closeFrame
  closeSent := c.closeSent
  bytesReceived := c.bytesReceived
  bytesSent := c.bytesSent
  addressValidated := c.addressValidated
  pending := Session.totalLength c.pending
  caller := caller
  held := held

def Note.closedSize : Note → ℕ
  | .closed _ _ _ size => size
  | _ => 0

def closedSize (trace : List Note) : ℕ := (trace.map Note.closedSize).sum

def isLoud : Frame → Bool
  | .stream _ | .crypto _ | .handshakeDone | .connectionClose _ => true
  | _ => false

def inHand (packets : List SentPacket) : List (Level × Frame) :=
  packets.flatMap fun packet => packet.frames.map (packet.level, ·)

namespace Core

variable (s : Core)

def note (note : Note) : Core := { s with trace := note :: s.trace }

def onQueue (level : Level) (f : Queue → Queue) : Core :=
  { s with queues := Function.update s.queues level (f (s.queues level)) }

def onInbox (level : Level) (f : Inbox → Inbox) : Core :=
  { s with inboxes := Function.update s.inboxes level (f (s.inboxes level)) }

def hold (frames : List (Level × Frame)) : Core := { s with held := s.held ++ frames }

def report (event : Event) : Core := { s with events := s.events ++ [event] }

def unvalidated : Bool := !s.isClient && !s.addressValidated

def allowance : ℤ := 3 * s.bytesReceived - s.bytesSent

def token : Bytes := if s.retryToken ≠ [] then s.retryToken else s.config.token

def install (dcid : Bytes) : Core :=
  (s.onQueue .initial fun queue => { queue with sendKeys := some (s.prims.initialKeys s.isClient dcid) }).onInbox
    .initial fun inbox => { inbox with phase :=
      { inbox.phase with current := some (s.prims.initialKeys (!s.isClient) dcid) } }

def close (frame : ConnectionClose) : Core :=
  if s.state = .closing ∨ s.state = .draining then s
  else { s.note (.closing s.state) with closeFrame := some frame, state := .closing }

def process (level : Level) (packetNumber ecn : ℕ) (payload : Bytes) : Core :=
  (s.note (.processed level packetNumber ecn payload)).onInbox level fun inbox =>
    { inbox with receipts := inbox.receipts.add packetNumber ecn }

def drain (errorCode : ℕ) (reason : String) : Core :=
  { s.note .drained with state := .draining }.report (.connectionTerminated errorCode reason)

def Sending : Prop := s.closeFrame = none ∧ s.state ≠ .draining ∧ s.state ≠ .terminated

def Live : Prop := s.state = .connected ∨ ∃ frame, isLoud frame = true ∧ Note.handled s.state frame ∈ s.trace

def send? (i : ℕ) : Option SendStream := s.streams.bind (·.send? i)

def recv? (i : ℕ) : Option RecvStream := s.streams.bind (·.recv? i)

def Queueable : Frame → Prop
  | .stream _ | .crypto _ | .ack _ | .ping | .padding _ | .connectionClose _ => False
  | .maxStreamData i _ => (s.recv? i).isSome
  | _ => True

def Acked (level : Level) (frame : Frame) : Prop :=
  ∃ packet, Note.acked packet ∈ s.trace ∧ packet.level = level ∧ frame ∈ packet.frames

def Announced (level : Level) (frame : Frame) : Prop :=
  level ≠ .oneRtt ∨ (∀ m, s.streams = some m → m.Advertises frame → frame ∈ s.controlFrames) ∨ s.Acked level frame

def Spent (level : Level) : Frame → Prop
  | .crypto crypto => ∃ packet, Note.acked packet ∈ s.trace ∧ packet.level = level ∧ .crypto crypto ∈ packet.frames
  | .stream _ => level ≠ .oneRtt ∨ s.streams = none
  | .maxData limit => s.Announced level (.maxData limit)
  | .maxStreamData i limit => s.Announced level (.maxStreamData i limit)
  | .maxStreams limit bidirectional => s.Announced level (.maxStreams limit bidirectional)
  | .handshakeDone => level ≠ .oneRtt ∨ s.donePending = true ∨ s.Acked level .handshakeDone
  | _ => True

def Opens (keys : Option PacketKeys) (revealed : Space.Revealed) : Prop :=
  (keys = (s.inboxes .oneRtt).phase.current ∨ keys = (s.inboxes .oneRtt).phase.previous) ∧
    (revealed.keyPhase = (s.inboxes .oneRtt).phase.bit →
      ∃ first, (s.inboxes .oneRtt).phase.first = some first ∧ first ≤ revealed.packetNumber)

def Heard : Prop := s.caller.lax = true ∨ (s.isClient = true → s.peerCidConfirmed = true)

def Delivered (level : Level) (frame : Frame) : Prop :=
  s.Heard ∧ (s.caller.lax = true ∨ ∃ packetNumber ecn payload frames,
    Note.processed level packetNumber ecn payload ∈ s.trace ∧ parseFrames payload = .ok frames ∧ frame ∈ frames)

structure Agrees (peer : TransportParameters) : Prop where
  source : peer.initialSourceConnectionId ≠ none → peer.initialSourceConnectionId = some s.peerCid
  original : s.isClient = true → peer.originalDestinationConnectionId ≠ none →
    peer.originalDestinationConnectionId = some s.initialDcid
  retry : s.isClient = true → peer.retrySourceConnectionId = s.retrySourceCid

def Flown (crypto : Crypto) : Prop :=
  ∃ keys packetNumber frames, Note.sealed .initial keys packetNumber frames ∈ s.trace ∧ .crypto crypto ∈ frames

structure Retries (data : Bytes) (packet : Primitives.Retry) : Prop where
  isClient : s.isClient = true
  unheard : s.peerCidConfirmed = false
  verified : s.prims.parseRetry data s.initialDcid = .ok packet
  token : s.retryToken = packet.token
  nonempty : packet.token ≠ []
  source : s.retrySourceCid = some packet.sourceCid
  queued : ∀ crypto, s.Flown crypto → crypto ∈ (s.queues .initial).cryptoRetransmit
  first : ∀ data packet queued, Note.retried data packet queued ∉ s.trace

def spent : ℕ := s.bytesSent + closedSize s.trace

def sizeBound : ℤ := max (s.config.maxDatagramSize + s.token.length) s.allowance

def closeBound (reasonLength : ℕ) : ℕ := 96 + s.token.length + reasonLength

end Core

def isPlain : Frame → Bool
  | .ack _ | .ping => true
  | _ => false

def ClosesFirst (payload : Bytes) (frame : ConnectionClose) : Prop :=
  ∃ rest, parseFrames payload = .ok (.connectionClose frame :: rest)

inductive Effect : Core → Core → Prop
  | pass (s : Core) (length : ℕ) :
      Effect s { s with caller := { s.caller with passed := s.caller.passed + length } }
  | receive (s : Core) (length : ℕ) (h : s.bytesReceived + length ≤ s.caller.passed) :
      Effect s { s with bytesReceived := s.bytesReceived + length }
  | address (s : Core) (cid : Bytes) (h : cid.length ≤ maxCidLength) (hclient : s.isClient = true)
      (hunheard : s.peerCidConfirmed = false) : Effect s { s with peerCid := cid, peerCidConfirmed := true }
  | learn (s : Core) (cid : Bytes) (h : cid.length ≤ maxCidLength) (hserver : s.isClient = false)
      (htls : s.hasTls = true) (hnew : s.peerCid = []) : Effect s { s with peerCid := cid }
  | aim (s : Core) (dcid : Bytes) (hserver : s.isClient = false) (htls : s.hasTls = false) :
      Effect s { s with initialDcid := dcid }
  | adopt (s : Core) (dcid scid : Bytes) (h : scid.length ≤ maxCidLength) (hserver : s.isClient = false)
      (htls : s.hasTls = false) :
      Effect s ({ s.note (.adopted dcid scid) with
        initialDcid := dcid
        peerCid := if s.peerCid = [] then scid else s.peerCid
        hasTls := true }.install dcid)
  | install (s : Core) (hclient : s.isClient = true) (hfirst : s.retryToken = []) :
      Effect s (s.install s.initialDcid)
  | retry (s : Core) (packet : Primitives.Retry) (h : packet.sourceCid.length ≤ maxCidLength)
      (hclient : s.isClient = true) (hunheard : s.peerCidConfirmed = false) (hfirst : s.retryToken = [])
      (htoken : packet.token ≠ []) :
      Effect s ({ s with
        peerCid := packet.sourceCid
        retryToken := packet.token
        retrySourceCid := some packet.sourceCid
        caller := { s.caller with retrying := true } }.install packet.sourceCid)
  | retried (s : Core) (data : Bytes) (packet : Primitives.Retry) (retrying : Bool)
      (h : s.caller.lax = false → s.Retries data packet) :
      Effect s { s.note (.retried data packet (s.queues .initial).cryptoRetransmit) with
        caller := { s.caller with retrying := retrying } }
  | agree (s : Core) (parameters : Bytes) (peer : TransportParameters) (hheard : s.Heard)
      (hdecoded : TransportParameters.decode parameters = .ok peer) (h : s.Agrees peer) (htls : s.hasTls = true) :
      Effect s (s.note (.agreed parameters peer s.peerCid))
  | validate (s : Core) : Effect s { s with addressValidated := true }
  | opened (s : Core) (level : Level) (zeroRtt : Bool) (h : (s.queues level).discarded = false)
      (hearly : zeroRtt = true → (s.queues level).early = true) : Effect s (s.note (.opened level zeroRtt))
  | unveil (s : Core) (level : Level) (zeroRtt : Bool) (packet : Bytes) (pnOffset : ℕ) (keys : Option PacketKeys)
      (revealed : Space.Revealed)
      (hkeys : (s.queues level).early = true ∨ (s.inboxes level).phase.current.isSome = true)
      (h : level = .oneRtt → zeroRtt = false → s.Opens keys revealed) :
      Effect s (s.note (.unsealed level zeroRtt packet pnOffset keys revealed))
  | process (s : Core) (level : Level) (packetNumber ecn : ℕ) (payload : Bytes)
      (h : (s.inboxes level).receipts.received.covers packetNumber (packetNumber + 1) = false)
      (hcloses : ∀ frame, ¬ClosesFirst payload frame) : Effect s (s.process level packetNumber ecn payload)
  | processClose (s : Core) (level : Level) (packetNumber ecn : ℕ) (payload : Bytes) (frame : ConnectionClose)
      (reason : String) (h : (s.inboxes level).receipts.received.covers packetNumber (packetNumber + 1) = false)
      (hcloses : ClosesFirst payload frame) (hstate : s.state ≠ .terminated) :
      Effect s { s with
        trace := .drained :: .handled s.state (.connectionClose frame) ::
          .processed level packetNumber ecn payload ::
          s.trace
        inboxes := Function.update s.inboxes level
          { s.inboxes level with receipts := (s.inboxes level).receipts.add packetNumber ecn }
        state := .draining
        events := s.events ++ [.connectionTerminated frame.errorCode reason] }
  | reassemble (s : Core) (level : Level) (frame : Crypto) :
      Effect s ((s.note (.reassembled level frame ((s.inboxes level).reassembly.accept frame).1)).onInbox level
        fun inbox => { inbox with reassembly := (inbox.reassembly.accept frame).2 })
  | sendKey (s : Core) (level : Level) (keys : PacketKeys) (hlevel : level ≠ .initial) (hheard : s.Heard) :
      Effect s (s.onQueue level fun queue => { queue with sendKeys := some keys })
  | rekey (s : Core) (level : Level) (keys : Option PacketKeys) (hlevel : level ≠ .oneRtt) (h : s.hasTls = true) :
      Effect s (s.onInbox level fun inbox => { inbox with phase := { inbox.phase with current := keys } })
  | secret (s : Core) (keys next : PacketKeys) (h : s.hasTls = true) (hheard : s.Heard) :
      Effect s (((s.note (.keyed (some keys))).note (.keyed (some next))).onInbox .oneRtt fun inbox =>
        { inbox with phase := { inbox.phase with current := some keys, next := some next } })
  | rotate (s : Core) (keys next send : PacketKeys) (h : (s.inboxes .oneRtt).phase.next = some keys) :
      Effect s (((s.note (.keyed (some next))).onQueue .oneRtt fun queue =>
        { queue with sendKeys := some send }).onInbox .oneRtt fun inbox =>
          { inbox with phase := ⟨some keys, some next, inbox.phase.current, !inbox.phase.bit, none⟩ })
  | beginPhase (s : Core) (packetNumber : ℕ)
      (h : ∀ first, (s.inboxes .oneRtt).phase.first = some first → packetNumber < first) :
      Effect s (s.onInbox .oneRtt fun inbox =>
        { inbox with phase := { inbox.phase with first := some packetNumber } })
  | arm (s : Core) (early : Bool) (h : early = true → s.isClient = true) :
      Effect s (s.onInbox .oneRtt fun inbox => { inbox with sendsEarly := early })
  | handle (s : Core) (frame : Frame) (h : s.state ≠ .terminated) : Effect s (s.note (.handled s.state frame))
  | discard (s : Core) (level : Level) (hlevel : level ≠ .oneRtt) (h : (s.queues level).discarded = false)
      (hheard : s.Heard ∨ (s.queues .handshake).sendKeys.isSome = true) :
      Effect s { ((s.note (.discarded level (s.probesPending level))).onQueue level (fun queue => { queue with
          discarded := true
          sendKeys := none
          cryptoPending := []
          cryptoRetransmit := [] })).onInbox level (fun inbox =>
            { inbox with phase := { inbox.phase with current := none } }) with
        recovery := s.recovery.discardSpace level }
  | confirm (s : Core) : Effect s { (s.note .confirmed).onQueue .oneRtt (fun queue =>
        { queue with early := false }) with
      recovery := { s.recovery with handshakeConfirmed := true }
      caller := { s.caller with confirming := true } }
  | confirmed (s : Core) (confirming : Bool) (hhandshake : (s.queues .handshake).discarded = true)
      (hinitial : s.isClient = true → (s.queues .initial).discarded = true) :
      Effect s { s with caller := { s.caller with confirming := confirming } }
  | report (s : Core) (event : Event) (h : s.Live)
      (hevent : ∀ errorCode reason, event ≠ .connectionTerminated errorCode reason)
      (hstream : ∀ data, event ≠ .streamDataReceived data) : Effect s (s.report event)
  | complete (s : Core) (alpn : String) (h : s.Live) (hdone : s.isClient = false → s.donePending = true)
      (hagreed : ∃ parameters peer source, Note.agreed parameters peer source ∈ s.trace) :
      Effect s ({ s.note (.completed s.state) with state := .connected }.report (.handshakeCompleted alpn))
  | drain (s : Core) (errorCode : ℕ) (reason : String) (h : s.Live) :
      Effect s (s.drain errorCode reason)
  | negotiate (s : Core) (versions : List ℕ) :
      Effect s ({ s with state := .terminated }.report (.versionNegotiationReceived versions))
  | abort (s : Core) (frame : ConnectionClose) (errorCode : ℕ) (reason : String) :
      Effect s (((s.note (.aborted s.state)).close frame).report (.connectionTerminated errorCode reason))
  | close (s : Core) (frame : ConnectionClose) : Effect s (s.close frame)
  | expire (s : Core) (reason : String) :
      Effect s ({ s.note (.expired s.state) with state := .terminated }.report
        (.connectionTerminated noError reason))
  | terminate (s : Core) : Effect s { s with state := .terminated }
  | emit (s : Core) (level : Level) (data : Bytes) :
      Effect s ((s.note (.emitted level data)).onQueue level fun queue =>
        { queue with cryptoPending := queue.cryptoPending ++ data })
  | requeueCrypto (s : Core) (level : Level) (crypto : Crypto) (rest : List (Level × Frame))
      (h : s.held = (level, .crypto crypto) :: rest) :
      Effect s ({ s with held := rest }.onQueue level fun queue =>
        { queue with cryptoRetransmit := queue.cryptoRetransmit ++ [crypto] })
  | requeueStream (s : Core) (level : Level) (m : StreamManager) (send : SendStream) (frame : Stream)
      (rest : List (Level × Frame)) (h : s.held = (level, .stream frame) :: rest)
      (hm : s.streams = some m) (hsend : m.send? frame.streamId = some send) :
      Effect s { s with held := rest, streams := some (m.setSend frame.streamId (send.requeue frame)) }
  | ackStream (s : Core) (level : Level) (m : StreamManager) (send : SendStream) (frame : Stream)
      (rest : List (Level × Frame)) (h : s.held = (level, .stream frame) :: rest)
      (hm : s.streams = some m) (hsend : m.send? frame.streamId = some send) :
      Effect s { s with held := rest, streams := some (m.setSend frame.streamId (send.onFrameAcked frame)) }
  | drop (s : Core) (level : Level) (frame : Frame) (rest : List (Level × Frame))
      (h : s.held = (level, frame) :: rest) (hspent : s.Spent level frame) : Effect s { s with held := rest }
  | queue (s : Core) (frame : Frame) (h : s.Queueable frame) :
      Effect s { s with controlFrames := s.controlFrames ++ [frame] }
  | takeControl (s : Core) (frame : Frame) (rest : List Frame) (h : s.controlFrames = frame :: rest) :
      Effect s ({ s with controlFrames := rest }.hold [(.oneRtt, frame)])
  | takeStream (s : Core) (m : StreamManager) (i : ℕ) (send send' : SendStream) (frame : Stream)
      (maxBytes credit : ℤ) (dataSent : ℕ) (hm : s.streams = some m) (hsend : m.send? i = some send)
      (h : send.nextFrame maxBytes credit = (some frame, send')) :
      Effect s ({ s with streams := some { m.setSend i send' with dataSent := dataSent } }.hold
        [(.oneRtt, .stream frame)])
  | pend (s : Core) : Effect s { s with donePending := true }
  | takeDone (s : Core) (h : s.donePending = true) :
      Effect s ({ s with donePending := false }.hold [(.oneRtt, .handshakeDone)])
  | choose (s : Core) (level : Level) (frame : Frame) (h : isPlain frame = true)
      (hack : ∀ ack, frame = .ack ack →
        s.Sending ∧ (ack.largest : ℤ) = (s.inboxes level).receipts.largestReceived) :
      Effect s (s.hold [(level, frame)])
  | copyCrypto (s : Core) (level : Level) (packet : SentPacket) (crypto : Crypto)
      (h : packet ∈ (s.recovery.spaces level).sent.values) (hframe : .crypto crypto ∈ packet.frames) :
      Effect s (s.hold [(level, .crypto crypto)])
  | resendCrypto (s : Core) (level : Level) (lost : Crypto) (rest : List Crypto) (available : ℕ)
      (h : (s.queues level).cryptoRetransmit = lost :: rest) :
      Effect s ((s.onQueue level fun queue => { queue with
        cryptoRetransmit := if lost.data.drop available = [] then rest
          else ⟨lost.offset + (lost.data.take available).length, lost.data.drop available⟩ :: rest }).hold
          [(level, .crypto ⟨lost.offset, lost.data.take available⟩)])
  | sendCrypto (s : Core) (level : Level) (available : ℕ) :
      Effect s ((s.onQueue level fun queue => { queue with
        cryptoPending := queue.cryptoPending.drop available
        cryptoOffsetSent := queue.cryptoOffsetSent + (queue.cryptoPending.take available).length }).hold
          [(level, .crypto ⟨(s.queues level).cryptoOffsetSent, (s.queues level).cryptoPending.take available⟩)])
  | payProbe (s : Core) (level : Level) : Effect s { s with
      probesPending := Function.update s.probesPending level (s.probesPending level - 1) }
  | oweProbes (s : Core) (level : Level) :
      Effect s { s.note (.probed level (s.probesPending level) (s.queues level).discarded) with
        probesPending := Function.update s.probesPending level (s.probesPending level + 2) }
  | takeNumber (s : Core) (level : Level) : Effect s (s.onQueue level fun queue =>
      { queue with nextPacketNumber := queue.nextPacketNumber + 1 })
  | protect (s : Core) (level : Level) (keys : PacketKeys) (frames : List Frame)
      (h : (s.queues level).discarded = false) (hframes : ∃ close, frames = [.connectionClose close])
      (hkeys : level = .oneRtt ∨ (s.queues level).sendKeys = some keys) :
      Effect s ((s.note (.sealed level keys (s.queues level).nextPacketNumber frames)).onQueue level fun queue =>
        { queue with nextPacketNumber := queue.nextPacketNumber + 1 })
  | send (s : Core) (keys : PacketKeys) (packet : SentPacket)
      (h : (s.queues packet.level).discarded = false)
      (hnumber : packet.packetNumber = (s.queues packet.level).nextPacketNumber)
      (hheld : s.held = packet.frames.map (packet.level, ·)) (hsize : 0 < s.config.maxDatagramSize)
      (hkeys : packet.level = .oneRtt ∨ (s.queues packet.level).sendKeys = some keys) :
      Effect s { (s.note (.sealed packet.level keys packet.packetNumber packet.frames)).onQueue packet.level
          (fun queue => { queue with nextPacketNumber := queue.nextPacketNumber + 1 }) with
        recovery := s.recovery.onPacketSent packet
        held := [] }
  | count (s : Core) (length : ℕ) (hopen : s.closeFrame = none)
      (h : s.unvalidated = true → s.peerCid.length ≤ maxCidLength → s.hostCid.length = 8 →
        (length : ℤ) ≤ s.sizeBound) :
      Effect s { s.note (.built s.unvalidated s.allowance) with bytesSent := s.bytesSent + length }
  | conclude (s : Core) (frame : ConnectionClose) (size : ℕ) (hframe : s.closeFrame = some frame)
      (hsent : s.closeSent = false)
      (h : s.peerCid.length ≤ maxCidLength → s.hostCid.length = 8 → size ≤ s.closeBound frame.reason.length) :
      Effect s { s.note (.closed s.unvalidated s.allowance frame.reason.length size) with closeSent := true }
  | settle (s : Core) (level : Level) (acked lost : List SentPacket) (recovery : LossDetection)
      (h : s.recovery.Settles level acked lost recovery)
      (hheard : s.Heard ∨ acked = [] ∧ lost = [] ∧ recovery.spaces = s.recovery.spaces) :
      Effect s ({ s with recovery := recovery }.hold (inHand (acked ++ lost)))
  | tune (s : Core) (recovery : LossDetection) (hspaces : recovery.spaces = s.recovery.spaces)
      (hkeeps : s.recovery.controller.Keeps recovery.controller)
      (hconfirmed : recovery.handshakeConfirmed = s.recovery.handshakeConfirmed)
      (hdelay : recovery.maxAckDelay = s.recovery.maxAckDelay) :
      Effect s { s with recovery := recovery }
  | restart (s : Core) (level : Level) (h : s.Heard ∨ s.retryToken ≠ []) :
      Effect s ({ s with recovery := (s.recovery.restartSpace level).2 }.hold
        (inHand (s.recovery.restartSpace level).1))
  | copy (s : Core) (level : Level) (packets : List SentPacket)
      (h : ∀ packet ∈ packets, packet ∈ (s.recovery.spaces level).sent.values) :
      Effect s (s.hold (inHand packets))
  | acknowledge (s : Core) (packet : SentPacket) : Effect s (s.note (.acked packet))
  | manage (s : Core) (m m' : StreamManager) (hm : s.streams = some m) (h : m.Preserves m')
      (hcredits : m.Credits m' []) : Effect s { s with streams := some m' }
  | extend (s : Core) (m m' : StreamManager) (stream : Stream) (event : Option StreamDataReceived)
    (frames : List Frame)
      (hm : s.streams = some m) (h : m.Preserves m') (hhandled : m.Handled stream event m')
      (hcredits : m.Credits m' frames)
      (hframes : ∀ frame ∈ frames, ({ s with streams := some m' } : Core).Queueable frame) (hlive : s.Live) :
      Effect s { s with
        streams := some m'
        controlFrames := s.controlFrames ++ frames
        events := s.events ++ (event.map Event.streamDataReceived).toList }
  | create (s : Core) (isClient : Bool) (localLimits peerLimits : FlowControlLimits) (h : s.streams = none) :
      Effect s { s with streams := some (.new isClient localLimits peerLimits) }
  | write (s : Core) (m : StreamManager) (i : ℕ) (send send' : SendStream) (data : Bytes) (fin : Bool)
      (hm : s.streams = some m) (hsend : m.send? i = some send) (h : send.write data fin = .ok send') :
      Effect s { s with
        streams := some (m.setSend i send')
        caller := { s.caller with
          written := Function.update s.caller.written i (s.caller.written i + data.length)
          finished := Function.update s.caller.finished i (s.caller.finished i || fin) } }
  | lose (s : Core) : Effect s { s with held := [], caller := { s.caller with intact := false } }
  | sync (s : Core) (early : Bool) (h : early = true → s.hasTls = true) :
      Effect s ((s.note (.synced early s.recovery.handshakeConfirmed)).onQueue .oneRtt fun queue =>
        { queue with early := queue.early || early })
  | takeEvents (s : Core) :
      Effect s { s with events := [], caller := { s.caller with taken := s.caller.taken ++ s.events } }
  | flush (s : Core) : Effect s { s with pending := 0 }
  | deliver (s : Core) (length : ℕ) (h : s.caller.returned + length ≤ s.spent) :
      Effect s { s with caller := { s.caller with returned := s.caller.returned + length } }

abbrev Path : Core → Core → Prop := Relation.ReflTransGen Effect

variable {s s' : Core}

lemma Effect.path (h : Effect s s') : Path s s' := .single h

lemma Path.invariant {P : Core → Prop} (hstep : ∀ s s', Effect s s' → P s → P s')
    (h : Path s s') (hs : P s) : P s' := by
  induction h with
  | refl => exact hs
  | tail _ heffect ih => exact hstep _ _ heffect ih

lemma Core.trace_close (s : Core) (frame : ConnectionClose) : s.trace <:+ (s.close frame).trace := by
  simp only [Core.close]
  split_ifs
  · exact List.suffix_refl _
  · exact List.suffix_cons _ _

lemma Effect.trace_suffix (h : Effect s s') : s.trace <:+ s'.trace := by
  cases h with
  | close frame => exact s.trace_close frame
  | abort frame errorCode reason =>
    have hclose := (s.note (.aborted s.state)).trace_close frame
    exact (List.suffix_cons _ _).trans hclose
  | processClose => exact (List.suffix_cons _ _).trans ((List.suffix_cons _ _).trans (List.suffix_cons _ _))
  | secret => exact (List.suffix_cons _ _).trans (List.suffix_cons _ _)
  | opened | unveil | process | reassemble | rotate | handle | discard | confirm | complete | drain | expire | emit
  | oweProbes | protect | send | count | conclude | acknowledge | sync | adopt | retried | agree =>
    exact List.suffix_cons _ _
  | _ => exact List.suffix_refl _

lemma Path.trace_suffix (h : Path s s') : s.trace <:+ s'.trace :=
  h.invariant (P := fun t => s.trace <:+ t.trace) (fun _ _ heffect ht => ht.trans heffect.trace_suffix)
    (List.suffix_refl _)

lemma Effect.trace_subset (h : Effect s s') : s.trace ⊆ s'.trace := h.trace_suffix.subset

lemma Path.trace_subset (h : Path s s') : s.trace ⊆ s'.trace := h.trace_suffix.subset

lemma Effect.hasTls (h : Effect s s') (hs : s.hasTls = true) : s'.hasTls = true := by
  cases h with
  | adopt => rfl
  | close frame =>
    simp only [Core.close]
    split_ifs <;> exact hs
  | abort frame errorCode reason =>
    simp only [Core.close]
    split_ifs <;> exact hs
  | _ => exact hs

lemma Path.hasTls (h : Path s s') (hs : s.hasTls = true) : s'.hasTls = true :=
  h.invariant (P := fun t => t.hasTls = true) (fun _ _ heffect ht => heffect.hasTls ht) hs

structure Core.Spends (s s' : Core) : Prop where
  sent : s.bytesSent ≤ s'.bytesSent
  closed : closedSize s.trace ≤ closedSize s'.trace
  pending : s'.pending ≤ s.pending

lemma Core.Spends.refl (s : Core) : s.Spends s := ⟨le_refl _, le_refl _, le_refl _⟩

lemma Core.Spends.trans {s s' s'' : Core} (h : s.Spends s') (h' : s'.Spends s'') : s.Spends s'' :=
  ⟨h.sent.trans h'.sent, h.closed.trans h'.closed, h'.pending.trans h.pending⟩

lemma closedSize_cons (note : Note) (trace : List Note) : closedSize trace ≤ closedSize (note :: trace) := by
  rw [closedSize, closedSize, List.map_cons, List.sum_cons]
  exact Nat.le_add_left _ _

lemma Core.spends_close (s : Core) (frame : ConnectionClose) : s.Spends (s.close frame) := by
  simp only [Core.close]
  split_ifs
  · exact .refl s
  · exact ⟨le_refl _, closedSize_cons _ _, le_refl _⟩

lemma Effect.spends (h : Effect s s') : s.Spends s' := by
  cases h with
  | close frame => exact s.spends_close frame
  | abort frame errorCode reason =>
    have hnote : s.Spends (s.note (.aborted s.state)) := ⟨le_refl _, closedSize_cons _ _, le_refl _⟩
    have hclose := hnote.trans ((s.note (.aborted s.state)).spends_close frame)
    exact ⟨hclose.sent, hclose.closed, hclose.pending⟩
  | count length => exact ⟨Nat.le_add_right _ _, closedSize_cons _ _, le_refl _⟩
  | flush => exact ⟨le_refl _, le_refl _, Nat.zero_le _⟩
  | processClose =>
    exact ⟨le_refl _, (closedSize_cons _ _).trans ((closedSize_cons _ _).trans (closedSize_cons _ _)), le_refl _⟩
  | secret => exact ⟨le_refl _, (closedSize_cons _ _).trans (closedSize_cons _ _), le_refl _⟩
  | opened | unveil | process | reassemble | rotate | handle | discard | confirm | complete | drain | expire | emit
  | oweProbes | protect | send | conclude | acknowledge | sync | adopt | retried | agree =>
    exact ⟨le_refl _, closedSize_cons _ _, le_refl _⟩
  | _ => exact ⟨le_refl _, le_refl _, le_refl _⟩

lemma Path.spends (h : Path s s') : s.Spends s' :=
  h.invariant (P := fun t => s.Spends t) (fun _ _ heffect ht => ht.trans heffect.spends) (.refl s)

end Dsquic.Connection
