import Dsquic.Connection.Receive

/-!
The send path of a connection: the frames of a packet, packets, datagrams, and the closing datagram.
-/

namespace Dsquic.Connection

open Lib Wire Streams Recovery

variable {env : Env}

def chooseAck (level : Level) (room : ℤ) : M env (List Frame × ℕ) := do
  let c ← get
  match (c.spaces level).buildAck with
  | none => return ([], 0)
  | some ack => do
    let encoded ← lift ack.encode
    if encoded.length ≤ room then do
      set (c.onSpace level fun space => { space with ackElicitingPending := false })
      return ([.ack ack], encoded.length)
    else return ([], 0)

def Space.nextCrypto (space : Space PacketKeys Bytes) (available : ℕ) :
    Option Crypto × Space PacketKeys Bytes :=
  match space.cryptoRetransmit, available with
  | lost :: rest, available + 1 =>
    let chunk := lost.data.take (available + 1)
    let left := lost.data.drop (available + 1)
    (some ⟨lost.offset, chunk⟩,
      { space with cryptoRetransmit := if left = [] then rest else ⟨lost.offset + chunk.length, left⟩ :: rest })
  | _, available =>
    let chunk := space.cryptoPending.take available
    if chunk = [] then (none, space)
    else (some ⟨space.cryptoOffsetSent, chunk⟩,
      { space with
        cryptoPending := space.cryptoPending.drop available
        cryptoOffsetSent := space.cryptoOffsetSent + chunk.length })

def chooseCrypto (level : Level) (room : ℤ) : M env (List Frame × ℕ) := do
  let c ← get
  let (crypto, space) := (c.spaces level).nextCrypto (room - 16).toNat
  set (c.setSpace level space)
  match crypto with
  | none => return ([], 0)
  | some frame => do
    let encoded ← lift frame.encode
    return ([.crypto frame], encoded.length)

def chooseHandshakeDone : M env (List Frame × ℕ) := do
  let c ← get
  if c.handshakeDonePending then do
    set { c with handshakeDonePending := false }
    return ([.handshakeDone], 1)
  else return ([], 0)

def takeControl (room : ℤ) : List Frame → ℕ → M env (List Frame × ℕ)
  | [], used => return ([], used)
  | control :: rest, used =>
    if used < room then do
      let encoded ← lift control.encode
      if encoded.length > room - used then return ([], used)
      else do
        modify fun c => { c with controlFrames := rest }
        let (taken, used) ← takeControl room rest (used + encoded.length)
        return (control :: taken, used)
    else return ([], used)

def takeStreams (room : ℤ) : List ℕ → ℕ → M env (List Frame × ℕ)
  | [], used => return ([], used)
  | streamId :: streamIds, used => do
    let c ← get
    match c.streams with
    | none => return ([], used)
    | some streams =>
      if room - used - 24 ≤ 0 then return ([], used)
      else do
        let frame ← onStreams streams (StreamManager.nextFrame streamId (room - used - 24))
        match frame with
        | none => takeStreams room streamIds used
        | some frame => do
          let encoded ← lift frame.encode
          let (taken, used) ← takeStreams room streamIds (used + encoded.length)
          return (.stream frame :: taken, used)

def applicationFrames (room : ℤ) : M env (List Frame × ℕ) := do
  let (done, used) ← chooseHandshakeDone
  let c ← get
  let (control, used) ← takeControl room c.controlFrames used
  let c ← get
  let (streams, used) ← takeStreams room ((c.streams.map (·.writableStreams)).getD []) used
  return (done ++ control ++ streams, used)

def cryptoFrames (packets : List SentPacket) : List Crypto :=
  packets.flatMap fun packet => packet.frames.filterMap fun
    | .crypto frame => some frame
    | _ => none

def firstFitting (room : ℤ) : List Crypto → Except Raised Frame
  | [] => .ok .ping
  | frame :: frames => do
    let encoded ← frame.encode
    if encoded.length ≤ room then return .crypto frame else firstFitting room frames

def chooseProbe (level : Level) (room : ℤ) (chosen : List Frame) : M env (List Frame) := do
  let c ← get
  if c.probesPending level = 0 then return []
  else if chosen.any isAckEliciting then do
    set { c with probesPending := Function.update c.probesPending level (c.probesPending level - 1) }
    return []
  else do
    let filler ← lift (firstFitting room (cryptoFrames (c.recovery.unacked level)))
    let _ ← lift filler.encode
    set { c with probesPending := Function.update c.probesPending level (c.probesPending level - 1) }
    return [filler]

def applicationFramesAt (level : Level) (room : ℤ) : M env (List Frame × ℕ) :=
  if level = .oneRtt then applicationFrames room else return ([], 0)

def pendingFrames (level : Level) (room : ℤ) (ackOnly : Bool) : M env (List Frame) := do
  let (ack, used) ← chooseAck level room
  if ackOnly then return ack
  else do
    let (crypto, cryptoUsed) ← chooseCrypto level (room - used)
    let used := used + cryptoUsed
    let (application, applicationUsed) ← applicationFramesAt level (room - used)
    let used := used + applicationUsed
    let chosen := ack ++ crypto ++ application
    let filler ← chooseProbe level (room - used) chosen
    return chosen ++ filler

def shortHeaderFirstByte (space : Space PacketKeys Bytes) (packetNumberLength : ℕ) : UInt8 :=
  UInt8.ofNat (0x40 ||| (packetNumberLength - 1) ||| if space.keyPhase then 0x04 else 0)

def packetTypeOf : Level → PacketType
  | .initial => .initial
  | .handshake => .handshake
  | .oneRtt => .zeroRtt

namespace Conn

def headerTemplate (c : Conn env) (level : Level) : LongHeaderTemplate where
  packetType := packetTypeOf level
  version := c.config.version
  destinationCid := c.peerCid
  sourceCid := c.hostCid
  token := if level = .initial then (if c.retryToken ≠ [] then c.retryToken else c.config.token) else []

def shortHeader (c : Conn env) (level : Level) (pnBytes : Bytes) : Bytes :=
  [shortHeaderFirstByte (c.spaces level) pnBytes.length] ++ c.peerCid ++ pnBytes

end Conn

def padPayload (payload : Bytes) : Bytes :=
  payload ++ List.replicate (maxPnLength + sampleLength - aeadTagLength - payload.length) 0

def expandPayload (template : LongHeaderTemplate) (padTo : ℕ) (payload : Bytes) (packetNumber pnLength : ℕ) :
    Except Raised Bytes :=
  if padTo = 0 then .ok payload
  else do
    let trial ← buildLongHeader template padTo packetNumber pnLength
    return payload ++ List.replicate (padTo - trial.length - payload.length - aeadTagLength) 0

def Conn.frameUp (c : Conn env) (level : Level) (short : Bool) (padTo : ℕ) (payload : Bytes)
    (packetNumber : ℕ) (pnBytes : Bytes) : Except Raised (Bytes × Bytes) :=
  if short then .ok (c.shortHeader level pnBytes, payload)
  else do
    let payload ← expandPayload (c.headerTemplate level) padTo payload packetNumber pnBytes.length
    let header ← buildLongHeader (c.headerTemplate level) (payload.length + aeadTagLength) packetNumber
      pnBytes.length
    return (header, payload)

def Conn.takeNumber (c : Conn env) (level : Level) : Conn env :=
  c.onSpace level fun space => { space with nextPacketNumber := space.nextPacketNumber + 1 }

def sealPacket (level : Level) (keys : PacketKeys) (short : Bool) (padTo : ℕ) (payload : Bytes)
    (packetNumber : ℕ) (frames : List Frame) : M env Bytes := do
  modify fun c => c.takeNumber level
  let pnBytes ← lift (encodePacketNumber packetNumber none)
  let c ← get
  let (header, payload) ← lift (c.frameUp level short padTo payload packetNumber pnBytes)
  let packet ← lift (env.protect keys header payload packetNumber)
  modify fun c => c.note (.sealed level keys packetNumber frames)
  return packet

def Space.sendingKeys (space : Space PacketKeys Bytes) (level : Level) : Option PacketKeys :=
  match space.keysSend with
  | some keys => some keys
  | none => if level = .oneRtt then space.keysSendEarly else none

def buildPacket (level : Level) (room : ℤ) (now : ℚ) (padTo : ℕ) (ackOnly : Bool) : M env (Option Bytes) := do
  let c ← get
  match (c.spaces level).sendingKeys level with
  | none => throw .assertion
  | some keys =>
    if room ≤ 64 + aeadTagLength then return none
    else do
      let chosen ← pendingFrames level (room - 64 - aeadTagLength) ackOnly
      if chosen = [] then return none
      else do
        let payload ← lift (concatEncoded (chosen.map Frame.encode))
        let c ← get
        let packetNumber := (c.spaces level).nextPacketNumber
        raiseIf (packetNumber > maxPacketNumber)
          (.connection internalError "packet number space exhausted" (some 0))
        let short := level = .oneRtt ∧ (c.spaces level).keysSend.isSome
        let packet ← sealPacket level keys short padTo (padPayload payload) packetNumber chosen
        let eliciting := chosen.any isAckEliciting
        modify fun c => c.setRecovery (c.recovery.onPacketSent
          ⟨level, packetNumber, now, eliciting, eliciting, packet.length, chosen⟩)
        return some packet

namespace Conn

def allowance (c : Conn env) : ℤ := 3 * c.bytesReceived - c.bytesSent

def unvalidated (c : Conn env) : Bool := !c.isClient && !c.addressValidated

def probes (c : Conn env) : ℕ := (Level.all.map c.probesPending).sum

def sendBudget (c : Conn env) (ackOnly : Bool) : ℤ :=
  let controller := c.recovery.controller
  let budget : ℤ :=
    if ackOnly then c.config.maxDatagramSize else controller.congestionWindow - controller.bytesInFlight
  let budget := if c.probes ≠ 0 then max budget (c.probes * c.config.maxDatagramSize) else budget
  if c.unvalidated then min budget c.allowance else budget

def inFlightDataPending (c : Conn env) : Bool :=
  Level.all.any (fun level => c.probesPending level ≠ 0) || Level.all.any c.hasPendingData

end Conn

/-- One packet per level in one datagram. An Initial packet fills it, so nothing follows. -/
def buildPackets (now : ℚ) (ackOnly : Bool) (budget : ℤ) : List Level → Bytes → M env Bytes
  | [], payload => return payload
  | level :: levels, payload => do
    let c ← get
    if (c.spaces level).sendingKeys level = none ∨ (c.spaces level).discarded then
      buildPackets now ackOnly budget levels payload
    else do
      let padTo := if level = .initial then (min 1200 budget).toNat else 0
      let packet ← buildPacket level (c.config.maxDatagramSize - payload.length) now padTo ackOnly
      match packet with
      | none => buildPackets now ackOnly budget levels payload
      | some packet => do
        doIf (c.isClient ∧ level = .handshake) (modify fun c => c.discardSpace .initial)
        if padTo ≠ 0 then return payload ++ packet
        else buildPackets now ackOnly budget levels (payload ++ packet)

def Conn.countSent (c : Conn env) (length : ℕ) : Conn env :=
  { c.note (.built c.unvalidated c.allowance) with bytesSent := c.bytesSent + length }

def buildDatagram (now : ℚ) (ackOnly : Bool) : M env (Option (OutgoingDatagram env)) := do
  let c ← get
  let budget := c.sendBudget ackOnly
  if budget ≤ 0 then return none
  else do
    let payload ← buildPackets now ackOnly budget Level.all []
    if payload = [] then return none
    else do
      modify fun c => c.countSent payload.length
      let c ← get
      return some ⟨payload, c.destination, if c.ecnEnabled then 2 else 0⟩

def pacingAllowance (now : ℚ) : M env (Option ℚ) := do
  let c ← get
  match c.recovery.controller.pacingRate c.recovery.rtt.smoothed with
  | none => return none
  | some rate =>
    let burst : ℚ := 10 * c.config.maxDatagramSize
    let credit := match c.pacingUpdated with
      | none => burst
      | some updated => min (c.pacingCredit + max 0 (now - updated) * rate) burst
    set { c with pacingCredit := credit, pacingUpdated := some now }
    return some credit

def pacingBlocked (now : ℚ) : M env Bool := do
  let allowance ← pacingAllowance now
  let c ← get
  match allowance, c.recovery.controller.pacingRate c.recovery.rtt.smoothed with
  | some allowance, some rate =>
    let needed : ℚ := c.config.maxDatagramSize
    if allowance ≥ needed ∨ ¬c.inFlightDataPending ∨ rate ≤ 0 then return false
    else do
      set { c with pacingDeadline := some (now + (needed - allowance) / rate) }
      return true
  | _, _ => return false

def maybeUpdateKeys (now : ℚ) : M env PUnit := do
  let c ← get
  match c.config.keyUpdateInterval with
  | none => pure ⟨⟩
  | some interval =>
    let space := c.spaces .oneRtt
    if space.nextPacketNumber ≥ interval + space.keyPhaseSendFirst then do
      let _ ← initiateKeyUpdate now
    else pure ⟨⟩

/-- The loop of `datagrams_to_send`, given up as not returning after `rounds` datagrams. -/
def buildDatagrams (now : ℚ) : ℕ → M env (List (OutgoingDatagram env))
  | 0 => throw .diverges
  | rounds + 1 => do
    let pacedOut ← pacingBlocked now
    let c ← get
    let datagram ← buildDatagram now pacedOut
    match datagram with
    | none => return []
    | some datagram => do
      modify fun c' => { c' with pacingCredit := c'.pacingCredit -
        (c'.recovery.controller.bytesInFlight - c.recovery.controller.bytesInFlight : ℤ) }
      let datagrams ← buildDatagrams now rounds
      return datagram :: datagrams

def Conn.closeLevel (c : Conn env) : Option (Level × PacketKeys) :=
  [Level.oneRtt, Level.handshake, Level.initial].findSome? fun level =>
    if (c.spaces level).discarded then none else (c.spaces level).keysSend.map (level, ·)

def Conn.closed (c : Conn env) (reason packet : Bytes) (now : ℚ) : Conn env :=
  { c.note (.closed c.unvalidated c.allowance reason.length packet.length) with
    closeSent := true
    closingDeadline := some (now + 3 * c.recovery.pto) }

def buildCloseDatagram (now : ℚ) : M env (List (OutgoingDatagram env)) := do
  let c ← get
  match c.closeFrame, c.closeLevel with
  | some frame, some (level, keys) =>
    if c.closeSent then return []
    else do
      let payload ← lift frame.encode
      let packet ← sealPacket level keys (level = .oneRtt) 0 (padPayload payload)
        (c.spaces level).nextPacketNumber [.connectionClose frame]
      modify fun c => c.closed frame.reason packet now
      return [⟨packet, c.destination, 0⟩]
  | _, _ => return []

def datagramsToSend (now : ℚ) (rounds : ℕ) : M env (List (OutgoingDatagram env)) := do
  let c ← get
  if c.state = .draining ∨ c.state = .terminated then return []
  else if c.closeFrame.isSome then buildCloseDatagram now
  else do
    maybeUpdateKeys now
    modify fun c => { c with pacingDeadline := none }
    let datagrams ← buildDatagrams now rounds
    modifyGet fun c => (c.pending ++ datagrams, { c with pending := [] })

end Dsquic.Connection
