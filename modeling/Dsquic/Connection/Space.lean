import Dsquic.Recovery.LossDetection
import Dsquic.Streams.RangeSet

/-!
One packet number space of a connection, and the key schedule of the 1-RTT phases. The type `κ` of key
sets and the type `ς` of traffic secrets are parameters; so is the derivation of the next generation.
-/

namespace Dsquic.Connection

open Lib Wire Streams Recovery

inductive ConnectionState
  | handshaking
  | connected
  | closing
  | draining
  | terminated
  deriving DecidableEq

structure Space (κ ς : Type) where
  keysSend : Option κ
  keysRecv : Option κ
  keysSendEarly : Option κ
  keysRecvEarly : Option κ
  nextPacketNumber : ℕ
  largestReceived : ℤ
  ecnEct0 : ℕ
  ecnEct1 : ℕ
  ecnCe : ℕ
  ecnAckedEct0 : ℕ
  ecnAckedEct1 : ℕ
  ecnAckedCe : ℕ
  received : RangeSet ℕ
  ackElicitingPending : Bool
  cryptoOffsetSent : ℕ
  cryptoPending : Bytes
  cryptoRetransmit : List Crypto
  cryptoReceived : RangeSet ℕ
  cryptoBuffer : Bytes
  cryptoReadOffset : ℕ
  discarded : Bool
  keyPhase : Bool
  secretSend : Option ς
  secretRecvNext : Option ς
  keysRecvNext : Option κ
  keysRecvPrevious : Option κ
  keysRecvPreviousExpiry : ℚ
  keyPhaseFirst : Option ℕ
  keyPhaseSendFirst : ℕ

namespace Space

variable {κ ς : Type}

def new : Space κ ς where
  keysSend := none
  keysRecv := none
  keysSendEarly := none
  keysRecvEarly := none
  nextPacketNumber := 0
  largestReceived := -1
  ecnEct0 := 0
  ecnEct1 := 0
  ecnCe := 0
  ecnAckedEct0 := 0
  ecnAckedEct1 := 0
  ecnAckedCe := 0
  received := .empty
  ackElicitingPending := false
  cryptoOffsetSent := 0
  cryptoPending := []
  cryptoRetransmit := []
  cryptoReceived := .empty
  cryptoBuffer := []
  cryptoReadOffset := 0
  discarded := false
  keyPhase := false
  secretSend := none
  secretRecvNext := none
  keysRecvNext := none
  keysRecvPrevious := none
  keysRecvPreviousExpiry := 0
  keyPhaseFirst := some 0
  keyPhaseSendFirst := 0

structure Revealed where
  packetNumber : ℕ
  keyPhase : Bool
  deriving DecidableEq

def beforePhase (space : Space κ ς) (packetNumber : ℕ) : Bool :=
  match space.keyPhaseFirst with
  | none => true
  | some first => packetNumber < first

def noteKeyPhase (space : Space κ ς) (packet : Revealed) : Space κ ς :=
  if packet.keyPhase ≠ space.keyPhase then space
  else if space.beforePhase packet.packetNumber then
    { space with keyPhaseFirst := some packet.packetNumber }
  else space

def receiveKeys (space : Space κ ς) (level : Level) (packet : Revealed) (confirmed : Bool) (now : ℚ) :
    Except Raised (κ × Bool) :=
  match space.keysRecv with
  | none => .error .assertion
  | some current =>
    if level ≠ .oneRtt ∨ packet.keyPhase = space.keyPhase then .ok (current, false)
    else if space.beforePhase packet.packetNumber then
      match space.keysRecvPrevious with
      | none => .ok (current, false)
      | some previous =>
        if now > space.keysRecvPreviousExpiry then .ok (current, false) else .ok (previous, false)
    else
      match space.keysRecvNext with
      | none => .ok (current, false)
      | some next => if ¬confirmed then .ok (current, false) else .ok (next, true)

def rotateKeys (nextGeneration : Option ς → κ → ς × κ) (space : Space κ ς) (now retention : ℚ) :
    Except Raised (Space κ ς) :=
  match space.keysRecvNext, space.keysSend with
  | some recv, some send =>
    let (secretRecvNext, keysRecvNext) := nextGeneration space.secretRecvNext recv
    let (secretSend, keysSend) := nextGeneration space.secretSend send
    .ok { space with
      keysRecvPrevious := space.keysRecv
      keysRecvPreviousExpiry := now + retention
      keysRecv := some recv
      secretRecvNext := some secretRecvNext
      keysRecvNext := some keysRecvNext
      secretSend := some secretSend
      keysSend := some keysSend
      keyPhase := !space.keyPhase
      keyPhaseSendFirst := space.nextPacketNumber
      keyPhaseFirst := none }
  | _, _ => .error .assertion

def mayUpdate (space : Space κ ς) (confirmed : Bool) (largestAcked : ℤ) : Bool :=
  space.keysRecvNext.isSome && confirmed && decide ((space.keyPhaseSendFirst : ℤ) ≤ largestAcked)

def buildAck (space : Space κ ς) : Option Ack :=
  if ¬space.ackElicitingPending ∨ space.largestReceived < 0 then none
  else
    let ranges := space.received.ranges
    let recent := (ranges.drop (ranges.length - 32)).reverse.map fun range => (range.1, range.2 - 1)
    let counts := if space.ecnEct0 ≠ 0 ∨ space.ecnEct1 ≠ 0 ∨ space.ecnCe ≠ 0
      then some ⟨space.ecnEct0, space.ecnEct1, space.ecnCe⟩ else none
    some ⟨space.largestReceived.toNat, 0, recent, counts⟩

def noteReceived (space : Space κ ς) (packetNumber ecn : ℕ) : Space κ ς :=
  { space with
    received := space.received.add packetNumber (packetNumber + 1)
    ecnEct0 := if ecn = 2 then space.ecnEct0 + 1 else space.ecnEct0
    ecnEct1 := if ecn = 1 then space.ecnEct1 + 1 else space.ecnEct1
    ecnCe := if ecn = 3 then space.ecnCe + 1 else space.ecnCe
    largestReceived := max space.largestReceived packetNumber }

end Space

end Dsquic.Connection
