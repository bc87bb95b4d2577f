import Dsquic.Lib.Dict
import Dsquic.Wire.Frames

/-!
Transport parameters: a sequence of identifier, length and value, unknown identifiers ignored.
-/

namespace Dsquic.Wire

open Lib Buffer

structure TransportParameters where
  originalDestinationConnectionId : Option Bytes := none
  retrySourceConnectionId : Option Bytes := none
  initialSourceConnectionId : Option Bytes := none
  maxIdleTimeoutMs : ℕ := 0
  maxUdpPayloadSize : ℕ := 65527
  initialMaxData : ℕ := 0
  initialMaxStreamDataBidiLocal : ℕ := 0
  initialMaxStreamDataBidiRemote : ℕ := 0
  initialMaxStreamDataUni : ℕ := 0
  initialMaxStreamsBidi : ℕ := 0
  initialMaxStreamsUni : ℕ := 0
  ackDelayExponent : ℕ := 3
  maxAckDelayMs : ℕ := 25
  activeConnectionIdLimit : ℕ := 2
  maxDatagramFrameSize : Option ℕ := none
  deriving DecidableEq

namespace TransportParameters

def encodeBytes (parameterId : ℕ) (value : Bytes) : Except Raised Bytes :=
  concatEncoded [encodeVarint parameterId, encodeVarint value.length, .ok value]

def encodeInt (parameterId value : ℕ) : Except Raised Bytes := do
  let data ← encodeVarint value
  encodeBytes parameterId data

def encodeIfSome {α : Type} (encode : ℕ → α → Except Raised Bytes) (parameterId : ℕ) :
    Option α → Except Raised Bytes
  | none => .ok []
  | some value => encode parameterId value

def encode (p : TransportParameters) : Except Raised Bytes :=
  concatEncoded
    [encodeIfSome encodeBytes 0x00 p.originalDestinationConnectionId,
      encodeIfSome encodeBytes 0x10 p.retrySourceConnectionId,
      encodeIfSome encodeBytes 0x0F p.initialSourceConnectionId,
      encodeInt 0x01 p.maxIdleTimeoutMs,
      encodeInt 0x03 p.maxUdpPayloadSize,
      encodeInt 0x04 p.initialMaxData,
      encodeInt 0x05 p.initialMaxStreamDataBidiLocal,
      encodeInt 0x06 p.initialMaxStreamDataBidiRemote,
      encodeInt 0x07 p.initialMaxStreamDataUni,
      encodeInt 0x08 p.initialMaxStreamsBidi,
      encodeInt 0x09 p.initialMaxStreamsUni,
      encodeInt 0x0A p.ackDelayExponent,
      encodeInt 0x0B p.maxAckDelayMs,
      encodeInt 0x0E p.activeConnectionIdLimit,
      encodeIfSome encodeInt 0x20 p.maxDatagramFrameSize]

def pullValues : ℕ → Dict ℕ Bytes → Parser (Dict ℕ Bytes)
  | 0, values => return values
  | rounds + 1, values => do
    let b ← get
    if b.isEmpty then return values
    else
      let parameterId ← pullVarint
      let length ← pullVarint
      let value ← pullBytes length
      pullValues rounds (values.set parameterId value)

def asInt (values : Dict ℕ Bytes) (parameterId default : ℕ) : Except Raised ℕ :=
  match values.get? parameterId with
  | none | some [] => .ok default
  | some raw => pullVarint.run raw

def maxDatagramFrame (values : Dict ℕ Bytes) : Except Raised (Option ℕ) :=
  match values.get? 0x20 with
  | none | some [] => .ok none
  | some raw => some <$> pullVarint.run raw

def decode (data : Bytes) : Except Raised TransportParameters := do
  let values ← (pullValues data.length .empty).run data
  return {
    originalDestinationConnectionId := values.get? 0x00
    retrySourceConnectionId := values.get? 0x10
    initialSourceConnectionId := values.get? 0x0F
    maxIdleTimeoutMs := ← asInt values 0x01 0
    maxUdpPayloadSize := ← asInt values 0x03 65527
    initialMaxData := ← asInt values 0x04 0
    initialMaxStreamDataBidiLocal := ← asInt values 0x05 0
    initialMaxStreamDataBidiRemote := ← asInt values 0x06 0
    initialMaxStreamDataUni := ← asInt values 0x07 0
    initialMaxStreamsBidi := ← asInt values 0x08 0
    initialMaxStreamsUni := ← asInt values 0x09 0
    ackDelayExponent := ← asInt values 0x0A 3
    maxAckDelayMs := ← asInt values 0x0B 25
    activeConnectionIdLimit := ← asInt values 0x0E 2
    maxDatagramFrameSize := ← maxDatagramFrame values }

def reducesZeroRttLimits (remembered current : TransportParameters) : Bool :=
  current.initialMaxData < remembered.initialMaxData ||
    current.initialMaxStreamDataBidiLocal < remembered.initialMaxStreamDataBidiLocal ||
    current.initialMaxStreamDataBidiRemote < remembered.initialMaxStreamDataBidiRemote ||
    current.initialMaxStreamDataUni < remembered.initialMaxStreamDataUni ||
    current.initialMaxStreamsBidi < remembered.initialMaxStreamsBidi ||
    current.initialMaxStreamsUni < remembered.initialMaxStreamsUni ||
    current.activeConnectionIdLimit < remembered.activeConnectionIdLimit

end TransportParameters

end Dsquic.Wire
