import Dsquic.Wire.Buffer

/-!
Frame types, their encodings and the parser of a packet payload.
-/

namespace Dsquic.Wire

open Lib Buffer

def noError : ℕ := 0x00
def internalError : ℕ := 0x01
def flowControlError : ℕ := 0x03
def streamLimitError : ℕ := 0x04
def streamStateError : ℕ := 0x05
def finalSizeError : ℕ := 0x06
def frameEncodingError : ℕ := 0x07
def transportParameterError : ℕ := 0x08
def protocolViolation : ℕ := 0x0A
def cryptoBufferExceeded : ℕ := 0x0D
def cryptoErrorBase : ℕ := 0x100

structure EcnCounts where
  ect0 : ℕ
  ect1 : ℕ
  ce : ℕ
  deriving DecidableEq

/-- `ranges` are inclusive (low, high) pairs, highest first. -/
structure Ack where
  largest : ℕ
  delay : ℕ
  ranges : List (ℕ × ℕ)
  ecn : Option EcnCounts
  deriving DecidableEq

structure Crypto where
  offset : ℕ
  data : Bytes
  deriving DecidableEq

structure Stream where
  streamId : ℕ
  offset : ℕ
  data : Bytes
  fin : Bool
  deriving DecidableEq

/-- `frameType` none is the application variant. -/
structure ConnectionClose where
  errorCode : ℕ
  reason : Bytes
  frameType : Option ℕ
  deriving DecidableEq

inductive Frame
  | padding (length : ℕ)
  | ping
  | ack (frame : Ack)
  | resetStream (streamId errorCode finalSize : ℕ)
  | stopSending (streamId errorCode : ℕ)
  | crypto (frame : Crypto)
  | newToken (token : Bytes)
  | stream (frame : Stream)
  | maxData (maximum : ℕ)
  | maxStreamData (streamId maximum : ℕ)
  | maxStreams (maximum : ℕ) (bidirectional : Bool)
  | dataBlocked (limit : ℕ)
  | streamDataBlocked (streamId limit : ℕ)
  | streamsBlocked (limit : ℕ) (bidirectional : Bool)
  | newConnectionId (sequence retirePriorTo : ℕ) (connectionId resetToken : Bytes)
  | retireConnectionId (sequence : ℕ)
  | pathChallenge (data : Bytes)
  | pathResponse (data : Bytes)
  | connectionClose (frame : ConnectionClose)
  | handshakeDone
  | datagram (data : Bytes)
  deriving DecidableEq

def concatEncoded : List (Except Raised Bytes) → Except Raised Bytes
  | [] => .ok []
  | part :: parts => do
    let data ← part
    let rest ← concatEncoded parts
    return data ++ rest

def encodeAckRanges : ℕ → List (ℕ × ℕ) → List (Except Raised Bytes)
  | _, [] => []
  | previousLow, (low, high) :: ranges =>
    encodeVarintSub previousLow (high + 2) :: encodeVarintSub high low :: encodeAckRanges low ranges

def encodeEcn : Option EcnCounts → List (Except Raised Bytes)
  | none => []
  | some counts => [encodeVarint counts.ect0, encodeVarint counts.ect1, encodeVarint counts.ce]

def Ack.encode (frame : Ack) : Except Raised Bytes :=
  match frame.ranges with
  | [] => .error (.index "list index out of range")
  | (low, high) :: ranges =>
    if high ≠ frame.largest then .error (.value "first range must end at the largest acknowledged")
    else concatEncoded
      ([encodeVarint (if frame.ecn.isSome then 0x03 else 0x02), encodeVarint frame.largest,
        encodeVarint frame.delay, encodeVarint ranges.length, encodeVarintSub high low] ++
        encodeAckRanges low ranges ++ encodeEcn frame.ecn)

def Crypto.encode (frame : Crypto) : Except Raised Bytes :=
  concatEncoded [encodeVarint 0x06, encodeVarint frame.offset, encodeVarint frame.data.length,
    .ok frame.data]

def Stream.encode (frame : Stream) : Except Raised Bytes :=
  let frameType := 0x08 ||| 0x02 ||| (if frame.offset ≠ 0 then 0x04 else 0) |||
    (if frame.fin then 0x01 else 0)
  concatEncoded ([encodeVarint frameType, encodeVarint frame.streamId] ++
    (if frame.offset ≠ 0 then [encodeVarint frame.offset] else []) ++
    [encodeVarint frame.data.length, .ok frame.data])

def ConnectionClose.encode (frame : ConnectionClose) : Except Raised Bytes :=
  concatEncoded ((match frame.frameType with
    | none => [encodeVarint 0x1D, encodeVarint frame.errorCode]
    | some frameType => [encodeVarint 0x1C, encodeVarint frame.errorCode, encodeVarint frameType]) ++
    [encodeVarint frame.reason.length, .ok frame.reason])

def Frame.encode : Frame → Except Raised Bytes
  | padding length => .ok (List.replicate length 0)
  | ping => .ok [0x01]
  | ack frame => frame.encode
  | resetStream streamId errorCode finalSize => concatEncoded
      [encodeVarint 0x04, encodeVarint streamId, encodeVarint errorCode, encodeVarint finalSize]
  | stopSending streamId errorCode => concatEncoded
      [encodeVarint 0x05, encodeVarint streamId, encodeVarint errorCode]
  | crypto frame => frame.encode
  | newToken token => concatEncoded [encodeVarint 0x07, encodeVarint token.length, .ok token]
  | stream frame => frame.encode
  | maxData maximum => concatEncoded [encodeVarint 0x10, encodeVarint maximum]
  | maxStreamData streamId maximum => concatEncoded
      [encodeVarint 0x11, encodeVarint streamId, encodeVarint maximum]
  | maxStreams maximum bidirectional => concatEncoded
      [encodeVarint (if bidirectional then 0x12 else 0x13), encodeVarint maximum]
  | dataBlocked limit => concatEncoded [encodeVarint 0x14, encodeVarint limit]
  | streamDataBlocked streamId limit => concatEncoded
      [encodeVarint 0x15, encodeVarint streamId, encodeVarint limit]
  | streamsBlocked limit bidirectional => concatEncoded
      [encodeVarint (if bidirectional then 0x16 else 0x17), encodeVarint limit]
  | newConnectionId sequence retirePriorTo connectionId resetToken => concatEncoded
      [encodeVarint 0x18, encodeVarint sequence, encodeVarint retirePriorTo,
        if connectionId.length < 256 then .ok [UInt8.ofNat connectionId.length]
        else .error (.value "bytes must be in range(0, 256)"),
        .ok connectionId, .ok resetToken]
  | retireConnectionId sequence => concatEncoded [encodeVarint 0x19, encodeVarint sequence]
  | pathChallenge data => concatEncoded [encodeVarint 0x1A, .ok data]
  | pathResponse data => concatEncoded [encodeVarint 0x1B, .ok data]
  | connectionClose frame => frame.encode
  | handshakeDone => encodeVarint 0x1E
  | datagram data => concatEncoded [encodeVarint 0x31, encodeVarint data.length, .ok data]

def isAckEliciting : Frame → Bool
  | .ack _ | .padding _ | .connectionClose _ => false
  | _ => true

def parsePadding : Parser Frame := do
  let b ← get
  let run := b.rest.takeWhile (· == 0)
  set (Buffer.mk (b.rest.drop run.length) (b.position + run.length))
  return .padding (1 + run.length)

def parseAckRanges : ℕ → ℕ → Parser (List (ℕ × ℕ))
  | 0, _ => return []
  | count + 1, low => do
    let gap ← pullVarint
    let length ← pullVarint
    raiseIf (low < gap + 2 + length) (.frameParse "ACK range extends below packet number 0")
    let high := low - gap - 2
    let ranges ← parseAckRanges count (high - length)
    return (high - length, high) :: ranges

def parseEcn (frameType : ℕ) : Parser (Option EcnCounts) := do
  if frameType = 0x03 then
    let ect0 ← pullVarint
    let ect1 ← pullVarint
    let ce ← pullVarint
    return some ⟨ect0, ect1, ce⟩
  else return none

def parseAck (frameType : ℕ) : Parser Frame := do
  let largest ← pullVarint
  let delay ← pullVarint
  let rangeCount ← pullVarint
  let firstRange ← pullVarint
  raiseIf (largest < firstRange) (.frameParse "ACK range extends below packet number 0")
  let ranges ← parseAckRanges rangeCount (largest - firstRange)
  let ecn ← parseEcn frameType
  return .ack ⟨largest, delay, (largest - firstRange, largest) :: ranges, ecn⟩

def pullLengthPrefixed : Parser Bytes := do
  let length ← pullVarint
  pullBytes length

def pullRemaining : Parser Bytes := do
  let b ← get
  pullBytes b.remaining

def parseCrypto : Parser Frame := do
  let offset ← pullVarint
  let data ← pullLengthPrefixed
  return .crypto ⟨offset, data⟩

def parseStream (frameType : ℕ) : Parser Frame := do
  let streamId ← pullVarint
  let offset ← if frameType &&& 0x04 ≠ 0 then pullVarint else pure 0
  let data ← if frameType &&& 0x02 ≠ 0 then pullLengthPrefixed else pullRemaining
  return .stream ⟨streamId, offset, data, frameType &&& 0x01 ≠ 0⟩

def parse1 (frame : ℕ → Frame) : Parser Frame := do
  let a ← pullVarint
  return frame a

def parse2 (frame : ℕ → ℕ → Frame) : Parser Frame := do
  let a ← pullVarint
  let b ← pullVarint
  return frame a b

def parse3 (frame : ℕ → ℕ → ℕ → Frame) : Parser Frame := do
  let a ← pullVarint
  let b ← pullVarint
  let c ← pullVarint
  return frame a b c

def parseNewConnectionId : Parser Frame := do
  let sequence ← pullVarint
  let retirePriorTo ← pullVarint
  let length ← pullUint8
  let connectionId ← pullBytes length.toNat
  let resetToken ← pullBytes 16
  return .newConnectionId sequence retirePriorTo connectionId resetToken

def parseConnectionClose (frameType : ℕ) : Parser Frame := do
  let errorCode ← pullVarint
  let closing ← if frameType = 0x1C then some <$> pullVarint else pure none
  let reason ← pullLengthPrefixed
  return .connectionClose ⟨errorCode, reason, closing⟩

def frameParser : ℕ → Option (Parser Frame)
  | 0x00 => some parsePadding
  | 0x01 => some (pure .ping)
  | 0x02 => some (parseAck 0x02)
  | 0x03 => some (parseAck 0x03)
  | 0x04 => some (parse3 .resetStream)
  | 0x05 => some (parse2 .stopSending)
  | 0x06 => some parseCrypto
  | 0x07 => some (Frame.newToken <$> pullLengthPrefixed)
  | 0x10 => some (parse1 .maxData)
  | 0x11 => some (parse2 .maxStreamData)
  | 0x12 => some (parse1 fun maximum => .maxStreams maximum true)
  | 0x13 => some (parse1 fun maximum => .maxStreams maximum false)
  | 0x14 => some (parse1 .dataBlocked)
  | 0x15 => some (parse2 .streamDataBlocked)
  | 0x16 => some (parse1 fun limit => .streamsBlocked limit true)
  | 0x17 => some (parse1 fun limit => .streamsBlocked limit false)
  | 0x18 => some parseNewConnectionId
  | 0x19 => some (parse1 .retireConnectionId)
  | 0x1A => some (Frame.pathChallenge <$> pullBytes 8)
  | 0x1B => some (Frame.pathResponse <$> pullBytes 8)
  | 0x1C => some (parseConnectionClose 0x1C)
  | 0x1D => some (parseConnectionClose 0x1D)
  | 0x1E => some (pure .handshakeDone)
  | 0x30 => some (Frame.datagram <$> pullRemaining)
  | 0x31 => some (Frame.datagram <$> pullLengthPrefixed)
  | frameType => if 0x08 ≤ frameType ∧ frameType ≤ 0x0F then some (parseStream frameType) else none

def parseFrame : Parser Frame := do
  let start := (← get).position
  let frameType ← pullVarint
  let shortest ← lift (encodeVarint frameType)
  let b ← get
  raiseIf (b.position - start ≠ shortest.length)
    (.frameParse s!"frame type {hex frameType} not in shortest varint form")
  match frameParser frameType with
  | none => throw (.frameParse s!"unknown frame type {hex frameType}")
  | some parser => parser

/-- The loop of `parse_frames`. Every frame takes at least one byte, so as many rounds as there are
bytes left empty the buffer. -/
def parseFramesLoop : ℕ → Parser (List Frame)
  | 0 => return []
  | rounds + 1 => do
    let b ← get
    if b.isEmpty then return []
    else
      let frame ← parseFrame
      let frames ← parseFramesLoop rounds
      return frame :: frames

def parseFrames (payload : Bytes) : Except Raised (List Frame) :=
  if payload = [] then .error (.frameParse "packet payload contains no frames")
  else (parseFramesLoop payload.length).run payload

end Dsquic.Wire
