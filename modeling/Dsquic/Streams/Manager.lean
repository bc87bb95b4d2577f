import Dsquic.Lib.Dict
import Dsquic.Streams.Half

/-!
All streams of one connection, with the connection-level flow control accounting.
-/

namespace Dsquic.Streams

open Lib Wire

def isClientInitiated (streamId : ℕ) : Bool := streamId % 2 == 0

def isBidirectional (streamId : ℕ) : Bool := streamId / 2 % 2 == 0

structure FlowControlLimits where
  maxData : ℕ
  maxStreamDataBidiLocal : ℕ
  maxStreamDataBidiRemote : ℕ
  maxStreamDataUni : ℕ
  maxStreamsBidi : ℕ
  maxStreamsUni : ℕ
  deriving DecidableEq

structure Half where
  send : Option SendStream
  recv : Option RecvStream

def Half.isClosed (half : Half) : Bool :=
  match half.recv with
  | some recv => recv.isFullyRead
  | none => false

structure StreamManager where
  isClient : Bool
  localLimits : FlowControlLimits
  peerLimits : FlowControlLimits
  streams : Dict ℕ Half
  nextBidiSequence : ℕ
  maxData : ℕ
  localMaxData : ℕ
  dataWindow : ℕ
  maxStreamsBidi : ℕ
  maxStreamsUni : ℕ
  localMaxStreamsBidi : ℕ
  localMaxStreamsUni : ℕ
  streamsWindowBidi : ℕ
  streamsWindowUni : ℕ
  dataSent : ℕ
  dataReceived : ℕ

structure StreamDataReceived where
  streamId : ℕ
  data : Bytes
  endStream : Bool
  deriving DecidableEq

variable {m : StreamManager} {frame : Stream} {recv : RecvStream} {send : SendStream}

namespace StreamManager

def new (isClient : Bool) (localLimits peerLimits : FlowControlLimits) : StreamManager where
  isClient := isClient
  localLimits := localLimits
  peerLimits := peerLimits
  streams := .empty
  nextBidiSequence := 0
  maxData := peerLimits.maxData
  localMaxData := localLimits.maxData
  dataWindow := localLimits.maxData
  maxStreamsBidi := peerLimits.maxStreamsBidi
  maxStreamsUni := peerLimits.maxStreamsUni
  localMaxStreamsBidi := localLimits.maxStreamsBidi
  localMaxStreamsUni := localLimits.maxStreamsUni
  streamsWindowBidi := localLimits.maxStreamsBidi
  streamsWindowUni := localLimits.maxStreamsUni
  dataSent := 0
  dataReceived := 0

def send? (m : StreamManager) (streamId : ℕ) : Option SendStream :=
  (m.streams.get? streamId).bind Half.send

def recv? (m : StreamManager) (streamId : ℕ) : Option RecvStream :=
  (m.streams.get? streamId).bind Half.recv

def setHalf (m : StreamManager) (streamId : ℕ) (half : Half) : StreamManager :=
  { m with streams := m.streams.set streamId half }

def setSend (m : StreamManager) (streamId : ℕ) (send : SendStream) : StreamManager :=
  m.setHalf streamId ⟨some send, m.recv? streamId⟩

def setRecv (m : StreamManager) (streamId : ℕ) (recv : RecvStream) : StreamManager :=
  m.setHalf streamId ⟨m.send? streamId, some recv⟩

section Lookup

variable (m : StreamManager) (i : ℕ)

@[simp] lemma send?_setSend (j : ℕ) (send : SendStream) :
    (m.setSend i send).send? j = if j = i then some send else m.send? j := by
  simp only [send?, setSend, setHalf, Dict.get?_set]
  split_ifs <;> rfl

@[simp] lemma recv?_setSend (j : ℕ) (send : SendStream) : (m.setSend i send).recv? j = m.recv? j := by
  simp only [recv?, setSend, setHalf, Dict.get?_set]
  split_ifs with h
  · rw [h]
    rfl
  · rfl

@[simp] lemma recv?_setRecv (j : ℕ) (recv : RecvStream) :
    (m.setRecv i recv).recv? j = if j = i then some recv else m.recv? j := by
  simp only [recv?, setRecv, setHalf, Dict.get?_set]
  split_ifs <;> rfl

@[simp] lemma send?_setRecv (j : ℕ) (recv : RecvStream) : (m.setRecv i recv).send? j = m.send? j := by
  simp only [send?, setRecv, setHalf, Dict.get?_set]
  split_ifs with h
  · rw [h]
    rfl
  · rfl

@[simp] lemma send?_setHalf (j : ℕ) (half : Half) :
    (m.setHalf i half).send? j = if j = i then half.send else m.send? j := by
  simp only [send?, setHalf, Dict.get?_set]
  split_ifs <;> rfl

@[simp] lemma recv?_setHalf (j : ℕ) (half : Half) :
    (m.setHalf i half).recv? j = if j = i then half.recv else m.recv? j := by
  simp only [recv?, setHalf, Dict.get?_set]
  split_ifs <;> rfl

end Lookup

def localId (isClient : Bool) (sequence : ℕ) : ℕ := 4 * sequence + if isClient then 0 else 1

def openBidi : EStateM Raised StreamManager ℕ := do
  let m ← get
  raiseIf (m.nextBidiSequence ≥ m.maxStreamsBidi)
    (.streamLimit "peer's bidirectional stream limit reached")
  let streamId := localId m.isClient m.nextBidiSequence
  set { m.setHalf streamId
      ⟨some (.new streamId m.peerLimits.maxStreamDataBidiRemote),
        some (.new streamId m.localLimits.maxStreamDataBidiLocal)⟩ with
    nextBidiSequence := m.nextBidiSequence + 1 }
  return streamId

def updatePeerLimits (m : StreamManager) (peer : FlowControlLimits) : StreamManager :=
  { m with
    peerLimits := peer
    maxData := peer.maxData
    maxStreamsBidi := peer.maxStreamsBidi
    maxStreamsUni := peer.maxStreamsUni
    streams := m.streams.mapValues fun half =>
      { half with send := half.send.map (·.onMaxStreamData peer.maxStreamDataBidiRemote) } }

def sendStream (m : StreamManager) (streamId : ℕ) : Except Raised SendStream :=
  match m.streams.get? streamId with
  | none => .error (.key streamId)
  | some half =>
    match half.send with
    | none => .error (.stream streamStateError s!"stream {streamId} is not writable")
    | some send => .ok send

def withSend (streamId : ℕ) (f : SendStream → Except Raised SendStream) :
    EStateM Raised StreamManager Unit := do
  let m ← get
  let send ← lift (m.sendStream streamId)
  let send' ← lift (f send)
  set (m.setSend streamId send')

def recvStream (m : StreamManager) (streamId : ℕ) : Except Raised RecvStream :=
  match m.streams.get? streamId with
  | none => .error (.key streamId)
  | some half =>
    match half.recv with
    | none => .error (.stream streamStateError s!"stream {streamId} is not readable")
    | some recv => .ok recv

def createPeerInitiated (m : StreamManager) (streamId : ℕ) : Except Raised Half :=
  if isClientInitiated streamId = m.isClient then
    .error (.stream streamStateError s!"stream {streamId} was never opened")
  else if isBidirectional streamId then
    if streamId / 4 ≥ m.localMaxStreamsBidi then
      .error (.stream streamLimitError s!"stream {streamId} exceeds stream limit")
    else .ok ⟨some (.new streamId m.peerLimits.maxStreamDataBidiLocal),
      some (.new streamId m.localLimits.maxStreamDataBidiRemote)⟩
  else if streamId / 4 ≥ m.localMaxStreamsUni then
    .error (.stream streamLimitError s!"stream {streamId} exceeds stream limit")
  else .ok ⟨none, some (.new streamId m.localLimits.maxStreamDataUni)⟩

def routedHalf (streamId : ℕ) : EStateM Raised StreamManager Half := do
  let m ← get
  match m.streams.get? streamId with
  | some half => return half
  | none =>
    let half ← lift (m.createPeerInitiated streamId)
    set (m.setHalf streamId half)
    return half

def onStreamFrame (frame : Stream) : EStateM Raised StreamManager Unit := do
  let half ← routedHalf frame.streamId
  match half.recv with
  | none => throw (.stream streamStateError s!"stream {frame.streamId} is send-only")
  | some recv =>
    zoom (fun _ => recv) (fun r m => m.setRecv frame.streamId r) (RecvStream.onStreamFrame frame)
    modify fun m => { m with
      dataReceived := m.dataReceived +
        (((m.recv? frame.streamId).map (·.highestOffset)).getD 0 - recv.highestOffset) }
    let m ← get
    raiseIf (m.dataReceived > m.localMaxData)
      (.stream flowControlError "connection flow control exceeded")

def routed (m : StreamManager) (streamId : ℕ) : StreamManager :=
  match m.streams.get? streamId, m.createPeerInitiated streamId with
  | none, .ok half => m.setHalf streamId half
  | _, _ => m

def accepted (m : StreamManager) (frame : Stream) (recv : RecvStream) : StreamManager :=
  { m.setRecv frame.streamId (recv.accept frame) with
    dataReceived := m.dataReceived + ((recv.accept frame).highestOffset - recv.highestOffset) }

lemma routedHalf_spec (m : StreamManager) (streamId : ℕ) :
    Ensures (routedHalf streamId) m
      (fun half m' => m' = m.routed streamId ∧ m'.streams.get? streamId = some half)
      fun e m' => IsStreamError e ∧ m' = m := by
  simp only [routedHalf, ensures_state]
  cases hget : m.streams.get? streamId with
  | some half => simp [routed, hget]
  | none =>
    simp only [ensures_flow]
    constructor
    · intro half hhalf
      simp [routed, hget, hhalf, setHalf]
    · intro e he
      refine ⟨?_, trivial⟩
      unfold createPeerInitiated at he
      split_ifs at he <;> exact ⟨_, _, (Except.error.inj he).symm, by decide, by decide⟩

def Refused (m : StreamManager) (frame : Stream) (m' : StreamManager) : Prop :=
  m' = m ∨ m' = m.routed frame.streamId ∨
    ∃ recv, (m.routed frame.streamId).recv? frame.streamId = some recv ∧
      (m' = (m.routed frame.streamId).setRecv frame.streamId recv ∨
       recv.Sizes frame ∧ m' = (m.routed frame.streamId).setRecv frame.streamId
          { recv with finalSize := some (frame.offset + frame.data.length) } ∨
       recv.Accepts frame ∧ m' = (m.routed frame.streamId).accepted frame recv)

lemma onStreamFrame_spec (m : StreamManager) (frame : Stream) :
    Ensures (onStreamFrame frame) m
      (fun _ m' => ∃ recv, (m.routed frame.streamId).recv? frame.streamId = some recv ∧
        recv.Accepts frame ∧ m' = (m.routed frame.streamId).accepted frame recv ∧
        m'.dataReceived ≤ m'.localMaxData)
      fun e m' => IsStreamError e ∧ m.Refused frame m' := by
  rw [onStreamFrame, ensures_bind]
  refine (routedHalf_spec m frame.streamId).mono ?_ fun e m' h => ⟨h.1, .inl h.2⟩
  rintro half m₁ ⟨rfl, hhalf⟩
  cases hrecv : half.recv with
  | none => exact ⟨⟨_, _, rfl, by decide, by decide⟩, .inr (.inl rfl)⟩
  | some recv =>
    have hrecv? : (m.routed frame.streamId).recv? frame.streamId = some recv := by
      simp [recv?, hhalf, hrecv]
    simp only [ensures_flow, recv?_setRecv, if_true, Option.map_some, Option.getD_some]
    refine (RecvStream.onStreamFrame_spec recv frame).mono ?_ ?_
    · rintro _ r' ⟨hacc, rfl⟩
      refine ⟨fun _ => ⟨⟨_, _, rfl, by decide, by decide⟩, .inr (.inr ⟨recv, hrecv?, .inr (.inr ⟨hacc, rfl⟩)⟩)⟩,
        fun hle => ?_⟩
      exact ⟨recv, hrecv?, hacc, rfl, Nat.le_of_not_lt hle⟩
    · rintro e r' ⟨he, rfl | ⟨hsizes, rfl⟩⟩
      · exact ⟨he, .inr (.inr ⟨_, hrecv?, .inl rfl⟩)⟩
      · exact ⟨he, .inr (.inr ⟨_, hrecv?, .inr (.inl ⟨hsizes, rfl⟩)⟩)⟩

lemma onStreamFrame_of_accepts (hcreate : m.streams.get? frame.streamId = none →
      ∃ half, m.createPeerInitiated frame.streamId = .ok half)
    (hrecv : (m.routed frame.streamId).recv? frame.streamId = some recv) (hacc : recv.Accepts frame)
    (hle : ((m.routed frame.streamId).accepted frame recv).dataReceived ≤
      ((m.routed frame.streamId).accepted frame recv).localMaxData) :
    onStreamFrame frame m = .ok () ((m.routed frame.streamId).accepted frame recv) := by
  obtain ⟨half, hhalf, hhalf'⟩ :
      ∃ half, (m.routed frame.streamId).streams.get? frame.streamId = some half ∧
        half.recv = some recv := by
    simpa [recv?, Option.bind_eq_some_iff] using hrecv
  have hroute : routedHalf frame.streamId m = .ok half (m.routed frame.streamId) := by
    apply eq_ok_of_ensures
    refine (routedHalf_spec m frame.streamId).and (ensures_self _ _) |>.mono ?_ ?_
    · rintro half' m' ⟨⟨rfl, h⟩, -⟩
      exact ⟨Option.some.inj (h.symm.trans hhalf), rfl⟩
    · rintro e m' ⟨-, h⟩
      -- the exception would come from `createPeerInitiated`
      cases hget : m.streams.get? frame.streamId with
      | some half' =>
        have : routedHalf frame.streamId m = .ok half' m := by
          apply eq_ok_of_ensures
          simp [routedHalf, hget]
        simp [this] at h
      | none =>
        obtain ⟨half', hok⟩ := hcreate hget
        have : routedHalf frame.streamId m = .ok half' (m.setHalf frame.streamId half') := by
          apply eq_ok_of_ensures
          simp [routedHalf, hget, hok]
        simp [this] at h
  apply eq_ok_of_ensures
  rw [onStreamFrame, ensures_bind, ensures_of_eq_ok hroute]
  simp only [hhalf', ensures_flow, recv?_setRecv, if_true, Option.map_some, Option.getD_some]
  rw [ensures_of_eq_ok (RecvStream.onStreamFrame_of_accepts hacc)]
  exact ⟨fun h => absurd h (Nat.not_lt.2 hle), fun _ => ⟨trivial, rfl⟩⟩

def nextFrame (streamId : ℕ) (maxBytes : ℤ) : EStateM Raised StreamManager (Option Stream) := do
  let m ← get
  let stream ← lift (m.sendStream streamId)
  let connectionCredit := (m.maxData : ℤ) - m.dataSent
  let (frame, stream') := stream.nextFrame maxBytes connectionCredit
  set { m.setSend streamId stream' with
    dataSent := if frame.isSome
      then m.dataSent + (stream'.highestOffsetSent - stream.highestOffsetSent) else m.dataSent }
  return frame

def writableStreams (m : StreamManager) : List ℕ :=
  (m.streams.items.filter fun item =>
    match item.2.send with
    | some send => send.hasPending
    | none => false).map Prod.fst

lemma mem_writableStreams {streamId : ℕ} (h : m.send? streamId = some send)
    (hpending : send.hasPending = true) : streamId ∈ m.writableStreams := by
  obtain ⟨half, hhalf, hsend⟩ := Option.bind_eq_some_iff.1 h
  refine List.mem_map.2 ⟨(streamId, half), List.mem_filter.2 ⟨Dict.get?_eq_some_iff.1 hhalf, ?_⟩, rfl⟩
  simp only [hsend, hpending]

def onMaxData (m : StreamManager) (maximum : ℕ) : StreamManager :=
  { m with maxData := max m.maxData maximum }

def onMaxStreams (m : StreamManager) (maximum : ℕ) (bidirectional : Bool) : StreamManager :=
  if bidirectional then { m with maxStreamsBidi := max m.maxStreamsBidi maximum }
  else { m with maxStreamsUni := max m.maxStreamsUni maximum }

def peerOpened (m : StreamManager) (bidirectional : Bool) : List Half :=
  (m.streams.items.filter fun item =>
    isClientInitiated item.1 != m.isClient && isBidirectional item.1 == bidirectional).map Prod.snd

def maxStreamsUpdate (m : StreamManager) (bidirectional : Bool) : Option ℕ × StreamManager :=
  let window := if bidirectional then m.streamsWindowBidi else m.streamsWindowUni
  let advertised := if bidirectional then m.localMaxStreamsBidi else m.localMaxStreamsUni
  let opened := (m.peerOpened bidirectional).length
  let closed := ((m.peerOpened bidirectional).filter Half.isClosed).length
  if 2 * ((advertised : ℤ) - opened) ≥ window then (none, m)
  else if closed + window ≤ advertised then (none, m)
  else if bidirectional then
    (some (closed + window), { m with localMaxStreamsBidi := closed + window })
  else (some (closed + window), { m with localMaxStreamsUni := closed + window })

def consumed (m : StreamManager) : ℕ :=
  m.streams.total fun _ half => (half.recv.map (·.readOffset)).getD 0

def maxDataUpdate (m : StreamManager) : Option ℕ × StreamManager :=
  if 2 * ((m.localMaxData : ℤ) - m.consumed) ≥ m.dataWindow then (none, m)
  else (some (m.consumed + m.dataWindow), { m with localMaxData := m.consumed + m.dataWindow })

def read (streamId : ℕ) (m : StreamManager) : Bytes × StreamManager :=
  match m.recv? streamId with
  | none => ([], m)
  | some recv => (recv.read.1, m.setRecv streamId recv.read.2)

def creditUpdate (streamId : ℕ) (m : StreamManager) : Option ℕ × StreamManager :=
  match m.recv? streamId with
  | none => (none, m)
  | some recv => (recv.creditUpdate.1, m.setRecv streamId recv.creditUpdate.2)

def isFullyRead (m : StreamManager) (streamId : ℕ) : Bool :=
  match m.recv? streamId with
  | none => false
  | some recv => recv.isFullyRead

def readEvent (streamId : ℕ) : EStateM Raised StreamManager (Option StreamDataReceived) := do
  let wasFullyRead := (← get).isFullyRead streamId
  let data ← modifyGet (read streamId)
  let fullyRead := (← get).isFullyRead streamId
  if data ≠ [] ∨ (fullyRead ∧ ¬wasFullyRead) then return some ⟨streamId, data, fullyRead⟩
  else return none

def maybeExtendCredit (streamId : ℕ) : EStateM Raised StreamManager (List Frame) := do
  let limit ← modifyGet (creditUpdate streamId)
  let connectionLimit ← modifyGet maxDataUpdate
  let bidiLimit ← modifyGet (maxStreamsUpdate · true)
  let uniLimit ← modifyGet (maxStreamsUpdate · false)
  return (limit.map (Frame.maxStreamData streamId)).toList ++
    (connectionLimit.map Frame.maxData).toList ++
    (bidiLimit.map (Frame.maxStreams · true)).toList ++
    (uniLimit.map (Frame.maxStreams · false)).toList

/-- `_handle_stream` on the streams of a connection: the event it reports and the control frames it
queues. -/
def handleStream (frame : Stream) :
    EStateM Raised StreamManager (Option StreamDataReceived × List Frame) := do
  onStreamFrame frame
  let event ← readEvent frame.streamId
  let frames ← maybeExtendCredit frame.streamId
  return (event, frames)

end StreamManager

def RecvStream.event (r : RecvStream) (streamId : ℕ) : Option StreamDataReceived :=
  if r.read.1 ≠ [] ∨ (r.read.2.isFullyRead ∧ ¬r.isFullyRead)
  then some ⟨streamId, r.read.1, r.read.2.isFullyRead⟩ else none

namespace StreamManager

section Handling

variable {m : StreamManager} {i : ℕ} {recv : RecvStream}

lemma readEvent_eq (h : m.recv? i = some recv) :
    readEvent i m = .ok (recv.event i) (m.setRecv i recv.read.2) := by
  apply eq_ok_of_ensures
  simp only [readEvent, ensures_flow, read, isFullyRead, h, recv?_setRecv, if_true, RecvStream.event]
  exact ⟨fun hreport => ⟨(if_pos hreport).symm, trivial⟩, fun hsilent => ⟨(if_neg hsilent).symm, trivial⟩⟩

def extended (m : StreamManager) (i : ℕ) : StreamManager :=
  ((maxStreamsUpdate (maxStreamsUpdate (maxDataUpdate (creditUpdate i m).2).2 true).2) false).2

lemma maybeExtendCredit_eq (m : StreamManager) (i : ℕ) :
    ∃ frames, maybeExtendCredit i m = .ok frames (m.extended i) := by
  have hstate : Ensures (maybeExtendCredit i) m (fun _ m' => m' = m.extended i) fun _ _ => False := by
    simp only [maybeExtendCredit, ensures_state, extended]
  cases hcall : maybeExtendCredit i m with
  | ok frames m' => exact ⟨frames, by rw [hstate.of_ok hcall]⟩
  | error e m' => exact (hstate.of_error hcall).elim

@[simp] lemma streams_maxDataUpdate : m.maxDataUpdate.2.streams = m.streams := by
  unfold maxDataUpdate
  split_ifs <;> rfl

@[simp] lemma streams_maxStreamsUpdate (b : Bool) : (m.maxStreamsUpdate b).2.streams = m.streams := by
  simp only [maxStreamsUpdate]
  split_ifs <;> rfl

lemma streams_extended : (m.extended i).streams = (creditUpdate i m).2.streams := by
  simp [extended]

lemma recv?_extended (h : m.recv? i = some recv) (j : ℕ) :
    (m.extended i).recv? j = if j = i then some recv.creditUpdate.2 else m.recv? j := by
  have hstreams : (m.extended i).recv? j = (creditUpdate i m).2.recv? j := by
    simp only [recv?, streams_extended]
  rw [hstreams]
  simp [creditUpdate, h]

def Handled (m : StreamManager) (frame : Stream) (event : Option StreamDataReceived) (m' : StreamManager) : Prop :=
  ∃ recv, (m.routed frame.streamId).recv? frame.streamId = some recv ∧ recv.Accepts frame ∧
    event = (recv.accept frame).event frame.streamId ∧
    m' = (((m.routed frame.streamId).accepted frame recv).setRecv frame.streamId
      (recv.accept frame).read.2).extended frame.streamId

@[simp] lemma recv?_accepted (m : StreamManager) (frame : Stream) (recv : RecvStream) (j : ℕ) :
    (m.accepted frame recv).recv? j =
      if j = frame.streamId then some (recv.accept frame) else m.recv? j :=
  recv?_setRecv m frame.streamId j (recv.accept frame)

lemma recv?_accepted_self (m : StreamManager) (frame : Stream) (recv : RecvStream) :
    (m.accepted frame recv).recv? frame.streamId = some (recv.accept frame) := by
  rw [recv?_accepted, if_pos rfl]

lemma handleStream_within (m : StreamManager) (frame : Stream) :
    Ensures (handleStream frame) m
      (fun out m' => ∃ recv, (m.routed frame.streamId).recv? frame.streamId = some recv ∧ recv.Accepts frame ∧
        ((m.routed frame.streamId).accepted frame recv).dataReceived ≤ (m.routed frame.streamId).localMaxData ∧
        out.1 = (recv.accept frame).event frame.streamId ∧
        m' = (((m.routed frame.streamId).accepted frame recv).setRecv frame.streamId
          (recv.accept frame).read.2).extended frame.streamId)
      fun e m' => IsStreamError e ∧ m.Refused frame m' := by
  rw [handleStream, ensures_bind]
  refine (onStreamFrame_spec m frame).imp ?_
  rintro _ m₁ ⟨recv, hrecv, hacc, rfl, hwithin⟩
  obtain ⟨frames, hframes⟩ := maybeExtendCredit_eq
    (((m.routed frame.streamId).accepted frame recv).setRecv frame.streamId
      (recv.accept frame).read.2) frame.streamId
  rw [ensures_bind, ensures_of_eq_ok (readEvent_eq (recv?_accepted_self _ _ _)), ensures_bind,
    ensures_of_eq_ok hframes]
  exact ⟨recv, hrecv, hacc, hwithin, rfl, rfl⟩

lemma handleStream_spec (m : StreamManager) (frame : Stream) :
    Ensures (handleStream frame) m (fun out m' => m.Handled frame out.1 m')
      fun e m' => IsStreamError e ∧ m.Refused frame m' := by
  apply (handleStream_within m frame).imp
  rintro _ _ ⟨recv, hrecv, hacc, -, hhandled⟩
  exact ⟨recv, hrecv, hacc, hhandled⟩

lemma recv?_routed (m : StreamManager) (i j : ℕ) :
    (m.routed i).recv? j = m.recv? j ∨
      (j = i ∧ m.recv? i = none ∧ ∃ limit, (m.routed i).recv? i = some (.new i limit)) := by
  unfold routed
  split
  · rename_i half hnone hcreate
    by_cases hj : j = i
    · refine .inr ⟨hj, by simp [recv?, hnone], ?_⟩
      unfold createPeerInitiated at hcreate
      split_ifs at hcreate <;> cases hcreate <;> simp
    · exact .inl (by simp [hj])
  · exact .inl rfl

end Handling

def Numbered (m : StreamManager) : Prop :=
  ∀ i half, m.streams.get? i = some half → isClientInitiated i = m.isClient →
    i / 4 < m.nextBidiSequence

lemma localId_div (isClient : Bool) (sequence : ℕ) : localId isClient sequence / 4 = sequence := by
  unfold localId
  split_ifs <;> omega

@[simp] lemma isClientInitiated_localId (isClient : Bool) (sequence : ℕ) :
    isClientInitiated (localId isClient sequence) = isClient := by
  unfold localId isClientInitiated
  cases isClient <;> simp <;> omega

@[simp] lemma isBidirectional_localId (isClient : Bool) (sequence : ℕ) :
    isBidirectional (localId isClient sequence) = true := by
  unfold localId isBidirectional
  cases isClient <;> simp <;> omega

lemma Numbered.fresh (h : m.Numbered) :
    m.streams.get? (localId m.isClient m.nextBidiSequence) = none := by
  by_contra hsome
  obtain ⟨half, hhalf⟩ := Option.ne_none_iff_exists'.1 hsome
  have := h _ half hhalf (isClientInitiated_localId _ _)
  rw [localId_div] at this
  exact lt_irrefl _ this

lemma numbered_new (isClient : Bool) (localLimits peerLimits : FlowControlLimits) :
    (new isClient localLimits peerLimits).Numbered := by
  intro i half h
  simp [new] at h

lemma Numbered.of_streams_eq {m m' : StreamManager} (h : m.Numbered) (hs : m'.streams = m.streams)
    (hc : m'.isClient = m.isClient) (hn : m'.nextBidiSequence = m.nextBidiSequence) : m'.Numbered := by
  intro i half hget hi
  rw [hs] at hget
  rw [hc] at hi
  rw [hn]
  exact h i half hget hi

variable {i : ℕ} {j : ℕ}

lemma Numbered.setHalf (h : m.Numbered) (half : Half)
    (hi : m.streams.get? i ≠ none ∨ isClientInitiated i ≠ m.isClient) : (m.setHalf i half).Numbered := by
  intro j half' hget hj
  by_cases hji : j = i
  · subst hji
    rcases hi with hi | hi
    · obtain ⟨old, hold⟩ := Option.ne_none_iff_exists'.1 hi
      exact h j old hold hj
    · exact absurd hj hi
  · have hget' : m.streams.get? j = some half' := by
      simpa [StreamManager.setHalf, Dict.get?_set, hji] using hget
    exact h j half' hget' hj

lemma Numbered.routed (h : m.Numbered) (i : ℕ) : (m.routed i).Numbered := by
  unfold StreamManager.routed
  split
  · rename_i half hnone hcreate
    refine h.setHalf half (.inr fun hi => ?_)
    simp [createPeerInitiated, hi] at hcreate
  · exact h

lemma get?_ne_none_of_recv? (h : m.recv? i = some recv) : m.streams.get? i ≠ none := by
  intro hnone
  simp [recv?, hnone] at h

lemma get?_ne_none_of_send? (h : m.send? i = some send) : m.streams.get? i ≠ none := by
  intro hnone
  simp [send?, hnone] at h

lemma Numbered.setRecv (h : m.Numbered) {old : RecvStream}
    (hold : m.recv? i = some old) (recv : RecvStream) : (m.setRecv i recv).Numbered :=
  h.setHalf _ (.inl (get?_ne_none_of_recv? hold))

lemma Numbered.setSend (h : m.Numbered) {old : SendStream}
    (hold : m.send? i = some old) (send : SendStream) : (m.setSend i send).Numbered :=
  h.setHalf _ (.inl (get?_ne_none_of_send? hold))

lemma Numbered.accepted (h : m.Numbered)
    (hrecv : m.recv? frame.streamId = some recv) : (m.accepted frame recv).Numbered :=
  (h.setRecv hrecv _).of_streams_eq rfl rfl rfl

lemma Numbered.maxDataUpdate (h : m.Numbered) : m.maxDataUpdate.2.Numbered := by
  refine h.of_streams_eq streams_maxDataUpdate ?_ ?_ <;>
    · unfold StreamManager.maxDataUpdate
      split_ifs <;> rfl

lemma Numbered.maxStreamsUpdate (h : m.Numbered) (b : Bool) : (m.maxStreamsUpdate b).2.Numbered := by
  refine h.of_streams_eq (streams_maxStreamsUpdate b) ?_ ?_ <;>
    · simp only [StreamManager.maxStreamsUpdate]
      split_ifs <;> rfl

lemma Numbered.creditUpdate (h : m.Numbered) (i : ℕ) : (creditUpdate i m).2.Numbered := by
  unfold StreamManager.creditUpdate
  split
  · exact h
  · rename_i recv hrecv
    exact h.setRecv hrecv _

lemma Numbered.extended (h : m.Numbered) (i : ℕ) : (m.extended i).Numbered :=
  (((h.creditUpdate i).maxDataUpdate).maxStreamsUpdate true).maxStreamsUpdate false

lemma Numbered.handled {m m' : StreamManager} (h : m.Numbered)
    {event : Option StreamDataReceived} (hm : m.Handled frame event m') : m'.Numbered := by
  obtain ⟨recv, hrecv, -, -, hm'⟩ := hm
  rw [hm']
  exact (((h.routed _).accepted hrecv).setRecv (recv?_accepted_self _ _ _) _).extended _

lemma Numbered.refused {m m' : StreamManager} (h : m.Numbered) (hm : m.Refused frame m') : m'.Numbered := by
  rcases hm with rfl | rfl | ⟨recv, hrecv, rfl | ⟨-, rfl⟩ | ⟨-, rfl⟩⟩
  · exact h
  · exact h.routed _
  · exact (h.routed _).setRecv hrecv _
  · exact (h.routed _).setRecv hrecv _
  · exact (h.routed _).accepted hrecv

lemma recv?_routed_of_ne (m : StreamManager) {i j : ℕ} (h : j ≠ i) : (m.routed i).recv? j = m.recv? j :=
  (recv?_routed m i j).resolve_right fun hj => h hj.1

lemma Handled.recv?_of_ne {m m' : StreamManager} {event : Option StreamDataReceived}
    (hm : m.Handled frame event m') (h : j ≠ frame.streamId) : m'.recv? j = m.recv? j := by
  obtain ⟨recv, hrecv, -, -, hm'⟩ := hm
  rw [hm']
  rw [recv?_extended (recv?_setRecv _ _ _ _ |>.trans (if_pos rfl)), if_neg h, recv?_setRecv, if_neg h,
    recv?_accepted, if_neg h, recv?_routed_of_ne m h]

lemma Refused.recv?_of_ne {m m' : StreamManager} (hm : m.Refused frame m')
    (h : j ≠ frame.streamId) : m'.recv? j = m.recv? j := by
  rcases hm with rfl | rfl | ⟨recv, hrecv, rfl | ⟨-, rfl⟩ | ⟨-, rfl⟩⟩
  · rfl
  all_goals simp [h, recv?_routed_of_ne m h]

lemma sendStream_eq_ok :
    m.sendStream i = .ok send ↔ m.send? i = some send := by
  unfold sendStream send?
  cases m.streams.get? i with
  | none => simp
  | some half =>
    simp only [Option.bind_some]
    cases half.send <;> simp

lemma recvStream_eq_ok :
    m.recvStream i = .ok recv ↔ m.recv? i = some recv := by
  unfold recvStream recv?
  cases m.streams.get? i with
  | none => simp
  | some half =>
    simp only [Option.bind_some]
    cases half.recv <;> simp

lemma withSend_spec (m : StreamManager) (i : ℕ) (f : SendStream → Except Raised SendStream) :
    Ensures (withSend i f) m
      (fun _ m' => ∃ send send', m.send? i = some send ∧ f send = .ok send' ∧ m' = m.setSend i send')
      fun e m' => m' = m ∧ (m.sendStream i = .error e ∨ ∃ send, m.send? i = some send ∧ f send = .error e) := by
  simp only [withSend, ensures_flow]
  refine ⟨fun send hsend => ?_, fun e he => ⟨trivial, .inl he⟩⟩
  rw [sendStream_eq_ok] at hsend
  exact ⟨fun send' hsend' => ⟨send, send', hsend, hsend', rfl⟩, fun e he => ⟨trivial, .inr ⟨send, hsend, he⟩⟩⟩

lemma nextFrame_spec (m : StreamManager) (i : ℕ) (maxBytes : ℤ) :
    Ensures (nextFrame i maxBytes) m
      (fun frame m' => ∃ send, m.send? i = some send ∧
        frame = (send.nextFrame maxBytes ((m.maxData : ℤ) - m.dataSent)).1 ∧
        m' = { m.setSend i (send.nextFrame maxBytes ((m.maxData : ℤ) - m.dataSent)).2 with
          dataSent := if frame.isSome then m.dataSent +
            ((send.nextFrame maxBytes ((m.maxData : ℤ) - m.dataSent)).2.highestOffsetSent -
              send.highestOffsetSent) else m.dataSent })
      fun e m' => m' = m ∧ m.sendStream i = .error e := by
  simp only [nextFrame, ensures_flow]
  refine ⟨fun send hsend => ?_, fun e he => ⟨trivial, he⟩⟩
  exact ⟨send, sendStream_eq_ok.1 hsend, rfl, rfl⟩

lemma openBidi_spec (m : StreamManager) :
    Ensures openBidi m
      (fun i m' => i = localId m.isClient m.nextBidiSequence ∧ m.nextBidiSequence < m.maxStreamsBidi ∧
        m' = { m.setHalf i ⟨some (.new i m.peerLimits.maxStreamDataBidiRemote),
          some (.new i m.localLimits.maxStreamDataBidiLocal)⟩ with
          nextBidiSequence := m.nextBidiSequence + 1 })
      fun e m' => m' = m ∧ e = .streamLimit "peer's bidirectional stream limit reached" ∧
        m.maxStreamsBidi ≤ m.nextBidiSequence := by
  simp only [openBidi, ensures_flow]
  exact ⟨fun h => ⟨trivial, trivial, h⟩, fun h => ⟨trivial, Nat.lt_of_not_le h, trivial⟩⟩

lemma Numbered.openBidi (h : m.Numbered) (half : Half) :
    { m.setHalf (localId m.isClient m.nextBidiSequence) half with
      nextBidiSequence := m.nextBidiSequence + 1 : StreamManager }.Numbered := by
  intro j half' hget hj
  by_cases hji : j = localId m.isClient m.nextBidiSequence
  · subst hji
    simp [localId_div]
  · have hget' : m.streams.get? j = some half' := by
      simpa [StreamManager.setHalf, Dict.get?_set, hji] using hget
    exact Nat.lt_succ_of_lt (h j half' hget' hj)

end StreamManager

end Dsquic.Streams
