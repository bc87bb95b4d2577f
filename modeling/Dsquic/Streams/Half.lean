import Dsquic.Lib.Slice
import Dsquic.Streams.RangeSet
import Dsquic.Wire.Frames
import Mathlib.Data.Int.Order.Basic

/-!
The sending and the receiving half of one stream.
-/

namespace Dsquic.Streams

open Lib Wire

section Placed

variable {α : Type} {received : RangeSet ℕ} {buffer whole : List α}

def Placed (received : RangeSet ℕ) (buffer whole : List α) : Prop :=
  ∀ i ∈ received, i < buffer.length ∧ buffer[i]? = whole[i]?

lemma Placed.add (h : Placed received buffer whole) (filler : α) {offset : ℕ} {data : List α}
    (hslice : IsSlice whole offset data) :
    Placed (received.add offset (offset + data.length)) (splice filler buffer offset data) whole := by
  intro i hi
  by_cases hin : offset ≤ i ∧ i < offset + data.length
  · rw [splice_getElem?_inside _ _ _ _ hin.1 hin.2, hslice.getElem? hin.1 hin.2, length_splice]
    exact ⟨by omega, rfl⟩
  · obtain ⟨hlen, heq⟩ := h i ((RangeSet.mem_add.1 hi).resolve_right hin)
    rw [splice_getElem?_outside _ _ _ _ hlen (by omega), length_splice]
    exact ⟨by omega, heq⟩

lemma Placed.take_append_read (h : Placed received buffer whole) (start : ℕ) :
    whole.take start ++ (buffer.take (received.contiguousFrom start)).drop start =
      whole.take (received.contiguousFrom start) := by
  have hread : (buffer.take (received.contiguousFrom start)).drop start =
      (whole.take (received.contiguousFrom start)).drop start :=
    take_drop_congr fun i hlo hhi => (h i (RangeSet.mem_of_lt_contiguousFrom hlo hhi)).2
  rw [hread, take_append_take_drop _ (RangeSet.le_contiguousFrom _ _)]

end Placed

inductive SendState
  | ready
  | send
  | dataSent
  | dataRecvd
  deriving DecidableEq

inductive RecvState
  | recv
  | sizeKnown
  | dataRecvd
  | dataRead
  deriving DecidableEq

structure SendStream where
  streamId : ℕ
  maxStreamData : ℕ
  state : SendState
  pending : Bytes
  baseOffset : ℕ
  retransmit : List Stream
  highestOffsetSent : ℕ
  finQueued : Bool
  finSent : Bool
  finalSize : Option ℕ
  acked : RangeSet ℕ
  finAcked : Bool

namespace SendStream

def new (streamId maxStreamData : ℕ) : SendStream where
  streamId := streamId
  maxStreamData := maxStreamData
  state := .ready
  pending := []
  baseOffset := 0
  retransmit := []
  highestOffsetSent := 0
  finQueued := false
  finSent := false
  finalSize := none
  acked := .empty
  finAcked := false

def write (s : SendStream) (data : Bytes) (fin : Bool) : Except Raised SendStream :=
  if s.finQueued then .error (.value "write after fin")
  else if fin then
    .ok { s with
      pending := s.pending ++ data
      finQueued := true
      finalSize := some (s.baseOffset + (s.pending ++ data).length) }
  else .ok { s with pending := s.pending ++ data }

def budget (s : SendStream) (maxBytes connectionCredit : ℤ) : ℕ :=
  (min (min (min (s.pending.length : ℤ) maxBytes) ((s.maxStreamData : ℤ) - s.baseOffset))
    connectionCredit).toNat

def emit (s : SendStream) (size : ℕ) (fin : Bool) : SendStream :=
  { s with
    pending := s.pending.drop size
    baseOffset := s.baseOffset + size
    finSent := s.finSent || fin
    highestOffsetSent := max s.highestOffsetSent (s.baseOffset + (s.pending.take size).length)
    state := if s.finSent || fin then .dataSent else .send }

def newFrame (s : SendStream) (maxBytes connectionCredit : ℤ) : Option Stream × SendStream :=
  let budget := s.budget maxBytes connectionCredit
  let chunk := s.pending.take budget
  let finNow := s.finQueued && !s.finSent && budget == s.pending.length
  if chunk = [] ∧ finNow = false then (none, s)
  else (some ⟨s.streamId, s.baseOffset, chunk, finNow⟩, s.emit budget finNow)

def nextFrame (s : SendStream) (maxBytes connectionCredit : ℤ) : Option Stream × SendStream :=
  match s.retransmit with
  | frame :: frames =>
    if (frame.data.length : ℤ) ≤ maxBytes then (some frame, { s with retransmit := frames })
    else s.newFrame maxBytes connectionCredit
  | [] => s.newFrame maxBytes connectionCredit

def onMaxStreamData (s : SendStream) (maximum : ℕ) : SendStream :=
  { s with maxStreamData := max s.maxStreamData maximum }

def onFrameAcked (s : SendStream) (frame : Stream) : SendStream :=
  let acked := s.acked.add frame.offset (frame.offset + frame.data.length)
  let finAcked := s.finAcked || frame.fin
  let finished := match s.finalSize with
    | some size => finAcked && acked.covers 0 size
    | none => false
  { s with
    acked := acked
    finAcked := finAcked
    state := if finished then .dataRecvd else s.state }

def requeue (s : SendStream) (frame : Stream) : SendStream :=
  if frame.data ≠ [] ∨ frame.fin then { s with retransmit := s.retransmit ++ [frame] } else s

def hasPending (s : SendStream) : Bool :=
  !s.retransmit.isEmpty || !s.pending.isEmpty || (s.finQueued && !s.finSent)

section Budget

variable (s : SendStream) (maxBytes connectionCredit : ℤ)

lemma budget_le_pending : s.budget maxBytes connectionCredit ≤ s.pending.length := by
  unfold budget
  omega

lemma budget_le_credit : (s.budget maxBytes connectionCredit : ℤ) ≤ max 0 connectionCredit := by
  unfold budget
  omega

lemma budget_le_stream :
    s.baseOffset + s.budget maxBytes connectionCredit ≤ max s.baseOffset s.maxStreamData := by
  unfold budget
  omega

lemma nextFrame_cases :
    s.nextFrame maxBytes connectionCredit = (none, s) ∨
    (∃ frame frames, s.retransmit = frame :: frames ∧
      s.nextFrame maxBytes connectionCredit = (some frame, { s with retransmit := frames })) ∨
    ∃ size fin, size = s.budget maxBytes connectionCredit ∧
      (fin = true → s.finQueued = true ∧ s.finSent = false ∧ size = s.pending.length) ∧
      (s.finQueued = true → s.finSent = false → size = s.pending.length → fin = true) ∧
      s.nextFrame maxBytes connectionCredit =
        (some ⟨s.streamId, s.baseOffset, s.pending.take size, fin⟩, s.emit size fin) := by
  have hnew : s.newFrame maxBytes connectionCredit = (none, s) ∨
      ∃ size fin, size = s.budget maxBytes connectionCredit ∧
        (fin = true → s.finQueued = true ∧ s.finSent = false ∧ size = s.pending.length) ∧
        (s.finQueued = true → s.finSent = false → size = s.pending.length → fin = true) ∧
        s.newFrame maxBytes connectionCredit =
          (some ⟨s.streamId, s.baseOffset, s.pending.take size, fin⟩, s.emit size fin) := by
    simp only [newFrame]
    split_ifs with h
    · exact .inl rfl
    · refine .inr ⟨_, _, rfl, fun hfin => ?_, fun h₁ h₂ h₃ => ?_, rfl⟩
      · simpa [and_assoc] using hfin
      · simp [h₁, h₂, h₃]
  unfold nextFrame
  cases hre : s.retransmit with
  | nil => exact hnew.imp_right .inr
  | cons frame frames =>
    by_cases hfits : (frame.data.length : ℤ) ≤ maxBytes
    · exact .inr (.inl ⟨frame, frames, rfl, if_pos hfits⟩)
    · simp only [if_neg hfits]
      exact hnew.imp_right .inr

end Budget

end SendStream

def IsStreamError (e : Raised) : Prop :=
  ∃ code reason, e = .stream code reason ∧ flowControlError ≤ code ∧ code ≤ finalSizeError

structure RecvStream where
  streamId : ℕ
  maxStreamData : ℕ
  window : ℕ
  state : RecvState
  buffer : Bytes
  received : RangeSet ℕ
  readOffset : ℕ
  finalSize : Option ℕ
  highestOffset : ℕ

namespace RecvStream

def new (streamId maxStreamData : ℕ) : RecvStream where
  streamId := streamId
  maxStreamData := maxStreamData
  window := maxStreamData
  state := .recv
  buffer := []
  received := .empty
  readOffset := 0
  finalSize := none
  highestOffset := 0

def violatesFinalSize (r : RecvStream) (stop : ℕ) (fin : Bool) : Bool :=
  match r.finalSize with
  | some size => stop > size || (fin && stop != size)
  | none => false

def finalSizeViolated (r : RecvStream) : Raised :=
  .stream finalSizeError s!"stream {r.streamId} final size violated"

def receivedState (r : RecvStream) : RecvState :=
  match r.finalSize with
  | some size =>
    if r.state = .dataRead then r.state
    else if r.received.covers 0 size then .dataRecvd else .sizeKnown
  | none => r.state

def onStreamFrame (frame : Stream) : EStateM Raised RecvStream Unit := do
  let r ← get
  let stop := frame.offset + frame.data.length
  raiseIf (r.violatesFinalSize stop frame.fin) r.finalSizeViolated
  doIf frame.fin do
    raiseIf (stop < r.highestOffset) r.finalSizeViolated
    modify fun r => { r with finalSize := some stop }
  raiseIf (stop > r.maxStreamData)
    (.stream flowControlError s!"stream {r.streamId} exceeded flow control")
  modify fun r => { r with
    buffer := splice 0 r.buffer frame.offset frame.data
    received := r.received.add frame.offset stop
    highestOffset := max r.highestOffset stop }
  modify fun r => { r with state := r.receivedState }

structure Accepts (r : RecvStream) (frame : Stream) : Prop where
  final : r.violatesFinalSize (frame.offset + frame.data.length) frame.fin = false
  highest : frame.fin → r.highestOffset ≤ frame.offset + frame.data.length
  credit : frame.offset + frame.data.length ≤ r.maxStreamData

def accept (r : RecvStream) (frame : Stream) : RecvStream :=
  let stored := { r with
    finalSize := if frame.fin then some (frame.offset + frame.data.length) else r.finalSize
    buffer := splice 0 r.buffer frame.offset frame.data
    received := r.received.add frame.offset (frame.offset + frame.data.length)
    highestOffset := max r.highestOffset (frame.offset + frame.data.length) }
  { stored with state := stored.receivedState }

lemma onStreamFrame_of_accepts {r : RecvStream} {frame : Stream} (h : r.Accepts frame) :
    onStreamFrame frame r = .ok () (r.accept frame) := by
  obtain ⟨hfinal, hhighest, hcredit⟩ := h
  apply eq_ok_of_ensures
  simp only [onStreamFrame, ensures_flow]
  refine ⟨fun h => by simp_all, fun _ => ⟨fun hfin => ⟨fun h => ?_, fun _ => ⟨fun h => ?_, fun _ => ?_⟩⟩,
    fun hfin => ⟨fun h => ?_, fun _ => ?_⟩⟩⟩
  · exact absurd (hhighest hfin) (by omega)
  · omega
  · simp [accept, hfin]
  · omega
  · simp [accept, hfin]

def Sizes (r : RecvStream) (frame : Stream) : Prop :=
  r.violatesFinalSize (frame.offset + frame.data.length) true = false ∧
    r.highestOffset ≤ frame.offset + frame.data.length

lemma onStreamFrame_spec (r : RecvStream) (frame : Stream) :
    Ensures (onStreamFrame frame) r (fun _ r' => r.Accepts frame ∧ r' = r.accept frame)
      fun e r' => IsStreamError e ∧
        (r' = r ∨ r.Sizes frame ∧ r' = { r with finalSize := some (frame.offset + frame.data.length) }) := by
  by_cases h : r.Accepts frame
  · simp [Ensures, onStreamFrame_of_accepts h, h]
  · simp only [onStreamFrame, ensures_flow, finalSizeViolated]
    refine ⟨fun _ => ⟨⟨_, _, rfl, by decide, by decide⟩, .inl trivial⟩,
      fun hfinal => ⟨fun hfin => ?_, fun hfin => ?_⟩⟩
    · refine ⟨fun _ => ⟨⟨_, _, rfl, by decide, by decide⟩, .inl trivial⟩, fun hhighest => ?_⟩
      refine ⟨fun _ => ⟨⟨_, _, rfl, by decide, by decide⟩, .inr ⟨⟨?_, by omega⟩, trivial⟩⟩,
        fun hcredit => absurd ?_ h⟩
      · simpa [hfin] using hfinal
      · exact ⟨by simpa using hfinal, fun _ => by omega, by omega⟩
    · refine ⟨fun _ => ⟨⟨_, _, rfl, by decide, by decide⟩, .inl trivial⟩, fun hcredit => absurd ?_ h⟩
      exact ⟨by simpa using hfinal, fun hf => absurd hf hfin, by omega⟩

def isFullyRead (r : RecvStream) : Bool := r.state = .dataRead

def read (r : RecvStream) : Bytes × RecvStream :=
  let readableEnd := r.received.contiguousFrom r.readOffset
  let data := (r.buffer.take readableEnd).drop r.readOffset
  (data, { r with
    readOffset := readableEnd
    state := if r.finalSize = some readableEnd then .dataRead else r.state })

lemma isFullyRead_read {r : RecvStream} (h : r.isFullyRead = true) : r.read.2.isFullyRead = true := by
  simp only [isFullyRead, decide_eq_true_eq] at h ⊢
  simp [read, h]

def creditUpdate (r : RecvStream) : Option ℕ × RecvStream :=
  if r.finalSize.isSome then (none, r)
  else if 2 * ((r.maxStreamData : ℤ) - r.readOffset) ≥ r.window then (none, r)
  else (some (r.readOffset + r.window), { r with maxStreamData := r.readOffset + r.window })

end RecvStream

end Dsquic.Streams
