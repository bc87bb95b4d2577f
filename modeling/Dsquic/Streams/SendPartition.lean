import Dsquic.Streams.Half

/-!
What a sending half gives over its life: the new frames are a partition of what was written to it, and it is
done when all of it has been acknowledged.
-/

namespace Dsquic.Streams

open Lib Wire

inductive SendOp
  | write (data : Bytes) (fin : Bool)
  | nextFrame (maxBytes connectionCredit : ℤ)
  | requeue (frame : Stream)
  | onMaxStreamData (maximum : ℕ)
  | onFrameAcked (frame : Stream)

structure SendHistory where
  stream : SendStream
  written : Bytes
  finished : Bool
  fresh : List Stream
  emitted : List Stream
  acked : List Stream

def payload (frames : List Stream) : Bytes := frames.flatMap (·.data)

@[simp] lemma payload_nil : payload [] = [] := rfl

@[simp] lemma payload_append (frames more : List Stream) : payload (frames ++ more) = payload frames ++
    payload more :=
  List.flatMap_append

@[simp] lemma payload_singleton (frame : Stream) : payload [frame] = frame.data := List.flatMap_singleton _ _

def Spans (frame : Stream) (i : ℕ) : Prop := frame.offset ≤ i ∧ i < frame.offset + frame.data.length

lemma SendStream.state_onFrameAcked (s : SendStream) (frame : Stream) :
    (s.onFrameAcked frame).state = .dataRecvd ↔ s.state = .dataRecvd ∨ ∃ size, s.finalSize = some size ∧
      (s.finAcked || frame.fin) = true ∧
      (s.acked.add frame.offset (frame.offset + frame.data.length)).covers 0 size = true := by
  obtain ⟨_, _, state, _, _, _, _, _, _, finalSize, acked, finAcked⟩ := s
  cases finalSize with
  | none => simp [SendStream.onFrameAcked]
  | some size =>
    simp only [SendStream.onFrameAcked, Bool.and_eq_true, Option.some.injEq, exists_eq_left']
    split_ifs with hdone
    · exact iff_of_true rfl (.inr hdone)
    · exact (or_iff_left hdone).symm

namespace SendHistory

def new (streamId maxStreamData : ℕ) : SendHistory := ⟨.new streamId maxStreamData, [], false, [], [], []⟩

def step (h : SendHistory) : SendOp → SendHistory
  | .write data fin =>
    match h.stream.write data fin with
    | .ok stream => { h with stream := stream, written := h.written ++ data, finished := h.finished || fin }
    | .error _ => h
  | .nextFrame maxBytes connectionCredit =>
    match h.stream.nextFrame maxBytes connectionCredit with
    | (none, stream) => { h with stream := stream }
    | (some frame, stream) =>
      { h with
        stream := stream
        fresh := if stream.retransmit = h.stream.retransmit then h.fresh ++ [frame] else h.fresh
        emitted := h.emitted ++ [frame] }
  | .requeue frame => if frame ∈ h.emitted then { h with stream := h.stream.requeue frame } else h
  | .onMaxStreamData maximum => { h with stream := h.stream.onMaxStreamData maximum }
  | .onFrameAcked frame =>
    if frame ∈ h.emitted then { h with stream := h.stream.onFrameAcked frame, acked := h.acked ++ [frame] } else h

def run (h : SendHistory) (ops : List SendOp) : SendHistory := ops.foldl step h

def give (h : SendHistory) (size : ℕ) (fin : Bool) : SendHistory :=
  let frame : Stream := ⟨h.stream.streamId, h.stream.baseOffset, h.stream.pending.take size, fin⟩
  { h with stream := h.stream.emit size fin, fresh := h.fresh ++ [frame], emitted := h.emitted ++ [frame] }

variable {h : SendHistory} {frame : Stream} {data : Bytes} {fin : Bool} {maxBytes connectionCredit : ℤ} {size : ℕ}

lemma step_nextFrame (h : SendHistory) (maxBytes connectionCredit : ℤ) :
    h.step (.nextFrame maxBytes connectionCredit) = h ∨
    (∃ frame frames, h.stream.retransmit = frame :: frames ∧ h.step (.nextFrame maxBytes connectionCredit) =
      { h with stream := { h.stream with retransmit := frames }, emitted := h.emitted ++ [frame] }) ∨
    ∃ size fin, size = h.stream.budget maxBytes connectionCredit ∧
      (fin = true → h.stream.finQueued = true ∧ h.stream.finSent = false ∧ size = h.stream.pending.length) ∧
      (h.stream.pending.take size = [] → fin = true) ∧
      h.step (.nextFrame maxBytes connectionCredit) = h.give size fin := by
  have hnew : h.stream.newFrame maxBytes connectionCredit = (none, h.stream) ∨
      ∃ size fin, size = h.stream.budget maxBytes connectionCredit ∧
        (fin = true → h.stream.finQueued = true ∧ h.stream.finSent = false ∧ size = h.stream.pending.length) ∧
        (h.stream.pending.take size = [] → fin = true) ∧ h.stream.newFrame maxBytes connectionCredit =
          (some ⟨h.stream.streamId, h.stream.baseOffset, h.stream.pending.take size, fin⟩,
            h.stream.emit size fin) := by
    simp only [SendStream.newFrame]
    split_ifs with hempty
    · exact .inl rfl
    · refine .inr ⟨_, _, rfl, fun hfin => by simpa [and_assoc] using hfin, fun hchunk => ?_, rfl⟩
      exact Bool.of_not_eq_false fun hfin => hempty ⟨hchunk, hfin⟩
  have hfresh : h.stream.nextFrame maxBytes connectionCredit = h.stream.newFrame maxBytes connectionCredit →
      h.step (.nextFrame maxBytes connectionCredit) = h ∨
        ∃ size fin, size = h.stream.budget maxBytes connectionCredit ∧
        (fin = true → h.stream.finQueued = true ∧ h.stream.finSent = false ∧ size = h.stream.pending.length) ∧
        (h.stream.pending.take size = [] → fin = true) ∧
        h.step (.nextFrame maxBytes connectionCredit) = h.give size fin := by
    intro hnext
    rcases hnew with hnone | ⟨size, fin, hsize, hfin, hchunk, hsome⟩
    · left
      simp only [step, hnext, hnone]
    · refine .inr ⟨size, fin, hsize, hfin, hchunk, ?_⟩
      simp only [step, give, hnext, hsome, SendStream.emit, if_true]
  cases hlost : h.stream.retransmit with
  | nil => exact (hfresh (by rw [SendStream.nextFrame, hlost])).imp_right .inr
  | cons frame frames =>
    by_cases hfits : (frame.data.length : ℤ) ≤ maxBytes
    · refine .inr (.inl ⟨frame, frames, rfl, ?_⟩)
      have hnext : h.stream.nextFrame maxBytes connectionCredit =
        (some frame, { h.stream with retransmit := frames }) := by
        simp only [SendStream.nextFrame, hlost, if_pos hfits]
      have hshorter : frames ≠ frame :: frames := fun heq => by simpa using congrArg List.length heq
      simp only [step, hnext, hlost, if_neg hshorter]
    · exact (hfresh (by simp only [SendStream.nextFrame, hlost, if_neg hfits])).imp_right .inr

structure Partitions (h : SendHistory) : Prop where
  split : h.written = payload h.fresh ++ h.stream.pending
  base : h.stream.baseOffset = (payload h.fresh).length
  highest : h.stream.highestOffsetSent = h.stream.baseOffset
  limit : h.stream.baseOffset ≤ h.stream.maxStreamData
  offsets : ∀ before frame after, h.fresh = before ++ frame :: after → frame.offset = (payload before).length
  queued : h.stream.finQueued = h.finished
  size : h.stream.finalSize = if h.finished then some h.written.length else none
  sent : h.stream.finSent = true ↔ ∃ frame ∈ h.fresh, frame.fin = true
  last : ∀ before frame after, h.fresh = before ++ frame :: after → frame.fin = true → after = []
  closed : h.stream.finSent = true → h.finished = true ∧ h.stream.pending = []
  emitted : ∀ frame, frame ∈ h.emitted ↔ frame ∈ h.fresh
  retransmit : ∀ frame ∈ h.stream.retransmit, frame ∈ h.emitted

lemma partitions_new (streamId maxStreamData : ℕ) : (new streamId maxStreamData).Partitions where
  split := rfl
  base := rfl
  highest := rfl
  limit := Nat.zero_le _
  offsets _ _ _ heq := by simp [new] at heq
  queued := rfl
  size := rfl
  sent := by simp [new, SendStream.new]
  last _ _ _ heq := by simp [new] at heq
  closed hsent := by cases hsent
  emitted _ := by simp [new]
  retransmit _ hmem := absurd hmem List.not_mem_nil

lemma Partitions.write (hp : h.Partitions) {stream : SendStream} (hwrite : h.stream.write data fin = .ok stream) :
    { h with stream := stream, written := h.written ++ data, finished := h.finished || fin }.Partitions := by
  simp only [SendStream.write] at hwrite
  split_ifs at hwrite with hqueued hfin
  -- nothing has been closed, as a write after FIN raises
  all_goals
    cases hwrite
    have hopen : h.finished = false := by
      rw [← hp.queued]
      simpa using hqueued
    have hunsent : h.stream.finSent = false := Bool.eq_false_iff.2 fun hsent =>
      absurd ((hp.closed hsent).1.symm.trans hopen) (by decide)
    have hsplit : h.written ++ data = payload h.fresh ++ (h.stream.pending ++ data) := by
      rw [hp.split, List.append_assoc]
  · exact { hp with
      split := hsplit
      queued := by simp [hfin]
      size := by
        simp only [hfin, Bool.or_true, if_true, hp.base]
        rw [hsplit]
        simp only [List.length_append]
      closed := fun hsent => absurd (hunsent.symm.trans hsent) (by decide) }
  · exact { hp with
      split := hsplit
      queued := by
        rw [hp.queued]
        simp [hfin]
      size := by
        rw [hp.size]
        simp [hopen, hfin]
      closed := fun hsent => absurd (hunsent.symm.trans hsent) (by decide) }

lemma Partitions.resend (hp : h.Partitions) {frames : List Stream}
    (hlost : h.stream.retransmit = frame :: frames) :
    { h with stream := { h.stream with retransmit := frames }, emitted := h.emitted ++ [frame] }.Partitions := by
  have hknown : frame ∈ h.emitted := hp.retransmit frame (by simp [hlost])
  have hemitted : ∀ other, other ∈ h.emitted ++ [frame] ↔ other ∈ h.emitted := by
    intro other
    rw [List.mem_append, List.mem_singleton]
    exact or_iff_left_of_imp fun heq => heq ▸ hknown
  exact { hp with
    emitted := fun other => (hemitted other).trans (hp.emitted other)
    retransmit := fun other hother => (hemitted other).2 (hp.retransmit other (by simp [hlost, hother])) }

lemma snoc_eq_append_cons {α : Type} {xs before after : List α} {x y : α}
    (heq : xs ++ [x] = before ++ y :: after) :
    (after = [] ∧ y = x ∧ before = xs) ∨ ∃ rest, after = rest ++ [x] ∧ xs = before ++ y :: rest := by
  rcases after.eq_nil_or_concat with rfl | ⟨rest, z, rfl⟩
  · obtain ⟨rfl, hlast⟩ := List.append_inj' heq rfl
    cases hlast
    exact .inl ⟨rfl, rfl, rfl⟩
  · have heq : xs ++ [x] = (before ++ y :: rest) ++ [z] := by simpa using heq
    obtain ⟨rfl, hlast⟩ := List.append_inj' heq rfl
    cases hlast
    exact .inr ⟨rest, by simp, rfl⟩

lemma Partitions.unsent (hp : h.Partitions) (hfin : fin = true → h.stream.finSent = false)
    (hchunk : h.stream.pending.take size = [] → fin = true) : h.stream.finSent = false := by
  refine Bool.eq_false_iff.2 fun hsent => ?_
  have hempty := (hp.closed hsent).2
  have hfirst := hfin (hchunk (by simp [hempty]))
  exact absurd (hfirst.symm.trans hsent) (by decide)

lemma Partitions.give (hp : h.Partitions) (hsize : size = h.stream.budget maxBytes connectionCredit)
    (hfin : fin = true → h.stream.finQueued = true ∧ h.stream.finSent = false ∧ size = h.stream.pending.length)
    (hchunk : h.stream.pending.take size = [] → fin = true) : (h.give size fin).Partitions := by
  have hle : size ≤ h.stream.pending.length := hsize ▸ h.stream.budget_le_pending maxBytes connectionCredit
  have hroom : h.stream.baseOffset + size ≤ max h.stream.baseOffset h.stream.maxStreamData :=
    hsize ▸ h.stream.budget_le_stream maxBytes connectionCredit
  have hlength : (h.stream.pending.take size).length = size := List.length_take_of_le hle
  have hunsent := hp.unsent (fun hf => (hfin hf).2.1) hchunk
  have hnofin : ∀ frame ∈ h.fresh, frame.fin = false := fun frame hframe => Bool.eq_false_iff.2 fun hf =>
    absurd (hunsent.symm.trans (hp.sent.2 ⟨frame, hframe, hf⟩)) (by decide)
  refine ⟨?_, ?_, ?_, ?_, fun before frame after heq => ?_, hp.queued, hp.size, ?_,
    fun before frame after heq hf => ?_, fun hsent => ?_, fun frame => ?_, fun frame hframe => ?_⟩
  · show h.written = payload (h.fresh ++ [_]) ++ h.stream.pending.drop size
    rw [payload_append, payload_singleton, List.append_assoc, List.take_append_drop, hp.split]
  · show h.stream.baseOffset + size = (payload (h.fresh ++ [_])).length
    rw [payload_append, payload_singleton, List.length_append, hlength, hp.base]
  · show max h.stream.highestOffsetSent (h.stream.baseOffset + (h.stream.pending.take size).length) =
      h.stream.baseOffset + size
    rw [hlength, hp.highest]
    exact max_eq_right (Nat.le_add_right _ _)
  · exact hroom.trans (max_eq_right hp.limit).le
  · rcases snoc_eq_append_cons heq with ⟨-, rfl, rfl⟩ | ⟨rest, -, hold⟩
    · exact hp.base
    · exact hp.offsets before frame rest hold
  · show (h.stream.finSent || fin) = true ↔ _
    simp only [SendHistory.give, hunsent, Bool.false_or, List.mem_append, List.mem_singleton]
    refine ⟨fun hf => ⟨_, .inr rfl, hf⟩, ?_⟩
    rintro ⟨frame, hframe | rfl, hf⟩
    · exact absurd ((hnofin frame hframe).symm.trans hf) (by decide)
    · exact hf
  · rcases snoc_eq_append_cons heq with ⟨hafter, -, -⟩ | ⟨rest, -, hold⟩
    · exact hafter
    · exact absurd ((hnofin frame (by simp [hold])).symm.trans hf) (by decide)
  · have hf : fin = true := by simpa [SendHistory.give, SendStream.emit, hunsent] using hsent
    obtain ⟨hqueued, -, hall⟩ := hfin hf
    exact ⟨hp.queued ▸ hqueued, by simp [SendHistory.give, SendStream.emit, hall]⟩
  · simp only [SendHistory.give, List.mem_append, hp.emitted]
  · exact List.mem_append_left _ (hp.retransmit frame hframe)

lemma Partitions.requeue (hp : h.Partitions) (hframe : frame ∈ h.emitted) :
    { h with stream := h.stream.requeue frame }.Partitions := by
  simp only [SendStream.requeue]
  split_ifs
  · refine { hp with retransmit := fun other hother => ?_ }
    rcases List.mem_append.1 hother with hother | hother
    · exact hp.retransmit other hother
    · exact List.mem_singleton.1 hother ▸ hframe
  · exact hp

lemma Partitions.step (hp : h.Partitions) (op : SendOp) : (h.step op).Partitions := by
  cases op with
  | write data fin =>
    cases hwrite : h.stream.write data fin with
    | ok stream => simpa only [SendHistory.step, hwrite] using hp.write hwrite
    | error e => simpa only [SendHistory.step, hwrite] using hp
  | nextFrame maxBytes connectionCredit =>
    rcases h.step_nextFrame maxBytes connectionCredit with hnone | ⟨frame, frames, hlost, hsome⟩ |
      ⟨size, fin, hsize, hfin, hchunk, hsome⟩
    · exact hnone.symm ▸ hp
    · exact hsome.symm ▸ hp.resend hlost
    · exact hsome.symm ▸ hp.give hsize hfin hchunk
  | requeue frame =>
    simp only [SendHistory.step]
    split_ifs with hframe
    · exact hp.requeue hframe
    · exact hp
  | onMaxStreamData maximum => exact { hp with limit := hp.limit.trans (le_max_left _ _) }
  | onFrameAcked frame =>
    simp only [SendHistory.step]
    split_ifs
    · exact { hp with }
    · exact hp

def Arrived (h : SendHistory) : Prop :=
  (∃ frame ∈ h.acked, frame.fin = true) ∧ ∀ i < h.written.length, ∃ frame ∈ h.acked, Spans frame i

structure Accounts (h : SendHistory) : Prop where
  given : ∀ frame ∈ h.acked, frame ∈ h.emitted
  ranges : ∀ i, i ∈ h.stream.acked ↔ ∃ frame ∈ h.acked, Spans frame i
  fin : h.stream.finAcked = true ↔ ∃ frame ∈ h.acked, frame.fin = true
  state : h.stream.state = .dataRecvd ↔ h.Arrived

lemma accounts_new (streamId maxStreamData : ℕ) : (new streamId maxStreamData).Accounts where
  given _ hmem := absurd hmem List.not_mem_nil
  ranges i := by simp [new, SendStream.new]
  fin := by simp [new, SendStream.new]
  state := by simp [new, SendStream.new, Arrived]

lemma Accounts.not_arrived (ha : h.Accounts) (hp : h.Partitions) (hunsent : h.stream.finSent = false)
    {h' : SendHistory}
    (hacked : h'.acked = h.acked) : ¬h'.Arrived := by
  rintro ⟨⟨frame, hframe, hf⟩, -⟩
  have hsent := hp.sent.2 ⟨frame, (hp.emitted frame).1 (ha.given frame (hacked ▸ hframe)), hf⟩
  exact absurd (hunsent.symm.trans hsent) (by decide)

lemma Arrived.of_acked {more : List Stream} (h' : h.Arrived) (stream : SendStream) :
    Arrived { h with stream := stream, acked := h.acked ++ more } := by
  obtain ⟨⟨frame, hframe, hf⟩, hall⟩ := h'
  refine ⟨⟨frame, List.mem_append_left _ hframe, hf⟩, fun i hi => ?_⟩
  obtain ⟨frame, hframe, hspans⟩ := hall i hi
  exact ⟨frame, List.mem_append_left _ hframe, hspans⟩

lemma Accounts.onFrameAcked (ha : h.Accounts) (hp : h.Partitions) (hframe : frame ∈ h.emitted) :
    Accounts { h with stream := h.stream.onFrameAcked frame, acked := h.acked ++ [frame] } := by
  have hranges : ∀ i, i ∈ h.stream.acked.add frame.offset (frame.offset + frame.data.length) ↔
      ∃ other ∈ h.acked ++ [frame], Spans other i := by
    intro i
    rw [RangeSet.mem_add, ha.ranges]
    simp only [List.mem_append, List.mem_singleton, or_and_right, exists_or, exists_eq_left]
    rfl
  have hfin : (h.stream.finAcked || frame.fin) = true ↔ ∃ other ∈ h.acked ++ [frame], other.fin = true := by
    rw [Bool.or_eq_true, ha.fin]
    simp only [List.mem_append, List.mem_singleton, or_and_right, exists_or, exists_eq_left]
  have hgiven : ∀ other ∈ h.acked ++ [frame], other ∈ h.emitted := by
    intro other hother
    rcases List.mem_append.1 hother with hother | hother
    · exact ha.given other hother
    · exact List.mem_singleton.1 hother ▸ hframe
  refine ⟨hgiven, hranges, hfin, ?_⟩
  show (h.stream.onFrameAcked frame).state = .dataRecvd ↔ _
  have hcovers :
    (h.stream.acked.add frame.offset (frame.offset + frame.data.length)).covers 0 h.written.length = true ↔
      ∀ i < h.written.length, ∃ other ∈ h.acked ++ [frame], Spans other i := by
    rw [RangeSet.covers_iff]
    simp only [Nat.zero_le, true_implies, hranges]
  by_cases hfinished : h.finished = true
  · have hsize : h.stream.finalSize = some h.written.length := hp.size.trans (if_pos hfinished)
    rw [SendStream.state_onFrameAcked, ha.state]
    simp only [hsize, Option.some.injEq, exists_eq_left', hfin, hcovers]
    exact or_iff_right_of_imp fun harrived => harrived.of_acked (h.stream.onFrameAcked frame)
  · -- nothing is closed, so nothing given has FIN
    have hsize : h.stream.finalSize = none := hp.size.trans (if_neg hfinished)
    have hunsent : h.stream.finSent = false := Bool.eq_false_iff.2 fun hsent => hfinished (hp.closed hsent).1
    have hnot : ¬∃ other ∈ h.acked ++ [frame], other.fin = true := by
      rintro ⟨other, hother, hf⟩
      have hsent := hp.sent.2 ⟨other, (hp.emitted other).1 (hgiven other hother), hf⟩
      exact absurd (hunsent.symm.trans hsent) (by decide)
    rw [SendStream.state_onFrameAcked, ha.state]
    simp only [hsize, reduceCtorEq, false_and, exists_false, or_false]
    exact iff_of_false (ha.not_arrived hp hunsent rfl) fun harrived => hnot harrived.1

lemma Accounts.step (ha : h.Accounts) (hp : h.Partitions) (op : SendOp) : (h.step op).Accounts := by
  cases op with
  | write data fin =>
    simp only [SendHistory.step]
    cases hwrite : h.stream.write data fin with
    | error e => exact ha
    | ok stream =>
      simp only [SendStream.write] at hwrite
      split_ifs at hwrite with hqueued hfin
      all_goals
        cases hwrite
        have hunsent : h.stream.finSent = false := Bool.eq_false_iff.2 fun hsent =>
          hqueued (hp.queued.trans (hp.closed hsent).1)
        refine { ha with state := iff_of_false (fun hstate => ?_) (ha.not_arrived hp hunsent rfl) }
        exact ha.not_arrived hp hunsent rfl (ha.state.1 hstate)
  | nextFrame maxBytes connectionCredit =>
    rcases h.step_nextFrame maxBytes connectionCredit with hnone | ⟨frame, frames, hlost, hsome⟩ |
      ⟨size, fin, hsize, hfin, hchunk, hsome⟩
    · exact hnone.symm ▸ ha
    · rw [hsome]
      exact { ha with given := fun other hother => List.mem_append_left _ (ha.given other hother) }
    · have hunsent := hp.unsent (fun hf => (hfin hf).2.1) hchunk
      rw [hsome]
      refine { ha with
        given := fun other hother => List.mem_append_left _ (ha.given other hother)
        state := iff_of_false (fun hstate => ?_) (ha.not_arrived hp hunsent rfl) }
      simp only [give, SendStream.emit] at hstate
      split_ifs at hstate
  | requeue frame =>
    simp only [SendHistory.step, SendStream.requeue]
    split_ifs <;> exact { ha with }
  | onMaxStreamData maximum => exact { ha with }
  | onFrameAcked frame =>
    simp only [SendHistory.step]
    split_ifs with hframe
    · exact ha.onFrameAcked hp hframe
    · exact ha

lemma run_invariant (hp : h.Partitions) (ha : h.Accounts) (ops : List SendOp) :
    (h.run ops).Partitions ∧ (h.run ops).Accounts := by
  induction ops generalizing h with
  | nil => exact ⟨hp, ha⟩
  | cons op ops ih => exact ih (hp.step op) (ha.step hp op)

lemma Arrived.step (h' : h.Arrived) (hp : h.Partitions) (ha : h.Accounts) (op : SendOp) : (h.step op).Arrived := by
  obtain ⟨frame, hframe, hf⟩ := h'.1
  have hsent := hp.sent.2 ⟨frame, (hp.emitted frame).1 (ha.given frame hframe), hf⟩
  have hqueued : h.stream.finQueued = true := hp.queued.trans (hp.closed hsent).1
  cases op with
  | write data fin =>
    have hwrite : h.stream.write data fin = .error (.value "write after fin") := if_pos hqueued
    simpa only [SendHistory.step, hwrite] using h'
  | nextFrame maxBytes connectionCredit =>
    rcases h.step_nextFrame maxBytes connectionCredit with hnone | ⟨frame, frames, hlost, hsome⟩ |
      ⟨size, fin, hsize, hfin, hchunk, hsome⟩
    · exact hnone.symm ▸ h'
    · exact hsome.symm ▸ h'
    · exact hsome.symm ▸ h'
  | requeue frame =>
    simp only [SendHistory.step]
    split_ifs <;> exact h'
  | onMaxStreamData maximum => exact h'
  | onFrameAcked frame =>
    simp only [SendHistory.step]
    split_ifs
    · exact h'.of_acked _
    · exact h'

lemma Arrived.run (h' : h.Arrived) (hp : h.Partitions) (ha : h.Accounts) (ops : List SendOp) :
    (h.run ops).Arrived := by
  induction ops generalizing h with
  | nil => exact h'
  | cons op ops ih => exact ih (h'.step hp ha op) (hp.step op) (ha.step hp op)

def lastEnd (frames : List Stream) : ℕ := frames.getLast?.elim 0 fun frame => frame.offset + frame.data.length

lemma Partitions.lastEnd (hp : h.Partitions) : h.stream.highestOffsetSent = lastEnd h.fresh := by
  rw [hp.highest, hp.base]
  rcases h.fresh.eq_nil_or_concat with hnil | ⟨before, frame, hfresh⟩
  · simp [hnil, SendHistory.lastEnd]
  · rw [List.concat_eq_append] at hfresh
    have hoffset := hp.offsets before frame [] hfresh
    simp [hfresh, SendHistory.lastEnd, hoffset]

lemma Partitions.finalSize (hp : h.Partitions) {before after : List Stream}
    (hfresh : h.fresh = before ++ frame :: after)
    (hf : frame.fin = true) :
    after = [] ∧ h.finished = true ∧ frame.offset + frame.data.length = h.written.length := by
  have hlast := hp.last before frame after hfresh hf
  subst hlast
  have hsent := hp.sent.2 ⟨frame, by simp [hfresh], hf⟩
  obtain ⟨hfinished, hpending⟩ := hp.closed hsent
  refine ⟨rfl, hfinished, ?_⟩
  rw [hp.split, hpending, List.append_nil, hfresh, hp.offsets before frame [] hfresh, payload_append,
    List.length_append]
  simp [payload]

lemma Partitions.exists_spans (hp : h.Partitions) {i : ℕ} (hi : i < (payload h.fresh).length) :
    ∃ frame ∈ h.fresh, Spans frame i := by
  have hsearch : ∀ frames before, h.fresh = before ++ frames → (payload before).length ≤ i →
    ∃ frame ∈ frames, Spans frame i := by
    intro frames
    induction frames with
    | nil =>
      intro before hfresh hbefore
      rw [hfresh, List.append_nil] at hi
      omega
    | cons frame frames ih =>
      intro before hfresh hbefore
      have hoffset := hp.offsets before frame frames hfresh
      by_cases hwithin : i < frame.offset + frame.data.length
      · exact ⟨frame, List.mem_cons_self, by omega, hwithin⟩
      · obtain ⟨other, hother, hspans⟩ := ih (before ++ [frame]) (by simpa using hfresh) (by simp; omega)
        exact ⟨other, List.mem_cons_of_mem _ hother, hspans⟩
  exact hsearch h.fresh [] rfl (Nat.zero_le _)

lemma Partitions.arrived (hp : h.Partitions) (hsent : ∃ frame ∈ h.fresh, frame.fin = true)
    (hacked : ∀ frame ∈ h.emitted, frame ∈ h.acked) : h.Arrived := by
  obtain ⟨frame, hframe, hf⟩ := hsent
  refine ⟨⟨frame, hacked frame ((hp.emitted frame).2 hframe), hf⟩, fun i hi => ?_⟩
  have hpending := (hp.closed (hp.sent.2 ⟨frame, hframe, hf⟩)).2
  rw [hp.split, hpending, List.append_nil] at hi
  obtain ⟨other, hother, hspans⟩ := hp.exists_spans hi
  exact ⟨other, hacked other ((hp.emitted other).2 hother), hspans⟩

/-- The new frames are consecutive, within both credits, and a partition of what was written; FIN is in the last
of them; and the half is done exactly when all of it and FIN have been acknowledged, from then on. -/
theorem send_stream_partitions (streamId maxStreamData : ℕ) (ops : List SendOp) :
    payload ((new streamId maxStreamData).run ops).fresh <+: ((new streamId maxStreamData).run ops).written ∧
    (∀ before frame after, ((new streamId maxStreamData).run ops).fresh = before ++ frame :: after →
      frame.offset = (payload before).length ∧ (frame.fin = true → after = [] ∧
        ((new streamId maxStreamData).run ops).finished = true ∧
        frame.offset + frame.data.length = ((new streamId maxStreamData).run ops).written.length)) ∧
    (∀ maxBytes connectionCredit frame,
      ((new streamId maxStreamData).run (ops ++ [.nextFrame maxBytes connectionCredit])).fresh =
        ((new streamId maxStreamData).run ops).fresh ++ [frame] →
      frame.offset + frame.data.length ≤ ((new streamId maxStreamData).run ops).stream.maxStreamData ∧
      (frame.data.length : ℤ) ≤ max 0 connectionCredit) ∧
    ((new streamId maxStreamData).run ops).stream.highestOffsetSent =
      lastEnd ((new streamId maxStreamData).run ops).fresh ∧
    ((∃ frame ∈ ((new streamId maxStreamData).run ops).fresh, frame.fin = true) →
      (∀ frame ∈ ((new streamId maxStreamData).run ops).emitted, frame ∈
        ((new streamId maxStreamData).run ops).acked) →
      ((new streamId maxStreamData).run ops).stream.state = .dataRecvd) ∧
    (((new streamId maxStreamData).run ops).stream.state = .dataRecvd →
      ((new streamId maxStreamData).run ops).Arrived ∧
      ∀ more, ((new streamId maxStreamData).run (ops ++ more)).stream.state = .dataRecvd) := by
  obtain ⟨hp, ha⟩ :=
    run_invariant (partitions_new streamId maxStreamData) (accounts_new streamId maxStreamData) ops
  have happend : ∀ more, (new streamId maxStreamData).run (ops ++ more) =
    ((new streamId maxStreamData).run ops).run more :=
    fun more => List.foldl_append
  refine ⟨⟨_, hp.split.symm⟩,
    fun before frame after hfresh => ⟨hp.offsets before frame after hfresh, hp.finalSize hfresh⟩,
    fun maxBytes connectionCredit frame hnew => ?_, hp.lastEnd,
      fun hsent hacked => ha.state.2 (hp.arrived hsent hacked),
    fun hstate => ⟨ha.state.1 hstate, fun more => ?_⟩⟩
  · rw [happend] at hnew
    have hstep : ((new streamId maxStreamData).run ops).run [.nextFrame maxBytes connectionCredit] =
        ((new streamId maxStreamData).run ops).step (.nextFrame maxBytes connectionCredit) := rfl
    rw [hstep] at hnew
    rcases step_nextFrame ((new streamId maxStreamData).run ops) maxBytes connectionCredit with hnone |
      ⟨lost, frames, hlost, hsome⟩ | ⟨size, fin, hsize, hfin, hchunk, hsome⟩
    · rw [hnone] at hnew
      exact absurd (congrArg List.length hnew) (by simp)
    · rw [hsome] at hnew
      exact absurd (congrArg List.length hnew) (by simp)
    · rw [hsome] at hnew
      obtain ⟨-, hlast⟩ := List.append_inj' hnew rfl
      cases hlast
      have hlength : (((new streamId maxStreamData).run ops).stream.pending.take size).length ≤ size :=
        List.length_take_le _ _
      have hroom := ((new streamId maxStreamData).run ops).stream.budget_le_stream maxBytes connectionCredit
      have hcredit := ((new streamId maxStreamData).run ops).stream.budget_le_credit maxBytes connectionCredit
      rw [max_eq_right hp.limit, ← hsize] at hroom
      rw [← hsize] at hcredit
      exact ⟨by dsimp only; omega, by dsimp only; omega⟩
  · rw [happend]
    obtain ⟨-, ha'⟩ := run_invariant hp ha more
    exact ha'.state.2 ((ha.state.1 hstate).run hp ha more)

end SendHistory

end Dsquic.Streams
