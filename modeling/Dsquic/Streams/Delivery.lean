import Dsquic.Streams.Manager

/-!
One stream end to end: a sending half, the frames it has ever emitted, and the peer's manager that gets
some of them, in any order and any number of times.
-/

namespace Dsquic.Streams

open Lib Wire

def Covered (frames : List Stream) (i : ℕ) : Prop :=
  ∃ frame ∈ frames, frame.offset ≤ i ∧ i < frame.offset + frame.data.length

def Complete (frames : List Stream) (written : Bytes) : Prop :=
  (∃ frame ∈ frames, frame.fin = true) ∧ ∀ i < written.length, Covered frames i

structure Carries (streamId : ℕ) (written : Bytes) (finQueued : Bool) (frame : Stream) : Prop where
  isFor : frame.streamId = streamId
  slice : IsSlice written frame.offset frame.data
  final : frame.fin = true → finQueued = true ∧ frame.offset + frame.data.length = written.length

variable {written : Bytes} {events : List StreamDataReceived} {arrived : List Stream} {frame : Stream}
  {r : RecvStream} {i : ℕ}

lemma Carries.write (h : Carries i written false frame)
    (data : Bytes) (fin : Bool) : Carries i (written ++ data) fin frame :=
  ⟨h.isFor, h.slice.append data, fun hfin => absurd (h.final hfin).1 Bool.false_ne_true⟩

section Sender

structure Sends (s : SendStream) (streamId : ℕ) (written : Bytes) (emitted : List Stream) : Prop where
  isFor : s.streamId = streamId
  base : s.baseOffset ≤ written.length
  pending : s.pending = written.drop s.baseOffset
  carries : ∀ frame ∈ emitted, Carries streamId written s.finQueued frame
  lost : ∀ frame ∈ s.retransmit, frame ∈ emitted

variable {s s' : SendStream} {i : ℕ} {written : Bytes} {emitted : List Stream}

lemma sends_new (i limit : ℕ) : Sends (.new i limit) i [] [] :=
  ⟨rfl, Nat.le_refl _, rfl, by simp, by simp [SendStream.new]⟩

lemma Sends.write (h : Sends s i written emitted) {data : Bytes} {fin : Bool}
    (hw : s.write data fin = .ok s') : Sends s' i (written ++ data) emitted ∧ s.finQueued = false := by
  unfold SendStream.write at hw
  split_ifs at hw with hq hfin
  all_goals
    cases hw
    have hq' : s.finQueued = false := by simpa using hq
    refine ⟨⟨h.isFor, ?_, ?_, fun frame hframe => ?_, h.lost⟩, hq'⟩
    · have := h.base
      simp only [List.length_append]
      omega
    · simp only [List.drop_append_of_le_length h.base, h.pending]
    · have hcarries := h.carries frame hframe
      rw [hq'] at hcarries
      simpa [hq'] using hcarries.write data _

lemma Sends.nextFrame (h : Sends s i written emitted) (maxBytes credit : ℤ) :
    Sends (s.nextFrame maxBytes credit).2 i written
      ((s.nextFrame maxBytes credit).1.toList ++ emitted) := by
  rcases s.nextFrame_cases maxBytes credit with hnone | ⟨frame, frames, hre, hnext⟩ |
    ⟨size, fin, hsize, hfin, -, hnext⟩
  · rw [hnone]
    exact h
  · -- a lost frame goes out again exactly as it was
    rw [hnext]
    have hmem : frame ∈ emitted := h.lost frame (by simp [hre])
    refine ⟨h.isFor, h.base, h.pending, ?_, fun f hf => ?_⟩
    · intro f hf
      rcases List.mem_cons.1 hf with rfl | hf
      · exact h.carries _ hmem
      · exact h.carries f hf
    · exact List.mem_cons_of_mem _ (h.lost f (by simp only [hre]; exact List.mem_cons_of_mem _ hf))
  · rw [hnext]
    have hle : size ≤ s.pending.length := hsize ▸ s.budget_le_pending maxBytes credit
    have hlen : s.pending.length = written.length - s.baseOffset := by
      rw [h.pending, List.length_drop]
    have hbase := h.base
    refine ⟨h.isFor, ?_, ?_, ?_, fun f hf => List.mem_cons_of_mem _ (h.lost f hf)⟩
    · simp only [SendStream.emit]
      omega
    · simp only [SendStream.emit, h.pending, List.drop_drop]
    · intro f hf
      rcases List.mem_cons.1 hf with rfl | hf
      · refine ⟨h.isFor, ?_, fun hf => ?_⟩
        · simp only [h.pending]
          exact IsSlice.take_drop hbase size
        · obtain ⟨hq, -, hall⟩ := hfin hf
          refine ⟨hq, ?_⟩
          simp only [List.length_take]
          omega
      · exact h.carries f hf

lemma Sends.requeue (h : Sends s i written emitted) (hf : frame ∈ emitted) :
    Sends (s.requeue frame) i written emitted := by
  unfold SendStream.requeue
  split_ifs
  · refine ⟨h.isFor, h.base, h.pending, h.carries, fun f hf' => ?_⟩
    rcases List.mem_append.1 hf' with hf' | hf'
    · exact h.lost f hf'
    · rwa [List.mem_singleton.1 hf']
  · exact h

lemma Sends.onMaxStreamData (h : Sends s i written emitted) (maximum : ℕ) :
    Sends (s.onMaxStreamData maximum) i written emitted :=
  ⟨h.isFor, h.base, h.pending, h.carries, h.lost⟩

lemma Sends.onFrameAcked (h : Sends s i written emitted) (frame : Stream) :
    Sends (s.onFrameAcked frame) i written emitted :=
  ⟨h.isFor, h.base, h.pending, h.carries, h.lost⟩

end Sender

section Receiver

structure Reassembles (r : RecvStream) (written : Bytes) (arrived : List Stream)
    (events : List StreamDataReceived) : Prop where
  received : ∀ i, i ∈ r.received ↔ Covered arrived i
  slices : ∀ frame ∈ arrived, IsSlice written frame.offset frame.data
  buffer : ∀ i ∈ r.received, i < r.buffer.length ∧ r.buffer[i]? = written[i]?
  read : ∀ i < r.readOffset, i ∈ r.received
  unread : r.readOffset ∉ r.received
  final : ∀ n, r.finalSize = some n ↔ n = written.length ∧ ∃ frame ∈ arrived, frame.fin = true
  state : r.state = .dataRead ↔ r.finalSize = some r.readOffset
  data : (events.map (·.data)).flatten = written.take r.readOffset
  ends : (events.filter (·.endStream)).length = if r.state = .dataRead then 1 else 0
  last : ∀ event ∈ events.dropLast, event.endStream = false

variable {r : RecvStream} {written : Bytes} {arrived : List Stream} {events : List StreamDataReceived}

lemma reassembles_new (i limit : ℕ) (written : Bytes) : Reassembles (.new i limit) written [] [] := by
  constructor <;> simp [RecvStream.new, Covered]

lemma Reassembles.lt_length (h : Reassembles r written arrived events) (hi : i ∈ r.received) :
    i < written.length := by
  obtain ⟨frame, hframe, -, hhi⟩ := (h.received i).1 hi
  have := (h.slices frame hframe).stop_le
  omega

lemma Reassembles.readOffset_le (h : Reassembles r written arrived events) :
    r.readOffset ≤ written.length := by
  by_contra hlt
  exact lt_irrefl _ (h.lt_length (h.read written.length (by omega)))

lemma Reassembles.write (h : Reassembles r written arrived events) (data : Bytes)
    (hfin : ∀ frame ∈ arrived, frame.fin = false) : Reassembles r (written ++ data) arrived events := by
  have hnone : ¬∃ frame ∈ arrived, frame.fin = true := by
    rintro ⟨frame, hframe, hf⟩
    simp [hfin frame hframe] at hf
  refine ⟨h.received, fun f hf => (h.slices f hf).append data, fun i hi => ?_, h.read, h.unread, fun n => ?_,
    h.state, ?_, h.ends, h.last⟩
  · rw [List.getElem?_append_left (h.lt_length hi)]
    exact h.buffer i hi
  · rw [h.final n]
    simp [hnone]
  · rw [List.take_append_of_le_length h.readOffset_le]
    exact h.data

lemma Reassembles.credit (h : Reassembles r written arrived events) :
    Reassembles r.creditUpdate.2 written arrived events := by
  unfold RecvStream.creditUpdate
  split_ifs
  · exact h
  · exact h
  · exact ⟨h.received, h.slices, h.buffer, h.read, h.unread, h.final, h.state, h.data, h.ends, h.last⟩

lemma RecvStream.accept_state (r : RecvStream) (frame : Stream) :
    (r.accept frame).state = .dataRead ↔ r.state = .dataRead := by
  simp only [RecvStream.accept, RecvStream.receivedState]
  split
  · split_ifs <;> simp_all
  · rfl

structure Stored (r : RecvStream) (written : Bytes) (arrived : List Stream) : Prop where
  received : ∀ i, i ∈ r.received ↔ Covered arrived i
  slices : ∀ frame ∈ arrived, IsSlice written frame.offset frame.data
  buffer : ∀ i ∈ r.received, i < r.buffer.length ∧ r.buffer[i]? = written[i]?
  final : ∀ n, r.finalSize = some n ↔ n = written.length ∧ ∃ frame ∈ arrived, frame.fin = true

variable {i : ℕ} {q : Bool} {frame : Stream}

lemma Reassembles.accept (h : Reassembles r written arrived events) (hframe : Carries i written q frame) :
    Stored (r.accept frame) written (frame :: arrived) := by
  have hplaced : Placed r.received r.buffer written := h.buffer
  refine ⟨fun j => ?_, ?_, hplaced.add 0 hframe.slice, fun n => ?_⟩
  · simp only [RecvStream.accept, RangeSet.mem_add, h.received, Covered, List.mem_cons, exists_eq_or_imp]
    exact or_comm
  · intro f hf
    rcases List.mem_cons.1 hf with rfl | hf
    · exact hframe.slice
    · exact h.slices f hf
  · have hfinal : (r.accept frame).finalSize =
        if frame.fin then some (frame.offset + frame.data.length) else r.finalSize := rfl
    rw [hfinal]
    by_cases hfin : frame.fin = true
    · simp only [hfin, if_true, (hframe.final hfin).2, Option.some.injEq, List.mem_cons,
        exists_eq_or_imp, true_or, and_true]
      exact eq_comm
    · simp [hfin, h.final n]

lemma Stored.read_data (h : Stored r written arrived) :
    written.take r.readOffset ++ r.read.1 = written.take r.read.2.readOffset := by
  have hplaced : Placed r.received r.buffer written := h.buffer
  exact hplaced.take_append_read r.readOffset

lemma Reassembles.accept_final_of_read (h : Reassembles r written arrived events)
    (hframe : Carries i written q frame) (hread : r.state = .dataRead) :
    (r.accept frame).read.2.readOffset = r.readOffset ∧ r.readOffset = written.length ∧
      (r.accept frame).finalSize = some r.readOffset := by
  obtain ⟨hlen, hfin⟩ := (h.final _).1 (h.state.1 hread)
  have hstored := h.accept hframe
  have hfinal : (r.accept frame).finalSize = some r.readOffset :=
    (hstored.final _).2 ⟨hlen, by
      obtain ⟨f, hf, hff⟩ := hfin
      exact ⟨f, List.mem_cons_of_mem _ hf, hff⟩⟩
  refine ⟨le_antisymm ?_ (RangeSet.le_contiguousFrom _ _), hlen, hfinal⟩
  -- a byte past the final size would have to be one the sender wrote
  by_contra hlt
  have hmem : r.readOffset ∈ (r.accept frame).received :=
    RangeSet.mem_of_lt_contiguousFrom (le_refl _) (not_le.1 hlt)
  obtain ⟨f, hf, -, hhi⟩ := (hstored.received _).1 hmem
  have := (hstored.slices f hf).stop_le
  omega

lemma RecvStream.event_data (r : RecvStream) (i : ℕ) :
    ((r.event i).toList.map (·.data)).flatten = r.read.1 := by
  unfold RecvStream.event
  split_ifs with h
  · simp
  · simp only [not_or, not_not] at h
    simp [h.1]

lemma RecvStream.event_ends (r : RecvStream) (i : ℕ) (h : r.state ≠ .dataRead) :
    ((r.event i).toList.filter (·.endStream)).length = if r.read.2.state = .dataRead then 1 else 0 := by
  by_cases hend : r.read.2.state = .dataRead
  · simp [RecvStream.event, RecvStream.isFullyRead, h, hend]
  · by_cases hdata : r.read.1 = [] <;> simp [RecvStream.event, RecvStream.isFullyRead, hdata, hend]

lemma Reassembles.silent (h : Reassembles r written arrived events) (hframe : Carries i written q frame)
    (hr : r.state = .dataRead) : (r.accept frame).event i = none := by
  have hoff := (h.accept_final_of_read hframe hr).1
  have hempty : (r.accept frame).read.1 = [] := by
    have hdata := (h.accept hframe).read_data
    rw [hoff] at hdata
    exact List.append_right_eq_self.1 hdata
  have hdone : (r.accept frame).state = .dataRead := (r.accept_state frame).2 hr
  simp [RecvStream.event, hempty, RecvStream.isFullyRead, hdone]

lemma Reassembles.read_state (h : Reassembles r written arrived events) (hframe : Carries i written q frame) :
    (r.accept frame).read.2.state = .dataRead ↔
      (r.accept frame).finalSize = some (r.accept frame).read.2.readOffset := by
  have hdef : (r.accept frame).read.2.state = if (r.accept frame).finalSize =
      some (r.accept frame).read.2.readOffset then .dataRead else (r.accept frame).state := rfl
  rw [hdef]
  split_ifs with hfinal
  · simp [hfinal]
  · refine iff_of_false (fun hr => hfinal ?_) hfinal
    obtain ⟨hoff, -, hfin⟩ := h.accept_final_of_read hframe ((r.accept_state frame).1 hr)
    rw [hoff, hfin]

lemma Reassembles.deliver (h : Reassembles r written arrived events) (hframe : Carries i written q frame) :
    Reassembles (r.accept frame).read.2 written (frame :: arrived)
      (events ++ ((r.accept frame).event i).toList) := by
  have hstored := h.accept hframe
  have hread : ∀ j < (r.accept frame).readOffset, j ∈ (r.accept frame).received := fun j hj =>
    RangeSet.mem_add.2 (.inl (h.read j hj))
  refine ⟨hstored.received, hstored.slices, hstored.buffer, fun j hj => ?_,
    RangeSet.contiguousFrom_not_mem _ _, hstored.final, h.read_state hframe, ?_, ?_, ?_⟩
  · by_cases hlo : (r.accept frame).readOffset ≤ j
    · exact RangeSet.mem_of_lt_contiguousFrom hlo hj
    · exact hread j (not_le.1 hlo)
  · rw [List.map_append, List.flatten_append, RecvStream.event_data, h.data]
    exact hstored.read_data
  · rw [List.filter_append, List.length_append, h.ends]
    by_cases hr : r.state = .dataRead
    · obtain ⟨hoff, -, hfin⟩ := h.accept_final_of_read hframe hr
      have hend : (r.accept frame).read.2.state = .dataRead := (h.read_state hframe).2 (by rw [hfin, hoff])
      simp [h.silent hframe hr, hr, hend]
    · rw [RecvStream.event_ends _ _ (mt (r.accept_state frame).1 hr), if_neg hr, Nat.zero_add]
  · by_cases hr : r.state = .dataRead
    · simpa [h.silent hframe hr] using h.last
    · -- no event before this frame ended the stream
      have hnone : ∀ event ∈ events, event.endStream = false := by
        have hcount := h.ends
        rw [if_neg hr, List.length_eq_zero_iff, List.filter_eq_nil_iff] at hcount
        exact fun event hevent => by simpa using hcount event hevent
      intro event hevent
      cases he : (r.accept frame).event i with
      | none => exact hnone event ((List.dropLast_sublist _).subset (by simpa [he] using hevent))
      | some last => exact hnone event (by simpa [he] using hevent)

end Receiver

inductive Activity
  | openBidi
  | write (streamId : ℕ) (data : Bytes) (fin : Bool)
  | nextFrame (streamId : ℕ) (maxBytes : ℤ)
  | maxData (maximum : ℕ)
  | maxStreamData (streamId maximum : ℕ)
  | maxStreams (maximum : ℕ) (bidirectional : Bool)
  | stream (frame : Stream)

def Activity.run : Activity → EStateM Raised StreamManager Unit
  | .openBidi => do let _ ← StreamManager.openBidi
  | .write streamId data fin => StreamManager.withSend streamId (·.write data fin)
  | .nextFrame streamId maxBytes => do let _ ← StreamManager.nextFrame streamId maxBytes
  | .maxData maximum => modify (·.onMaxData maximum)
  | .maxStreamData streamId maximum =>
    StreamManager.withSend streamId fun send => .ok (send.onMaxStreamData maximum)
  | .maxStreams maximum bidirectional => modify (·.onMaxStreams maximum bidirectional)
  | .stream frame => do let _ ← StreamManager.handleStream frame

def Activity.elsewhere (streamId : ℕ) : Activity → Bool
  | .stream frame => frame.streamId != streamId
  | _ => true

/-- `receiver` is none once the manager refused a frame, which closes its connection. -/
structure Link where
  sender : SendStream
  written : Bytes
  emitted : List Stream
  receiver : Option StreamManager
  arrived : List Stream
  events : List StreamDataReceived

inductive Link.Action
  | write (data : Bytes) (fin : Bool)
  | nextFrame (maxBytes connectionCredit : ℤ)
  | requeue (frame : ℕ)
  | maxStreamData (maximum : ℕ)
  | acked (frame : ℕ)
  | deliver (frame : ℕ)
  | elsewhere (activity : Activity)

namespace Link

def init (streamId limit : ℕ) (manager : StreamManager) : Link :=
  ⟨.new streamId limit, [], [], some manager, [], []⟩

/-- Frames are named by their position among the emitted ones; an action that names none, or a write
after the FIN, does nothing. -/
def step (link : Link) : Action → Link
  | .write data fin =>
    match link.sender.write data fin with
    | .ok sender => { link with sender := sender, written := link.written ++ data }
    | .error _ => link
  | .nextFrame maxBytes connectionCredit =>
    let (frame, sender) := link.sender.nextFrame maxBytes connectionCredit
    { link with sender := sender, emitted := frame.toList ++ link.emitted }
  | .requeue k =>
    match link.emitted[k]? with
    | some frame => { link with sender := link.sender.requeue frame }
    | none => link
  | .maxStreamData maximum => { link with sender := link.sender.onMaxStreamData maximum }
  | .acked k =>
    match link.emitted[k]? with
    | some frame => { link with sender := link.sender.onFrameAcked frame }
    | none => link
  | .deliver k =>
    match link.emitted[k]?, link.receiver with
    | some frame, some manager =>
      match StreamManager.handleStream frame manager with
      | .ok (event, _) manager' =>
        { link with
          receiver := some manager'
          arrived := frame :: link.arrived
          events := link.events ++ event.toList }
      | .error _ _ => { link with receiver := none }
    | _, _ => link
  | .elsewhere activity =>
    match link.receiver with
    | some manager =>
      if activity.elsewhere link.sender.streamId
      then { link with receiver := some (finalState activity.run manager) } else link
    | none => link

def run (link : Link) (actions : List Action) : Link := actions.foldl step link

end Link

section Elsewhere

variable {m : StreamManager} {i : ℕ}

def RecvKept (m m' : StreamManager) (i : ℕ) : Prop :=
  m'.recv? i = m.recv? i ∨ (m.recv? i = none ∧ ∃ limit, m'.recv? i = some (.new i limit))

lemma Activity.run_elsewhere (hm : m.Numbered) {activity : Activity} (h : activity.elsewhere i) :
    (finalState activity.run m).Numbered ∧ RecvKept m (finalState activity.run m) i := by
  refine Ensures.final (P := fun m' => m'.Numbered ∧ RecvKept m m' i) ?_
  have hsame : ∀ m', m' = m → m'.Numbered ∧ RecvKept m m' i := by
    rintro m' rfl
    exact ⟨hm, .inl rfl⟩
  cases activity with
  | openBidi =>
    simp only [Activity.run, ensures_state]
    refine (m.openBidi_spec).mono ?_ fun _ m' he => hsame m' he.1
    rintro _ m' ⟨rfl, -, rfl⟩
    refine ⟨hm.openBidi _, ?_⟩
    by_cases hi : i = StreamManager.localId m.isClient m.nextBidiSequence
    · subst hi
      exact .inr ⟨by simp [StreamManager.recv?, hm.fresh],
        m.localLimits.maxStreamDataBidiLocal, (m.recv?_setHalf _ _ _).trans (if_pos rfl)⟩
    · exact .inl ((m.recv?_setHalf _ _ _).trans (if_neg hi))
  | write streamId data fin =>
    refine (m.withSend_spec streamId _).mono ?_ fun _ m' he => hsame m' he.1
    rintro _ m' ⟨send, send', hsend, -, rfl⟩
    exact ⟨hm.setSend hsend _, .inl (m.recv?_setSend _ _ _)⟩
  | nextFrame streamId maxBytes =>
    simp only [Activity.run, ensures_state]
    refine (m.nextFrame_spec streamId maxBytes).mono ?_ fun _ m' he => hsame m' he.1
    rintro _ m' ⟨send, hsend, -, rfl⟩
    exact ⟨(hm.setSend hsend _).of_streams_eq rfl rfl rfl, .inl (m.recv?_setSend _ _ _)⟩
  | maxData maximum => exact ⟨hm.of_streams_eq rfl rfl rfl, .inl rfl⟩
  | maxStreamData streamId maximum =>
    refine (m.withSend_spec streamId _).mono ?_ fun _ m' he => hsame m' he.1
    rintro _ m' ⟨send, send', hsend, -, rfl⟩
    exact ⟨hm.setSend hsend _, .inl (m.recv?_setSend _ _ _)⟩
  | maxStreams maximum bidirectional =>
    cases bidirectional
    all_goals exact ⟨hm.of_streams_eq rfl rfl rfl, .inl rfl⟩
  | stream frame =>
    have hne : i ≠ frame.streamId := by
      rintro rfl
      simp [Activity.elsewhere] at h
    simp only [Activity.run, ensures_state]
    exact (m.handleStream_spec frame).mono
      (fun _ _ hh => ⟨hm.handled hh, .inl (hh.recv?_of_ne hne)⟩)
      fun _ _ hr => ⟨hm.refused hr.2, .inl (hr.2.recv?_of_ne hne)⟩

end Elsewhere

namespace Link

structure Inv (link : Link) (i : ℕ) : Prop where
  sends : Sends link.sender i link.written link.emitted
  arrived : ∀ frame ∈ link.arrived, frame ∈ link.emitted
  ids : ∀ event ∈ link.events, event.streamId = i
  receives : ∃ r, Reassembles r link.written link.arrived link.events ∧
    ∀ m, link.receiver = some m → m.Numbered ∧
      (m.recv? i = some r ∨ (m.recv? i = none ∧ link.arrived = [] ∧ link.events = []))

variable {link : Link} {i : ℕ}

lemma inv_init (i limit : ℕ) (isClient : Bool) (localLimits peerLimits : FlowControlLimits) :
    (init i limit (.new isClient localLimits peerLimits)).Inv i where
  sends := sends_new i limit
  arrived := by simp [init]
  ids := by simp [init]
  receives := ⟨.new i 0, reassembles_new i 0 [], fun m hm => by
    cases Option.some.inj hm
    exact ⟨StreamManager.numbered_new _ _ _, .inr ⟨by simp [StreamManager.recv?, StreamManager.new], rfl, rfl⟩⟩⟩

lemma RecvEvent.id (r : RecvStream) (i : ℕ) : ∀ event ∈ (r.event i).toList, event.streamId = i := by
  intro event hevent
  unfold RecvStream.event at hevent
  split_ifs at hevent
  · rw [List.mem_singleton.1 hevent]
  · simp at hevent

lemma Inv.deliver (h : link.Inv i) (k : ℕ) : (link.step (.deliver k)).Inv i := by
  simp only [step]
  split
  · rename_i frame manager hframe hmanager
    obtain ⟨r, hr, hrecv⟩ := h.receives
    obtain ⟨hnum, hrecv⟩ := hrecv manager hmanager
    have hmem : frame ∈ link.emitted := List.mem_of_getElem? hframe
    have hcarries := h.sends.carries frame hmem
    split
    · rename_i event frames manager' hok
      obtain ⟨recv, hrouted, hacc, hevent, hm'⟩ :=
        (manager.handleStream_spec frame).of_ok hok
      change event = _ at hevent
      have hid : frame.streamId = i := hcarries.isFor
      -- the half that takes the frame is the one of the invariant, or one just opened
      have hstart : Reassembles recv link.written link.arrived link.events := by
        rw [hid] at hrouted
        rcases manager.recv?_routed i i with hsame | ⟨-, hnone, limit, hnew⟩
        · rcases hrecv with hrecv | ⟨hnone, -, -⟩
          · rw [hsame, hrecv] at hrouted
            rwa [← Option.some.inj hrouted]
          · rw [hsame, hnone] at hrouted
            cases hrouted
        · rcases hrecv with hrecv | ⟨-, ha, he⟩
          · rw [hnone] at hrecv
            cases hrecv
          · rw [hnew] at hrouted
            rw [← Option.some.inj hrouted, ha, he]
            exact reassembles_new i limit _
      have hdone := (hstart.deliver hcarries).credit
      refine ⟨h.sends, ?_, ?_, (recv.accept frame).read.2.creditUpdate.2, ?_, fun m hm => ?_⟩
      · exact fun f hf => (List.mem_cons.1 hf).elim (fun hf => hf ▸ hmem) (h.arrived f)
      · intro e he
        rcases List.mem_append.1 he with he | he
        · exact h.ids e he
        · rw [hevent, hid] at he
          exact RecvEvent.id _ _ e he
      · simp only [hevent, hid]
        exact hdone
      · cases Option.some.inj hm
        refine ⟨hnum.handled ⟨recv, hrouted, hacc, hevent, hm'⟩, .inl ?_⟩
        rw [hm', hid, StreamManager.recv?_extended (StreamManager.recv?_setRecv _ _ _ _ |>.trans (if_pos rfl)),
          if_pos rfl]
    · exact ⟨h.sends, h.arrived, h.ids, r, hr, by simp⟩
  · exact h

lemma Inv.step (h : link.Inv i) (action : Action) : (link.step action).Inv i := by
  obtain ⟨r, hr, hrecv⟩ := h.receives
  cases action with
  | write data fin =>
    simp only [Link.step]
    split
    · rename_i sender hwrite
      obtain ⟨hsends, hq⟩ := h.sends.write hwrite
      refine ⟨hsends, h.arrived, h.ids, r, hr.write data fun frame hframe => ?_, hrecv⟩
      by_contra hfin
      have := (h.sends.carries frame (h.arrived frame hframe)).final (by simpa using hfin)
      simp [hq] at this
    · exact h
  | nextFrame maxBytes credit =>
    exact ⟨h.sends.nextFrame maxBytes credit,
      fun f hf => List.mem_append_right _ (h.arrived f hf), h.ids, r, hr, hrecv⟩
  | requeue k =>
    simp only [Link.step]
    split
    · rename_i frame hframe
      exact ⟨h.sends.requeue (List.mem_of_getElem? hframe), h.arrived, h.ids, r, hr, hrecv⟩
    · exact h
  | maxStreamData maximum =>
    exact ⟨h.sends.onMaxStreamData maximum, h.arrived, h.ids, r, hr, hrecv⟩
  | acked k =>
    simp only [Link.step]
    split
    · exact ⟨h.sends.onFrameAcked _, h.arrived, h.ids, r, hr, hrecv⟩
    · exact h
  | deliver k => exact h.deliver k
  | elsewhere activity =>
    simp only [Link.step]
    split
    · rename_i manager hmanager
      split_ifs with helse
      · obtain ⟨hnum, hcur⟩ := hrecv manager hmanager
        rw [h.sends.isFor] at helse
        obtain ⟨hnum', hkept⟩ := Activity.run_elsewhere hnum helse
        rcases hkept with hsame | ⟨hnone, limit, hnew⟩
        · refine ⟨h.sends, h.arrived, h.ids, r, hr, fun m hm => ?_⟩
          cases Option.some.inj hm
          exact ⟨hnum', by rw [hsame]; exact hcur⟩
        · obtain ⟨-, ha, he⟩ := hcur.resolve_left (by simp [hnone])
          refine ⟨h.sends, h.arrived, h.ids, .new i limit, ?_, fun m hm => ?_⟩
          · simp only [ha, he]
            exact reassembles_new i limit _
          · cases Option.some.inj hm
            exact ⟨hnum', .inl hnew⟩
      · exact h
    · exact h

lemma Inv.run (h : link.Inv i) (actions : List Action) : (link.run actions).Inv i := by
  induction actions generalizing link with
  | nil => exact h
  | cons action actions ih => exact ih (h.step action)

end Link

lemma Reassembles.readOffset_eq_iff (h : Reassembles r written arrived events) :
    r.readOffset = written.length ↔ ∀ i < written.length, Covered arrived i := by
  constructor
  · intro hlen i hi
    exact (h.received i).1 (h.read i (by omega))
  · intro hall
    refine le_antisymm h.readOffset_le (not_lt.1 fun hlt => h.unread ?_)
    exact (h.received _).2 (hall _ hlt)

lemma Reassembles.state_iff (h : Reassembles r written arrived events) :
    r.state = .dataRead ↔ Complete arrived written := by
  rw [h.state, h.final, h.readOffset_eq_iff]
  exact and_comm

open scoped Classical in
/-- Whatever is written, sliced, lost and sent again, and in whatever order frames arrive: the application has been
given exactly the bytes before the first one missing, in order and once each, and the end of the stream is reported
by one event, the last, once everything up to the FIN is there and not before. -/
theorem stream_delivered_in_order (i limit : ℕ) (isClient : Bool)
    (localLimits peerLimits : FlowControlLimits) (actions : List Link.Action) :
    let link := (Link.init i limit (.new isClient localLimits peerLimits)).run actions
    (∃ n, (∀ j < n, Covered link.arrived j) ∧ ¬Covered link.arrived n ∧ n ≤ link.written.length ∧
      (link.events.map (·.data)).flatten = link.written.take n) ∧
    (∀ event ∈ link.events, event.streamId = i) ∧
    (link.events.filter (·.endStream)).length = (if Complete link.arrived link.written then 1 else 0) ∧
    ∀ event ∈ link.events.dropLast, event.endStream = false := by
  intro link
  have h : link.Inv i := (Link.inv_init i limit isClient localLimits peerLimits).run actions
  obtain ⟨r, hr, -⟩ := h.receives
  refine ⟨⟨r.readOffset, fun j hj => (hr.received j).1 (hr.read j hj), mt (hr.received _).2 hr.unread,
    hr.readOffset_le, hr.data⟩, h.ids, ?_, hr.last⟩
  rw [hr.ends]
  simp only [hr.state_iff]

end Dsquic.Streams
