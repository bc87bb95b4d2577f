import Dsquic.Streams.Preserves

/-!
The end of a stream is reported once, whatever frames the peer sends.
-/

namespace Dsquic.Streams

open Lib Wire

namespace RecvStream

variable {r : RecvStream} {frame : Stream} {i : ℕ} {event : StreamDataReceived}

structure Bounded (r : RecvStream) : Prop where
  stored : ∀ x ∈ r.received, x < r.highestOffset
  final : ∀ size, r.finalSize = some size → r.highestOffset ≤ size
  finished : r.isFullyRead = true → ∃ size, r.finalSize = some size ∧ size ≤ r.readOffset

lemma bounded_new (i limit : ℕ) : (new i limit).Bounded where
  stored x hx := absurd hx (RangeSet.not_mem_empty x)
  final _ _ := Nat.zero_le _
  finished hfull := absurd hfull (by simp [isFullyRead, new])

@[simp] lemma isFullyRead_accept (r : RecvStream) (frame : Stream) :
    (r.accept frame).isFullyRead = r.isFullyRead := by
  simp only [isFullyRead, accept, receivedState]
  split
  · split_ifs with hread hcovers
    · rfl
    · simp [hread]
    · simp [hread]
  · rfl

lemma finalSize_of_not_violates {stop size : ℕ} {fin : Bool} (h : r.violatesFinalSize stop fin = false)
    (hsize : r.finalSize = some size) : stop ≤ size ∧ (fin = true → stop = size) := by
  simp only [violatesFinalSize, hsize, Bool.or_eq_false_iff, decide_eq_false_iff_not, not_lt,
    Bool.and_eq_false_iff, bne_eq_false_iff_eq] at h
  exact ⟨h.1, fun hfin => h.2.resolve_left (by simp [hfin])⟩

lemma Bounded.sizes (h : r.Bounded) (hsizes : r.Sizes frame) :
    ({ r with finalSize := some (frame.offset + frame.data.length) } : RecvStream).Bounded where
  stored := h.stored
  final := by
    rintro _ ⟨⟩
    exact hsizes.2
  finished hfull := by
    obtain ⟨size, hsize, hread⟩ := h.finished hfull
    exact ⟨size, congrArg some ((finalSize_of_not_violates hsizes.1 hsize).2 rfl), hread⟩

lemma Bounded.accept (h : r.Bounded) (hacc : r.Accepts frame) : (r.accept frame).Bounded := by
  have hfinal : ∀ size, r.finalSize = some size → _ := fun size => finalSize_of_not_violates hacc.final
  refine ⟨fun x hx => ?_, fun size hsize => ?_, fun hfull => ?_⟩
  · rcases RangeSet.mem_add.1 hx with hx | hx
    · exact (h.stored x hx).trans_le (le_max_left _ _)
    · exact hx.2.trans_le (le_max_right _ _)
  · change (if frame.fin then some (frame.offset + frame.data.length) else r.finalSize) = some size at hsize
    split_ifs at hsize with hfin
    · cases hsize
      exact max_le (hacc.highest hfin) le_rfl
    · exact max_le (h.final size hsize) (hfinal size hsize).1
  · rw [isFullyRead_accept] at hfull
    obtain ⟨size, hsize, hread⟩ := h.finished hfull
    refine ⟨size, ?_, hread⟩
    change (if frame.fin then some (frame.offset + frame.data.length) else r.finalSize) = some size
    split_ifs with hfin
    · exact congrArg some ((hfinal size hsize).2 hfin)
    · exact hsize

lemma Bounded.readOut (h : r.Bounded) : r.read.2.Bounded := by
  refine ⟨h.stored, h.final, fun hfull => ?_⟩
  by_cases hend : r.finalSize = some (r.received.contiguousFrom r.readOffset)
  · exact ⟨_, hend, le_rfl⟩
  · have hfull : r.isFullyRead = true := by simpa [isFullyRead, read, hend] using hfull
    obtain ⟨size, hsize, hread⟩ := h.finished hfull
    exact ⟨size, hsize, hread.trans (r.received.le_contiguousFrom _)⟩

lemma Bounded.read_eq_nil (h : r.Bounded) (hfull : r.isFullyRead = true) : r.read.1 = [] := by
  obtain ⟨size, hsize, hread⟩ := h.finished hfull
  have hend : r.received.contiguousFrom r.readOffset ≤ r.readOffset := by
    by_contra hlt
    have hmem : r.readOffset ∈ r.received := RangeSet.mem_of_lt_contiguousFrom le_rfl (Nat.lt_of_not_le hlt)
    exact absurd (h.stored _ hmem) (not_lt.2 ((h.final size hsize).trans hread))
  simp only [read]
  rw [List.drop_eq_nil_iff, List.length_take]
  exact (min_le_left _ _).trans hend

lemma creditUpdate_same (r : RecvStream) : ∃ limit, r.creditUpdate.2 = { r with maxStreamData := limit } := by
  rw [RecvStream.creditUpdate]
  split_ifs
  · exact ⟨r.maxStreamData, rfl⟩
  · exact ⟨r.maxStreamData, rfl⟩
  · exact ⟨_, rfl⟩

lemma Bounded.creditUpdate (h : r.Bounded) : r.creditUpdate.2.Bounded := by
  obtain ⟨limit, hsame⟩ := r.creditUpdate_same
  rw [hsame]
  exact { h with }

@[simp] lemma isFullyRead_creditUpdate (r : RecvStream) : r.creditUpdate.2.isFullyRead = r.isFullyRead := by
  obtain ⟨limit, hsame⟩ := r.creditUpdate_same
  rw [hsame]
  rfl

lemma Bounded.event_ends (h : r.Bounded) (hevent : r.event i = some event)
    (hend : event.endStream = true) : r.isFullyRead = false ∧ r.read.2.isFullyRead = true := by
  rw [RecvStream.event] at hevent
  split_ifs at hevent with hreport
  cases hevent
  refine ⟨?_, hend⟩
  by_contra hfull
  have hfull : r.isFullyRead = true := by simpa using hfull
  rcases hreport with hdata | hnew
  · exact hdata (h.read_eq_nil hfull)
  · exact hnew.2 hfull

lemma streamId_event (hevent : r.event i = some event) : event.streamId = i := by
  rw [RecvStream.event] at hevent
  split_ifs at hevent
  cases hevent
  rfl

end RecvStream

namespace StreamManager

variable {m m' : StreamManager} {frame : Stream} {event : Option StreamDataReceived} {i : ℕ}

def Paired (m : StreamManager) : Prop := ∀ i, (m.send? i).isSome = ((m.recv? i).isSome && isBidirectional i)

variable {recv : RecvStream}

lemma Paired.setRecv (h : m.Paired) (hrecv : m.recv? i = some recv) (recv' : RecvStream) :
    (m.setRecv i recv').Paired := by
  intro j
  rw [send?_setRecv, recv?_setRecv, h j]
  split_ifs with hj
  · rw [hj, hrecv]
    rfl
  · rfl

lemma Paired.routed (h : m.Paired) (i : ℕ) : (m.routed i).Paired := by
  unfold StreamManager.routed
  split
  · next half hnone hcreate =>
    intro j
    rw [send?_setHalf, recv?_setHalf]
    split_ifs with hj
    · subst hj
      unfold createPeerInitiated at hcreate
      split_ifs at hcreate with hown hbidi
      · cases hcreate
        simp [hbidi]
      · cases hcreate
        simp [hbidi]
    · exact h j
  · exact h

lemma Paired.of_streams_eq (h : m.Paired) (hstreams : m'.streams = m.streams) : m'.Paired := by
  intro j
  simp only [send?, recv?, hstreams]
  exact h j

lemma Paired.accepted (h : m.Paired) (hrecv : m.recv? frame.streamId = some recv) :
    (m.accepted frame recv).Paired :=
  (h.setRecv hrecv (recv.accept frame)).of_streams_eq rfl

lemma Paired.handled (h : m.Paired) (hm : m.Handled frame event m') : m'.Paired := by
  obtain ⟨recv, hrecv, -, -, hm'⟩ := hm
  rw [hm']
  have haccepted := (h.routed _).accepted hrecv
  have hread := haccepted.setRecv (recv?_accepted_self _ _ _) (recv.accept frame).read.2
  refine Paired.of_streams_eq ?_ streams_extended
  rw [creditUpdate, recv?_setRecv, if_pos rfl]
  exact hread.setRecv ((recv?_setRecv _ _ _ _).trans (if_pos rfl)) _

lemma Paired.refused (h : m.Paired) (hm : m.Refused frame m') : m'.Paired := by
  rcases hm with rfl | rfl | ⟨recv, hrecv, rfl | ⟨-, rfl⟩ | ⟨-, rfl⟩⟩
  · exact h
  · exact h.routed _
  · exact (h.routed _).setRecv hrecv _
  · exact (h.routed _).setRecv hrecv _
  · exact (h.routed _).accepted hrecv

def Finds (m : StreamManager) (i : ℕ) (recv : RecvStream) : Prop :=
  m.recv? i = some recv ∨ m.recv? i = none ∧ ∃ limit, recv = .new i limit

lemma finds_of_routed (h : (m.routed i).recv? i = some recv) : m.Finds i recv := by
  rcases m.recv?_routed i i with hsame | ⟨-, hnone, limit, hnew⟩
  · exact .inl (hsame.symm.trans h)
  · exact .inr ⟨hnone, limit, Option.some.inj (h.symm.trans hnew)⟩

lemma Handled.taken (hm : m.Handled frame event m') :
    ∃ recv, m.Finds frame.streamId recv ∧
      recv.Accepts frame ∧ event = (recv.accept frame).event frame.streamId ∧
      m'.recv? frame.streamId = some (recv.accept frame).read.2.creditUpdate.2 := by
  obtain ⟨recv, hrecv, hacc, rfl, hm'⟩ := hm
  rw [hm']
  refine ⟨recv, finds_of_routed hrecv, hacc, rfl, ?_⟩
  rw [recv?_extended ((recv?_setRecv _ _ _ _).trans (if_pos rfl)), if_pos rfl]

lemma Refused.taken (hm : m.Refused frame m') {recv' : RecvStream}
    (hrecv' : m'.recv? frame.streamId = some recv') :
    ∃ recv, m.Finds frame.streamId recv ∧ (recv.Bounded → recv'.Bounded) ∧
      recv'.isFullyRead = recv.isFullyRead := by
  rcases hm with rfl | rfl | ⟨recv, hrecv, rfl | ⟨hsizes, rfl⟩ | ⟨hacc, rfl⟩⟩
  · exact ⟨recv', .inl hrecv', id, rfl⟩
  · exact ⟨recv', finds_of_routed hrecv', id, rfl⟩
  all_goals refine ⟨recv, finds_of_routed hrecv, ?_⟩
  · cases ((recv?_setRecv _ _ _ _).trans (if_pos rfl)).symm.trans hrecv'
    exact ⟨id, rfl⟩
  · cases ((recv?_setRecv _ _ _ _).trans (if_pos rfl)).symm.trans hrecv'
    exact ⟨fun h => h.sizes hsizes, rfl⟩
  · cases (recv?_accepted_self _ _ _).symm.trans hrecv'
    exact ⟨fun h => h.accept hacc, RecvStream.isFullyRead_accept recv frame⟩

lemma Preserves.finQueued (h : m.Preserves m') {send' : SendStream} (hsend' : m'.send? i = some send')
    (hfin : send'.finQueued = true) : ∃ send, m.send? i = some send ∧ send.finQueued = true := by
  cases hsend : m.send? i with
  | none =>
    obtain ⟨limit, rfl⟩ := h.opened i send' hsend' hsend
    exact absurd hfin (by simp [SendStream.new])
  | some send =>
    obtain ⟨limit, hlimit⟩ := h.sends i send hsend
    cases hsend'.symm.trans hlimit
    exact ⟨send, rfl, hfin⟩

end StreamManager

end Dsquic.Streams
