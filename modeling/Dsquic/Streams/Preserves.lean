import Dsquic.Streams.Manager

/-!
What the operations of a manager, other than those on one sending half, do to the streams it has.
-/

namespace Dsquic.Streams

open Lib Wire

namespace StreamManager

structure Preserves (m m' : StreamManager) : Prop where
  sends : ∀ i send, m.send? i = some send → ∃ limit, m'.send? i = some { send with maxStreamData := limit }
  opened : ∀ i send', m'.send? i = some send' → m.send? i = none → ∃ limit, send' = .new i limit
  recvs : ∀ i, (m.recv? i).isSome → (m'.recv? i).isSome
  numbered : m.Numbered → m'.Numbered

namespace Preserves

variable {m m' : StreamManager} {frame : Stream} {i : ℕ}

lemma of_streams_eq (hs : m'.streams = m.streams) (hc : m'.isClient = m.isClient)
    (hn : m'.nextBidiSequence = m.nextBidiSequence) : m.Preserves m' := by
  have hsend : ∀ i, m'.send? i = m.send? i := fun i => by simp only [send?, hs]
  have hrecv : ∀ i, m'.recv? i = m.recv? i := fun i => by simp only [recv?, hs]
  refine ⟨fun i send h => ⟨send.maxStreamData, ?_⟩, fun i send' h hnone => ?_, fun i h => ?_, fun h => ?_⟩
  · rw [hsend, h]
  · rw [hsend, hnone] at h
    cases h
  · rwa [hrecv]
  · exact h.of_streams_eq hs hc hn

lemma refl (m : StreamManager) : m.Preserves m := of_streams_eq rfl rfl rfl

lemma trans {m'' : StreamManager} (h : m.Preserves m') (h' : m'.Preserves m'') : m.Preserves m'' := by
  refine ⟨fun i send hsend => ?_, fun i send'' hsend'' hnone => ?_, fun i hi => h'.recvs i (h.recvs i hi),
    h'.numbered ∘ h.numbered⟩
  · obtain ⟨limit, hlimit⟩ := h.sends i send hsend
    obtain ⟨limit', hlimit'⟩ := h'.sends i _ hlimit
    exact ⟨limit', hlimit'⟩
  · cases hsend' : m'.send? i with
    | none => exact h'.opened i send'' hsend'' hsend'
    | some send' =>
      obtain ⟨limit, rfl⟩ := h.opened i send' hsend' hnone
      obtain ⟨limit', hlimit'⟩ := h'.sends i _ hsend'
      rw [hlimit'] at hsend''
      cases hsend''
      exact ⟨limit', rfl⟩

lemma setRecv {old : RecvStream} (hold : m.recv? i = some old) (recv : RecvStream) :
    m.Preserves (m.setRecv i recv) := by
  refine ⟨fun j send h => ⟨send.maxStreamData, ?_⟩, fun j send' h hnone => ?_, fun j h => ?_,
    fun h => h.setRecv hold recv⟩
  · rw [send?_setRecv, h]
  · rw [send?_setRecv, hnone] at h
    cases h
  · rw [recv?_setRecv]
    split_ifs
    · rfl
    · exact h

lemma onMaxStreamData {send : SendStream} (hsend : m.send? i = some send) (maximum : ℕ) :
    m.Preserves (m.setSend i (send.onMaxStreamData maximum)) := by
  refine ⟨fun j send' h => ?_, fun j send' h hnone => ?_, fun j h => by rwa [recv?_setSend],
    fun h => h.setSend hsend _⟩
  · rw [send?_setSend]
    split_ifs with hj
    · subst hj
      rw [hsend] at h
      cases h
      exact ⟨_, rfl⟩
    · exact ⟨send'.maxStreamData, h⟩
  · rw [send?_setSend] at h
    split_ifs at h with hj
    · subst hj
      rw [hsend] at hnone
      cases hnone
    · rw [hnone] at h
      cases h

lemma updatePeerLimits (m : StreamManager) (peer : FlowControlLimits) :
    m.Preserves (m.updatePeerLimits peer) := by
  have hsend : ∀ i, (m.updatePeerLimits peer).send? i =
      (m.send? i).map (·.onMaxStreamData peer.maxStreamDataBidiRemote) := by
    intro i
    simp only [send?, StreamManager.updatePeerLimits, Dict.get?_mapValues]
    cases m.streams.get? i <;> rfl
  have hrecv : ∀ i, (m.updatePeerLimits peer).recv? i = m.recv? i := by
    intro i
    simp only [recv?, StreamManager.updatePeerLimits, Dict.get?_mapValues]
    cases m.streams.get? i <;> rfl
  refine ⟨fun i send h => ?_, fun i send' h hnone => ?_, fun i h => by rwa [hrecv], fun h i half hget hi => ?_⟩
  · rw [hsend, h]
    exact ⟨_, rfl⟩
  · rw [hsend, hnone] at h
    cases h
  · simp only [StreamManager.updatePeerLimits, Dict.get?_mapValues, Option.map_eq_some_iff] at hget
    obtain ⟨old, hold, -⟩ := hget
    exact h i old hold hi

lemma setHalf {half : Half} (hnone : m.streams.get? i = none) (hstreams : m'.streams = (m.setHalf i half).streams)
    (hhalf : ∀ send, half.send = some send → ∃ limit, send = .new i limit)
    (hnumbered : m.Numbered → m'.Numbered) : m.Preserves m' := by
  have hsends : ∀ j, m'.send? j = if j = i then half.send else m.send? j := fun j => by
    rw [← send?_setHalf, send?, send?, hstreams]
  have hrecvs : ∀ j, m'.recv? j = if j = i then half.recv else m.recv? j := fun j => by
    rw [← recv?_setHalf, recv?, recv?, hstreams]
  refine ⟨fun j send h => ⟨send.maxStreamData, ?_⟩, fun j send' h hj => ?_, fun j h => ?_, hnumbered⟩
  · rw [hsends, if_neg, h]
    rintro rfl
    simp [send?, hnone] at h
  · rw [hsends] at h
    split_ifs at h with hji
    · subst hji
      exact hhalf send' h
    · rw [hj] at h
      cases h
  · rw [hrecvs, if_neg]
    · exact h
    · rintro rfl
      simp [recv?, hnone] at h

lemma routed (m : StreamManager) (i : ℕ) : m.Preserves (m.routed i) := by
  have hnumbered : m.Numbered → (m.routed i).Numbered := fun h => h.routed i
  rw [StreamManager.routed] at hnumbered ⊢
  split at hnumbered
  · rename_i half hnone hcreate
    apply setHalf hnone rfl _ hnumbered
    intro send hsend
    simp only [createPeerInitiated] at hcreate
    split_ifs at hcreate <;> cases hcreate <;> cases hsend
    exact ⟨_, rfl⟩
  · exact refl m

lemma accepted {recv : RecvStream} (hrecv : m.recv? frame.streamId = some recv) :
    m.Preserves (m.accepted frame recv) :=
  (setRecv hrecv _).trans (of_streams_eq rfl rfl rfl)

lemma extended (m : StreamManager) (i : ℕ) : m.Preserves (m.extended i) := by
  have hcredit : m.Preserves (creditUpdate i m).2 := by
    simp only [creditUpdate]
    split
    · exact refl m
    · rename_i recv hrecv
      exact setRecv hrecv _
  have hdata : ∀ m : StreamManager, m.Preserves m.maxDataUpdate.2 := by
    intro m
    simp only [maxDataUpdate]
    split_ifs
    · exact refl m
    · exact of_streams_eq rfl rfl rfl
  have hcount : ∀ (m : StreamManager) (b : Bool), m.Preserves (m.maxStreamsUpdate b).2 := by
    intro m b
    simp only [maxStreamsUpdate]
    split_ifs <;> exact of_streams_eq rfl rfl rfl
  exact ((hcredit.trans (hdata _)).trans (hcount _ true)).trans (hcount _ false)

lemma handled {event : Option StreamDataReceived} (h : m.Handled frame event m') :
    m.Preserves m' := by
  obtain ⟨recv, hrecv, -, -, hm'⟩ := h
  rw [hm']
  exact (((routed m _).trans (accepted hrecv)).trans (setRecv (recv?_accepted_self _ _ _) _)).trans (extended _ _)

lemma refused (h : m.Refused frame m') : m.Preserves m' := by
  rcases h with rfl | rfl | ⟨recv, hrecv, rfl | ⟨-, rfl⟩ | ⟨-, rfl⟩⟩
  · exact refl m'
  · exact routed m _
  · exact (routed m _).trans (setRecv hrecv _)
  · exact (routed m _).trans (setRecv hrecv _)
  · exact (routed m _).trans (accepted hrecv)

lemma onMaxStreams (m : StreamManager) (maximum : ℕ) (bidirectional : Bool) :
    m.Preserves (m.onMaxStreams maximum bidirectional) := by
  simp only [StreamManager.onMaxStreams]
  split_ifs <;> exact of_streams_eq rfl rfl rfl

lemma openBidi (h : m.Numbered) (send recv : ℕ) :
    m.Preserves { m.setHalf (localId m.isClient m.nextBidiSequence)
      ⟨some (.new (localId m.isClient m.nextBidiSequence) send),
        some (.new (localId m.isClient m.nextBidiSequence) recv)⟩ with
      nextBidiSequence := m.nextBidiSequence + 1 } := by
  refine setHalf (i := localId m.isClient m.nextBidiSequence) h.fresh rfl ?_ fun h => h.openBidi _
  rintro _ ⟨⟩
  exact ⟨send, rfl⟩

end Preserves

lemma handleStream_control (m : StreamManager) (frame : Stream) :
    Ensures (handleStream frame) m
      fun out m' => ∀ f ∈ out.2, ((∃ limit, f = .maxStreamData frame.streamId limit) ∧
          (m'.recv? frame.streamId).isSome) ∨
        (∃ limit, f = .maxData limit) ∨ ∃ limit bidirectional, f = .maxStreams limit bidirectional := by
  rw [handleStream, ensures_bind]
  apply (onStreamFrame_spec m frame).imp_true
  rintro _ m₁ ⟨recv, hrecv, -, rfl, -⟩
  have hrecv' : ((m.routed frame.streamId).accepted frame recv).recv? frame.streamId =
      some (recv.accept frame) := by
    simp
  have hread : (((m.routed frame.streamId).accepted frame recv).setRecv frame.streamId
      (recv.accept frame).read.2).recv? frame.streamId = some (recv.accept frame).read.2 := by
    simp
  rw [ensures_bind, ensures_of_eq_ok (readEvent_eq hrecv'), ensures_bind]
  simp only [maybeExtendCredit, ensures_state]
  intro f hf
  simp only [List.mem_append, Option.mem_toList, Option.map_eq_some_iff] at hf
  rcases hf with ((⟨limit, -, rfl⟩ | ⟨limit, -, rfl⟩) | ⟨limit, -, rfl⟩) | ⟨limit, -, rfl⟩
  · refine .inl ⟨⟨limit, rfl⟩, ?_⟩
    have hextended := recv?_extended hread frame.streamId
    rw [if_pos rfl] at hextended
    exact Option.isSome_iff_exists.2 ⟨_, hextended⟩
  · exact .inr (.inl ⟨limit, rfl⟩)
  · exact .inr (.inr ⟨limit, true, rfl⟩)
  · exact .inr (.inr ⟨limit, false, rfl⟩)

end StreamManager

end Dsquic.Streams
