import Dsquic.Streams.Preserves

/-!
The limits that a manager has announced to its peer. One that rises does so together with a frame that
carries its new value.
-/

namespace Dsquic.Streams

open Lib Wire

namespace StreamManager

def Advertises (m : StreamManager) : Frame → Prop
  | .maxData limit => limit = m.localMaxData ∧ m.localLimits.maxData < limit
  | .maxStreamData i limit => ∃ recv, m.recv? i = some recv ∧ limit = recv.maxStreamData ∧ recv.window < limit
  | .maxStreams limit bidirectional =>
    limit = (if bidirectional then m.localMaxStreamsBidi else m.localMaxStreamsUni) ∧
      (if bidirectional then m.localLimits.maxStreamsBidi else m.localLimits.maxStreamsUni) < limit
  | _ => False

def Credits (m m' : StreamManager) (frames : List Frame) : Prop :=
  ∀ frame, m'.Advertises frame → m.Advertises frame ∨ frame ∈ frames

structure Terms where
  localLimits : FlowControlLimits
  localMaxData : ℕ
  localMaxStreamsBidi : ℕ
  localMaxStreamsUni : ℕ

def terms (m : StreamManager) : Terms :=
  ⟨m.localLimits, m.localMaxData, m.localMaxStreamsBidi, m.localMaxStreamsUni⟩

namespace Credits

variable {m m' m'' : StreamManager} {frames frames' : List Frame} {frame : Stream} {i : ℕ}

lemma trans (h : m.Credits m' frames) (h' : m'.Credits m'' frames') : m.Credits m'' (frames ++ frames') := by
  intro frame hframe
  rcases h' frame hframe with hframe | hframe
  · exact (h frame hframe).imp_right (List.mem_append_left _)
  · exact .inr (List.mem_append_right _ hframe)

lemma then_quiet (h : m.Credits m' []) (h' : m'.Credits m'' frames) : m.Credits m'' frames := h.trans h'

lemma of_terms (hterms : m'.terms = m.terms) (hrecv : ∀ i recv', m'.recv? i = some recv' →
    recv'.maxStreamData = recv'.window ∨ ∃ recv, m.recv? i = some recv ∧
      recv'.maxStreamData = recv.maxStreamData ∧ recv'.window = recv.window) : m.Credits m' [] := by
  have hlimits : m'.localLimits = m.localLimits := congrArg Terms.localLimits hterms
  have hdata : m'.localMaxData = m.localMaxData := congrArg Terms.localMaxData hterms
  have hbidi : m'.localMaxStreamsBidi = m.localMaxStreamsBidi := congrArg Terms.localMaxStreamsBidi hterms
  have huni : m'.localMaxStreamsUni = m.localMaxStreamsUni := congrArg Terms.localMaxStreamsUni hterms
  intro frame hframe
  cases frame with
  | maxData limit =>
    rw [Advertises, hdata, hlimits] at hframe
    exact .inl hframe
  | maxStreamData i limit =>
    obtain ⟨recv', hget, hlimit, hraised⟩ := hframe
    rcases hrecv i recv' hget with hstart | ⟨recv, hold, hsame, hwindow⟩
    · omega
    · exact .inl ⟨recv, hold, hlimit.trans hsame, hwindow ▸ hraised⟩
  | maxStreams limit bidirectional =>
    rw [Advertises, hbidi, huni, hlimits] at hframe
    exact .inl hframe
  | _ => exact hframe.elim

lemma of_recv? (hterms : m'.terms = m.terms) (hrecv : ∀ i, m'.recv? i = m.recv? i) : m.Credits m' [] :=
  of_terms hterms fun i recv' h => .inr ⟨recv', (hrecv i).symm.trans h, rfl, rfl⟩

lemma refl (m : StreamManager) : m.Credits m [] := of_recv? rfl fun _ => rfl

lemma setSend (m : StreamManager) (i : ℕ) (send : SendStream) (dataSent : ℕ) :
    m.Credits { m.setSend i send with dataSent := dataSent } [] := of_recv? rfl (m.recv?_setSend i · send)

lemma updatePeerLimits (m : StreamManager) (peer : FlowControlLimits) :
    m.Credits (m.updatePeerLimits peer) [] := by
  refine of_recv? rfl fun i => ?_
  simp only [recv?, StreamManager.updatePeerLimits, Dict.get?_mapValues]
  cases m.streams.get? i <;> rfl

lemma onMaxStreams (m : StreamManager) (maximum : ℕ) (bidirectional : Bool) :
    m.Credits (m.onMaxStreams maximum bidirectional) [] := by
  rw [StreamManager.onMaxStreams]
  split_ifs <;> exact of_recv? rfl fun _ => rfl

lemma setRecv {old recv : RecvStream} (hold : m.recv? i = some old)
    (hlimit : recv.maxStreamData = old.maxStreamData) (hwindow : recv.window = old.window) :
    m.Credits (m.setRecv i recv) [] := by
  refine of_terms rfl fun j recv' h => .inr ?_
  rw [recv?_setRecv] at h
  split_ifs at h with hj
  · cases h
    exact ⟨old, hj ▸ hold, hlimit, hwindow⟩
  · exact ⟨recv', h, rfl, rfl⟩

lemma setHalf {half : Half} (hterms : m'.terms = m.terms) (hstreams : m'.streams = (m.setHalf i half).streams)
    (hhalf : ∀ recv, half.recv = some recv → recv.maxStreamData = recv.window) : m.Credits m' [] := by
  refine of_terms hterms fun j recv' h => ?_
  have hrecv : m'.recv? j = (m.setHalf i half).recv? j := by simp only [recv?, hstreams]
  rw [hrecv, recv?_setHalf] at h
  split_ifs at h
  · exact .inl (hhalf recv' h)
  · exact .inr ⟨recv', h, rfl, rfl⟩

lemma routed (m : StreamManager) (i : ℕ) : m.Credits (m.routed i) [] := by
  rw [StreamManager.routed]
  split
  · next half hnone hcreate =>
    refine setHalf rfl rfl fun recv hrecv => ?_
    simp only [createPeerInitiated] at hcreate
    split_ifs at hcreate <;> cases hcreate <;> cases hrecv <;> rfl
  · exact refl m

lemma openBidi (m : StreamManager) (send recv : ℕ) :
    m.Credits { m.setHalf (localId m.isClient m.nextBidiSequence)
      ⟨some (.new (localId m.isClient m.nextBidiSequence) send),
        some (.new (localId m.isClient m.nextBidiSequence) recv)⟩ with
      nextBidiSequence := m.nextBidiSequence + 1 } [] := by
  refine setHalf (i := localId m.isClient m.nextBidiSequence) rfl rfl ?_
  rintro _ ⟨⟩
  rfl

lemma accepted {recv : RecvStream} (hrecv : m.recv? frame.streamId = some recv) :
    m.Credits (m.accepted frame recv) [] := by
  have hset : m.Credits (m.setRecv frame.streamId (recv.accept frame)) [] := setRecv hrecv rfl rfl
  exact hset.then_quiet (of_recv? rfl fun _ => rfl)

lemma refused (h : m.Refused frame m') : m.Credits m' [] := by
  rcases h with rfl | rfl | ⟨recv, hrecv, rfl | ⟨-, rfl⟩ | ⟨-, rfl⟩⟩
  · exact refl m'
  · exact routed m _
  · exact (routed m _).then_quiet (setRecv hrecv rfl rfl)
  · exact (routed m _).then_quiet (setRecv hrecv rfl rfl)
  · exact (routed m _).then_quiet (accepted hrecv)

lemma creditUpdate (m : StreamManager) (i : ℕ) :
    m.Credits (m.creditUpdate i).2 ((m.creditUpdate i).1.map (Frame.maxStreamData i)).toList := by
  rw [StreamManager.creditUpdate]
  cases hrecv : m.recv? i with
  | none => exact refl m
  | some recv =>
    dsimp only
    rw [RecvStream.creditUpdate]
    split_ifs
    · exact setRecv hrecv rfl rfl
    · exact setRecv hrecv rfl rfl
    · -- the limit of this one stream is new, and the frame carries it
      intro frame hframe
      cases frame with
      | maxStreamData j limit =>
        obtain ⟨recv', hget, hlimit, hraised⟩ := hframe
        rw [recv?_setRecv] at hget
        split_ifs at hget with hj
        · cases hget
          rw [hj, hlimit]
          exact .inr (List.mem_singleton.2 rfl)
        · exact .inl ⟨recv', hget, hlimit, hraised⟩
      | _ => exact .inl hframe

lemma maxDataUpdate (m : StreamManager) :
    m.Credits m.maxDataUpdate.2 (m.maxDataUpdate.1.map Frame.maxData).toList := by
  rw [StreamManager.maxDataUpdate]
  split_ifs
  · exact refl m
  · intro frame hframe
    cases frame with
    | maxData limit =>
      rw [hframe.1]
      exact .inr (List.mem_singleton.2 rfl)
    | _ => exact .inl hframe

lemma maxStreamsUpdate (m : StreamManager) (bidirectional : Bool) :
    m.Credits (m.maxStreamsUpdate bidirectional).2
      ((m.maxStreamsUpdate bidirectional).1.map (Frame.maxStreams · bidirectional)).toList := by
  cases bidirectional with
  | true =>
    simp only [StreamManager.maxStreamsUpdate, if_true]
    split_ifs
    · exact refl m
    · exact refl m
    · intro frame hframe
      cases frame with
      | maxStreams limit b =>
        cases b with
        | true =>
          rw [hframe.1]
          exact .inr (List.mem_singleton.2 rfl)
        | false => exact .inl hframe
      | _ => exact .inl hframe
  | false =>
    simp only [StreamManager.maxStreamsUpdate, Bool.false_eq_true, if_false]
    split_ifs
    · exact refl m
    · exact refl m
    · intro frame hframe
      cases frame with
      | maxStreams limit b =>
        cases b with
        | true => exact .inl hframe
        | false =>
          rw [hframe.1]
          exact .inr (List.mem_singleton.2 rfl)
      | _ => exact .inl hframe

end Credits

lemma handleStream_credits (m : StreamManager) (frame : Stream) :
    Ensures (handleStream frame) m fun out m' => m.Credits m' out.2 := by
  rw [handleStream, ensures_bind]
  apply (onStreamFrame_spec m frame).imp_true
  rintro _ m₁ ⟨recv, hrecv, -, rfl, -⟩
  have hrecv' : ((m.routed frame.streamId).accepted frame recv).recv? frame.streamId =
      some (recv.accept frame) := by
    simp
  have hread : m.Credits (((m.routed frame.streamId).accepted frame recv).setRecv frame.streamId
      (recv.accept frame).read.2) [] :=
    ((Credits.routed m _).then_quiet (.accepted hrecv)).then_quiet (.setRecv hrecv' rfl rfl)
  rw [ensures_bind, ensures_of_eq_ok (readEvent_eq hrecv'), ensures_bind]
  simp only [maybeExtendCredit, ensures_state]
  exact (((hread.then_quiet (.creditUpdate _ _)).trans (.maxDataUpdate _)).trans (.maxStreamsUpdate _ true)).trans
    (.maxStreamsUpdate _ false)

end StreamManager

end Dsquic.Streams
