import Dsquic.Streams.Preserves

/-!
What a manager has taken in: sums over its receiving halves, and the operations that leave them alone.
-/

namespace Dsquic.Streams

open Lib Wire

namespace StreamManager

def tally (m : StreamManager) (g : ℕ → Option RecvStream → ℕ) : ℕ := m.streams.total fun i half => g i half.recv

section Tally

variable {m : StreamManager} {i : ℕ} (g : ℕ → Option RecvStream → ℕ)

lemma tally_setRecv {recv : RecvStream} (hrecv : m.recv? i = some recv) (recv' : RecvStream) :
    (m.setRecv i recv').tally g + g i (some recv) = m.tally g + g i (some recv') := by
  obtain ⟨half, hhalf, hr⟩ := Option.bind_eq_some_iff.1 hrecv
  have htotal := Dict.total_set_of_get (⟨m.send? i, some recv'⟩ : Half) (fun i half => g i half.recv) hhalf
  rwa [hr] at htotal

lemma tally_setSend {send : SendStream} (hsend : m.send? i = some send) (send' : SendStream) :
    (m.setSend i send').tally g = m.tally g := by
  obtain ⟨half, hhalf, -⟩ := Option.bind_eq_some_iff.1 hsend
  have hrecv : m.recv? i = half.recv := by simp [recv?, hhalf]
  have htotal := Dict.total_set_of_get (⟨some send', m.recv? i⟩ : Half) (fun i half => g i half.recv) hhalf
  rw [hrecv] at htotal
  rw [setSend, hrecv]
  exact Nat.add_right_cancel htotal

lemma tally_setHalf (hnone : m.streams.get? i = none) (half : Half) :
    (m.setHalf i half).tally g = m.tally g + g i half.recv :=
  Dict.total_set_fresh half (fun i half => g i half.recv) hnone

lemma tally_updatePeerLimits (peer : FlowControlLimits) : (m.updatePeerLimits peer).tally g = m.tally g := by
  simp only [tally, updatePeerLimits, Dict.total, Dict.mapValues, List.map_map]
  rfl

end Tally

structure Ledger where
  isClient : Bool
  localLimits : FlowControlLimits
  localMaxData : ℕ
  dataWindow : ℕ
  dataReceived : ℕ
  localMaxStreamsBidi : ℕ
  localMaxStreamsUni : ℕ
  streamsWindowBidi : ℕ
  streamsWindowUni : ℕ

def ledger (m : StreamManager) : Ledger where
  isClient := m.isClient
  localLimits := m.localLimits
  localMaxData := m.localMaxData
  dataWindow := m.dataWindow
  dataReceived := m.dataReceived
  localMaxStreamsBidi := m.localMaxStreamsBidi
  localMaxStreamsUni := m.localMaxStreamsUni
  streamsWindowBidi := m.streamsWindowBidi
  streamsWindowUni := m.streamsWindowUni

inductive Transmits (m : StreamManager) : StreamManager → Prop
  | openBidi : Transmits m (finalState openBidi m)
  | withSend (i : ℕ) (f : SendStream → Except Raised SendStream) : Transmits m (finalState (withSend i f) m)
  | nextFrame (i : ℕ) (maxBytes : ℤ) : Transmits m (finalState (nextFrame i maxBytes) m)
  | onMaxData (maximum : ℕ) : Transmits m (m.onMaxData maximum)
  | onMaxStreams (maximum : ℕ) (bidirectional : Bool) : Transmits m (m.onMaxStreams maximum bidirectional)
  | updatePeerLimits (peer : FlowControlLimits) : Transmits m (m.updatePeerLimits peer)

structure Quiet (m m' : StreamManager) : Prop where
  ledger : m'.ledger = m.ledger
  tally : ∀ g : ℕ → Option RecvStream → ℕ,
    (∀ i limit, isClientInitiated i = m.isClient → g i (some (.new i limit)) = 0) → m'.tally g = m.tally g
  kept : ∀ i recv, m.recv? i = some recv → m'.recv? i = some recv
  recvs : ∀ i recv, m'.recv? i = some recv → m.recv? i = some recv ∨ ∃ limit, recv = .new i limit
  ids : ∀ i, m'.streams.get? i ≠ none → m.streams.get? i ≠ none ∨ isClientInitiated i = m.isClient
  numbered : m'.Numbered

namespace Quiet

variable {m m' : StreamManager}

lemma of_streams_eq (h : m.Numbered) (hledger : m'.ledger = m.ledger) (hstreams : m'.streams = m.streams)
    (hsequence : m'.nextBidiSequence = m.nextBidiSequence) : m.Quiet m' where
  ledger := hledger
  tally g _ := by rw [StreamManager.tally, hstreams, StreamManager.tally]
  kept i recv hrecv := by rwa [recv?, hstreams]
  recvs i recv hrecv := .inl (by rwa [recv?, hstreams] at hrecv)
  ids i hi := .inl (hstreams ▸ hi)
  numbered := h.of_streams_eq hstreams (congrArg Ledger.isClient hledger) hsequence

lemma setSend (h : m.Numbered) {i : ℕ} {send : SendStream} (hsend : m.send? i = some send) (send' : SendStream)
    (dataSent : ℕ) : m.Quiet { m.setSend i send' with dataSent := dataSent } where
  ledger := rfl
  tally g _ := tally_setSend g hsend send'
  kept j recv hrecv := (recv?_setSend m i j send').trans hrecv
  recvs j recv hrecv := .inl ((recv?_setSend m i j send').symm.trans hrecv)
  ids j hj := by
    by_cases hji : j = i
    · exact .inl (hji ▸ get?_ne_none_of_send? hsend)
    · exact .inl (by simpa [StreamManager.setSend, setHalf, hji] using hj)
  numbered := (h.setSend hsend send').of_streams_eq rfl rfl rfl

lemma recv?_updatePeerLimits (m : StreamManager) (peer : FlowControlLimits) (i : ℕ) :
    (m.updatePeerLimits peer).recv? i = m.recv? i := by
  simp only [recv?, StreamManager.updatePeerLimits, Dict.get?_mapValues]
  cases m.streams.get? i <;> rfl

lemma updatePeerLimits (h : m.Numbered) (peer : FlowControlLimits) : m.Quiet (m.updatePeerLimits peer) where
  ledger := rfl
  tally g _ := tally_updatePeerLimits g peer
  kept i recv hrecv := (recv?_updatePeerLimits m peer i).trans hrecv
  recvs i recv hrecv := .inl ((recv?_updatePeerLimits m peer i).symm.trans hrecv)
  ids i hi := .inl (by simpa [StreamManager.updatePeerLimits] using hi)
  numbered := (Preserves.updatePeerLimits m peer).numbered h

lemma openBidi (h : m.Numbered) (send recv : ℕ) :
    m.Quiet { m.setHalf (localId m.isClient m.nextBidiSequence)
      ⟨some (.new (localId m.isClient m.nextBidiSequence) send),
        some (.new (localId m.isClient m.nextBidiSequence) recv)⟩ with
      nextBidiSequence := m.nextBidiSequence + 1 } where
  ledger := rfl
  tally g hg := by
    have hfresh := tally_setHalf g h.fresh ⟨some (.new (localId m.isClient m.nextBidiSequence) send),
      some (.new (localId m.isClient m.nextBidiSequence) recv)⟩
    rwa [hg _ _ (isClientInitiated_localId _ _), Nat.add_zero] at hfresh
  kept j recv' hrecv := by
    refine (recv?_setHalf m _ j _).trans ((if_neg ?_).trans hrecv)
    rintro rfl
    exact get?_ne_none_of_recv? hrecv h.fresh
  recvs j recv' hrecv := by
    have hrecv := (recv?_setHalf m _ j _).symm.trans hrecv
    split_ifs at hrecv with hj
    · cases hrecv
      exact .inr ⟨recv, by rw [hj]⟩
    · exact .inl hrecv
  ids j hj := by
    by_cases hji : j = localId m.isClient m.nextBidiSequence
    · exact .inr (by rw [hji, isClientInitiated_localId])
    · exact .inl (by simpa [setHalf, hji] using hj)
  numbered := h.openBidi _

end Quiet

lemma Transmits.quiet {m m' : StreamManager} (h : m.Transmits m') (hm : m.Numbered) : m.Quiet m' := by
  cases h with
  | openBidi =>
    apply Ensures.final
    apply (openBidi_spec m).mono
    · rintro _ _ ⟨rfl, -, rfl⟩
      exact .openBidi hm _ _
    · rintro _ _ ⟨rfl, -⟩
      exact .of_streams_eq hm rfl rfl rfl
  | withSend i f =>
    apply Ensures.final
    apply (withSend_spec m i f).mono
    · rintro _ _ ⟨send, send', hsend, -, rfl⟩
      exact .setSend hm hsend send' m.dataSent
    · rintro _ _ ⟨rfl, -⟩
      exact .of_streams_eq hm rfl rfl rfl
  | nextFrame i maxBytes =>
    apply Ensures.final
    apply (nextFrame_spec m i maxBytes).mono
    · rintro frame _ ⟨send, hsend, -, rfl⟩
      exact .setSend hm hsend _ _
    · rintro _ _ ⟨rfl, -⟩
      exact .of_streams_eq hm rfl rfl rfl
  | onMaxData maximum => exact .of_streams_eq hm rfl rfl rfl
  | onMaxStreams maximum bidirectional =>
    rw [StreamManager.onMaxStreams]
    split_ifs
    · exact .of_streams_eq hm rfl rfl rfl
    · exact .of_streams_eq hm rfl rfl rfl
  | updatePeerLimits peer => exact .updatePeerLimits hm peer

end StreamManager

end Dsquic.Streams
