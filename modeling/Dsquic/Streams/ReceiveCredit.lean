import Dsquic.Streams.Intake
import Mathlib.Logic.Relation

/-!
The credit that a manager gives for received bytes, on one stream and over all of them. Credit counts as
used up once the application has read the bytes.
-/

namespace Dsquic.Streams

open Lib Wire

namespace RecvStream

structure Funded (r : RecvStream) : Prop where
  stored : ∀ x ∈ r.received, x < r.highestOffset
  read : r.readOffset ≤ r.highestOffset
  credit : r.highestOffset ≤ r.maxStreamData
  window : r.maxStreamData ≤ r.readOffset + r.window

def Lasting (r : RecvStream) : Prop := (r.window : ℤ) ≤ 2 * ((r.maxStreamData : ℤ) - r.readOffset)

section Halves

variable {r : RecvStream}

lemma funded_new (i limit : ℕ) : (new i limit).Funded where
  stored x hx := absurd hx (RangeSet.not_mem_empty x)
  read := le_rfl
  credit := Nat.zero_le _
  window := (Nat.zero_add limit).ge

lemma Funded.accept (h : r.Funded) {frame : Stream} (hacc : r.Accepts frame) : (r.accept frame).Funded where
  stored x hx := by
    rcases RangeSet.mem_add.1 hx with hx | hx
    · exact (h.stored x hx).trans_le (le_max_left _ _)
    · exact hx.2.trans_le (le_max_right _ _)
  read := h.read.trans (le_max_left _ _)
  credit := max_le h.credit hacc.credit
  window := h.window

lemma le_readOffset_read (r : RecvStream) : r.readOffset ≤ r.read.2.readOffset := r.received.le_contiguousFrom _

lemma Funded.readOut (h : r.Funded) : r.read.2.Funded where
  stored := h.stored
  read := by
    by_contra hlt
    -- the last byte read would be one that was received
    have hlast : r.highestOffset ∈ r.received := RangeSet.mem_of_lt_contiguousFrom h.read (Nat.lt_of_not_le hlt)
    exact lt_irrefl _ (h.stored _ hlast)
  credit := h.credit
  window := h.window.trans (Nat.add_le_add_right (le_readOffset_read r) _)

lemma Funded.creditUpdate (h : r.Funded) : r.creditUpdate.2.Funded := by
  rw [RecvStream.creditUpdate]
  split_ifs with hfinal hlasting
  · exact h
  · exact h
  · exact ⟨h.stored, h.read, by have := h.credit; dsimp only; omega, le_rfl⟩

lemma maxStreamData_creditUpdate (r : RecvStream) : r.maxStreamData ≤ r.creditUpdate.2.maxStreamData := by
  rw [RecvStream.creditUpdate]
  split_ifs
  · exact le_rfl
  · exact le_rfl
  · dsimp only
    omega

lemma lasting_creditUpdate (hfinal : r.creditUpdate.2.finalSize = none) : r.creditUpdate.2.Lasting := by
  rw [RecvStream.creditUpdate] at hfinal ⊢
  split_ifs at hfinal ⊢ with hknown hlasting
  · exact absurd hfinal (Option.isSome_iff_ne_none.1 hknown)
  · exact hlasting
  · simp only [Lasting]
    omega

@[simp] lemma readOffset_creditUpdate (r : RecvStream) : r.creditUpdate.2.readOffset = r.readOffset := by
  rw [RecvStream.creditUpdate]
  split_ifs <;> rfl

@[simp] lemma highestOffset_creditUpdate (r : RecvStream) : r.creditUpdate.2.highestOffset = r.highestOffset := by
  rw [RecvStream.creditUpdate]
  split_ifs <;> rfl

end Halves

end RecvStream

namespace StreamManager

def taken (_ : ℕ) (recv : Option RecvStream) : ℕ := (recv.map (·.highestOffset)).getD 0

def readOut (_ : ℕ) (recv : Option RecvStream) : ℕ := (recv.map (·.readOffset)).getD 0

structure Funded (m : StreamManager) : Prop where
  numbered : m.Numbered
  received : m.dataReceived = m.tally taken
  within : m.dataReceived ≤ m.localMaxData
  streams : ∀ i recv, m.recv? i = some recv → recv.Funded
  data : m.localMaxData ≤ m.tally readOut + m.dataWindow
  window : m.dataWindow = m.localLimits.maxData

structure Grants (m m' : StreamManager) : Prop where
  data : m.localMaxData ≤ m'.localMaxData
  bidi : m.localMaxStreamsBidi ≤ m'.localMaxStreamsBidi
  uni : m.localMaxStreamsUni ≤ m'.localMaxStreamsUni
  streams : ∀ i recv, m.recv? i = some recv → ∃ recv', m'.recv? i = some recv' ∧
    recv.maxStreamData ≤ recv'.maxStreamData

inductive Driven (m : StreamManager) : StreamManager → Prop
  | transmit {m' : StreamManager} (h : m.Transmits m') : Driven m m'
  | handle {m' : StreamManager} (frame : Stream) (out : Option StreamDataReceived × List Frame)
      (h : handleStream frame m = .ok out m') : Driven m m'

lemma funded_new (isClient : Bool) (localLimits peerLimits : FlowControlLimits) :
    (new isClient localLimits peerLimits).Funded where
  numbered := numbered_new _ _ _
  received := rfl
  within := Nat.zero_le _
  streams i recv h := by simp [new, recv?] at h
  data := (Nat.zero_add _).ge
  window := rfl

section Grants

variable {m m' m'' : StreamManager}

lemma Grants.refl (m : StreamManager) : m.Grants m := ⟨le_rfl, le_rfl, le_rfl, fun _ recv h => ⟨recv, h, le_rfl⟩⟩

lemma Grants.trans (h : m.Grants m') (h' : m'.Grants m'') : m.Grants m'' where
  data := h.data.trans h'.data
  bidi := h.bidi.trans h'.bidi
  uni := h.uni.trans h'.uni
  streams i recv hrecv := by
    obtain ⟨recv', hrecv', hle⟩ := h.streams i recv hrecv
    obtain ⟨recv'', hrecv'', hle'⟩ := h'.streams i recv' hrecv'
    exact ⟨recv'', hrecv'', hle.trans hle'⟩

lemma Grants.of_ledger (hledger : m'.ledger = m.ledger)
    (hrecv : ∀ i recv, m.recv? i = some recv → m'.recv? i = some recv) :
    m.Grants m' where
  data := (congrArg Ledger.localMaxData hledger).ge
  bidi := (congrArg Ledger.localMaxStreamsBidi hledger).ge
  uni := (congrArg Ledger.localMaxStreamsUni hledger).ge
  streams i recv h := ⟨recv, hrecv i recv h, le_rfl⟩

lemma Grants.setRecv {i : ℕ} {old : RecvStream} (hold : m.recv? i = some old) (recv : RecvStream)
    (hle : old.maxStreamData ≤ recv.maxStreamData) (dataReceived : ℕ) :
    m.Grants { m.setRecv i recv with dataReceived := dataReceived } where
  data := le_rfl
  bidi := le_rfl
  uni := le_rfl
  streams j recv' h := by
    by_cases hj : j = i
    · subst hj
      cases hold.symm.trans h
      exact ⟨recv, (recv?_setRecv m j j recv).trans (if_pos rfl), hle⟩
    · exact ⟨recv', (recv?_setRecv m i j recv).trans ((if_neg hj).trans h), le_rfl⟩

lemma Grants.maxDataUpdate (m : StreamManager) : m.Grants m.maxDataUpdate.2 := by
  rw [StreamManager.maxDataUpdate]
  split_ifs
  · exact refl m
  · exact ⟨by dsimp only; omega, le_rfl, le_rfl, fun _ recv h => ⟨recv, h, le_rfl⟩⟩

lemma Grants.maxStreamsUpdate (m : StreamManager) (bidirectional : Bool) :
    m.Grants (m.maxStreamsUpdate bidirectional).2 := by
  have hstreams : ∀ i recv, m.recv? i = some recv →
      ∃ recv', m.recv? i = some recv' ∧ recv.maxStreamData ≤ recv'.maxStreamData :=
        fun _ recv h => ⟨recv, h, le_rfl⟩
  cases bidirectional with
  | true =>
    simp only [StreamManager.maxStreamsUpdate, if_true]
    split_ifs with hhalf hfull
    · exact refl m
    · exact refl m
    · exact ⟨le_rfl, (Nat.lt_of_not_le hfull).le, le_rfl, hstreams⟩
  | false =>
    simp only [StreamManager.maxStreamsUpdate, Bool.false_eq_true, if_false]
    split_ifs with hhalf hfull
    · exact refl m
    · exact refl m
    · exact ⟨le_rfl, le_rfl, (Nat.lt_of_not_le hfull).le, hstreams⟩

lemma Grants.routed (m : StreamManager) (i : ℕ) : m.Grants (m.routed i) := by
  rw [StreamManager.routed]
  split
  · next half hnone hcreate =>
    refine .of_ledger rfl fun j recv hrecv => ?_
    rw [recv?_setHalf, if_neg, hrecv]
    rintro rfl
    exact get?_ne_none_of_recv? hrecv hnone
  · exact refl m

lemma Grants.creditUpdate (m : StreamManager) (i : ℕ) : m.Grants (creditUpdate i m).2 := by
  rw [StreamManager.creditUpdate]
  cases hrecv : m.recv? i with
  | none => exact refl m
  | some recv => exact setRecv hrecv _ recv.maxStreamData_creditUpdate m.dataReceived

lemma Grants.extended (m : StreamManager) (i : ℕ) : m.Grants (m.extended i) :=
  (((creditUpdate m i).trans (maxDataUpdate _)).trans (maxStreamsUpdate _ true)).trans (maxStreamsUpdate _ false)

lemma lasting_maxDataUpdate (m : StreamManager) :
    (m.maxDataUpdate.2.dataWindow : ℤ) ≤ 2 *
      ((m.maxDataUpdate.2.localMaxData : ℤ) - m.maxDataUpdate.2.consumed) := by
  rw [StreamManager.maxDataUpdate]
  split_ifs with hhalf
  · exact hhalf
  · have hconsumed : { m with localMaxData := m.consumed + m.dataWindow : StreamManager }.consumed = m.consumed :=
      rfl
    rw [hconsumed]
    dsimp only
    omega

lemma lasting_extended (m : StreamManager) (i : ℕ) :
    ((m.extended i).dataWindow : ℤ) ≤ 2 * (((m.extended i).localMaxData : ℤ) - (m.extended i).consumed) := by
  -- the counts of streams are no part of it
  have hcount : ∀ (m : StreamManager) (b : Bool), (m.maxStreamsUpdate b).2.dataWindow = m.dataWindow ∧
      (m.maxStreamsUpdate b).2.localMaxData = m.localMaxData ∧ (m.maxStreamsUpdate b).2.consumed = m.consumed := by
    intro m b
    simp only [StreamManager.maxStreamsUpdate]
    split_ifs <;> exact ⟨rfl, rfl, rfl⟩
  rw [StreamManager.extended]
  simp only [hcount]
  exact lasting_maxDataUpdate _

end Grants

section Funded

variable {m m' : StreamManager} {i : ℕ} {recv recv' : RecvStream}

lemma Funded.quiet (h : m.Funded) (hquiet : m.Quiet m') : m'.Funded := by
  have hreceived : m'.dataReceived = m.dataReceived := congrArg Ledger.dataReceived hquiet.ledger
  have hmax : m'.localMaxData = m.localMaxData := congrArg Ledger.localMaxData hquiet.ledger
  have hwindow : m'.dataWindow = m.dataWindow := congrArg Ledger.dataWindow hquiet.ledger
  have hlimits : m'.localLimits = m.localLimits := congrArg Ledger.localLimits hquiet.ledger
  refine ⟨hquiet.numbered, ?_, ?_, fun i recv hrecv => ?_, ?_, ?_⟩
  · rw [hreceived, hquiet.tally taken fun _ _ _ => rfl]
    exact h.received
  · rw [hreceived, hmax]
    exact h.within
  · rcases hquiet.recvs i recv hrecv with hrecv | ⟨limit, rfl⟩
    · exact h.streams i recv hrecv
    · exact RecvStream.funded_new i limit
  · rw [hmax, hwindow, hquiet.tally readOut fun _ _ _ => rfl]
    exact h.data
  · rw [hwindow, hlimits]
    exact h.window

lemma Funded.routed (h : m.Funded) (i : ℕ) : (m.routed i).Funded := by
  have hnumbered := h.numbered.routed i
  rw [StreamManager.routed] at hnumbered ⊢
  split at hnumbered
  · next half hnone hcreate =>
    obtain ⟨limit, hhalf⟩ : ∃ limit, half.recv = some (.new i limit) := by
      rw [createPeerInitiated] at hcreate
      split_ifs at hcreate <;> cases hcreate <;> exact ⟨_, rfl⟩
    have htaken := tally_setHalf taken hnone half
    have hread := tally_setHalf readOut hnone half
    rw [hhalf] at htaken hread
    refine ⟨hnumbered, h.received.trans htaken.symm, h.within, fun j recv hrecv => ?_, ?_, h.window⟩
    · rw [recv?_setHalf] at hrecv
      split_ifs at hrecv with hj
      · cases hhalf.symm.trans hrecv
        exact RecvStream.funded_new i limit
      · exact h.streams j recv hrecv
    · rw [hread]
      exact h.data
  · exact h

lemma Funded.replace (h : m.Funded) (hrecv : m.recv? i = some recv) (hfunded : recv'.Funded)
    (htaken : recv.highestOffset ≤ recv'.highestOffset) (hread : recv.readOffset ≤ recv'.readOffset)
    (hwithin : m.dataReceived + (recv'.highestOffset - recv.highestOffset) ≤ m.localMaxData) :
    { m.setRecv i recv' with
      dataReceived := m.dataReceived + (recv'.highestOffset - recv.highestOffset) : StreamManager }.Funded := by
  have hsum := tally_setRecv taken hrecv recv'
  have hsum' := tally_setRecv readOut hrecv recv'
  simp only [taken, readOut, Option.map_some, Option.getD_some] at hsum hsum'
  refine ⟨(h.numbered.setRecv hrecv recv').of_streams_eq rfl rfl rfl, ?_, hwithin, fun j r hr => ?_, ?_, h.window⟩
  · have hreceived := h.received
    change m.dataReceived + (recv'.highestOffset - recv.highestOffset) = (m.setRecv i recv').tally taken
    omega
  · have hr := (recv?_setRecv m i j recv').symm.trans hr
    split_ifs at hr
    · cases hr
      exact hfunded
    · exact h.streams j r hr
  · have hdata := h.data
    change m.localMaxData ≤ (m.setRecv i recv').tally readOut + m.dataWindow
    omega

lemma Funded.setRecv (h : m.Funded) (hrecv : m.recv? i = some recv) (hfunded : recv'.Funded)
    (htaken : recv'.highestOffset = recv.highestOffset) (hread : recv.readOffset ≤ recv'.readOffset) :
    (m.setRecv i recv').Funded := by
  have hzero : recv'.highestOffset - recv.highestOffset = 0 := by rw [htaken, Nat.sub_self]
  have hreplace := h.replace hrecv hfunded htaken.ge hread (by rw [hzero]; exact h.within)
  rwa [hzero] at hreplace

lemma Funded.creditUpdate (h : m.Funded) (i : ℕ) : (creditUpdate i m).2.Funded := by
  rw [StreamManager.creditUpdate]
  cases hrecv : m.recv? i with
  | none => exact h
  | some recv =>
    exact h.setRecv hrecv (h.streams i recv hrecv).creditUpdate (by simp) (by simp)

lemma Funded.maxDataUpdate (h : m.Funded) : m.maxDataUpdate.2.Funded := by
  rw [StreamManager.maxDataUpdate]
  split_ifs with hhalf
  · exact h
  · refine ⟨h.numbered.of_streams_eq rfl rfl rfl, h.received, ?_, h.streams, le_rfl, h.window⟩
    have hwithin := h.within
    dsimp only
    omega

lemma Funded.maxStreamsUpdate (h : m.Funded) (bidirectional : Bool) :
    (m.maxStreamsUpdate bidirectional).2.Funded := by
  have hnumbered := h.numbered.maxStreamsUpdate bidirectional
  simp only [StreamManager.maxStreamsUpdate] at hnumbered ⊢
  split_ifs at hnumbered ⊢ <;> exact ⟨hnumbered, h.received, h.within, h.streams, h.data, h.window⟩

lemma Funded.extended (h : m.Funded) (i : ℕ) : (m.extended i).Funded :=
  (((h.creditUpdate i).maxDataUpdate).maxStreamsUpdate true).maxStreamsUpdate false

end Funded

section Handled

variable {m m' : StreamManager} {frame : Stream} {out : Option StreamDataReceived × List Frame}

lemma Funded.handle (h : m.Funded) (hhandle : handleStream frame m = .ok out m') : m'.Funded := by
  obtain ⟨recv, hrecv, hacc, hwithin, -, hm'⟩ := (handleStream_within m frame).of_ok hhandle
  rw [hm']
  have hfunded := (h.routed frame.streamId).streams _ recv hrecv
  have haccepted : ((m.routed frame.streamId).accepted frame recv).Funded :=
    (h.routed _).replace hrecv (hfunded.accept hacc) (le_max_left _ _) le_rfl hwithin
  have hread := haccepted.setRecv (recv?_accepted_self _ _ _) (hfunded.accept hacc).readOut rfl
    (RecvStream.le_readOffset_read _)
  exact hread.extended _

lemma Grants.handle (hhandle : handleStream frame m = .ok out m') : m.Grants m' := by
  obtain ⟨recv, hrecv, -, -, -, hm'⟩ := (handleStream_within m frame).of_ok hhandle
  rw [hm']
  have haccepted : (m.routed frame.streamId).Grants ((m.routed frame.streamId).accepted frame recv) :=
    .setRecv hrecv (recv.accept frame) le_rfl _
  have hread := Grants.setRecv (recv?_accepted_self (m.routed frame.streamId) frame recv)
    (recv.accept frame).read.2 le_rfl
    ((m.routed frame.streamId).accepted frame recv).dataReceived
  exact (((Grants.routed m _).trans haccepted).trans hread).trans (.extended _ _)

lemma lasting_handle (hhandle : handleStream frame m = .ok out m') :
    (m'.dataWindow : ℤ) ≤ 2 * ((m'.localMaxData : ℤ) - m'.consumed) ∧
      ∃ recv, m'.recv? frame.streamId = some recv ∧ (recv.finalSize = none → recv.Lasting) := by
  obtain ⟨recv, hrecv, -, -, -, hm'⟩ := (handleStream_within m frame).of_ok hhandle
  rw [hm']
  have hread : (((m.routed frame.streamId).accepted frame recv).setRecv frame.streamId
      (recv.accept frame).read.2).recv? frame.streamId = some (recv.accept frame).read.2 := by
    simp
  refine ⟨lasting_extended _ _, _, (recv?_extended hread frame.streamId).trans (if_pos rfl), ?_⟩
  exact RecvStream.lasting_creditUpdate

end Handled

section Runs

variable {m m' : StreamManager}

lemma Funded.driven (h : m.Funded) (hstep : m.Driven m') : m'.Funded := by
  cases hstep with
  | transmit htransmit => exact h.quiet (htransmit.quiet h.numbered)
  | handle frame out hhandle => exact h.handle hhandle

lemma Funded.run (h : m.Funded) (hrun : Relation.ReflTransGen Driven m m') : m'.Funded := by
  induction hrun with
  | refl => exact h
  | tail _ hstep ih => exact ih.driven hstep

lemma Grants.run (h : m.Funded) (hrun : Relation.ReflTransGen Driven m m') : m.Grants m' := by
  induction hrun with
  | refl => exact refl m
  | tail hrun hstep ih =>
    apply ih.trans
    cases hstep with
    | transmit htransmit =>
      have hquiet := htransmit.quiet (h.run hrun).numbered
      exact .of_ledger hquiet.ledger hquiet.kept
    | handle frame out hhandle => exact .handle hhandle

end Runs

theorem receive_credit_sound (isClient : Bool) (localLimits peerLimits : FlowControlLimits) {m : StreamManager}
    (hrun : Relation.ReflTransGen Driven (new isClient localLimits peerLimits) m) :
    (m.dataReceived = (m.streams.total fun _ half => (half.recv.map (·.highestOffset)).getD 0) ∧
      m.dataReceived ≤ m.localMaxData) ∧
    (∀ i recv, m.recv? i = some recv → recv.readOffset ≤ recv.highestOffset ∧
      recv.highestOffset ≤ recv.maxStreamData ∧ recv.maxStreamData ≤ recv.readOffset + recv.window) ∧
    (m.localMaxData ≤ m.consumed + m.dataWindow ∧ m.dataWindow = m.localLimits.maxData) ∧
    (m.dataReceived - m.consumed ≤ m.dataWindow ∧
      ∀ i recv, m.recv? i = some recv → recv.highestOffset - recv.readOffset ≤ recv.window) ∧
    (∀ m', Relation.ReflTransGen Driven m m' → m.Grants m') ∧
    ∀ frame out m', handleStream frame m = .ok out m' →
      (m'.dataWindow : ℤ) ≤ 2 * ((m'.localMaxData : ℤ) - m'.consumed) ∧
        ∃ recv, m'.recv? frame.streamId = some recv ∧ (recv.finalSize = none → recv.Lasting) := by
  have hfunded : m.Funded := (funded_new isClient localLimits peerLimits).run hrun
  have hdata : m.localMaxData ≤ m.consumed + m.dataWindow := hfunded.data
  refine ⟨⟨hfunded.received, hfunded.within⟩, fun i recv hrecv => ?_, ⟨hdata, hfunded.window⟩,
    ⟨?_, fun i recv hrecv => ?_⟩,
    fun m' hrun' => .run hfunded hrun', fun frame out m' hhandle => lasting_handle hhandle⟩
  · have hrecv := hfunded.streams i recv hrecv
    exact ⟨hrecv.read, hrecv.credit, hrecv.window⟩
  · exact Nat.sub_le_iff_le_add'.2 (hfunded.within.trans hdata)
  · have hrecv := hfunded.streams i recv hrecv
    exact Nat.sub_le_iff_le_add'.2 (hrecv.credit.trans hrecv.window)

def threeRead : StreamManager :=
  finalState (handleStream ⟨0, 0, [7, 8, 9], false⟩) (new false ⟨4, 4, 4, 4, 2, 2⟩ ⟨4, 4, 4, 4, 2, 2⟩)

theorem receive_credit_sound_threeRead : threeRead.localMaxData = 7 ∧ threeRead.dataReceived = 3 ∧
    threeRead.dataReceived ≤ threeRead.localMaxData ∧ threeRead.localMaxData ≤ threeRead.consumed +
      threeRead.dataWindow := by
  have hhandle : handleStream ⟨0, 0, [7, 8, 9], false⟩ (new false ⟨4, 4, 4, 4, 2, 2⟩ ⟨4, 4, 4, 4, 2, 2⟩) =
      .ok (some ⟨0, [7, 8, 9], false⟩, [.maxStreamData 0 7, .maxData 7]) threeRead := rfl
  have hsound := receive_credit_sound false ⟨4, 4, 4, 4, 2, 2⟩ ⟨4, 4, 4, 4, 2, 2⟩ (.single (.handle _ _ hhandle))
  exact ⟨by decide, by decide, hsound.1.2, hsound.2.2.1.1⟩

end StreamManager

end Dsquic.Streams
