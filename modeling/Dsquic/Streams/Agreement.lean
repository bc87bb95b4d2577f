import Dsquic.Streams.Manager

/-!
Two managers built with mirrored limits, and every frame either has produced. Frames are delivered from
what was produced in any order, any number of times or never.
-/

namespace Dsquic.Streams

open Lib Wire

/-- `refused` records the exceptions raised by delivered STREAM frames. -/
structure Pair where
  manager : Bool → StreamManager
  wire : Bool → List Frame
  refused : List Raised

inductive Pair.Action
  | openBidi (side : Bool)
  | write (side : Bool) (streamId : ℕ) (data : Bytes) (fin : Bool)
  | nextFrame (side : Bool) (streamId : ℕ) (maxBytes : ℤ)
  | requeue (side : Bool) (frame : ℕ)
  | read (side : Bool) (streamId : ℕ)
  | creditUpdate (side : Bool) (streamId : ℕ)
  | maxDataUpdate (side : Bool)
  | maxStreamsUpdate (side bidirectional : Bool)
  | deliver (side : Bool) (frame : ℕ)

namespace Pair

def init (client server : FlowControlLimits) : Pair where
  manager side := if side then .new true client server else .new false server client
  wire _ := []
  refused := []

def produce (p : Pair) (side : Bool) (m : StreamManager) (frames : List Frame) : Pair :=
  { p with
    manager := Function.update p.manager side m
    wire := Function.update p.wire side (frames ++ p.wire side) }

def receive (p : Pair) (side : Bool) : Frame → Pair
  | .stream frame =>
    match StreamManager.onStreamFrame frame (p.manager side) with
    | .ok _ m => p.produce side m []
    | .error e m => { p.produce side m [] with refused := e :: p.refused }
  | .maxData maximum => p.produce side ((p.manager side).onMaxData maximum) []
  | .maxStreamData streamId maximum =>
    p.produce side (finalState (StreamManager.withSend streamId fun send =>
      .ok (send.onMaxStreamData maximum)) (p.manager side)) []
  | .maxStreams maximum bidirectional =>
    p.produce side ((p.manager side).onMaxStreams maximum bidirectional) []
  | _ => p

def step (p : Pair) : Action → Pair
  | .openBidi side => p.produce side (finalState StreamManager.openBidi (p.manager side)) []
  | .write side streamId data fin =>
    p.produce side (finalState (StreamManager.withSend streamId (·.write data fin)) (p.manager side)) []
  | .nextFrame side streamId maxBytes =>
    match StreamManager.nextFrame streamId maxBytes (p.manager side) with
    | .ok frame m => p.produce side m (frame.map Frame.stream).toList
    | .error _ m => p.produce side m []
  | .requeue side k =>
    match (p.wire side)[k]? with
    | some (.stream frame) =>
      p.produce side (finalState (StreamManager.withSend frame.streamId fun send =>
        .ok (send.requeue frame)) (p.manager side)) []
    | _ => p
  | .read side streamId => p.produce side (StreamManager.read streamId (p.manager side)).2 []
  | .creditUpdate side streamId =>
    let (limit, m) := StreamManager.creditUpdate streamId (p.manager side)
    p.produce side m (limit.map (Frame.maxStreamData streamId)).toList
  | .maxDataUpdate side =>
    let (limit, m) := (p.manager side).maxDataUpdate
    p.produce side m (limit.map Frame.maxData).toList
  | .maxStreamsUpdate side bidirectional =>
    let (limit, m) := (p.manager side).maxStreamsUpdate bidirectional
    p.produce side m (limit.map (Frame.maxStreams · bidirectional)).toList
  | .deliver side k =>
    match (p.wire side)[k]? with
    | some frame => p.receive (!side) frame
    | none => p

def run (p : Pair) (actions : List Action) : Pair := actions.foldl step p

end Pair

namespace StreamManager

def sentOn (m : StreamManager) (i : ℕ) : ℕ := ((m.send? i).map (·.baseOffset)).getD 0

def creditFor (m : StreamManager) (i : ℕ) : ℕ :=
  ((m.recv? i).map (·.maxStreamData)).getD m.localLimits.maxStreamDataBidiRemote

structure Shape (s r : StreamManager) : Prop where
  both : ∀ i half, s.streams.get? i = some half → half.send.isSome ∧ half.recv.isSome
  bidirectional : ∀ i half, s.streams.get? i = some half → isBidirectional i
  ours : ∀ i half, s.streams.get? i = some half → isClientInitiated i = s.isClient →
    i / 4 < s.nextBidiSequence
  theirs : ∀ i half, s.streams.get? i = some half → isClientInitiated i ≠ s.isClient →
    i / 4 < r.nextBidiSequence
  opened : ∀ i, isBidirectional i → isClientInitiated i = s.isClient → i / 4 < s.nextBidiSequence →
    s.streams.get? i ≠ none

def sentShare (_ : ℕ) (half : Half) : ℕ := (half.send.map (·.baseOffset)).getD 0

def gotShare (_ : ℕ) (half : Half) : ℕ := (half.recv.map (·.highestOffset)).getD 0

structure Sound (s : SendStream) (i : ℕ) (credit : ℕ) (out : List Frame) : Prop where
  isFor : s.streamId = i
  highest : s.highestOffsetSent = s.baseOffset
  within : s.baseOffset ≤ s.maxStreamData
  credit : s.maxStreamData ≤ credit
  finished : s.finSent → s.pending = [] ∧ s.finQueued
  lost : ∀ frame ∈ s.retransmit, frame.streamId = i ∧ Frame.stream frame ∈ out

structure Credit (s r : StreamManager) (out back : List Frame) : Prop where
  mirrored : s.peerLimits = r.localLimits
  sends : ∀ i send, s.send? i = some send → Sound send i (r.creditFor i) out
  frames : ∀ frame, Frame.stream frame ∈ out → ∃ send, s.send? frame.streamId = some send ∧
    frame.offset + frame.data.length ≤ send.baseOffset ∧
    (frame.fin = true → send.finSent = true ∧ frame.offset + frame.data.length = send.baseOffset)
  got : ∀ i recv, r.recv? i = some recv → recv.highestOffset ≤ s.sentOn i
  final : ∀ i recv n, r.recv? i = some recv → recv.finalSize = some n →
    ∃ send, s.send? i = some send ∧ send.finSent = true ∧ n = send.baseOffset
  initial : ∀ i recv, r.recv? i = some recv → isClientInitiated i = r.isClient →
    r.localLimits.maxStreamDataBidiLocal ≤ recv.maxStreamData
  dataSent : s.dataSent = s.streams.total sentShare
  dataReceived : r.dataReceived = r.streams.total gotShare
  sentWithin : s.dataSent ≤ s.maxData
  dataGranted : s.maxData ≤ r.localMaxData
  opened : s.nextBidiSequence ≤ s.maxStreamsBidi
  streamsGranted : s.maxStreamsBidi ≤ r.localMaxStreamsBidi
  maxData : ∀ n, Frame.maxData n ∈ back → n ≤ r.localMaxData
  maxStreams : ∀ n, Frame.maxStreams n true ∈ back → n ≤ r.localMaxStreamsBidi
  maxStreamData : ∀ i n, Frame.maxStreamData i n ∈ back → ∃ recv, r.recv? i = some recv ∧
    n ≤ recv.maxStreamData

structure Joint (s r : StreamManager) (out back : List Frame) : Prop where
  sides : r.isClient = !s.isClient
  shape : Shape s r
  shape' : Shape r s
  credit : Credit s r out back
  credit' : Credit r s back out

lemma Joint.symm {s r : StreamManager} {out back : List Frame} (h : Joint s r out back) :
    Joint r s back out :=
  ⟨by simp [h.sides], h.shape', h.shape, h.credit', h.credit⟩

variable {send : SendStream} {recv : RecvStream}

section Shapes

variable {s r s' r' : StreamManager} {i : ℕ} {half old : Half}

lemma Shape.congr (h : Shape s r) (hs : s'.streams = s.streams) (hc : s'.isClient = s.isClient)
    (hn : s'.nextBidiSequence = s.nextBidiSequence) (hr : r'.nextBidiSequence = r.nextBidiSequence) :
    Shape s' r' := by
  constructor
  · simpa only [hs] using h.both
  · simpa only [hs] using h.bidirectional
  · simpa only [hs, hc, hn] using h.ours
  · simpa only [hs, hc, hr] using h.theirs
  · simpa only [hs, hc, hn] using h.opened

lemma Shape.setHalf (h : Shape s r) (hboth : half.send.isSome ∧ half.recv.isSome)
    (hi : s.streams.get? i ≠ none ∨ isBidirectional i ∧ isClientInitiated i ≠ s.isClient ∧
      i / 4 < r.nextBidiSequence) : Shape (s.setHalf i half) r := by
  have hget : ∀ j half', (s.setHalf i half).streams.get? j = some half' →
      (j = i ∧ half' = half) ∨ s.streams.get? j = some half' := by
    intro j half' hj
    by_cases hji : j = i
    · subst hji
      exact .inl ⟨rfl, by simpa [StreamManager.setHalf] using hj.symm⟩
    · exact .inr (by simpa [StreamManager.setHalf, Dict.get?_set, hji] using hj)
  have hold : ∀ P : ℕ → Prop, (∀ j half', s.streams.get? j = some half' → P j) →
      (isBidirectional i ∧ isClientInitiated i ≠ s.isClient ∧ i / 4 < r.nextBidiSequence → P i) →
      ∀ j half', (s.setHalf i half).streams.get? j = some half' → P j := by
    intro P hP hPi j half' hj
    rcases hget j half' hj with ⟨rfl, -⟩ | hj
    · rcases hi with hi | hi
      · obtain ⟨old, hold⟩ := Option.ne_none_iff_exists'.1 hi
        exact hP _ old hold
      · exact hPi hi
    · exact hP j half' hj
  refine ⟨fun j half' hj => ?_, hold _ h.bidirectional And.left,
    hold (fun j => isClientInitiated j = s.isClient → j / 4 < s.nextBidiSequence) h.ours
      fun hi hj => absurd hj hi.2.1,
    hold (fun j => isClientInitiated j ≠ s.isClient → j / 4 < r.nextBidiSequence) h.theirs
      fun hi _ => hi.2.2, fun j hb hj hlt => ?_⟩
  · rcases hget j half' hj with ⟨-, rfl⟩ | hj
    · exact hboth
    · exact h.both j half' hj
  · by_cases hji : j = i
    · simp [StreamManager.setHalf, Dict.get?_set, hji]
    · simpa [StreamManager.setHalf, Dict.get?_set, hji] using h.opened j hb hj hlt

lemma eq_localId {j : ℕ} {isClient : Bool} (hb : isBidirectional j) (hc : isClientInitiated j = isClient) :
    j = localId isClient (j / 4) := by
  subst hc
  unfold isBidirectional at hb
  unfold localId isClientInitiated
  simp only [beq_iff_eq] at hb ⊢
  split_ifs <;> omega

lemma Shape.openBidi (h : Shape s r) (hboth : half.send.isSome ∧ half.recv.isSome) :
    Shape { s.setHalf (localId s.isClient s.nextBidiSequence) half with
      nextBidiSequence := s.nextBidiSequence + 1 } r := by
  have hget : ∀ j half', (s.setHalf (localId s.isClient s.nextBidiSequence) half).streams.get? j =
      some half' → (j = localId s.isClient s.nextBidiSequence ∧ half' = half) ∨
        s.streams.get? j = some half' := by
    intro j half' hj
    by_cases hji : j = localId s.isClient s.nextBidiSequence
    · subst hji
      exact .inl ⟨rfl, by simpa [StreamManager.setHalf] using hj.symm⟩
    · exact .inr (by simpa [StreamManager.setHalf, Dict.get?_set, hji] using hj)
  constructor
  · intro j half' hj
    rcases hget j half' hj with ⟨-, rfl⟩ | hj
    · exact hboth
    · exact h.both j half' hj
  · intro j half' hj
    rcases hget j half' hj with ⟨rfl, -⟩ | hj
    · exact isBidirectional_localId _ _
    · exact h.bidirectional j half' hj
  · intro j half' hj hc
    rcases hget j half' hj with ⟨rfl, -⟩ | hj
    · simp [localId_div]
    · exact Nat.lt_succ_of_lt (h.ours j half' hj hc)
  · intro j half' hj hc
    rcases hget j half' hj with ⟨rfl, -⟩ | hj
    · exact absurd (isClientInitiated_localId _ _) hc
    · exact h.theirs j half' hj hc
  · intro j hb hc hlt
    by_cases hji : j = localId s.isClient s.nextBidiSequence
    · simp [StreamManager.setHalf, Dict.get?_set, hji]
    · have hne : j / 4 ≠ s.nextBidiSequence := fun heq => hji (heq ▸ eq_localId hb hc)
      have hlt' : j / 4 < s.nextBidiSequence := by
        dsimp only at hlt
        omega
      simpa [StreamManager.setHalf, Dict.get?_set, hji] using h.opened j hb hc hlt'

lemma Shape.get?_eq (h : Shape s r) (hsend : s.send? i = some send) :
    ∃ recv, s.streams.get? i = some ⟨some send, some recv⟩ ∧ s.recv? i = some recv := by
  obtain ⟨half, hhalf, hs⟩ := Option.bind_eq_some_iff.1 hsend
  obtain ⟨recv, hrecv⟩ := Option.isSome_iff_exists.1 (h.both i half hhalf).2
  refine ⟨recv, ?_, by simp [recv?, hhalf, hrecv]⟩
  rw [hhalf, ← hs, ← hrecv]

lemma Shape.get?_eq' (h : Shape s r) (hrecv : s.recv? i = some recv) :
    ∃ send, s.streams.get? i = some ⟨some send, some recv⟩ ∧ s.send? i = some send := by
  obtain ⟨half, hhalf, hr⟩ := Option.bind_eq_some_iff.1 hrecv
  obtain ⟨send, hsend⟩ := Option.isSome_iff_exists.1 (h.both i half hhalf).1
  refine ⟨send, ?_, by simp [send?, hhalf, hsend]⟩
  rw [hhalf, ← hr, ← hsend]

lemma Shape.setSend (h : Shape s r) (hsend : s.send? i = some send)
    (send' : SendStream) : Shape (s.setSend i send') r := by
  obtain ⟨recv, hget, hrecv⟩ := h.get?_eq hsend
  exact h.setHalf (by simp [hrecv]) (.inl (by simp [hget]))

lemma Shape.setRecv (h : Shape s r) (hrecv : s.recv? i = some recv)
    (recv' : RecvStream) : Shape (s.setRecv i recv') r := by
  obtain ⟨send, hget, hsend⟩ := h.get?_eq' hrecv
  exact h.setHalf (by simp [hsend]) (.inl (by simp [hget]))

end Shapes

section Totals

variable {s r : StreamManager} {i : ℕ}

lemma total_setSend (h : Shape s r) (hsend : s.send? i = some send) (send' : SendStream) :
    (s.setSend i send').streams.total sentShare + send.baseOffset =
      s.streams.total sentShare + send'.baseOffset ∧
    (s.setSend i send').streams.total gotShare = s.streams.total gotShare := by
  obtain ⟨recv, hget, hrecv⟩ := h.get?_eq hsend
  have hsent := Dict.total_set_of_get (⟨some send', s.recv? i⟩ : Half) sentShare hget
  have hgot := Dict.total_set_of_get (⟨some send', s.recv? i⟩ : Half) gotShare hget
  rw [hrecv] at hsent hgot
  refine ⟨?_, ?_⟩
  · rw [StreamManager.setSend, StreamManager.setHalf, hrecv]
    exact hsent
  · rw [StreamManager.setSend, StreamManager.setHalf, hrecv]
    exact Nat.add_right_cancel hgot

lemma total_setRecv (h : Shape s r) (hrecv : s.recv? i = some recv) (recv' : RecvStream) :
    (s.setRecv i recv').streams.total gotShare + recv.highestOffset =
      s.streams.total gotShare + recv'.highestOffset ∧
    (s.setRecv i recv').streams.total sentShare = s.streams.total sentShare := by
  obtain ⟨send, hget, hsend⟩ := h.get?_eq' hrecv
  have hgot := Dict.total_set_of_get (⟨s.send? i, some recv'⟩ : Half) gotShare hget
  have hsent := Dict.total_set_of_get (⟨s.send? i, some recv'⟩ : Half) sentShare hget
  rw [hsend] at hsent hgot
  refine ⟨?_, ?_⟩
  · rw [StreamManager.setRecv, StreamManager.setHalf, hsend]
    exact hgot
  · rw [StreamManager.setRecv, StreamManager.setHalf, hsend]
    exact Nat.add_right_cancel hsent

lemma total_setHalf_new (hnone : s.streams.get? i = none) (sendLimit recvLimit : ℕ) :
    (s.setHalf i ⟨some (.new i sendLimit), some (.new i recvLimit)⟩).streams.total sentShare =
      s.streams.total sentShare ∧
    (s.setHalf i ⟨some (.new i sendLimit), some (.new i recvLimit)⟩).streams.total gotShare =
      s.streams.total gotShare := by
  rw [StreamManager.setHalf]
  constructor
  · rw [Dict.total_set_fresh _ _ hnone]
    rfl
  · rw [Dict.total_set_fresh _ _ hnone]
    rfl

lemma Credit.received_le_sent {out back : List Frame} (h : Credit s r out back) :
    r.streams.total gotShare ≤ s.streams.total sentShare := by
  refine Dict.total_le_total fun k => ?_
  have hgot : r.streams.share gotShare k = ((r.recv? k).map (·.highestOffset)).getD 0 := by
    unfold Dict.share recv?
    cases r.streams.get? k <;> rfl
  have hsent : s.streams.share sentShare k = s.sentOn k := by
    unfold Dict.share sentOn send?
    cases s.streams.get? k <;> rfl
  rw [hgot, hsent]
  cases hrecv : r.recv? k with
  | none => exact Nat.zero_le _
  | some recv => exact h.got k recv hrecv

end Totals

variable {new : List Frame} {s' : StreamManager}

section Credits

variable {s r : StreamManager} {out back : List Frame} {i : ℕ} {n : ℕ}

lemma sentOn_of_send? (h : s.send? i = some send) : s.sentOn i = send.baseOffset := by
  simp [sentOn, h]

lemma Sound.mono {credit credit' : ℕ} (h : Sound send i credit out)
    (hle : credit ≤ credit') (new : List Frame) : Sound send i credit' (new ++ out) :=
  ⟨h.isFor, h.highest, h.within, h.credit.trans hle, h.finished,
    fun frame hframe => (h.lost frame hframe).imp_right (List.mem_append_right _)⟩

lemma Credit.setSend (h : Credit s r out back) (hshape : Shape s r) {send send' : SendStream}
    (hold : s.send? i = some send)
    (hsound : Sound send' i (r.creditFor i) (new ++ out)) (hbase : send.baseOffset ≤ send'.baseOffset)
    (hfin : send.finSent = true → send'.finSent = true ∧ send'.baseOffset = send.baseOffset)
    (hnew : ∀ frame, Frame.stream frame ∈ new → frame.streamId = i ∧
      frame.offset + frame.data.length ≤ send'.baseOffset ∧
      (frame.fin = true → send'.finSent = true ∧ frame.offset + frame.data.length = send'.baseOffset))
    (hs' : s' = { s.setSend i send' with
      dataSent := s.dataSent + (send'.baseOffset - send.baseOffset) })
    (hdata : s'.dataSent ≤ s.maxData) : Credit s' r (new ++ out) back := by
  have hsend? : ∀ j, s'.send? j = if j = i then some send' else s.send? j := by
    intro j
    rw [hs']
    exact s.send?_setSend i j send'
  have htotal := (total_setSend hshape hold send').1
  have hsent : ∀ j, s.sentOn j ≤ s'.sentOn j := by
    intro j
    unfold sentOn
    rw [hsend?]
    split_ifs with hj
    · subst hj
      simpa [hold] using hbase
    · exact le_refl _
  refine { h with
    mirrored := by rw [hs']; exact h.mirrored
    sends := ?_, frames := ?_, got := fun j recv hj => (h.got j recv hj).trans (hsent j)
    final := ?_, dataSent := ?_
    sentWithin := by rw [hs'] at hdata ⊢; exact hdata
    dataGranted := by rw [hs']; exact h.dataGranted
    opened := by rw [hs']; exact h.opened
    streamsGranted := by rw [hs']; exact h.streamsGranted }
  · intro j send₁ hj
    rw [hsend?] at hj
    split_ifs at hj with hji
    · cases hj
      exact hji ▸ hsound
    · exact (h.sends j send₁ hj).mono (le_refl _) new
  · intro frame hframe
    rcases List.mem_append.1 hframe with hframe | hframe
    · obtain ⟨hid, hle, hf⟩ := hnew frame hframe
      exact ⟨send', by rw [hsend?, if_pos hid], hle, hf⟩
    · obtain ⟨send₁, hsend₁, hle, hf⟩ := h.frames frame hframe
      by_cases hid : frame.streamId = i
      · rw [hid, hold] at hsend₁
        cases hsend₁
        refine ⟨send', by rw [hsend?, if_pos hid], hle.trans hbase, fun hfr => ?_⟩
        obtain ⟨hfs, heq⟩ := hf hfr
        exact ⟨(hfin hfs).1, by rw [heq, (hfin hfs).2]⟩
      · exact ⟨send₁, by rw [hsend?, if_neg hid]; exact hsend₁, hle, hf⟩
  · intro j recv n hj hn
    obtain ⟨send₁, hsend₁, hfs, hbase₁⟩ := h.final j recv n hj hn
    by_cases hid : j = i
    · rw [hid, hold] at hsend₁
      cases hsend₁
      exact ⟨send', by rw [hsend?, if_pos hid], (hfin hfs).1, by rw [hbase₁, (hfin hfs).2]⟩
    · exact ⟨send₁, by rw [hsend?, if_neg hid]; exact hsend₁, hfs, hbase₁⟩
  · have hdef : s'.dataSent = s.dataSent + (send'.baseOffset - send.baseOffset) := by rw [hs']
    have hstreams : s'.streams = (s.setSend i send').streams := by rw [hs']
    rw [hdef, hstreams, h.dataSent]
    omega

lemma Credit.setSend' (h : Credit r s back out) (hshape : Shape s r)
    (hold : s.send? i = some send) (hnew : ∀ frame ∈ new, ∃ f, frame = Frame.stream f)
    (send' : SendStream) (hs' : s' = { s.setSend i send' with dataSent := n }) :
    Credit r s' back (new ++ out) := by
  have hrecv? : ∀ j, s'.recv? j = s.recv? j := by
    intro j
    rw [hs']
    exact s.recv?_setSend i j send'
  have hcredit : ∀ j, s'.creditFor j = s.creditFor j := by
    intro j
    unfold creditFor
    rw [hrecv?, hs']
    rfl
  have hout : ∀ frame, (∀ f, frame ≠ Frame.stream f) → frame ∈ new ++ out → frame ∈ out := by
    intro frame hne hframe
    rcases List.mem_append.1 hframe with hframe | hframe
    · obtain ⟨f, hf⟩ := hnew frame hframe
      exact absurd hf (hne f)
    · exact hframe
  refine { h with
    mirrored := by rw [hs']; exact h.mirrored
    sends := fun j send₁ hj => by rw [hcredit]; exact h.sends j send₁ hj
    got := fun j recv hj => h.got j recv (by rwa [← hrecv?])
    final := fun j recv n hj => h.final j recv n (by rwa [← hrecv?])
    initial := fun j recv hj hi => ?_
    dataReceived := ?_
    dataGranted := by rw [hs']; exact h.dataGranted
    streamsGranted := by rw [hs']; exact h.streamsGranted
    maxData := fun n hn => ?_
    maxStreams := fun n hn => ?_
    maxStreamData := fun j n hn => ?_ }
  · rw [hrecv?] at hj
    have := h.initial j recv hj
    rw [hs'] at hi ⊢
    exact this hi
  · have hstreams : s'.streams = (s.setSend i send').streams := by rw [hs']
    rw [hstreams, (total_setSend hshape hold send').2, hs']
    exact h.dataReceived
  · rw [hs']
    exact h.maxData n (hout _ (by simp) hn)
  · rw [hs']
    exact h.maxStreams n (hout _ (by simp) hn)
  · rw [hrecv?]
    exact h.maxStreamData j n (hout _ (by simp) hn)

variable {r' : StreamManager} {sendLimit recvLimit : ℕ}

lemma Credit.setRecv (h : Credit s r out back) (hshape : Shape r s) {recv recv' : RecvStream}
    (hold : r.recv? i = some recv) (hhigh : recv'.highestOffset ≤ s.sentOn i)
    (hmono : recv.highestOffset ≤ recv'.highestOffset)
    (hfinal : ∀ n, recv'.finalSize = some n →
      ∃ send, s.send? i = some send ∧ send.finSent = true ∧ n = send.baseOffset)
    (hcredit : recv.maxStreamData ≤ recv'.maxStreamData)
    (hnew : ∀ frame ∈ new, ∃ n, frame = Frame.maxStreamData i n ∧ n ≤ recv'.maxStreamData)
    (hr' : r' = { r.setRecv i recv' with
      dataReceived := r.dataReceived + (recv'.highestOffset - recv.highestOffset) }) :
    Credit s r' out (new ++ back) := by
  have hrecv? : ∀ j, r'.recv? j = if j = i then some recv' else r.recv? j := by
    intro j
    rw [hr']
    exact r.recv?_setRecv i j recv'
  have hgrant : ∀ j, r.creditFor j ≤ r'.creditFor j := by
    intro j
    have hlimits : r'.localLimits = r.localLimits := by rw [hr']; rfl
    unfold creditFor
    rw [hrecv?, hlimits]
    split_ifs with hj
    · subst hj
      simpa [hold] using hcredit
    · exact le_refl _
  have hback : ∀ frame, (∀ n, frame ≠ Frame.maxStreamData i n) → frame ∈ new ++ back → frame ∈ back := by
    intro frame hne hframe
    rcases List.mem_append.1 hframe with hframe | hframe
    · obtain ⟨n, hn, -⟩ := hnew frame hframe
      exact absurd hn (hne n)
    · exact hframe
  refine { h with
    mirrored := by rw [hr']; exact h.mirrored
    sends := fun j send hj => (h.sends j send hj).mono (hgrant j) []
    got := fun j recv₁ hj => ?_, final := fun j recv₁ n hj hn => ?_, initial := fun j recv₁ hj hi => ?_
    dataReceived := ?_
    dataGranted := by rw [hr']; exact h.dataGranted
    streamsGranted := by rw [hr']; exact h.streamsGranted
    maxData := fun n hn => by rw [hr']; exact h.maxData n (hback _ (by simp) hn)
    maxStreams := fun n hn => by rw [hr']; exact h.maxStreams n (hback _ (by simp) hn)
    maxStreamData := fun j n hn => ?_ }
  · rw [hrecv?] at hj
    split_ifs at hj with hji
    · cases hj
      exact hji ▸ hhigh
    · exact h.got j recv₁ hj
  · rw [hrecv?] at hj
    split_ifs at hj with hji
    · cases hj
      exact hji ▸ hfinal n hn
    · exact h.final j recv₁ n hj hn
  · have hlimits : r'.localLimits = r.localLimits ∧ r'.isClient = r.isClient := by rw [hr']; exact ⟨rfl, rfl⟩
    rw [hlimits.2] at hi
    rw [hlimits.1]
    rw [hrecv?] at hj
    split_ifs at hj with hji
    · cases hj
      exact (h.initial i recv hold (hji ▸ hi)).trans hcredit
    · exact h.initial j recv₁ hj hi
  · have htotal := (total_setRecv hshape hold recv').1
    have hdef : r'.dataReceived = r.dataReceived + (recv'.highestOffset - recv.highestOffset) := by rw [hr']
    have hstreams : r'.streams = (r.setRecv i recv').streams := by rw [hr']
    rw [hdef, hstreams, h.dataReceived]
    omega
  · rcases List.mem_append.1 hn with hn | hn
    · obtain ⟨n', heq, hle⟩ := hnew _ hn
      cases heq
      exact ⟨recv', by rw [hrecv?, if_pos rfl], hle⟩
    · obtain ⟨recv₁, hrecv₁, hle⟩ := h.maxStreamData j n hn
      by_cases hji : j = i
      · rw [hji, hold] at hrecv₁
        cases hrecv₁
        exact ⟨recv', by rw [hrecv?, if_pos hji], hle.trans hcredit⟩
      · exact ⟨recv₁, by rw [hrecv?, if_neg hji]; exact hrecv₁, hle⟩

lemma Credit.setRecv' (h : Credit r s back out) (hshape : Shape r s)
    (hold : r.recv? i = some recv) (hnew : ∀ f, Frame.stream f ∉ new)
    (recv' : RecvStream)
    (hr' : r' = { r.setRecv i recv' with dataReceived := n }) : Credit r' s (new ++ back) out := by
  have hsend? : ∀ j, r'.send? j = r.send? j := by
    intro j
    rw [hr']
    exact r.send?_setRecv i j recv'
  have hsent : ∀ j, r'.sentOn j = r.sentOn j := fun j => by unfold sentOn; rw [hsend?]
  refine { h with
    mirrored := by rw [hr']; exact h.mirrored
    sends := fun j send hj => (h.sends j send (by rwa [← hsend?])).mono (le_refl _) new
    frames := fun frame hframe => ?_
    got := fun j recv₁ hj => by rw [hsent]; exact h.got j recv₁ hj
    final := fun j recv₁ n hj hn => by rw [hsend?]; exact h.final j recv₁ n hj hn
    dataSent := ?_
    sentWithin := by rw [hr']; exact h.sentWithin
    dataGranted := by rw [hr']; exact h.dataGranted
    opened := by rw [hr']; exact h.opened
    streamsGranted := by rw [hr']; exact h.streamsGranted }
  · rw [hsend?]
    exact h.frames frame ((List.mem_append.1 hframe).resolve_left (hnew frame))
  · have hstreams : r'.streams = (r.setRecv i recv').streams := by rw [hr']
    rw [hstreams, (total_setRecv hshape hold recv').2, hr']
    exact h.dataSent

lemma Credit.addSend (h : Credit s r out back) (hnone : s.streams.get? i = none)
    (hlimit : sendLimit ≤ r.creditFor i) (hn : n ≤ s.maxStreamsBidi)
    (hs' : s' = { s.setHalf i ⟨some (.new i sendLimit), some (.new i recvLimit)⟩ with
      nextBidiSequence := n }) : Credit s' r out back := by
  have hsend? : ∀ j, s'.send? j = if j = i then some (.new i sendLimit) else s.send? j := by
    intro j
    rw [hs']
    exact s.send?_setHalf i j _
  have hold : s.send? i = none := by simp [send?, hnone]
  have hkept : ∀ j send, s.send? j = some send → s'.send? j = some send := by
    intro j send hj
    rw [hsend?, if_neg (by rintro rfl; simp [hold] at hj)]
    exact hj
  refine { h with
    mirrored := by rw [hs']; exact h.mirrored
    sends := fun j send hj => ?_
    frames := fun frame hframe => ?_
    got := fun j recv hj => (h.got j recv hj).trans ?_
    final := fun j recv n hj hn => ?_
    dataSent := ?_
    sentWithin := by rw [hs']; exact h.sentWithin
    dataGranted := by rw [hs']; exact h.dataGranted
    opened := by rw [hs']; exact hn
    streamsGranted := by rw [hs']; exact h.streamsGranted }
  · rw [hsend?] at hj
    split_ifs at hj with hji
    · cases hj
      exact ⟨hji.symm, rfl, Nat.zero_le _, hji ▸ hlimit, by simp [SendStream.new], by simp [SendStream.new]⟩
    · exact h.sends j send hj
  · obtain ⟨send, hsend, hrest⟩ := h.frames frame hframe
    exact ⟨send, hkept _ _ hsend, hrest⟩
  · unfold sentOn
    cases hj : s.send? j with
    | none => exact Nat.zero_le _
    | some send => rw [hkept j send hj]
  · obtain ⟨send, hsend, hrest⟩ := h.final j recv n hj hn
    exact ⟨send, hkept _ _ hsend, hrest⟩
  · rw [hs']
    exact h.dataSent.trans (total_setHalf_new hnone sendLimit recvLimit).1.symm

lemma Credit.addRecv (h : Credit s r out back) (hnone : r.streams.get? i = none)
    (hlimit : ∀ send, s.send? i = some send → r.creditFor i ≤ recvLimit)
    (hinitial : isClientInitiated i = r.isClient → r.localLimits.maxStreamDataBidiLocal ≤ recvLimit)
    (hr' : r' = { r.setHalf i ⟨some (.new i sendLimit), some (.new i recvLimit)⟩ with
      nextBidiSequence := n }) : Credit s r' out back := by
  have hrecv? : ∀ j, r'.recv? j = if j = i then some (.new i recvLimit) else r.recv? j := by
    intro j
    rw [hr']
    exact r.recv?_setHalf i j _
  have hold : r.recv? i = none := by simp [recv?, hnone]
  have hlimits : r'.localLimits = r.localLimits ∧ r'.isClient = r.isClient := by rw [hr']; exact ⟨rfl, rfl⟩
  refine { h with
    mirrored := by rw [hr']; exact h.mirrored
    sends := fun j send hj => (h.sends j send hj).mono ?_ []
    got := fun j recv hj => ?_, final := fun j recv n hj hn => ?_, initial := fun j recv hj hi => ?_
    dataReceived := ?_
    dataGranted := by rw [hr']; exact h.dataGranted
    streamsGranted := by rw [hr']; exact h.streamsGranted
    maxData := fun n hn => by rw [hr']; exact h.maxData n hn
    maxStreams := fun n hn => by rw [hr']; exact h.maxStreams n hn
    maxStreamData := fun j n hn => ?_ }
  · by_cases hji : j = i
    · subst hji
      have hgrant : r'.creditFor j = recvLimit := by simp [creditFor, hrecv?, RecvStream.new]
      rw [hgrant]
      exact hlimit send hj
    · have hgrant : r'.creditFor j = r.creditFor j := by
        unfold creditFor
        rw [hrecv?, if_neg hji, hlimits.1]
      rw [hgrant]
  · rw [hrecv?] at hj
    split_ifs at hj with hji
    · cases hj
      exact Nat.zero_le _
    · exact h.got j recv hj
  · rw [hrecv?] at hj
    split_ifs at hj with hji
    · cases hj
      simp [RecvStream.new] at hn
    · exact h.final j recv n hj hn
  · rw [hlimits.2] at hi
    rw [hlimits.1]
    rw [hrecv?] at hj
    split_ifs at hj with hji
    · cases hj
      exact hinitial (hji ▸ hi)
    · exact h.initial j recv hj hi
  · rw [hr']
    exact h.dataReceived.trans (total_setHalf_new hnone sendLimit recvLimit).2.symm
  · obtain ⟨recv, hrecv, hle⟩ := h.maxStreamData j n hn
    exact ⟨recv, by rw [hrecv?, if_neg (by rintro rfl; simp [hold] at hrecv)]; exact hrecv, hle⟩

end Credits

section Joints

variable {s r : StreamManager} {out back : List Frame} {i : ℕ} {frame : Stream}

lemma Joint.setSend (h : Joint s r out back) (hold : s.send? i = some send)
    (new : List Stream) (send' : SendStream) (hsound : Sound send' i (r.creditFor i) (new.map Frame.stream ++ out))
    (hbase : send.baseOffset ≤ send'.baseOffset)
    (hfin : send.finSent = true → send'.finSent = true ∧ send'.baseOffset = send.baseOffset)
    (hnew : ∀ frame ∈ new, frame.streamId = i ∧ frame.offset + frame.data.length ≤ send'.baseOffset ∧
      (frame.fin = true → send'.finSent = true ∧ frame.offset + frame.data.length = send'.baseOffset))
    (hs' : s' = { s.setSend i send' with
      dataSent := s.dataSent + (send'.baseOffset - send.baseOffset) })
    (hdata : s'.dataSent ≤ s.maxData) : Joint s' r (new.map Frame.stream ++ out) back where
  sides := by rw [hs']; exact h.sides
  shape := (h.shape.setSend hold send').congr (by rw [hs']) (by rw [hs']) (by rw [hs']) rfl
  shape' := h.shape'.congr rfl rfl rfl (by rw [hs']; rfl)
  credit := h.credit.setSend h.shape hold hsound hbase hfin (by simpa using hnew) hs' hdata
  credit' := h.credit'.setSend' h.shape hold (by simp +contextual [eq_comm]) send' hs'

lemma Joint.quietSend (h : Joint s r out back) {send send' : SendStream} (hold : s.send? i = some send)
    (hsound : Sound send' i (r.creditFor i) out) (hbase : send'.baseOffset = send.baseOffset)
    (hfin : send.finSent = true → send'.finSent = true) : Joint (s.setSend i send') r out back := by
  have hs' : s.setSend i send' = { s.setSend i send' with
      dataSent := s.dataSent + (send'.baseOffset - send.baseOffset) } := by
    rw [hbase, Nat.sub_self]
    rfl
  exact h.setSend hold [] send' hsound hbase.ge (fun hf => ⟨hfin hf, hbase⟩) (by simp) hs'
    h.credit.sentWithin

lemma Joint.write (h : Joint s r out back) (data : Bytes) (fin : Bool) :
    Joint (finalState (withSend i (·.write data fin)) s) r out back := by
  refine Ensures.final (P := fun s' => Joint s' r out back) ?_
  refine (s.withSend_spec i _).mono ?_ fun _ _ he => he.1 ▸ h
  rintro _ s' ⟨send, send', hold, hwrite, rfl⟩
  have hsound := h.credit.sends i send hold
  simp only [SendStream.write] at hwrite
  split_ifs at hwrite with hq hfin
  all_goals
    cases hwrite
    refine h.quietSend hold ⟨hsound.isFor, hsound.highest, hsound.within, hsound.credit, fun hf => ?_,
      hsound.lost⟩ rfl id
    exact absurd (hsound.finished hf).2 hq

lemma Joint.requeue (h : Joint s r out back) (hframe : Frame.stream frame ∈ out) :
    Joint (finalState (withSend frame.streamId fun send => .ok (send.requeue frame)) s) r out back := by
  refine Ensures.final (P := fun s' => Joint s' r out back) ?_
  refine (s.withSend_spec _ _).mono ?_ fun _ _ he => he.1 ▸ h
  rintro _ s' ⟨send, send', hold, hok, rfl⟩
  have hsound := h.credit.sends _ send hold
  cases Except.ok.inj hok
  unfold SendStream.requeue
  split_ifs
  · refine h.quietSend hold ⟨hsound.isFor, hsound.highest, hsound.within, hsound.credit, hsound.finished,
      fun f hf => ?_⟩ rfl id
    rcases List.mem_append.1 hf with hf | hf
    · exact hsound.lost f hf
    · rw [List.mem_singleton.1 hf]
      exact ⟨rfl, hframe⟩
  · exact h.quietSend hold hsound rfl id

lemma Joint.onMaxStreamData (h : Joint s r out back) {maximum : ℕ}
    (hframe : Frame.maxStreamData i maximum ∈ back) :
    Joint (finalState (withSend i fun send => .ok (send.onMaxStreamData maximum)) s) r out back := by
  refine Ensures.final (P := fun s' => Joint s' r out back) ?_
  refine (s.withSend_spec _ _).mono ?_ fun _ _ he => he.1 ▸ h
  rintro _ s' ⟨send, send', hold, hok, rfl⟩
  have hsound := h.credit.sends _ send hold
  cases Except.ok.inj hok
  obtain ⟨recv, hrecv, hle⟩ := h.credit.maxStreamData i maximum hframe
  have hgrant : r.creditFor i = recv.maxStreamData := by simp [creditFor, hrecv]
  refine h.quietSend hold ⟨hsound.isFor, hsound.highest, ?_, ?_, hsound.finished, hsound.lost⟩ rfl id
  · exact hsound.within.trans (le_max_left _ _)
  · exact max_le hsound.credit (hgrant ▸ hle)

lemma Joint.nextFrame (h : Joint s r out back) {maxBytes : ℤ} {frame : Option Stream}
    (hok : StreamManager.nextFrame i maxBytes s = .ok frame s') :
    Joint s' r ((frame.map Frame.stream).toList ++ out) back := by
  obtain ⟨send, hold, hframe, hs'⟩ := (s.nextFrame_spec i maxBytes).of_ok hok
  have hsound := h.credit.sends _ send hold
  have hsent := h.credit.sentWithin
  rcases send.nextFrame_cases maxBytes ((s.maxData : ℤ) - s.dataSent) with hcase | ⟨lost, losts, hlost, hcase⟩ |
    ⟨size, fin, hsize, hfin, -, hcase⟩
  · rw [hcase] at hframe hs'
    subst hframe
    rw [hs']
    exact h.quietSend hold hsound rfl id
  · -- a lost frame is already on the wire
    rw [hcase] at hframe hs'
    subst hframe
    obtain ⟨hid, hmem⟩ := hsound.lost lost (by simp [hlost])
    obtain ⟨send₁, hsend₁, hle, hf⟩ := h.credit.frames lost hmem
    rw [hid, hold] at hsend₁
    cases hsend₁
    have hsound' : Sound { send with retransmit := losts } i (r.creditFor i) out :=
      ⟨hsound.isFor, hsound.highest, hsound.within, hsound.credit, hsound.finished,
        fun f hf => hsound.lost f (by rw [hlost]; exact List.mem_cons_of_mem _ hf)⟩
    refine h.setSend hold [lost] { send with retransmit := losts } (hsound'.mono (le_refl _) _) (le_refl _)
      (fun hf => ⟨hf, rfl⟩)
      (by simpa using ⟨hid, hle, hf⟩) (hs'.trans ?_) ?_
    · simp
    · rw [hs']
      simpa using hsent
  · rw [hcase] at hframe hs'
    subst hframe
    have hpending : size ≤ send.pending.length := hsize ▸ send.budget_le_pending _ _
    have hcredit := send.budget_le_credit maxBytes ((s.maxData : ℤ) - s.dataSent)
    have hstream := send.budget_le_stream maxBytes ((s.maxData : ℤ) - s.dataSent)
    rw [← hsize] at hcredit hstream
    have hwithin := hsound.within
    have hlen : (send.pending.take size).length = size := by
      rw [List.length_take, Nat.min_eq_left hpending]
    have hhighest : (send.emit size fin).highestOffsetSent = send.baseOffset + size := by
      simp only [SendStream.emit, hsound.highest, hlen]
      omega
    refine h.setSend hold [⟨send.streamId, send.baseOffset, send.pending.take size, fin⟩]
      (send.emit size fin) ⟨hsound.isFor, hhighest, ?_, hsound.credit, fun hf => ?_, fun f hf => ?_⟩ ?_
        (fun hf => ?_) ?_
      (hs'.trans ?_) ?_
    · simp only [SendStream.emit]
      omega
    · -- once the FIN is out nothing is pending, so nothing more can follow it
      simp only [SendStream.emit, Bool.or_eq_true] at hf ⊢
      rcases hf with hf | hf
      · obtain ⟨hp, hq⟩ := hsound.finished hf
        exact ⟨by simp [hp], hq⟩
      · obtain ⟨hq, -, hall⟩ := hfin hf
        exact ⟨by rw [hall, List.drop_length], hq⟩
    · exact (hsound.lost f hf).imp_right (List.mem_append_right _)
    · exact Nat.le_add_right _ _
    · have hp := (hsound.finished hf).1
      have hzero : size = 0 := by simpa [hp] using hpending
      simp [SendStream.emit, hf, hzero]
    · simp only [List.mem_singleton, forall_eq, hlen, SendStream.emit, le_refl, true_and]
      exact ⟨hsound.isFor, fun hf => by simp [hf]⟩
    · simp only [Option.isSome_some, if_true, hhighest, hsound.highest]
      rfl
    · rw [hs']
      simp only [Option.isSome_some, if_true, hhighest, hsound.highest]
      omega

lemma Joint.setRecv (h : Joint s r out back) (hold : s.recv? i = some recv)
    (new : List Frame) (recv' : RecvStream) (hhigh : recv'.highestOffset ≤ r.sentOn i)
    (hmono : recv.highestOffset ≤ recv'.highestOffset)
    (hfinal : ∀ n, recv'.finalSize = some n →
      ∃ send, r.send? i = some send ∧ send.finSent = true ∧ n = send.baseOffset)
    (hcredit : recv.maxStreamData ≤ recv'.maxStreamData)
    (hnew : ∀ frame ∈ new, ∃ n, frame = Frame.maxStreamData i n ∧ n ≤ recv'.maxStreamData)
    (hs' : s' = { s.setRecv i recv' with
      dataReceived := s.dataReceived + (recv'.highestOffset - recv.highestOffset) }) :
    Joint s' r (new ++ out) back where
  sides := by rw [hs']; exact h.sides
  shape := (h.shape.setRecv hold recv').congr (by rw [hs']) (by rw [hs']) (by rw [hs']) rfl
  shape' := h.shape'.congr rfl rfl rfl (by rw [hs']; rfl)
  credit := h.credit.setRecv' h.shape hold (fun f hf => by obtain ⟨n, hn, -⟩ := hnew _ hf; cases hn) recv' hs'
  credit' := h.credit'.setRecv h.shape hold hhigh hmono hfinal hcredit hnew hs'

lemma Joint.quietRecv (h : Joint s r out back) (hold : s.recv? i = some recv)
    (new : List Frame) (recv' : RecvStream) (hhigh : recv'.highestOffset = recv.highestOffset)
    (hfinal : recv'.finalSize = recv.finalSize) (hcredit : recv.maxStreamData ≤ recv'.maxStreamData)
    (hnew : ∀ frame ∈ new, ∃ n, frame = Frame.maxStreamData i n ∧ n ≤ recv'.maxStreamData) :
    Joint (s.setRecv i recv') r (new ++ out) back := by
  refine h.setRecv hold new recv' (hhigh ▸ h.credit'.got i recv hold) hhigh.ge (fun n hn => ?_) hcredit hnew ?_
  · exact h.credit'.final i recv n hold (hfinal ▸ hn)
  · rw [hhigh, Nat.sub_self]
    rfl

lemma Joint.read (h : Joint s r out back) : Joint (read i s).2 r out back := by
  unfold StreamManager.read
  split
  · exact h
  · rename_i recv hrecv
    exact h.quietRecv hrecv [] recv.read.2 rfl rfl (le_refl _) (by simp)

lemma Joint.creditUpdate (h : Joint s r out back) :
    Joint (creditUpdate i s).2 r (((creditUpdate i s).1.map (Frame.maxStreamData i)).toList ++ out) back := by
  unfold StreamManager.creditUpdate
  split
  · exact h
  · rename_i recv hrecv
    simp only [RecvStream.creditUpdate]
    split_ifs
    · exact h.quietRecv hrecv [] recv rfl rfl (le_refl _) (by simp)
    · exact h.quietRecv hrecv [] recv rfl rfl (le_refl _) (by simp)
    · exact h.quietRecv hrecv _ { recv with maxStreamData := recv.readOffset + recv.window } rfl rfl
        (by dsimp only; omega) (by simp)

lemma Joint.grant (h : Joint s r out back) (data streams uni : ℕ)
    (hdata : s.localMaxData ≤ data) (hstreams : s.localMaxStreamsBidi ≤ streams)
    (hnew : ∀ frame ∈ new, (∃ n, frame = Frame.maxData n ∧ n ≤ data) ∨
      ∃ n b, frame = Frame.maxStreams n b ∧ (b = true → n ≤ streams)) :
    Joint { s with
      localMaxData := data
      localMaxStreamsBidi := streams
      localMaxStreamsUni := uni } r (new ++ out) back where
  sides := h.sides
  shape := h.shape.congr rfl rfl rfl rfl
  shape' := h.shape'.congr rfl rfl rfl rfl
  credit :=
    { h.credit with
      sends := fun i send hi => (h.credit.sends i send hi).mono (le_refl _) new
      frames := fun frame hframe => h.credit.frames frame ((List.mem_append.1 hframe).resolve_left
        fun hmem => by rcases hnew _ hmem with ⟨n, hn, -⟩ | ⟨n, b, hn, -⟩ <;> cases hn) }
  credit' :=
    { h.credit' with
      dataGranted := h.credit'.dataGranted.trans hdata
      streamsGranted := h.credit'.streamsGranted.trans hstreams
      maxData := fun n hn => by
        rcases List.mem_append.1 hn with hn | hn
        · rcases hnew _ hn with ⟨n', hn', hle⟩ | ⟨n', b, hn', -⟩ <;> cases hn'
          exact hle
        · exact (h.credit'.maxData n hn).trans hdata
      maxStreams := fun n hn => by
        rcases List.mem_append.1 hn with hn | hn
        · rcases hnew _ hn with ⟨n', hn', -⟩ | ⟨n', b, hn', hle⟩ <;> cases hn'
          exact hle rfl
        · exact (h.credit'.maxStreams n hn).trans hstreams
      maxStreamData := fun i n hn => h.credit'.maxStreamData i n ((List.mem_append.1 hn).resolve_left
        fun hmem => by rcases hnew _ hmem with ⟨n, hn, -⟩ | ⟨n, b, hn, -⟩ <;> cases hn) }

lemma Joint.maxDataUpdate (h : Joint s r out back) :
    Joint s.maxDataUpdate.2 r ((s.maxDataUpdate.1.map Frame.maxData).toList ++ out) back := by
  unfold StreamManager.maxDataUpdate
  split_ifs
  · exact h
  · exact h.grant (s.consumed + s.dataWindow) s.localMaxStreamsBidi s.localMaxStreamsUni (by omega)
      (le_refl _) (by simp)

lemma Joint.maxStreamsUpdate (h : Joint s r out back) (b : Bool) :
    Joint (s.maxStreamsUpdate b).2 r (((s.maxStreamsUpdate b).1.map (Frame.maxStreams · b)).toList ++ out)
      back := by
  cases b
  all_goals
    simp only [StreamManager.maxStreamsUpdate, if_true, Bool.false_eq_true, if_false]
    split_ifs with h₁ h₂
    · exact h
    · exact h
  · exact h.grant s.localMaxData s.localMaxStreamsBidi _ (le_refl _) (le_refl _) (by simp)
  · exact h.grant s.localMaxData _ s.localMaxStreamsUni (le_refl _) (by omega) (by simp)

lemma Joint.allow (h : Joint s r out back) (data streams uni : ℕ) (hdata : s.maxData ≤ data)
    (hdata' : data ≤ r.localMaxData) (hstreams : s.maxStreamsBidi ≤ streams)
    (hstreams' : streams ≤ r.localMaxStreamsBidi) :
    Joint { s with maxData := data, maxStreamsBidi := streams, maxStreamsUni := uni } r out back where
  sides := h.sides
  shape := h.shape.congr rfl rfl rfl rfl
  shape' := h.shape'.congr rfl rfl rfl rfl
  credit :=
    { h.credit with
      sentWithin := h.credit.sentWithin.trans hdata
      dataGranted := hdata'
      opened := h.credit.opened.trans hstreams
      streamsGranted := hstreams' }
  credit' := { h.credit' with }

lemma Joint.openBidi (h : Joint s r out back) : Joint (finalState openBidi s) r out back := by
  refine Ensures.final (P := fun s' => Joint s' r out back) ?_
  refine s.openBidi_spec.mono ?_ fun _ _ he => he.1 ▸ h
  rintro i s' ⟨hi, hlt, hs'⟩
  have hinit : isClientInitiated i = s.isClient := by rw [hi, isClientInitiated_localId]
  have hseq : i / 4 = s.nextBidiSequence := by rw [hi, localId_div]
  have hnone : s.streams.get? i = none := by
    by_contra hsome
    obtain ⟨half, hhalf⟩ := Option.ne_none_iff_exists'.1 hsome
    exact absurd (h.shape.ours i half hhalf hinit) (by omega)
  -- the peer cannot know a stream that was not open
  have hnone' : r.streams.get? i = none := by
    by_contra hsome
    obtain ⟨half, hhalf⟩ := Option.ne_none_iff_exists'.1 hsome
    have hne : isClientInitiated i ≠ r.isClient := by simp [hinit, h.sides]
    exact absurd (h.shape'.theirs i half hhalf hne) (by omega)
  have hlimit : s.peerLimits.maxStreamDataBidiRemote ≤ r.creditFor i := by
    simp [creditFor, recv?, hnone', h.credit.mirrored]
  refine ⟨by rw [hs']; exact h.sides, ?_, ?_, h.credit.addSend hnone hlimit hlt hs',
    h.credit'.addRecv hnone (fun send hsend => ?_) (fun _ => le_refl _) hs'⟩
  · rw [hs', hi]
    exact h.shape.openBidi (by simp)
  · refine { h.shape' with theirs := fun j half hj hc => ?_ }
    rw [hs']
    exact Nat.lt_succ_of_lt (h.shape'.theirs j half hj hc)
  · simp [send?, hnone'] at hsend

lemma Joint.routed (h : Joint s r out back) (hsend : s.send? i = some send) :
    Joint s (r.routed i) out back ∧ (∃ recv, (r.routed i).recv? i = some recv) ∧
      (r.streams.get? i = none → ∃ half, r.createPeerInitiated i = .ok half) := by
  obtain ⟨recv, hget, hrecv⟩ := h.shape.get?_eq hsend
  cases hr : r.streams.get? i with
  | some half =>
    have hsame : r.routed i = r := by simp [StreamManager.routed, hr]
    obtain ⟨recv', hrecv'⟩ := Option.isSome_iff_exists.1 (h.shape'.both i half hr).2
    exact ⟨hsame.symm ▸ h, ⟨recv', by simp [hsame, recv?, hr, hrecv']⟩, by simp⟩
  | none =>
    have hb := h.shape.bidirectional i _ hget
    have hours : isClientInitiated i = s.isClient := by
      by_contra htheirs
      have hseq := h.shape.theirs i _ hget htheirs
      have hr' : isClientInitiated i = r.isClient := by
        rw [h.sides]
        cases hi : isClientInitiated i <;> cases hs : s.isClient <;> simp_all
      exact h.shape'.opened i hb hr' hseq hr
    have hne : isClientInitiated i ≠ r.isClient := by simp [hours, h.sides]
    have hseq := h.shape.ours i _ hget hours
    have hcount : ¬r.localMaxStreamsBidi ≤ i / 4 := by
      have h₁ := h.credit.opened
      have h₂ := h.credit.streamsGranted
      omega
    have hcreate : r.createPeerInitiated i = .ok ⟨some (.new i r.peerLimits.maxStreamDataBidiLocal),
        some (.new i r.localLimits.maxStreamDataBidiRemote)⟩ := by
      simp [createPeerInitiated, hne, hb, hcount]
    have hrouted : r.routed i = r.setHalf i ⟨some (.new i r.peerLimits.maxStreamDataBidiLocal),
        some (.new i r.localLimits.maxStreamDataBidiRemote)⟩ := by
      simp [StreamManager.routed, hr, hcreate]
    have hopened : r.nextBidiSequence ≤ r.maxStreamsBidi := h.credit'.opened
    have hlimit : r.peerLimits.maxStreamDataBidiLocal ≤ s.creditFor i := by
      rw [h.credit'.mirrored]
      simpa [creditFor, hrecv] using h.credit'.initial i recv hrecv hours
    refine ⟨⟨by rw [hrouted]; exact h.sides, ?_, ?_, ?_, ?_⟩, ⟨_, by rw [hrouted, recv?_setHalf, if_pos rfl]⟩,
      fun _ => ⟨_, hcreate⟩⟩
    · exact h.shape.congr rfl rfl rfl (by rw [hrouted]; rfl)
    · rw [hrouted]
      exact h.shape'.setHalf (by simp) (.inr ⟨hb, hne, hseq⟩)
    · refine h.credit.addRecv hr (fun _ _ => ?_) (fun hc => absurd hc hne) hrouted
      simp [creditFor, recv?, hr]
    · exact h.credit'.addSend hr hlimit hopened hrouted

lemma Joint.accepts (h : Joint s r out back) (hframe : Frame.stream frame ∈ out)
    (hrecv : r.recv? frame.streamId = some recv) : recv.Accepts frame := by
  obtain ⟨send, hsend, hle, hfin⟩ := h.credit.frames frame hframe
  have hsound := h.credit.sends _ send hsend
  refine ⟨?_, fun hf => ?_, ?_⟩
  · unfold RecvStream.violatesFinalSize
    split
    · rename_i size hsize
      obtain ⟨send', hsend', hfs, hbase⟩ := h.credit.final _ recv size hrecv hsize
      rw [hsend] at hsend'
      cases hsend'
      cases hf : frame.fin with
      | false => simpa [hbase] using hle
      | true => simp [hbase, (hfin hf).2]
    · rfl
  · rw [(hfin hf).2, ← sentOn_of_send? hsend]
    exact h.credit.got _ recv hrecv
  · have hgrant : r.creditFor frame.streamId = recv.maxStreamData := by simp [creditFor, hrecv]
    have h₁ := hsound.within
    have h₂ := hgrant ▸ hsound.credit
    omega

theorem Joint.deliver (h : Joint s r out back) {frame : Stream} (hframe : Frame.stream frame ∈ out) :
    ∃ r', StreamManager.onStreamFrame frame r = .ok () r' ∧ Joint s r' out back := by
  obtain ⟨send, hsend, hle, hfin⟩ := h.credit.frames frame hframe
  obtain ⟨hjoint, ⟨recv, hrecv⟩, hcreate⟩ := h.routed hsend
  have hacc := hjoint.accepts hframe hrecv
  have hstored : Joint s ((r.routed frame.streamId).accepted frame recv) out back := by
    refine (hjoint.symm.setRecv hrecv [] (recv.accept frame) ?_ (le_max_left _ _) (fun n hn => ?_)
      (le_refl _) (by simp) rfl).symm
    · exact max_le (hjoint.credit.got _ recv hrecv) ((sentOn_of_send? hsend).symm ▸ hle)
    · have hdef : (recv.accept frame).finalSize =
          if frame.fin then some (frame.offset + frame.data.length) else recv.finalSize := rfl
      rw [hdef] at hn
      split_ifs at hn with hf
      · cases hn
        exact ⟨send, hsend, hfin hf⟩
      · exact hjoint.credit.final _ recv n hrecv hn
  refine ⟨_, onStreamFrame_of_accepts hcreate hrecv hacc ?_, hstored⟩
  rw [hstored.credit.dataReceived]
  calc ((r.routed frame.streamId).accepted frame recv).streams.total gotShare
      ≤ s.streams.total sentShare := hstored.credit.received_le_sent
    _ = s.dataSent := hstored.credit.dataSent.symm
    _ ≤ s.maxData := hstored.credit.sentWithin
    _ ≤ _ := hstored.credit.dataGranted

end Joints

end StreamManager

namespace Pair

open StreamManager

structure Inv (p : Pair) : Prop where
  joint : Joint (p.manager true) (p.manager false) (p.wire true) (p.wire false)
  accepted : p.refused = []

variable {p : Pair} {x : Bool}

lemma inv_init (client server : FlowControlLimits) : (init client server).Inv := by
  refine ⟨⟨rfl, ?_, ?_, ?_, ?_⟩, rfl⟩ <;> constructor <;>
    simp [init, StreamManager.new, send?, recv?]

lemma Inv.side (h : p.Inv) (x : Bool) :
    Joint (p.manager x) (p.manager !x) (p.wire x) (p.wire !x) := by
  cases x
  · exact h.joint.symm
  · exact h.joint

lemma Inv.produce (h : p.Inv) {m : StreamManager} {frames : List Frame}
    (hm : Joint m (p.manager !x) (frames ++ p.wire x) (p.wire !x)) : (p.produce x m frames).Inv := by
  refine ⟨?_, h.accepted⟩
  cases x
  · simpa [Pair.produce, Function.update] using hm.symm
  · simpa [Pair.produce, Function.update] using hm

lemma Inv.receive (h : p.Inv) {frame : Frame} (hframe : frame ∈ p.wire !x) : (p.receive x frame).Inv := by
  have hx := h.side x
  cases frame with
  | stream frame =>
    obtain ⟨m, hm, hjoint⟩ := hx.symm.deliver hframe
    simp only [Pair.receive, hm]
    exact h.produce hjoint.symm
  | maxData maximum =>
    have hle := hx.credit.maxData maximum hframe
    exact h.produce (hx.allow _ _ _ (le_max_left _ _) (max_le hx.credit.dataGranted hle) (le_refl _)
      hx.credit.streamsGranted)
  | maxStreamData i maximum => exact h.produce (hx.onMaxStreamData hframe)
  | maxStreams maximum b =>
    cases b
    · exact h.produce (hx.allow _ _ _ (le_refl _) hx.credit.dataGranted (le_refl _) hx.credit.streamsGranted)
    · have hle := hx.credit.maxStreams maximum hframe
      exact h.produce (hx.allow _ _ _ (le_refl _) hx.credit.dataGranted (le_max_left _ _)
        (max_le hx.credit.streamsGranted hle))
  | _ => exact h

lemma Inv.step (h : p.Inv) (action : Action) : (p.step action).Inv := by
  cases action with
  | openBidi x => exact h.produce (h.side x).openBidi
  | write x i data fin => exact h.produce ((h.side x).write data fin)
  | nextFrame x i maxBytes =>
    simp only [Pair.step]
    split
    · rename_i frame m hok
      exact h.produce ((h.side x).nextFrame hok)
    · rename_i e m herror
      rw [((p.manager x).nextFrame_spec i maxBytes).of_error herror |>.1]
      exact h.produce (h.side x)
  | requeue x k =>
    simp only [Pair.step]
    split
    · rename_i frame hframe
      exact h.produce ((h.side x).requeue (List.mem_of_getElem? hframe))
    · exact h
  | read x i => exact h.produce (h.side x).read
  | creditUpdate x i => exact h.produce (h.side x).creditUpdate
  | maxDataUpdate x => exact h.produce (h.side x).maxDataUpdate
  | maxStreamsUpdate x b => exact h.produce ((h.side x).maxStreamsUpdate b)
  | deliver x k =>
    simp only [Pair.step]
    split
    · rename_i frame hframe
      exact h.receive (by rw [Bool.not_not]; exact List.mem_of_getElem? hframe)
    · exact h

lemma Inv.run (h : p.Inv) (actions : List Action) : (p.run actions).Inv := by
  induction actions generalizing p with
  | nil => exact h
  | cons action actions ih => exact ih (h.step action)

end Pair

/-- No frame either side produces, delivered whenever and however often, makes the other side's manager
raise. -/
theorem flow_control_agreement (client server : FlowControlLimits) (actions : List Pair.Action) :
    ((Pair.init client server).run actions).refused = [] :=
  ((Pair.inv_init client server).run actions).accepted

end Dsquic.Streams
