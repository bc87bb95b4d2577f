import Dsquic.Streams.Intake

/-!
A client that sends early data under remembered limits and learns other limits when its handshake
completes. Frames that were sent early may be sent again.
-/

namespace Dsquic.Streams

open Lib Wire

structure Resumption where
  manager : StreamManager
  produced : List Stream
  granted : List Frame

namespace Resumption

inductive Op
  | openBidi
  | write (streamId : ℕ) (data : Bytes) (fin : Bool)
  | nextFrame (streamId : ℕ) (maxBytes : ℤ)
  | requeue (frame : ℕ)
  | acked (frame : ℕ)
  | receive (frame : Stream)
  | maxData (maximum : ℕ)
  | maxStreamData (streamId maximum : ℕ)
  | maxStreams (maximum : ℕ) (bidirectional : Bool)

def Op.isEarly : Op → Bool
  | .openBidi | .write .. | .nextFrame .. | .requeue _ => true
  | _ => false

def start (localLimits remembered : FlowControlLimits) : Resumption := ⟨.new true localLimits remembered, [], []⟩

def refresh (r : Resumption) (fresh : FlowControlLimits) : Resumption :=
  { r with manager := r.manager.updatePeerLimits fresh, granted := [] }

def onSend (r : Resumption) (streamId : ℕ) (f : SendStream → Except Raised SendStream) : Resumption :=
  { r with manager := finalState (StreamManager.withSend streamId f) r.manager }

def step (r : Resumption) : Op → Resumption
  | .openBidi => { r with manager := finalState StreamManager.openBidi r.manager }
  | .write streamId data fin => r.onSend streamId (·.write data fin)
  | .nextFrame streamId maxBytes =>
    match StreamManager.nextFrame streamId maxBytes r.manager with
    | .ok frame m => { r with manager := m, produced := frame.toList ++ r.produced }
    | .error _ m => { r with manager := m }
  | .requeue k =>
    match r.produced[k]? with
    | some frame => r.onSend frame.streamId fun send => .ok (send.requeue frame)
    | none => r
  | .acked k =>
    match r.produced[k]? with
    | some frame => r.onSend frame.streamId fun send => .ok (send.onFrameAcked frame)
    | none => r
  | .receive frame => { r with manager := finalState (StreamManager.handleStream frame) r.manager }
  | .maxData maximum => { r with manager := r.manager.onMaxData maximum, granted := .maxData maximum :: r.granted }
  | .maxStreamData streamId maximum =>
    { r.onSend streamId fun send => .ok (send.onMaxStreamData maximum) with
      granted := .maxStreamData streamId maximum :: r.granted }
  | .maxStreams maximum bidirectional =>
    { r with
      manager := r.manager.onMaxStreams maximum bidirectional
      granted := .maxStreams maximum bidirectional :: r.granted }

def run (r : Resumption) (ops : List Op) : Resumption := ops.foldl step r

end Resumption

structure SendStream.Bounded (send : SendStream) (i : ℕ) : Prop where
  isFor : send.streamId = i
  highest : send.highestOffsetSent = send.baseOffset
  within : send.baseOffset ≤ send.maxStreamData
  lost : ∀ frame ∈ send.retransmit, frame.streamId = i ∧ frame.offset + frame.data.length ≤ send.baseOffset

namespace StreamManager

def sentTotal (m : StreamManager) : ℕ := m.streams.total fun _ half => (half.send.map (·.highestOffsetSent)).getD 0

section SentTotal

variable {m : StreamManager} {i : ℕ}

lemma sentTotal_setSend {send : SendStream} (hsend : m.send? i = some send) (send' : SendStream) :
    (m.setSend i send').sentTotal + send.highestOffsetSent = m.sentTotal + send'.highestOffsetSent := by
  obtain ⟨half, hhalf, hs⟩ := Option.bind_eq_some_iff.1 hsend
  have htotal := Dict.total_set_of_get (⟨some send', m.recv? i⟩ : Half)
    (fun _ half => (half.send.map (·.highestOffsetSent)).getD 0) hhalf
  rwa [hs] at htotal

lemma sentTotal_setRecv {recv : RecvStream} (hrecv : m.recv? i = some recv) (recv' : RecvStream) :
    (m.setRecv i recv').sentTotal = m.sentTotal := by
  obtain ⟨half, hhalf, -⟩ := Option.bind_eq_some_iff.1 hrecv
  have hsend : m.send? i = half.send := by simp [send?, hhalf]
  have htotal := Dict.total_set_of_get (⟨m.send? i, some recv'⟩ : Half)
    (fun _ half => (half.send.map (·.highestOffsetSent)).getD 0) hhalf
  rw [hsend] at htotal
  rw [setRecv, hsend]
  exact Nat.add_right_cancel htotal

lemma sentTotal_setHalf (hnone : m.streams.get? i = none) (half : Half)
    (hhalf : ∀ send, half.send = some send → send.highestOffsetSent = 0) :
    (m.setHalf i half).sentTotal = m.sentTotal := by
  have htotal := Dict.total_set_fresh half (fun _ half => (half.send.map (·.highestOffsetSent)).getD 0) hnone
  refine htotal.trans ?_
  cases hsend : half.send with
  | none => rfl
  | some send => rw [Option.map_some, Option.getD_some, hhalf send hsend, Nat.add_zero, sentTotal]

lemma sentTotal_updatePeerLimits (peer : FlowControlLimits) :
    (m.updatePeerLimits peer).sentTotal = m.sentTotal := by
  simp only [sentTotal, updatePeerLimits, Dict.total, Dict.mapValues, List.map_map]
  congr 1
  refine List.map_congr_left fun item _ => ?_
  simp only [Function.comp_apply, Option.map_map]
  rfl

end SentTotal

structure Outlook where
  isClient : Bool
  peerLimits : FlowControlLimits
  nextBidiSequence : ℕ
  maxData : ℕ
  maxStreamsBidi : ℕ
  dataSent : ℕ

def outlook (m : StreamManager) : Outlook :=
  ⟨m.isClient, m.peerLimits, m.nextBidiSequence, m.maxData, m.maxStreamsBidi, m.dataSent⟩

structure Receives (m m' : StreamManager) : Prop where
  outlook : m'.outlook = m.outlook
  sends : ∀ i, m'.send? i = m.send? i ∨
    isClientInitiated i ≠ m.isClient ∧ m.send? i = none ∧
      m'.send? i = some (.new i m.peerLimits.maxStreamDataBidiLocal)
  total : m'.sentTotal = m.sentTotal
  numbered : m.Numbered → m'.Numbered

namespace Receives

variable {m m' m'' : StreamManager}

lemma of_streams_eq (houtlook : m'.outlook = m.outlook) (hstreams : m'.streams = m.streams) : m.Receives m' where
  outlook := houtlook
  sends i := .inl (by rw [send?, hstreams, send?])
  total := by rw [sentTotal, hstreams, sentTotal]
  numbered h :=
    h.of_streams_eq hstreams (congrArg Outlook.isClient houtlook) (congrArg Outlook.nextBidiSequence houtlook)

lemma refl (m : StreamManager) : m.Receives m := of_streams_eq rfl rfl

lemma trans (h : m.Receives m') (h' : m'.Receives m'') : m.Receives m'' where
  outlook := h'.outlook.trans h.outlook
  sends i := by
    have hclient : m'.isClient = m.isClient := congrArg Outlook.isClient h.outlook
    have hpeer : m'.peerLimits = m.peerLimits := congrArg Outlook.peerLimits h.outlook
    rcases h'.sends i with hsame | ⟨hi, hnone, hnew⟩
    · rw [hsame]
      exact h.sends i
    · rw [hclient] at hi
      rw [hpeer] at hnew
      rcases h.sends i with hsame | ⟨-, -, hsome⟩
      · exact .inr ⟨hi, hsame.symm.trans hnone, hnew⟩
      · cases hnone.symm.trans hsome
  total := h'.total.trans h.total
  numbered hm := h'.numbered (h.numbered hm)

lemma setRecv {i : ℕ} {old : RecvStream} (hold : m.recv? i = some old) (recv : RecvStream) (dataReceived : ℕ) :
    m.Receives { m.setRecv i recv with dataReceived := dataReceived } where
  outlook := rfl
  sends j := .inl (send?_setRecv m i j recv)
  total := sentTotal_setRecv hold recv
  numbered h := (h.setRecv hold recv).of_streams_eq rfl rfl rfl

lemma routed (m : StreamManager) (i : ℕ) : m.Receives (m.routed i) := by
  have hnumbered : m.Numbered → (m.routed i).Numbered := fun h => h.routed i
  rw [StreamManager.routed] at hnumbered ⊢
  split at hnumbered
  · next half hnone hcreate =>
    have hsend : half.send = none ∨
        isClientInitiated i ≠ m.isClient ∧ half.send = some (.new i m.peerLimits.maxStreamDataBidiLocal) := by
      rw [createPeerInitiated] at hcreate
      split_ifs at hcreate with hclient <;> cases hcreate
      · exact .inr ⟨hclient, rfl⟩
      · exact .inl rfl
    refine ⟨rfl, fun j => ?_, sentTotal_setHalf hnone half fun send hs => ?_, hnumbered⟩
    · rw [send?_setHalf]
      split_ifs with hj
      · subst hj
        have hnone : m.send? j = none := by simp [send?, hnone]
        exact hsend.imp (fun h => h.trans hnone.symm) fun h => ⟨h.1, hnone, h.2⟩
      · exact .inl rfl
    · rcases hsend with hsend | ⟨-, hsend⟩
      · cases hsend.symm.trans hs
      · cases hsend.symm.trans hs
        rfl
  · exact refl m

lemma extended (m : StreamManager) (i : ℕ) : m.Receives (m.extended i) := by
  have hcredit : m.Receives (creditUpdate i m).2 := by
    rw [creditUpdate]
    cases hrecv : m.recv? i with
    | none => exact refl m
    | some recv => exact setRecv hrecv recv.creditUpdate.2 m.dataReceived
  have hdata : ∀ m : StreamManager, m.Receives m.maxDataUpdate.2 := by
    intro m
    rw [maxDataUpdate]
    split_ifs <;> exact of_streams_eq rfl rfl
  have hcount : ∀ (m : StreamManager) (b : Bool), m.Receives (m.maxStreamsUpdate b).2 := by
    intro m b
    simp only [maxStreamsUpdate]
    split_ifs <;> exact of_streams_eq rfl rfl
  exact ((hcredit.trans (hdata _)).trans (hcount _ true)).trans (hcount _ false)

lemma refused {frame : Stream} (h : m.Refused frame m') : m.Receives m' := by
  rcases h with rfl | rfl | ⟨recv, hrecv, rfl | ⟨-, rfl⟩ | ⟨-, rfl⟩⟩
  · exact refl m'
  · exact routed m _
  · exact (routed m _).trans (setRecv hrecv recv (m.routed _).dataReceived)
  · exact (routed m _).trans (setRecv hrecv _ (m.routed _).dataReceived)
  · exact (routed m _).trans (setRecv hrecv (recv.accept frame) _)

lemma handled {frame : Stream} {event : Option StreamDataReceived} (h : m.Handled frame event m') :
    m.Receives m' := by
  obtain ⟨recv, hrecv, -, -, hm'⟩ := h
  rw [hm']
  have haccepted : m.Receives ((m.routed frame.streamId).accepted frame recv) :=
    (routed m _).trans (setRecv hrecv (recv.accept frame) _)
  have hread := setRecv (recv?_accepted_self (m.routed frame.streamId) frame recv) (recv.accept frame).read.2
    ((m.routed frame.streamId).accepted frame recv).dataReceived
  exact (haccepted.trans hread).trans (extended _ _)

lemma handleStream (m : StreamManager) (frame : Stream) : m.Receives (finalState (handleStream frame) m) := by
  apply Ensures.final
  apply (handleStream_spec m frame).mono
  · exact fun _ _ h => handled h
  · exact fun _ _ h => refused h.2

end Receives

end StreamManager

section Halves

variable {send : SendStream} {i : ℕ}

lemma SendStream.bounded_new (i limit : ℕ) : (SendStream.new i limit).Bounded i where
  isFor := rfl
  highest := rfl
  within := Nat.zero_le _
  lost _ hframe := absurd hframe List.not_mem_nil

namespace SendStream.Bounded

lemma write (h : send.Bounded i) {data : Bytes} {fin : Bool} {send' : SendStream}
    (hwrite : send.write data fin = .ok send') :
    send'.Bounded i ∧ send'.baseOffset = send.baseOffset ∧ send'.maxStreamData = send.maxStreamData := by
  rw [SendStream.write] at hwrite
  split_ifs at hwrite <;> cases hwrite <;> exact ⟨⟨h.isFor, h.highest, h.within, h.lost⟩, rfl, rfl⟩

lemma requeue (h : send.Bounded i) {frame : Stream} (hid : frame.streamId = i)
    (hsent : frame.offset + frame.data.length ≤ send.baseOffset) :
    (send.requeue frame).Bounded i ∧ (send.requeue frame).baseOffset = send.baseOffset ∧
      (send.requeue frame).maxStreamData = send.maxStreamData := by
  rw [SendStream.requeue]
  split_ifs
  · refine ⟨⟨h.isFor, h.highest, h.within, fun f hf => ?_⟩, rfl, rfl⟩
    rcases List.mem_append.1 hf with hf | hf
    · exact h.lost f hf
    · rw [List.mem_singleton.1 hf]
      exact ⟨hid, hsent⟩
  · exact ⟨h, rfl, rfl⟩

lemma onFrameAcked (h : send.Bounded i) (frame : Stream) : (send.onFrameAcked frame).Bounded i :=
  ⟨h.isFor, h.highest, h.within, h.lost⟩

lemma onMaxStreamData (h : send.Bounded i) (maximum : ℕ) : (send.onMaxStreamData maximum).Bounded i :=
  ⟨h.isFor, h.highest, h.within.trans (le_max_left _ _), h.lost⟩

lemma nextFrame (h : send.Bounded i) (maxBytes credit : ℤ) :
    (send.nextFrame maxBytes credit).2.Bounded i ∧
      send.baseOffset ≤ (send.nextFrame maxBytes credit).2.baseOffset ∧
      (send.nextFrame maxBytes credit).2.maxStreamData = send.maxStreamData ∧
      ((send.nextFrame maxBytes credit).2.highestOffsetSent : ℤ) - send.highestOffsetSent ≤ max 0 credit ∧
      ∀ frame, (send.nextFrame maxBytes credit).1 = some frame → frame.streamId = i ∧
        frame.offset + frame.data.length ≤ (send.nextFrame maxBytes credit).2.baseOffset := by
  rcases send.nextFrame_cases maxBytes credit with heq | ⟨frame, frames, hlost, heq⟩ | ⟨size, fin,
    hsize, -, -, heq⟩
  · rw [heq]
    refine ⟨h, le_rfl, rfl, ?_, fun frame hframe => by cases hframe⟩
    rw [sub_self]
    exact le_max_left _ _
  · rw [heq]
    have hkept : ∀ f ∈ frames, f ∈ send.retransmit := fun f hf => hlost ▸ List.mem_cons_of_mem _ hf
    refine ⟨⟨h.isFor, h.highest, h.within, fun f hf => h.lost f (hkept f hf)⟩, le_rfl, rfl, ?_, ?_⟩
    · dsimp only
      rw [sub_self]
      exact le_max_left _ _
    · rintro _ ⟨⟩
      exact h.lost frame (hlost ▸ List.mem_cons_self)
  · rw [heq]
    have hpending := send.budget_le_pending maxBytes credit
    have hcredit := send.budget_le_credit maxBytes credit
    have hstream := send.budget_le_stream maxBytes credit
    rw [← hsize] at hpending hcredit hstream
    have hlength : (send.pending.take size).length = size := List.length_take_of_le hpending
    have hhighest := h.highest
    have hwithin := h.within
    refine ⟨⟨h.isFor, ?_, ?_, fun f hf => ?_⟩, Nat.le_add_right _ _, rfl, ?_, ?_⟩
    · simp only [SendStream.emit, hlength]
      omega
    · simp only [SendStream.emit]
      omega
    · exact ⟨(h.lost f hf).1, (h.lost f hf).2.trans (Nat.le_add_right _ _)⟩
    · simp only [SendStream.emit, hlength]
      omega
    · rintro _ ⟨⟩
      exact ⟨h.isFor, by simp only [SendStream.emit, hlength, le_refl]⟩

end SendStream.Bounded

end Halves

namespace Resumption

structure Sound (r : Resumption) : Prop where
  isClient : r.manager.isClient = true
  numbered : r.manager.Numbered
  sends : ∀ i send, r.manager.send? i = some send → send.Bounded i
  produced : ∀ frame ∈ r.produced, ∃ send, r.manager.send? frame.streamId = some send ∧
    frame.offset + frame.data.length ≤ send.baseOffset
  total : r.manager.dataSent = r.manager.sentTotal

lemma sound_start (localLimits remembered : FlowControlLimits) : (start localLimits remembered).Sound where
  isClient := rfl
  numbered := StreamManager.numbered_new _ _ _
  sends i send h := by simp [start, StreamManager.new, StreamManager.send?] at h
  produced frame hframe := absurd hframe List.not_mem_nil
  total := rfl

variable {m' : StreamManager} {f : SendStream → Except Raised SendStream}

section Sound

variable {r : Resumption} {i : ℕ} {send send' : SendStream}

lemma Sound.setSend (h : r.Sound) (hsend : r.manager.send? i = some send) (hbounded : send'.Bounded i)
    (hbase : send.baseOffset ≤ send'.baseOffset) (produced : List Stream) (granted : List Frame)
    (hproduced : ∀ frame ∈ produced, frame ∈ r.produced ∨
      frame.streamId = i ∧ frame.offset + frame.data.length ≤ send'.baseOffset) :
    Sound ⟨{ r.manager.setSend i send' with
      dataSent := r.manager.dataSent + (send'.highestOffsetSent - send.highestOffsetSent) }, produced,
        granted⟩ := by
  have hget : ∀ j, StreamManager.send? { r.manager.setSend i send' with
      dataSent := r.manager.dataSent + (send'.highestOffsetSent - send.highestOffsetSent) } j =
        if j = i then some send' else r.manager.send? j := fun j => StreamManager.send?_setSend r.manager i j send'
  refine ⟨h.isClient, (h.numbered.setSend hsend send').of_streams_eq rfl rfl rfl, fun j s hs => ?_,
    fun frame hframe => ?_, ?_⟩
  · rw [hget] at hs
    split_ifs at hs with hj
    · cases hs
      exact hj ▸ hbounded
    · exact h.sends j s hs
  · simp only [hget]
    rcases hproduced frame hframe with hframe | ⟨hid, hle⟩
    · obtain ⟨s, hs, hle⟩ := h.produced frame hframe
      split_ifs with hj
      · rw [hj] at hs
        cases hsend.symm.trans hs
        exact ⟨send', rfl, hle.trans hbase⟩
      · exact ⟨s, hs, hle⟩
    · exact ⟨send', if_pos hid, hle⟩
  · have htotal := h.total
    have hsum := StreamManager.sentTotal_setSend hsend send'
    have hold := (h.sends i send hsend).highest
    have hnew := hbounded.highest
    change r.manager.dataSent + (send'.highestOffsetSent - send.highestOffsetSent) =
      (r.manager.setSend i send').sentTotal
    omega

lemma Sound.onSend (h : r.Sound) (granted : List Frame)
    (hf : ∀ send send', r.manager.send? i = some send → send.Bounded i → f send = .ok send' →
      send'.Bounded i ∧ send'.baseOffset = send.baseOffset) : Sound { r.onSend i f with granted := granted } := by
  refine Ensures.final (P := fun m => Sound ⟨m, r.produced, granted⟩) ?_
  apply (StreamManager.withSend_spec r.manager i f).mono
  · rintro _ _ ⟨send, send', hsend, heq, rfl⟩
    have hold := h.sends i send hsend
    obtain ⟨hbounded, hbase⟩ := hf send send' hsend hold heq
    have hzero : send'.highestOffsetSent - send.highestOffsetSent = 0 := by
      rw [hbounded.highest, hold.highest, hbase, Nat.sub_self]
    have hset := h.setSend hsend hbounded hbase.ge r.produced granted fun _ => .inl
    rwa [hzero] at hset
  · rintro _ _ ⟨rfl, -⟩
    exact ⟨h.isClient, h.numbered, h.sends, h.produced, h.total⟩

lemma Sound.receives (h : r.Sound) (hreceives : r.manager.Receives m') :
    Sound { r with manager := m' } := by
  have hclient : m'.isClient = r.manager.isClient := congrArg StreamManager.Outlook.isClient hreceives.outlook
  have hsent : m'.dataSent = r.manager.dataSent := congrArg StreamManager.Outlook.dataSent hreceives.outlook
  refine ⟨hclient.trans h.isClient, hreceives.numbered h.numbered, fun i send hsend => ?_,
    fun frame hframe => ?_, ?_⟩
  · rcases hreceives.sends i with hsame | ⟨-, -, hnew⟩
    · exact h.sends i send (hsame.symm.trans hsend)
    · cases hnew.symm.trans hsend
      exact SendStream.bounded_new i _
  · obtain ⟨send, hsend, hle⟩ := h.produced frame hframe
    rcases hreceives.sends frame.streamId with hsame | ⟨-, hnone, -⟩
    · exact ⟨send, hsame.trans hsend, hle⟩
    · cases hnone.symm.trans hsend
  · exact hsent.trans (h.total.trans hreceives.total.symm)

lemma Sound.openBidi (h : r.Sound) : Sound { r with manager := finalState StreamManager.openBidi r.manager } := by
  refine Ensures.final (P := fun m => Sound { r with manager := m }) ?_
  apply (StreamManager.openBidi_spec r.manager).mono
  · rintro _ _ ⟨rfl, -, rfl⟩
    have hfresh := h.numbered.fresh
    refine ⟨h.isClient, h.numbered.openBidi _, fun i send hsend => ?_, fun frame hframe => ?_, ?_⟩
    · have hsend := (StreamManager.send?_setHalf _ _ i _).symm.trans hsend
      split_ifs at hsend with hi
      · cases hsend
        exact hi ▸ SendStream.bounded_new _ _
      · exact h.sends i send hsend
    · obtain ⟨send, hsend, hle⟩ := h.produced frame hframe
      refine ⟨send, (StreamManager.send?_setHalf _ _ _ _).trans ((if_neg ?_).trans hsend), hle⟩
      intro hi
      rw [hi] at hsend
      exact StreamManager.get?_ne_none_of_send? hsend hfresh
    · refine h.total.trans (StreamManager.sentTotal_setHalf hfresh _ ?_).symm
      rintro _ ⟨⟩
      rfl
  · rintro _ _ ⟨rfl, -⟩
    exact h

lemma Sound.nextFrame (h : r.Sound) {maxBytes : ℤ} {frame : Option Stream}
    (hnext : StreamManager.nextFrame i maxBytes r.manager = .ok frame m') :
    Sound ⟨m', frame.toList ++ r.produced, r.granted⟩ ∧ ∃ send send', r.manager.send? i = some send ∧
      m' = { r.manager.setSend i send' with dataSent := m'.dataSent } ∧ send'.maxStreamData = send.maxStreamData ∧
      (m'.dataSent : ℤ) ≤ max r.manager.dataSent r.manager.maxData := by
  obtain ⟨send, hsend, hframe, hm'⟩ := (StreamManager.nextFrame_spec r.manager i maxBytes).of_ok hnext
  obtain ⟨hbounded, hbase, hlimit, hcharge, hsent⟩ := (h.sends i send hsend).nextFrame maxBytes
    ((r.manager.maxData : ℤ) - r.manager.dataSent)
  have hold := (h.sends i send hsend).highest
  have hnew := hbounded.highest
  -- nothing is charged where no frame is produced
  have hcharged : m'.dataSent = r.manager.dataSent +
      ((send.nextFrame maxBytes
        ((r.manager.maxData : ℤ) - r.manager.dataSent)).2.highestOffsetSent - send.highestOffsetSent) := by
    rw [hm']
    dsimp only
    split_ifs with hsome
    · rfl
    · rcases send.nextFrame_cases maxBytes
        ((r.manager.maxData : ℤ) - r.manager.dataSent) with heq | ⟨f, fs, -, heq⟩ |
        ⟨size, fin, -, -, -, heq⟩
      · rw [heq, Nat.sub_self, Nat.add_zero]
      · rw [hframe, heq] at hsome
        exact absurd rfl hsome
      · rw [hframe, heq] at hsome
        exact absurd rfl hsome
  have hset := h.setSend hsend hbounded hbase (frame.toList ++ r.produced) r.granted fun f hf => by
    rcases List.mem_append.1 hf with hf | hf
    · exact .inr (hsent f (hframe.symm.trans (Option.mem_toList.1 hf)))
    · exact .inl hf
  have hmanager : m' = { r.manager.setSend i (send.nextFrame maxBytes
      ((r.manager.maxData : ℤ) - r.manager.dataSent)).2 with dataSent := m'.dataSent } := by
    rw [hm']
  refine ⟨?_, send, _, hsend, hmanager, hlimit, by omega⟩
  rw [hmanager, hcharged]
  exact hset

lemma Sound.step (h : r.Sound) (op : Op) : (r.step op).Sound := by
  cases op with
  | openBidi => exact h.openBidi
  | write i data fin =>
    refine h.onSend r.granted fun send send' _ hbounded hwrite => ?_
    obtain ⟨hbounded, hbase, -⟩ := hbounded.write hwrite
    exact ⟨hbounded, hbase⟩
  | nextFrame i maxBytes =>
    rw [Resumption.step]
    split
    · next frame m' hnext => exact (h.nextFrame hnext).1
    · next e m' hnext =>
      obtain ⟨rfl, -⟩ := (StreamManager.nextFrame_spec r.manager i maxBytes).of_error hnext
      exact h
  | requeue k =>
    rw [Resumption.step]
    split
    · next frame hframe =>
      refine h.onSend r.granted fun send send' hsend hbounded hrequeue => ?_
      cases hrequeue
      obtain ⟨s, hs, hle⟩ := h.produced frame (List.mem_of_getElem? hframe)
      cases hsend.symm.trans hs
      obtain ⟨hbounded, hbase, -⟩ := hbounded.requeue rfl hle
      exact ⟨hbounded, hbase⟩
    · exact h
  | acked k =>
    rw [Resumption.step]
    split
    · next frame hframe =>
      refine h.onSend r.granted fun send send' _ hbounded hacked => ?_
      cases hacked
      exact ⟨hbounded.onFrameAcked frame, rfl⟩
    · exact h
  | receive frame => exact h.receives (.handleStream r.manager frame)
  | maxData maximum => exact ⟨h.isClient, h.numbered.of_streams_eq rfl rfl rfl, h.sends, h.produced, h.total⟩
  | maxStreamData i maximum =>
    refine h.onSend _ fun send send' _ hbounded hcredit => ?_
    cases hcredit
    exact ⟨hbounded.onMaxStreamData maximum, rfl⟩
  | maxStreams maximum bidirectional =>
    cases bidirectional <;>
      exact ⟨h.isClient, h.numbered.of_streams_eq rfl rfl rfl, h.sends, h.produced, h.total⟩

lemma Sound.run (h : r.Sound) (ops : List Op) : (r.run ops).Sound := by
  induction ops generalizing r with
  | nil => exact h
  | cons op ops ih => exact ih (h.step op)

lemma send?_updatePeerLimits (m : StreamManager) (fresh : FlowControlLimits) (i : ℕ) :
    (m.updatePeerLimits fresh).send? i = (m.send? i).map (·.onMaxStreamData fresh.maxStreamDataBidiRemote) := by
  simp only [StreamManager.send?, StreamManager.updatePeerLimits, Dict.get?_mapValues]
  cases m.streams.get? i <;> rfl

lemma Sound.refresh (h : r.Sound) (fresh : FlowControlLimits) : (r.refresh fresh).Sound := by
  refine ⟨h.isClient, (StreamManager.Preserves.updatePeerLimits _ fresh).numbered h.numbered,
    fun i send hsend => ?_,
    fun frame hframe => ?_, h.total.trans (StreamManager.sentTotal_updatePeerLimits fresh).symm⟩
  · obtain ⟨old, hold, rfl⟩ := Option.map_eq_some_iff.1 ((send?_updatePeerLimits _ fresh i).symm.trans hsend)
    exact (h.sends i old hold).onMaxStreamData _
  · obtain ⟨old, hold, hle⟩ := h.produced frame hframe
    exact ⟨_, (send?_updatePeerLimits _ fresh _).trans (congrArg _ hold), hle⟩

end Sound

def Allowed (limit : ℕ) (offered : ℕ → Prop) (n : ℕ) : Prop := n ≤ limit ∨ ∃ maximum, offered maximum ∧ n ≤ maximum

section Allowed

variable {limit n : ℕ} {offered offered' : ℕ → Prop}

lemma Allowed.of_le {k : ℕ} (h : Allowed limit offered n) (hle : k ≤ n) : Allowed limit offered k :=
  h.imp hle.trans fun ⟨maximum, hoffered, hn⟩ => ⟨maximum, hoffered, hle.trans hn⟩

lemma Allowed.mono (h : Allowed limit offered n) (hoffered : ∀ maximum, offered maximum → offered' maximum) :
    Allowed limit offered' n := h.imp_right fun ⟨maximum, hmaximum, hn⟩ => ⟨maximum, hoffered maximum hmaximum, hn⟩

lemma Allowed.raise (h : Allowed limit offered n) (hoffered : ∀ maximum, offered maximum → offered' maximum)
    {maximum : ℕ}
    (hmaximum : offered' maximum) : Allowed limit offered' (max n maximum) := by
  rcases le_total n maximum with hle | hle
  · rw [max_eq_right hle]
    exact .inr ⟨maximum, hmaximum, le_rfl⟩
  · rw [max_eq_left hle]
    exact h.mono hoffered

end Allowed

def creditOn (fresh : FlowControlLimits) (i : ℕ) : ℕ :=
  if isClientInitiated i then fresh.maxStreamDataBidiRemote else fresh.maxStreamDataBidiLocal

structure Granted (fresh : FlowControlLimits) (r : Resumption) : Prop where
  peer : r.manager.peerLimits = fresh
  credit : ∀ i send, r.manager.send? i = some send →
    Allowed (creditOn fresh i) (fun n => .maxStreamData i n ∈ r.granted) send.maxStreamData
  data : Allowed fresh.maxData (fun n => .maxData n ∈ r.granted) r.manager.maxData
  charged : r.manager.dataSent ≤ r.manager.maxData
  streams : Allowed fresh.maxStreamsBidi (fun n => .maxStreams n true ∈ r.granted) r.manager.maxStreamsBidi
  opened : r.manager.nextBidiSequence ≤ r.manager.maxStreamsBidi

section Granted

variable {r : Resumption} {fresh : FlowControlLimits} {i : ℕ}

lemma Granted.setSend (h : Granted fresh r) {send' : SendStream} (dataSent : ℕ) (produced : List Stream)
    (granted : List Frame)
    (hgranted : ∀ frame ∈ r.granted, frame ∈ granted) (hcharged : dataSent ≤ r.manager.maxData)
    (hcredit : Allowed (creditOn fresh i) (fun n => .maxStreamData i n ∈ granted) send'.maxStreamData) :
    Granted fresh ⟨{ r.manager.setSend i send' with dataSent := dataSent }, produced, granted⟩ where
  peer := h.peer
  credit j send hsend := by
    have hsend := (StreamManager.send?_setSend r.manager i j send').symm.trans hsend
    split_ifs at hsend with hj
    · cases hsend
      exact hj ▸ hcredit
    · exact (h.credit j send hsend).mono fun _ => hgranted _
  data := h.data.mono fun _ => hgranted _
  charged := hcharged
  streams := h.streams.mono fun _ => hgranted _
  opened := h.opened

lemma Granted.onSend (h : Granted fresh r) (granted : List Frame) (hgranted : ∀ frame ∈ r.granted, frame ∈ granted)
    (hf : ∀ send send', r.manager.send? i = some send → f send = .ok send' →
      Allowed (creditOn fresh i) (fun n => .maxStreamData i n ∈ granted) send'.maxStreamData) :
    Granted fresh { r.onSend i f with granted := granted } := by
  refine Ensures.final (P := fun m => Granted fresh ⟨m, r.produced, granted⟩) ?_
  apply (StreamManager.withSend_spec r.manager i f).mono
  · rintro _ _ ⟨send, send', hsend, heq, rfl⟩
    exact h.setSend r.manager.dataSent r.produced granted hgranted h.charged (hf send send' hsend heq)
  · rintro _ _ ⟨rfl, -⟩
    exact ⟨h.peer, fun j send hsend => (h.credit j send hsend).mono fun _ => hgranted _,
      h.data.mono fun _ => hgranted _, h.charged, h.streams.mono fun _ => hgranted _, h.opened⟩

lemma Granted.openBidi (h : Granted fresh r) (hs : r.Sound) :
    Granted fresh { r with manager := finalState StreamManager.openBidi r.manager } := by
  refine Ensures.final (P := fun m => Granted fresh { r with manager := m }) ?_
  apply (StreamManager.openBidi_spec r.manager).mono
  · rintro _ _ ⟨rfl, hlimit, rfl⟩
    refine ⟨h.peer, fun j send hsend => ?_, h.data, h.charged, h.streams, hlimit⟩
    have hsend := (StreamManager.send?_setHalf _ _ j _).symm.trans hsend
    split_ifs at hsend with hj
    · cases hsend
      have hclient : isClientInitiated j = true := by rw [hj, StreamManager.isClientInitiated_localId, hs.isClient]
      rw [creditOn, if_pos hclient, ← h.peer]
      exact .inl le_rfl
    · exact h.credit j send hsend
  · rintro _ _ ⟨rfl, -⟩
    exact h

lemma Granted.receives (h : Granted fresh r) (hs : r.Sound) (hreceives : r.manager.Receives m') :
    Granted fresh { r with manager := m' } := by
  have houtlook := hreceives.outlook
  simp only [StreamManager.outlook, StreamManager.Outlook.mk.injEq] at houtlook
  obtain ⟨-, hpeer, hsequence, hmax, hstreams, hsent⟩ := houtlook
  refine ⟨hpeer.trans h.peer, fun i send hsend => ?_, hmax ▸ h.data, ?_, hstreams ▸ h.streams, ?_⟩
  · rcases hreceives.sends i with hsame | ⟨hserver, -, hnew⟩
    · exact h.credit i send (hsame.symm.trans hsend)
    · cases hnew.symm.trans hsend
      rw [hs.isClient] at hserver
      rw [creditOn, if_neg hserver, ← h.peer]
      exact .inl le_rfl
  · dsimp only
    rw [hsent, hmax]
    exact h.charged
  · dsimp only
    rw [hsequence, hstreams]
    exact h.opened

lemma Granted.step (h : Granted fresh r) (hs : r.Sound) (op : Op) : Granted fresh (r.step op) := by
  have hkept : ∀ frame, ∀ f ∈ r.granted, f ∈ frame :: r.granted := fun _ _ => List.mem_cons_of_mem _
  cases op with
  | openBidi => exact h.openBidi hs
  | write i data fin =>
    refine h.onSend r.granted (fun _ => id) fun send send' hsend hwrite => ?_
    obtain ⟨-, -, hlimit⟩ := (hs.sends i send hsend).write hwrite
    exact hlimit ▸ h.credit i send hsend
  | nextFrame i maxBytes =>
    rw [Resumption.step]
    split
    · next frame m' hnext =>
      obtain ⟨-, send, send', hsend, hm', hlimit, hcharge⟩ := hs.nextFrame hnext
      have hcharged := h.charged
      rw [hm']
      exact h.setSend _ _ r.granted (fun _ => id) (by omega) (hlimit ▸ h.credit i send hsend)
    · next e m' hnext =>
      obtain ⟨rfl, -⟩ := (StreamManager.nextFrame_spec r.manager i maxBytes).of_error hnext
      exact h
  | requeue k =>
    rw [Resumption.step]
    split
    · next frame hframe =>
      refine h.onSend r.granted (fun _ => id) fun send send' hsend hrequeue => ?_
      cases hrequeue
      rw [SendStream.requeue]
      split_ifs <;> exact h.credit _ send hsend
    · exact h
  | acked k =>
    rw [Resumption.step]
    split
    · next frame hframe =>
      refine h.onSend r.granted (fun _ => id) fun send send' hsend hacked => ?_
      cases hacked
      exact h.credit _ send hsend
    · exact h
  | receive frame => exact h.receives hs (.handleStream r.manager frame)
  | maxData maximum =>
    refine ⟨h.peer, fun i send hsend => (h.credit i send hsend).mono fun _ => hkept _ _, ?_, ?_, ?_, h.opened⟩
    · exact h.data.raise (fun _ => hkept _ _) List.mem_cons_self
    · exact h.charged.trans (le_max_left _ _)
    · exact h.streams.mono fun _ => hkept _ _
  | maxStreamData i maximum =>
    refine h.onSend _ (hkept _) fun send send' hsend hcredit => ?_
    cases hcredit
    exact (h.credit i send hsend).raise (fun _ => hkept _ _) List.mem_cons_self
  | maxStreams maximum bidirectional =>
    have hcredit : ∀ i send, r.manager.send? i = some send → Allowed (creditOn fresh i)
        (fun n => .maxStreamData i n ∈ .maxStreams maximum bidirectional :: r.granted) send.maxStreamData :=
      fun i send hsend => (h.credit i send hsend).mono fun _ => hkept _ _
    have hdata : Allowed fresh.maxData (fun n => .maxData n ∈ .maxStreams maximum bidirectional :: r.granted)
        r.manager.maxData := h.data.mono fun _ => hkept _ _
    cases bidirectional with
    | true =>
      refine ⟨h.peer, hcredit, hdata, h.charged, ?_, h.opened.trans (le_max_left _ _)⟩
      exact h.streams.raise (fun _ => hkept _ _) List.mem_cons_self
    | false => exact ⟨h.peer, hcredit, hdata, h.charged, h.streams.mono fun _ => hkept _ _, h.opened⟩

lemma Granted.run (h : Granted fresh r) (hs : r.Sound) (ops : List Op) : Granted fresh (r.run ops) := by
  induction ops generalizing r with
  | nil => exact h
  | cons op ops ih => exact ih (h.step hs op) (hs.step op)

end Granted

def Own (r : Resumption) : Prop := ∀ i send, r.manager.send? i = some send → isClientInitiated i = true

section Own

variable {r : Resumption}

lemma Own.setSend (h : r.Own) {i : ℕ} {send : SendStream} (hsend : r.manager.send? i = some send)
    (send' : SendStream)
    (dataSent : ℕ) (produced : List Stream) (granted : List Frame) :
    Own ⟨{ r.manager.setSend i send' with dataSent := dataSent }, produced, granted⟩ := by
  intro j s hs
  have hs := (StreamManager.send?_setSend r.manager i j send').symm.trans hs
  split_ifs at hs with hj
  · exact hj ▸ h i send hsend
  · exact h j s hs

lemma Own.onSend (h : r.Own) (i : ℕ) (f : SendStream → Except Raised SendStream) : (r.onSend i f).Own := by
  refine Ensures.final (P := fun m => Own ⟨m, r.produced, r.granted⟩) ?_
  apply (StreamManager.withSend_spec r.manager i f).mono
  · rintro _ _ ⟨send, send', hsend, -, rfl⟩
    exact h.setSend hsend send' r.manager.dataSent r.produced r.granted
  · rintro _ _ ⟨rfl, -⟩
    exact h

lemma Own.step (h : r.Own) (hs : r.Sound) {op : Op} (hearly : op.isEarly = true) : (r.step op).Own := by
  cases op with
  | openBidi =>
    refine Ensures.final (P := fun m => Own ⟨m, r.produced, r.granted⟩) ?_
    apply (StreamManager.openBidi_spec r.manager).mono
    · rintro _ _ ⟨rfl, -, rfl⟩ i send hsend
      have hsend := (StreamManager.send?_setHalf _ _ i _).symm.trans hsend
      split_ifs at hsend with hi
      · rw [hi, StreamManager.isClientInitiated_localId, hs.isClient]
      · exact h i send hsend
    · rintro _ _ ⟨rfl, -⟩
      exact h
  | write i data fin => exact h.onSend i _
  | nextFrame i maxBytes =>
    rw [Resumption.step]
    split
    · next frame m' hnext =>
      obtain ⟨-, send, send', hsend, hm', -⟩ := hs.nextFrame hnext
      rw [hm']
      exact h.setSend hsend send' _ _ _
    · next e m' hnext =>
      obtain ⟨rfl, -⟩ := (StreamManager.nextFrame_spec r.manager i maxBytes).of_error hnext
      exact h
  | requeue k =>
    rw [Resumption.step]
    split
    · exact h.onSend _ _
    · exact h
  | _ => cases hearly

lemma Own.run (h : r.Own) (hs : r.Sound) {ops : List Op} (hearly : ∀ op ∈ ops, op.isEarly = true) :
    (r.run ops).Own := by
  induction ops generalizing r with
  | nil => exact h
  | cons op ops ih =>
    have hop := hearly op List.mem_cons_self
    exact ih (h.step hs hop) (hs.step op) fun op' hop' => hearly op' (List.mem_cons_of_mem _ hop')

end Own

/-- The fresh limits cover what the client holds: the credit of each stream, the streams it has opened, and
the bytes it has sent. -/
structure Covers (fresh : FlowControlLimits) (r : Resumption) : Prop where
  credit : ∀ i send, r.manager.send? i = some send → send.maxStreamData ≤ fresh.maxStreamDataBidiRemote
  streams : r.manager.nextBidiSequence ≤ fresh.maxStreamsBidi
  data : r.manager.dataSent ≤ fresh.maxData

lemma Covers.refresh {fresh : FlowControlLimits} {r : Resumption} (h : Covers fresh r) (hown : r.Own) :
    Granted fresh (r.refresh fresh) where
  peer := rfl
  credit i send hsend := by
    obtain ⟨old, hold, rfl⟩ := Option.map_eq_some_iff.1 ((send?_updatePeerLimits _ fresh i).symm.trans hsend)
    rw [creditOn, if_pos (hown i old hold)]
    exact .inl (max_le (h.credit i old hold) le_rfl)
  data := .inl le_rfl
  charged := h.data
  streams := .inl le_rfl
  opened := h.streams

/-- Where the fresh limits cover what the client holds, every frame it then produces lies within them, or
within credit that came later: on its stream, in the number of streams, and over all streams. -/
theorem rejected_early_data_within (localLimits remembered fresh : FlowControlLimits) (early ops : List Op)
    (hearly : ∀ op ∈ early, op.isEarly = true) (hcovers : Covers fresh ((start localLimits remembered).run early))
    (i : ℕ) (maxBytes : ℤ) (frame : Stream) (m' : StreamManager)
    (hnext : StreamManager.nextFrame i maxBytes
      ((((start localLimits remembered).run early).refresh fresh).run ops).manager = .ok (some frame) m') :
    Allowed (creditOn fresh frame.streamId)
      (fun n => .maxStreamData frame.streamId n ∈
        ((((start localLimits remembered).run early).refresh fresh).run ops).granted)
      (frame.offset + frame.data.length) ∧
    (isClientInitiated frame.streamId = true → Allowed fresh.maxStreamsBidi
      (fun n => .maxStreams n true ∈ ((((start localLimits remembered).run early).refresh fresh).run ops).granted)
      (frame.streamId / 4 + 1)) ∧
    Allowed fresh.maxData
      (fun n => .maxData n ∈ ((((start localLimits remembered).run early).refresh fresh).run ops).granted)
        m'.sentTotal := by
  have hstart := sound_start localLimits remembered
  have hearlySound := hstart.run early
  have hown : ((start localLimits remembered).run early).Own :=
    Own.run (fun i send h => by simp [start, StreamManager.new, StreamManager.send?] at h) hstart hearly
  have hrefreshed := hearlySound.refresh fresh
  have hsound := hrefreshed.run ops
  have hgranted := (hcovers.refresh hown).run hrefreshed ops
  generalize (((start localLimits remembered).run early).refresh fresh).run ops = r at *
  -- the state after the frame is again one of the run
  have hstep : r.step (.nextFrame i maxBytes) = ⟨m', frame :: r.produced, r.granted⟩ := by
    simp only [Resumption.step, hnext, Option.toList_some, List.singleton_append]
  have hsound' := hsound.step (.nextFrame i maxBytes)
  have hgranted' := hgranted.step hsound (.nextFrame i maxBytes)
  rw [hstep] at hsound' hgranted'
  obtain ⟨send, hsend, hle⟩ := hsound'.produced frame List.mem_cons_self
  refine ⟨?_, fun hclient => ?_, ?_⟩
  · exact (hgranted'.credit _ send hsend).of_le (hle.trans (hsound'.sends _ send hsend).within)
  · obtain ⟨half, hhalf, -⟩ := Option.bind_eq_some_iff.1 hsend
    have hsequence := hsound'.numbered _ half hhalf (hclient.trans hsound'.isClient.symm)
    exact hgranted'.streams.of_le (Nat.succ_le_of_lt (hsequence.trans_le hgranted'.opened))
  · have htotal : m'.dataSent = m'.sentTotal := hsound'.total
    exact hgranted'.data.of_le (htotal ▸ hgranted'.charged)

def rejected (data : Bytes) (fresh : FlowControlLimits) : Resumption :=
  (((start ⟨9, 9, 9, 9, 1, 1⟩ ⟨5, 5, 5, 5, 1, 1⟩).run
    [.openBidi, .write 0 data false, .nextFrame 0 100]).refresh fresh).run [.requeue 0]

theorem rejected_early_data_within_three :
    ∃ m', StreamManager.nextFrame 0 100 (rejected [1, 2, 3] ⟨6, 6, 6, 6, 1, 1⟩).manager =
        .ok (some ⟨0, 0, [1, 2, 3], false⟩) m' ∧
      Allowed 6 (fun n => .maxData n ∈ (rejected [1, 2, 3] ⟨6, 6, 6, 6, 1, 1⟩).granted) m'.sentTotal := by
  have hcovers : Covers ⟨6, 6, 6, 6, 1, 1⟩ ((start ⟨9, 9, 9, 9, 1, 1⟩ ⟨5, 5, 5, 5, 1, 1⟩).run
      [.openBidi, .write 0 [1, 2, 3] false, .nextFrame 0 100]) := by
    refine ⟨fun i send hsend => ?_, by decide, by decide⟩
    obtain ⟨half, hhalf, hs⟩ := Option.bind_eq_some_iff.1 hsend
    have hitem := Dict.get?_eq_some_iff.1 hhalf
    cases List.mem_singleton.1 hitem
    cases hs
    decide
  refine ⟨_, rfl, ?_⟩
  exact (rejected_early_data_within _ _ _ _ [.requeue 0] (by decide) hcovers 0 100 _ _ rfl).2.2

theorem rejected_early_data_beyond :
    ∃ m', StreamManager.nextFrame 0 100 (rejected [1, 2, 3, 4, 5] ⟨2, 2, 2, 2, 0, 0⟩).manager =
        .ok (some ⟨0, 0, [1, 2, 3, 4, 5], false⟩) m' ∧
      (rejected [1, 2, 3, 4, 5] ⟨2, 2, 2, 2, 0, 0⟩).granted = [] ∧ m'.sentTotal = 5 :=
  ⟨_, rfl, rfl, by decide⟩

end Resumption

end Dsquic.Streams
