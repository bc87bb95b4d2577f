import Dsquic.Connection.Unheard

/-!
What a frame that is to be sent again refers to exists, so that no lookup can fail.
-/

namespace Dsquic.Connection

open Lib Wire Streams Recovery

variable {frame : Frame} {packets : List SentPacket} {level : Level}

lemma mem_inHand :
    (level, frame) ∈ inHand packets ↔ ∃ packet ∈ packets, packet.level = level ∧ frame ∈ packet.frames := by
  simp only [inHand, List.mem_flatMap, List.mem_map, Prod.mk.injEq]
  constructor
  · rintro ⟨packet, hpacket, f, hf, rfl, rfl⟩
    exact ⟨packet, hpacket, rfl, hf⟩
  · rintro ⟨packet, hpacket, rfl, hf⟩
    exact ⟨packet, hpacket, frame, hf, rfl, rfl⟩

namespace Core

variable {s s' : Core}

structure Grows (s s' : Core) : Prop where
  sends : ∀ i, (s.send? i).isSome → (s'.send? i).isSome
  recvs : ∀ i, (s.recv? i).isSome → (s'.recv? i).isSome

lemma Grows.refl (s : Core) : s.Grows s := ⟨fun _ => id, fun _ => id⟩

variable {m : StreamManager} {i dataSent : ℕ}

lemma grows_setSend {send : SendStream} (hm : s.streams = some m)
    (hs' : s'.streams = some { m.setSend i send with dataSent := dataSent }) : s.Grows s' := by
  refine ⟨fun j h => ?_, fun j h => ?_⟩
  · have hj : ({ m.setSend i send with dataSent := dataSent } : StreamManager).send? j =
        if j = i then some send else m.send? j := m.send?_setSend i j send
    simp only [send?, hm, hs', Option.bind_some, hj] at h ⊢
    split_ifs
    · rfl
    · exact h
  · have hj : ({ m.setSend i send with dataSent := dataSent } : StreamManager).recv? j = m.recv? j :=
      m.recv?_setSend i j send
    simpa only [recv?, hm, hs', Option.bind_some, hj] using h

lemma grows_manage {m m' : StreamManager} (hm : s.streams = some m) (h : m.Preserves m')
    (hs' : s'.streams = some m') : s.Grows s' := by
  refine ⟨fun i hi => ?_, fun i hi => ?_⟩
  · simp only [send?, hm, hs', Option.bind_some] at hi ⊢
    obtain ⟨send, hsend⟩ := Option.isSome_iff_exists.1 hi
    obtain ⟨limit, hlimit⟩ := h.sends i send hsend
    exact Option.isSome_iff_exists.2 ⟨_, hlimit⟩
  · simp only [recv?, hm, hs', Option.bind_some] at hi ⊢
    exact h.recvs i hi

lemma Grows.of_effect (h : Effect s s') : s.Grows s' := by
  cases h with
  | requeueStream level m send frame rest h hm hsend => exact grows_setSend hm rfl
  | ackStream level m send frame rest h hm hsend => exact grows_setSend hm rfl
  | takeStream m i send send' frame maxBytes credit dataSent hm hsend h => exact grows_setSend hm rfl
  | write m i send send' data fin hm hsend h => exact grows_setSend hm rfl
  | manage m m' hm h hcredits => exact grows_manage hm h rfl
  | extend m m' stream event frames hm h => exact grows_manage hm h rfl
  | create isClient localLimits peerLimits h =>
    refine ⟨fun i hi => ?_, fun i hi => ?_⟩
    · simp [send?, h] at hi
    · simp [recv?, h] at hi
  | close frame =>
    simp only [close]
    split_ifs
    · exact .refl s
    · exact ⟨fun _ => id, fun _ => id⟩
  | abort frame errorCode reason =>
    simp only [close]
    split_ifs
    · exact ⟨fun _ => id, fun _ => id⟩
    · exact ⟨fun _ => id, fun _ => id⟩
  | _ => exact ⟨fun _ => id, fun _ => id⟩

def Sendable (s : Core) : Frame → Prop
  | .stream frame => (s.send? frame.streamId).isSome
  | .maxStreamData i _ => (s.recv? i).isSome
  | _ => True

lemma Sendable.grows (h : s.Sendable frame) (hgrows : s.Grows s') : s'.Sendable frame := by
  cases frame with
  | stream frame => exact hgrows.sends _ h
  | maxStreamData i maximum => exact hgrows.recvs _ h
  | _ => trivial

lemma Queueable.grows (h : s.Queueable frame) (hgrows : s.Grows s') : s'.Queueable frame := by
  cases frame with
  | maxStreamData i maximum => exact hgrows.recvs _ h
  | stream | crypto | ack | ping | padding | connectionClose => exact h
  | _ => trivial

lemma Queueable.sendable (h : s.Queueable frame) : s.Sendable frame := by
  cases frame with
  | maxStreamData i maximum => exact h
  | stream frame => exact absurd h id
  | _ => trivial

structure Backed (s : Core) : Prop where
  holds : ∀ level frame, (level, frame) ∈ s.held → s.Sendable frame
  sends : ∀ level, ∀ packet ∈ (s.recovery.spaces level).sent.values, ∀ frame ∈ packet.frames, s.Sendable frame
  controls : ∀ frame ∈ s.controlFrames, s.Queueable frame
  halves : ∀ i send, s.send? i = some send → send.streamId = i ∧ ∀ frame ∈ send.retransmit, frame.streamId = i
  numbered : ∀ m, s.streams = some m → m.Numbered
  levels : ∀ level, ∀ packet ∈ (s.recovery.spaces level).sent.values, packet.level = level
  isOpen : s.recovery.controller.Open
  size : s.recovery.controller.maxDatagramSize = s.config.maxDatagramSize
  idle : ∀ level, ∀ packet ∈ (s.recovery.spaces level).sent.values, 0 < s.config.maxDatagramSize
  tls : s.isClient = true → s.hasTls = true

section Effects

lemma Backed.of_same (h : s.Backed) (hheld : s'.held = s.held) (hrecovery : s'.recovery = s.recovery)
    (hcontrol : s'.controlFrames = s.controlFrames) (hstreams : s'.streams = s.streams)
    (hconfig : s'.config = s.config)
    (htls : s'.isClient = true → s'.hasTls = true) : s'.Backed := by
  have hsendable : ∀ frame, s.Sendable frame → s'.Sendable frame :=
    fun frame hframe => hframe.grows ⟨fun i hi => by rwa [send?, hstreams], fun i hi => by rwa [recv?, hstreams]⟩
  have hsend : ∀ i, s'.send? i = s.send? i := fun i => by rw [send?, hstreams, send?]
  have hrecv : ∀ i, s'.recv? i = s.recv? i := fun i => by rw [recv?, hstreams, recv?]
  refine ⟨?_, ?_, ?_, ?_, ?_, ?_, ?_, ?_, ?_, htls⟩
  · rw [hheld]
    exact fun level frame hmem => hsendable frame (h.holds level frame hmem)
  · rw [hrecovery]
    exact fun level packet hmem frame hframe => hsendable frame (h.sends level packet hmem frame hframe)
  · rw [hcontrol]
    exact fun frame hmem => (h.controls frame hmem).grows ⟨fun i hi => by rwa [hsend], fun i hi => by rwa [hrecv]⟩
  · simp only [hsend]
    exact h.halves
  · rw [hstreams]
    exact h.numbered
  · rw [hrecovery]
    exact h.levels
  · rw [hrecovery]
    exact h.isOpen
  · rw [hrecovery, hconfig]
    exact h.size
  · rw [hrecovery, hconfig]
    exact h.idle

lemma Backed.hold (h : s.Backed) {frames : List (Level × Frame)}
    (hframes : ∀ level frame, (level, frame) ∈ frames → s.Sendable frame) : (s.hold frames).Backed :=
  { h with
    holds := fun level frame hmem => by
      rcases List.mem_append.1 hmem with hmem | hmem
      · exact h.holds level frame hmem
      · exact hframes level frame hmem }

lemma Backed.recovery (h : s.Backed) {recovery : LossDetection}
    (hsent : ∀ level, ∀ packet ∈ (recovery.spaces level).sent.values,
      packet ∈ (s.recovery.spaces level).sent.values)
    (hkeeps : s.recovery.controller.Keeps recovery.controller) : { s with recovery := recovery }.Backed :=
  { h with
    sends := fun level packet hmem => h.sends level packet (hsent level packet hmem)
    levels := fun level packet hmem => h.levels level packet (hsent level packet hmem)
    isOpen := hkeeps.isOpen h.isOpen
    size := hkeeps.size.trans h.size
    idle := fun level packet hmem => h.idle level packet (hsent level packet hmem) }

lemma Backed.emptied (h : s.Backed) (level : Level) (discarded : Bool) :
    { s with recovery := s.recovery.emptied level discarded }.Backed :=
  h.recovery (fun _ _ hmem => LossDetection.mem_sent_emptied hmem) (NewReno.releases _ _).1

lemma Backed.inHand (h : s.Backed)
    (hpackets : ∀ packet ∈ packets, packet ∈ (s.recovery.spaces level).sent.values) (l : Level) (frame : Frame)
    (hmem : (l, frame) ∈ inHand packets) : s.Sendable frame := by
  obtain ⟨packet, hpacket, -, hframe⟩ := mem_inHand.1 hmem
  exact h.sends level packet (hpackets packet hpacket) frame hframe

lemma Backed.streams (h : s.Backed) {streams : Option StreamManager} {held : List (Level × Frame)}
    (hgrows : s.Grows { s with streams := streams, held := held })
    (hheld : ∀ entry ∈ held, entry ∈ s.held)
    (hhalves : ∀ i send, { s with streams := streams, held := held }.send? i = some send →
      send.streamId = i ∧ ∀ frame ∈ send.retransmit, frame.streamId = i)
    (hnumbered : ∀ m, streams = some m → m.Numbered) :
    { s with streams := streams, held := held }.Backed :=
  { h with
    holds := fun level frame hmem => (h.holds level frame (hheld _ hmem)).grows hgrows
    sends := fun level packet hmem frame hframe => (h.sends level packet hmem frame hframe).grows hgrows
    controls := fun frame hmem => (h.controls frame hmem).grows hgrows
    halves := hhalves
    numbered := hnumbered }

lemma Backed.halves_setSend (h : s.Backed) {send : SendStream}
    (hm : s.streams = some m) (hs' : s'.streams = some { m.setSend i send with dataSent := dataSent })
    (hsend : send.streamId = i ∧ ∀ frame ∈ send.retransmit, frame.streamId = i) (j : ℕ) (send' : SendStream)
    (hj : s'.send? j = some send') : send'.streamId = j ∧ ∀ frame ∈ send'.retransmit, frame.streamId = j := by
  have hget : ({ m.setSend i send with dataSent := dataSent } : StreamManager).send? j =
      if j = i then some send else m.send? j := m.send?_setSend i j send
  simp only [send?, hs', Option.bind_some, hget] at hj
  split_ifs at hj with hij
  · cases hj
    rw [hij]
    exact hsend
  · exact h.halves j send' (by simp only [send?, hm, Option.bind_some, hj])

lemma Backed.numbered_setSend (h : s.Backed) {old : SendStream} {i : ℕ}
    (hm : s.streams = some m) (hold : m.send? i = some old) (send : SendStream) (dataSent : ℕ)
    (m' : StreamManager) (hm' : some { m.setSend i send with dataSent := dataSent } = some m') :
    m'.Numbered := by
  cases hm'
  exact ((h.numbered m hm).setSend hold send).of_streams_eq rfl rfl rfl

lemma Backed.half (h : s.Backed) {i : ℕ} {send : SendStream} (hm : s.streams = some m)
    (hsend : m.send? i = some send) :
    send.streamId = i ∧ ∀ frame ∈ send.retransmit, frame.streamId = i :=
  h.halves i send (by simp only [send?, hm, Option.bind_some, hsend])

lemma retransmit_requeue {send : SendStream} {frame : Stream}
    (h : ∀ f ∈ send.retransmit, f.streamId = frame.streamId) :
    ∀ f ∈ (send.requeue frame).retransmit, f.streamId = frame.streamId := by
  intro f hf
  simp only [SendStream.requeue] at hf
  split_ifs at hf
  · rcases List.mem_append.1 hf with hf | hf
    · exact h f hf
    · rw [List.mem_singleton.1 hf]
  · exact h f hf

lemma streamId_requeue (send : SendStream) (frame : Stream) : (send.requeue frame).streamId = send.streamId := by
  simp only [SendStream.requeue]
  split_ifs <;> rfl

lemma nextFrame_ids {send send' : SendStream} {frame : Stream} {maxBytes credit : ℤ} {i : ℕ}
    (hsend : send.streamId = i ∧ ∀ f ∈ send.retransmit, f.streamId = i)
    (h : send.nextFrame maxBytes credit = (some frame, send')) :
    frame.streamId = i ∧ send'.streamId = i ∧ ∀ f ∈ send'.retransmit, f.streamId = i := by
  rcases send.nextFrame_cases maxBytes credit with hnone | ⟨lost, rest, hlost, heq⟩ | ⟨size, fin, -, -, -, heq⟩
  · rw [hnone] at h
    simp at h
  · rw [heq] at h
    cases h
    exact ⟨hsend.2 _ (by simp [hlost]), hsend.1, fun f hf => hsend.2 f (by simp [hlost, hf])⟩
  · rw [heq] at h
    cases h
    exact ⟨hsend.1, hsend.1, hsend.2⟩

lemma write_ids {send send' : SendStream} {data : Bytes} {fin : Bool} (h : send.write data fin = .ok send') :
    send'.streamId = send.streamId ∧ send'.retransmit = send.retransmit := by
  simp only [SendStream.write] at h
  split_ifs at h
  · cases h
    exact ⟨rfl, rfl⟩
  · cases h
    exact ⟨rfl, rfl⟩

lemma Backed.manage (h : s.Backed) {m m' : StreamManager} (hm : s.streams = some m) (hp : m.Preserves m') :
    { s with streams := some m' }.Backed := by
  refine h.streams (grows_manage hm hp rfl) (fun _ hmem => hmem) (fun i send' hsend' => ?_) ?_
  rotate_left
  · rintro _ ⟨⟩
    exact hp.numbered (h.numbered m hm)
  have hsend' : m'.send? i = some send' := hsend'
  cases hsend : m.send? i with
  | none =>
    obtain ⟨limit, rfl⟩ := hp.opened i send' hsend' hsend
    exact ⟨rfl, by simp [SendStream.new]⟩
  | some send =>
    obtain ⟨limit, hlimit⟩ := hp.sends i send hsend
    rw [hlimit] at hsend'
    cases hsend'
    have hhalf := h.half hm hsend
    exact hhalf

lemma Backed.send (h : s.Backed) (packet : SentPacket) (hheld : s.held = packet.frames.map (packet.level, ·))
    (hsize : 0 < s.config.maxDatagramSize) :
    { s with recovery := s.recovery.onPacketSent packet, held := [] }.Backed := by
  have hkeeps := s.recovery.controller.keeps_onPacketSent packet
  refine { h with
    holds := fun _ _ hmem => absurd hmem (List.not_mem_nil)
    sends := fun level p hmem frame hframe => ?_
    levels := fun level p hmem => ?_
    isOpen := hkeeps.isOpen h.isOpen
    size := hkeeps.size.trans h.size
    idle := fun _ _ _ => hsize }
  · rcases LossDetection.mem_sent_onPacketSent hmem with ⟨rfl, -⟩ | hmem
    · exact h.holds p.level frame (by simp [hheld, hframe])
    · exact h.sends level p hmem frame hframe
  · rcases LossDetection.mem_sent_onPacketSent hmem with ⟨rfl, rfl⟩ | hmem
    · rfl
    · exact h.levels level p hmem

lemma Backed.close (h : s.Backed) (frame : ConnectionClose) : (s.close frame).Backed := by
  simp only [Core.close]
  split_ifs
  · exact h
  · exact { h with }

theorem Backed.effect (h : s.Backed) (heffect : Effect s s') : s'.Backed := by
  have hgrows := Grows.of_effect heffect
  cases heffect with
  | adopt => exact h.of_same rfl rfl rfl rfl rfl fun _ => rfl
  | discard level hlevel hdiscarded =>
    exact { h.emptied level true with }
  | confirm => exact { h with }
  | close frame => exact h.close frame
  | abort frame errorCode reason =>
    have hnote : (s.note (.aborted s.state)).Backed := { h with }
    exact { hnote.close frame with }
  | requeueCrypto level crypto rest hheld =>
    have hrest : ∀ entry ∈ rest, entry ∈ s.held := fun entry hmem => by simp [hheld, hmem]
    exact { h with holds := fun level frame hmem => h.holds level frame (hrest _ hmem) }
  | requeueStream level m send frame rest hheld hm hsend =>
    have hhalf := h.half hm hsend
    exact h.streams hgrows (fun entry hmem => by simp [hheld, hmem])
      (h.halves_setSend hm rfl ⟨(streamId_requeue _ _).trans hhalf.1, retransmit_requeue hhalf.2⟩)
      (h.numbered_setSend hm hsend _ _)
  | ackStream level m send frame rest hheld hm hsend =>
    have hhalf := h.half hm hsend
    exact h.streams hgrows (fun entry hmem => by simp [hheld, hmem]) (h.halves_setSend hm rfl hhalf)
      (h.numbered_setSend hm hsend _ _)
  | drop level frame rest hheld hspent =>
    have hrest : ∀ entry ∈ rest, entry ∈ s.held := fun entry hmem => by simp [hheld, hmem]
    exact { h with holds := fun level frame hmem => h.holds level frame (hrest _ hmem) }
  | queue frame hframe =>
    refine { h with controls := fun f hmem => ?_ }
    rcases List.mem_append.1 hmem with hmem | hmem
    · exact h.controls f hmem
    · rw [List.mem_singleton.1 hmem]
      exact hframe
  | takeControl frame rest hcontrol =>
    have hrest : { s with controlFrames := rest }.Backed :=
      { h with controls := fun f hmem => h.controls f (by simp [hcontrol, show f ∈ rest from hmem]) }
    apply hrest.hold
    intro level f hmem
    cases List.mem_singleton.1 hmem
    exact (h.controls frame (by simp [hcontrol])).sendable
  | takeStream m i send send' frame maxBytes credit dataSent hm hsend hnext =>
    have hids := nextFrame_ids (h.half hm hsend) hnext
    have hstreams : { s with streams := some { m.setSend i send' with dataSent := dataSent } }.Backed :=
      h.streams (grows_setSend hm rfl) (fun _ hmem => hmem) (h.halves_setSend hm rfl hids.2)
        (h.numbered_setSend hm hsend _ _)
    apply hstreams.hold
    intro level f hmem
    cases List.mem_singleton.1 hmem
    simp only [Sendable, send?, Option.bind_some, hids.1]
    exact Option.isSome_iff_exists.2 ⟨send', (m.send?_setSend i i send').trans (if_pos rfl)⟩
  | takeDone hpending =>
    have hdone : { s with donePending := false }.Backed := { h with }
    apply hdone.hold
    intro l f hmem
    cases List.mem_singleton.1 hmem
    trivial
  | choose level frame hplain hack =>
    apply h.hold
    intro l f hmem
    cases List.mem_singleton.1 hmem
    cases frame with
    | stream frame => simp [isPlain] at hplain
    | maxStreamData i maximum => simp [isPlain] at hplain
    | _ => trivial
  | copyCrypto level packet crypto hpacket hframe =>
    apply h.hold
    intro l f hmem
    cases List.mem_singleton.1 hmem
    trivial
  | resendCrypto level lost rest available hlost =>
    have hqueue : (s.onQueue level fun queue => { queue with
        cryptoRetransmit := if lost.data.drop available = [] then rest
          else ⟨lost.offset + (lost.data.take available).length, lost.data.drop available⟩ :: rest }).Backed :=
      { h with }
    apply hqueue.hold
    intro l f hmem
    cases List.mem_singleton.1 hmem
    trivial
  | sendCrypto level available =>
    have hqueue : (s.onQueue level fun queue => { queue with
        cryptoPending := queue.cryptoPending.drop available
        cryptoOffsetSent := queue.cryptoOffsetSent + (queue.cryptoPending.take available).length }).Backed :=
      { h with }
    apply hqueue.hold
    intro l f hmem
    cases List.mem_singleton.1 hmem
    trivial
  | send keys packet hdiscarded hnumber hheld hsize => exact { h.send packet hheld hsize with }
  | settle level acked lost recovery hsettles =>
    have hrecovery :=
      h.recovery (fun other packet hmem => LossDetection.mem_sent_settles hsettles hmem) hsettles.keeps
    apply hrecovery.hold
    apply h.inHand
    intro packet hpacket
    exact LossDetection.mem_sent_iff.2 (hsettles.wasSent packet (List.mem_append.1 hpacket))
  | tune recovery hspaces hkeeps hconfirmed =>
    exact h.recovery (fun level packet hmem => by rwa [hspaces] at hmem) hkeeps
  | restart level =>
    apply (h.emptied level _).hold
    apply h.inHand
    exact fun packet hpacket => hpacket
  | copy level packets hpackets => exact h.hold (h.inHand hpackets)
  | manage m m' hm hp hcredits => exact h.manage hm hp
  | extend m m' stream event frames hm hp hhandled hcredits hframes =>
    refine { h.manage hm hp with controls := fun f hmem => ?_ }
    rcases List.mem_append.1 hmem with hmem | hmem
    · exact (h.controls f hmem).grows hgrows
    · exact hframes f hmem
  | create isClient localLimits peerLimits hnone =>
    refine h.streams hgrows (fun _ hmem => hmem) (fun i send hsend => ?_) ?_
    · simp [send?, StreamManager.new, StreamManager.send?] at hsend
    · rintro _ ⟨⟩
      exact StreamManager.numbered_new _ _ _
  | write m i send send' data fin hm hsend hwrite =>
    obtain ⟨hid, hretransmit⟩ := write_ids hwrite
    have hhalf := h.half hm hsend
    exact { h.streams (grows_setSend hm rfl) (fun _ hmem => hmem)
      (h.halves_setSend hm rfl ⟨hid.trans hhalf.1, hretransmit ▸ hhalf.2⟩)
      (h.numbered_setSend hm hsend _ _) with }
  | lose => exact { h with holds := fun _ _ hmem => absurd hmem (List.not_mem_nil) }
  | _ => exact h.of_same rfl rfl rfl rfl rfl h.tls

structure Sound (s : Core) : Prop extends s.Backed where
  fresh : s.Fresh
  unheard : ¬s.Heard → s.Unheard

theorem Sound.effect (h : s.Sound) (heffect : Effect s s') : s'.Sound where
  toBacked := h.toBacked.effect heffect
  fresh := h.fresh.effect heffect
  unheard := Unheard.effect h.unheard h.fresh heffect

lemma Sound.lax (h : s.Sound) : { s with caller := { s.caller with lax := true } }.Sound where
  toBacked := h.toBacked.of_same rfl rfl rfl rfl rfl h.tls
  fresh := h.fresh
  unheard hunheard := absurd (.inl rfl) hunheard

theorem Sound.path (h : s.Sound) (hpath : Path s s') : s'.Sound :=
  hpath.invariant (fun _ _ heffect hs => hs.effect heffect) h

end Effects

end Core

end Dsquic.Connection
