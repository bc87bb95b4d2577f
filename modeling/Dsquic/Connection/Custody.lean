import Dsquic.Connection.Nonces

/-!
Where the bytes handed over for sending are kept until they are acknowledged.
-/

namespace Dsquic.Connection

open Lib Wire Streams Recovery

lemma Effect.intact {s s' : Core} (heffect : Effect s s') (h : s'.caller.intact = true) :
    s.caller.intact = true := by
  cases heffect with
  | lose => cases h
  | close frame =>
    simp only [Core.close] at h
    split_ifs at h <;> exact h
  | abort frame errorCode reason =>
    simp only [Core.close] at h
    split_ifs at h <;> exact h
  | _ => exact h

namespace Core

variable {s s' : Core} {level : Level}

def Carried (s : Core) (level : Level) (frame : Frame) : Prop :=
  (level, frame) ∈ s.held ∨ ∃ packet ∈ (s.recovery.spaces level).sent.values, frame ∈ packet.frames

lemma not_carried_initial (prims : Primitives) (isClient : Bool) (config : Config) (hostCid peerCid : Bytes)
    {frame : Frame} :
    ¬ (Core.initial prims isClient config hostCid peerCid).Carried level frame := by
  rintro (h | ⟨packet, hpacket, -⟩)
  · exact List.not_mem_nil h
  · exact List.not_mem_nil hpacket

inductive Released (s s' : Core) (level : Level) : Frame → Prop
  | lost (frame : Frame) (h : s'.caller.intact = false) : Released s s' level frame
  | discarded (frame : Frame) (h : (s'.queues level).discarded = true) (hlevel : level ≠ .oneRtt) :
      Released s s' level frame
  | requeuedCrypto (crypto : Crypto) (h : crypto ∈ (s'.queues level).cryptoRetransmit) :
      Released s s' level (.crypto crypto)
  | requeuedStream (frame : Stream) (send : SendStream) (h : s'.send? frame.streamId = some (send.requeue frame)) :
      Released s s' level (.stream frame)
  | ackedStream (frame : Stream) (send : SendStream)
      (h : s'.send? frame.streamId = some (send.onFrameAcked frame)) : Released s s' level (.stream frame)
  | spent (frame : Frame) (h : s.Spent level frame) : Released s s' level frame

section Carry

variable {frame : Frame} {packets : List SentPacket} {other : Level}

lemma Carried.mono (h : s.Carried level frame) (hheld : ∀ entry ∈ s.held, entry ∈ s'.held)
    (hsent : ∀ packet ∈ (s.recovery.spaces level).sent.values, packet ∈ (s'.recovery.spaces level).sent.values) :
    s'.Carried level frame := by
  rcases h with h | ⟨packet, hpacket, hframe⟩
  · exact .inl (hheld _ h)
  · exact .inr ⟨packet, hsent packet hpacket, hframe⟩

lemma Carried.hold (h : s.Carried level frame) (frames : List (Level × Frame)) :
    (s.hold frames).Carried level frame :=
  h.mono (fun _ hmem => List.mem_append_left _ hmem) fun _ => id

lemma Carried.putDown (h : s.Carried level frame) {entry : Level × Frame} {rest : List (Level × Frame)}
    (hheld : s.held = entry :: rest) : (level, frame) = entry ∨ { s with held := rest }.Carried level frame := by
  rcases h with h | h
  · rw [hheld] at h
    exact (List.mem_cons.1 h).imp_right .inl
  · exact .inr (.inr h)

lemma Carried.land (h : s.Carried level frame) (hlevels : ∀ packet ∈ (s.recovery.spaces level).sent.values,
      packet.level = level) {recovery : LossDetection}
    (hsent : ∀ packet ∈ (s.recovery.spaces level).sent.values,
      packet ∈ (recovery.spaces level).sent.values ∨ packet ∈ packets) :
    ({ s with recovery := recovery }.hold (inHand packets)).Carried level frame := by
  rcases h with h | ⟨packet, hpacket, hframe⟩
  · exact .inl (List.mem_append_left _ h)
  · rcases hsent packet hpacket with hstays | hlands
    · exact .inr ⟨packet, hstays, hframe⟩
    · exact .inl (List.mem_append_right _ (mem_inHand.2 ⟨packet, hlands, hlevels packet hpacket, hframe⟩))

lemma mem_sent_set {l : LossDetection} {packet p : SentPacket}
    (hfresh : (l.spaces packet.level).sent.get? packet.packetNumber = none)
    (h : p ∈ (l.spaces level).sent.values) : p ∈ ((l.onPacketSent packet).spaces level).sent.values := by
  simp only [LossDetection.onPacketSent, LossDetection.spaces_setSpace]
  split_ifs with hlevel
  · subst hlevel
    rw [Dict.values_set_fresh packet hfresh]
    exact List.mem_append_left _ h
  · exact h

lemma Carried.send (h : s.Carried level frame) (hfresh : s.Fresh) {packet : SentPacket}
    (hnumber : packet.packetNumber = (s.queues packet.level).nextPacketNumber)
    (hheld : s.held = packet.frames.map (packet.level, ·)) :
    { s with recovery := s.recovery.onPacketSent packet, held := [] }.Carried level frame := by
  have hnone : (s.recovery.spaces packet.level).sent.get? packet.packetNumber = none := by
    cases hget : (s.recovery.spaces packet.level).sent.get? packet.packetNumber with
    | none => rfl
    | some p =>
      have hlt := hfresh packet.level packet.packetNumber p hget
      omega
  rcases h with h | ⟨p, hp, hframe⟩
  · rw [hheld] at h
    obtain ⟨f, hf, heq⟩ := List.mem_map.1 h
    cases heq
    refine .inr ⟨packet, LossDetection.mem_sent_iff.2 ⟨packet.packetNumber, ?_⟩, hf⟩
    simp [LossDetection.onPacketSent]
  · exact .inr ⟨p, mem_sent_set hnone hp, hframe⟩

theorem Carried.effect (h : s.Carried level frame) (hs : s.Sound) (hfresh : s.Fresh) (heffect : Effect s s') :
    s'.Carried level frame ∨ Released s s' level frame := by
  cases heffect with
  | discard other hlevel hdiscarded =>
    by_cases hother : level = other
    · subst hother
      exact .inr (.discarded _ (by simp [onQueue, onInbox, Core.note]) hlevel)
    · refine .inl (h.mono (fun _ => id) fun packet hpacket => ?_)
      simpa [LossDetection.discardSpace, LossDetection.emptied, hother] using hpacket
  | close other =>
    simp only [close]
    split_ifs
    · exact .inl h
    · exact .inl h
  | abort other errorCode reason =>
    simp only [close]
    split_ifs
    · exact .inl h
    · exact .inl h
  | requeueCrypto other crypto rest hheld =>
    rcases h.putDown hheld with heq | h
    · cases heq
      exact .inr (.requeuedCrypto crypto (by simp [onQueue]))
    · exact .inl h
  | requeueStream other m send stream rest hheld hm hsend =>
    rcases h.putDown hheld with heq | h
    · cases heq
      exact .inr (.requeuedStream stream send ((m.send?_setSend _ _ _).trans (if_pos rfl)))
    · exact .inl h
  | ackStream other m send stream rest hheld hm hsend =>
    rcases h.putDown hheld with heq | h
    · cases heq
      exact .inr (.ackedStream stream send ((m.send?_setSend _ _ _).trans (if_pos rfl)))
    · exact .inl h
  | drop other f rest hheld hspent =>
    rcases h.putDown hheld with heq | h
    · cases heq
      exact .inr (.spent _ hspent)
    · exact .inl h
  | takeControl | takeStream | takeDone | choose | copyCrypto | resendCrypto | sendCrypto
  | copy => exact .inl (h.hold _)
  | send keys packet hdiscarded hnumber hheld hsize => exact .inl (h.send hfresh hnumber hheld)
  | settle other acked lost recovery hsettles =>
    refine .inl (h.land (hs.levels level) fun packet hpacket => ?_)
    by_cases hother : level = other
    · subst hother
      rw [← hsettles.permuted.mem_iff, List.mem_append] at hpacket
      exact hpacket.symm
    · rw [hsettles.others level hother]
      exact .inl hpacket
  | tune recovery hspaces hkeeps hconfirmed =>
    exact .inl (h.mono (fun _ => id) (by simp only [hspaces]; exact fun _ => id))
  | restart other =>
    refine .inl (h.land (hs.levels level) fun packet hpacket => ?_)
    by_cases hother : level = other
    · subst hother
      exact .inr hpacket
    · exact .inl (by simpa [LossDetection.restartSpace, LossDetection.emptied, hother] using hpacket)
  | lose => exact .inr (.lost _ rfl)
  | _ => exact .inl h

inductive Taken (s : Core) (level : Level) : Frame → Prop
  | control (frame : Frame) (h : frame ∈ s.controlFrames) : Taken s level frame
  | plain (frame : Frame) (h : isPlain frame = true)
      (hack : ∀ ack, frame = .ack ack →
        s.Sending ∧ (ack.largest : ℤ) = (s.inboxes level).receipts.largestReceived) : Taken s level frame
  | stream (frame : Stream) (h : level = .oneRtt) (i : ℕ) (send send' : SendStream) (maxBytes credit : ℤ)
      (hsend : s.send? i = some send) (hnext : send.nextFrame maxBytes credit = (some frame, send')) :
      Taken s level (.stream frame)
  | done (h : s.donePending = true) : Taken s level .handshakeDone
  | resent (lost : Crypto) (available : ℕ) (h : lost ∈ (s.queues level).cryptoRetransmit) :
      Taken s level (.crypto ⟨lost.offset, lost.data.take available⟩)
  | sent (available : ℕ) :
      Taken s level (.crypto ⟨(s.queues level).cryptoOffsetSent, (s.queues level).cryptoPending.take available⟩)

lemma carried_hold {frames : List (Level × Frame)} (h : (s.hold frames).Carried level frame) :
    s.Carried level frame ∨ (level, frame) ∈ frames := by
  rcases h with h | h
  · exact (List.mem_append.1 h).imp_left .inl
  · exact .inl (.inr h)

lemma carried_single {f : Frame} (h : (s.hold [(other, f)]).Carried level frame)
    (htaken : Taken s other f) : s.Carried level frame ∨ Taken s level frame := by
  refine (carried_hold h).imp_right fun hmem => ?_
  cases List.mem_singleton.1 hmem
  exact htaken

lemma carried_inHand (hs : s.Sound) (hpackets : ∀ packet ∈ packets, packet ∈ (s.recovery.spaces other).sent.values)
    (h : (level, frame) ∈ inHand packets) : s.Carried level frame := by
  obtain ⟨packet, hpacket, hlevel, hframe⟩ := mem_inHand.1 h
  have hsent := hpackets packet hpacket
  have hother := hs.levels other packet hsent
  subst hlevel hother
  exact .inr ⟨packet, hsent, hframe⟩

theorem Carried.origin (hs : s.Sound) (heffect : Effect s s') (h : s'.Carried level frame) :
    s.Carried level frame ∨ Taken s level frame := by
  cases heffect with
  | discard other hlevel hdiscarded =>
    exact .inl (h.mono (fun _ => id) fun _ => LossDetection.mem_sent_emptied)
  | close other =>
    simp only [close] at h
    split_ifs at h
    · exact .inl h
    · exact .inl h
  | abort other errorCode reason =>
    simp only [close] at h
    split_ifs at h
    · exact .inl h
    · exact .inl h
  | requeueCrypto other crypto rest hheld | requeueStream other m send stream rest hheld hm hsend
  | ackStream other m send stream rest hheld hm hsend | drop other f rest hheld hspent =>
    exact .inl (h.mono (fun entry hmem => hheld ▸ List.mem_cons_of_mem _ hmem) fun _ => id)
  | lose => exact .inl (h.mono (fun _ hmem => absurd hmem List.not_mem_nil) fun _ => id)
  | takeControl f rest hcontrol =>
    exact carried_single h (.control f (by simp [hcontrol]))
  | takeStream m i send send' stream maxBytes credit dataSent hm hsend hnext =>
    exact carried_single h
      (.stream stream rfl i send send' maxBytes credit (by simp only [send?, hm, Option.bind_some, hsend]) hnext)
  | takeDone hpending =>
    exact carried_single h (.done hpending)
  | choose other f hplain hack =>
    exact carried_single h (.plain f hplain hack)
  | copyCrypto other packet crypto hpacket hcrypto =>
    rcases carried_hold h with h | hmem
    · exact .inl h
    · cases List.mem_singleton.1 hmem
      exact .inl (.inr ⟨packet, hpacket, hcrypto⟩)
  | resendCrypto other lost rest available hlost =>
    exact carried_single h (.resent lost available (by simp [hlost]))
  | sendCrypto other available =>
    exact carried_single h (.sent available)
  | send keys packet hdiscarded hnumber hheld hsize =>
    rcases h with hmem | ⟨p, hp, hframe⟩
    · exact absurd hmem List.not_mem_nil
    · rcases LossDetection.mem_sent_onPacketSent hp with ⟨rfl, rfl⟩ | hp
      · exact .inl (.inl (by simp [hheld, hframe]))
      · exact .inl (.inr ⟨p, hp, hframe⟩)
  | settle other acked lost recovery hsettles =>
    rcases carried_hold h with h | hmem
    · exact .inl (h.mono (fun _ => id) fun _ => LossDetection.mem_sent_settles hsettles)
    · exact .inl (carried_inHand hs (fun packet hpacket =>
        LossDetection.mem_sent_iff.2 (hsettles.wasSent packet (List.mem_append.1 hpacket))) hmem)
  | tune recovery hspaces hkeeps hconfirmed =>
    exact .inl (h.mono (fun _ => id) (by simp only [hspaces]; exact fun _ => id))
  | restart other =>
    rcases carried_hold h with h | hmem
    · exact .inl (h.mono (fun _ => id) fun _ => LossDetection.mem_sent_emptied)
    · exact .inl (carried_inHand hs (fun _ hpacket => hpacket) hmem)
  | copy other packets hpackets =>
    rcases carried_hold h with h | hmem
    · exact .inl h
    · exact .inl (carried_inHand hs hpackets hmem)
  | _ => exact .inl h

lemma sealed_effect (heffect : Effect s s') {keys : PacketKeys} {packetNumber : ℕ} {frames : List Frame}
    (h : .sealed level keys packetNumber frames ∈ s'.trace) : .sealed level keys packetNumber frames ∈ s.trace ∨
      (s.queues level).discarded = false ∧
        ((∃ close, frames = [.connectionClose close]) ∨ ∀ frame ∈ frames, s.Carried level frame) := by
  cases heffect with
  | protect other k f hdiscarded hframes =>
    rcases List.mem_cons.1 h with heq | h
    · cases heq
      exact .inr ⟨hdiscarded, .inl hframes⟩
    · exact .inl h
  | send k packet hdiscarded hnumber hheld hsize =>
    rcases List.mem_cons.1 h with heq | h
    · cases heq
      exact .inr ⟨hdiscarded, .inr fun frame hframe => .inl (by simp [hheld, hframe])⟩
    · exact .inl h
  | close frame =>
    simp only [close] at h
    split_ifs at h
    · exact .inl h
    · exact .inl ((List.mem_cons.1 h).resolve_left Note.noConfusion)
  | abort frame errorCode reason =>
    simp only [close] at h
    split_ifs at h
    · exact .inl ((List.mem_cons.1 h).resolve_left Note.noConfusion)
    · have h := (List.mem_cons.1 h).resolve_left Note.noConfusion
      exact .inl ((List.mem_cons.1 h).resolve_left Note.noConfusion)
  | processClose =>
    have h := (List.mem_cons.1 h).resolve_left Note.noConfusion
    have h := (List.mem_cons.1 h).resolve_left Note.noConfusion
    exact .inl ((List.mem_cons.1 h).resolve_left Note.noConfusion)
  | secret =>
    have h := (List.mem_cons.1 h).resolve_left Note.noConfusion
    exact .inl ((List.mem_cons.1 h).resolve_left Note.noConfusion)
  | opened | unveil | process | reassemble | rotate | handle | discard | confirm | complete | drain | expire | emit
  | oweProbes | count | conclude | acknowledge | sync | adopt | retried | agree =>
    exact .inl ((List.mem_cons.1 h).resolve_left Note.noConfusion)
  | _ => exact .inl h

end Carry

end Core

end Dsquic.Connection
