import Dsquic.Connection.Effect

/-!
A client that has not heard from its server has no keys but those of the Initial space, and whatever it has
sent there is still in flight.
-/

namespace Dsquic.Connection

open Lib Wire Streams Recovery

variable {s s' : Core}

lemma Effect.heard (heffect : Effect s s') (h : s.Heard) : s'.Heard := by
  cases heffect with
  | address => exact .inr fun _ => rfl
  | close frame =>
    simp only [Core.close]
    split_ifs <;> exact h
  | abort frame errorCode reason =>
    simp only [Core.close]
    split_ifs <;> exact h
  | _ => exact h

lemma Path.heard (hpath : Path s s') (h : s.Heard) : s'.Heard :=
  hpath.invariant (fun _ _ heffect hs => heffect.heard hs) h

lemma Effect.lax (heffect : Effect s s') : s'.caller.lax = s.caller.lax := by
  cases heffect with
  | close frame =>
    simp only [Core.close]
    split_ifs <;> rfl
  | abort frame errorCode reason =>
    simp only [Core.close]
    split_ifs <;> rfl
  | _ => rfl

lemma Path.lax (hpath : Path s s') : s'.caller.lax = s.caller.lax :=
  hpath.invariant (P := fun t => t.caller.lax = s.caller.lax) (fun _ _ heffect hs => heffect.lax.trans hs) rfl

lemma Core.Delivered.path {level : Level} {frame : Frame} (h : s.Delivered level frame)
    (hpath : Path s s') : s'.Delivered level frame := by
  refine ⟨hpath.heard h.1, ?_⟩
  rcases h.2 with hlax | ⟨packetNumber, ecn, payload, frames, hprocessed, hparse, hframe⟩
  · exact .inl (hpath.lax.trans hlax)
  · exact .inr ⟨packetNumber, ecn, payload, frames, hpath.trace_subset hprocessed, hparse, hframe⟩

def Note.isOutward : Note → Bool
  | .sealed _ _ _ _ | .retried _ _ _ => true
  | _ => false

namespace Core

variable {s s' : Core} {level : Level}

section Updates

variable {q : Level → Queue} {e : Queue} {b : Level → Inbox} {f : Inbox} {l : Level}

lemma nextPacketNumber_update (h : (q l).nextPacketNumber ≤ e.nextPacketNumber) (other : Level) :
    (q other).nextPacketNumber ≤ (Function.update q l e other).nextPacketNumber := by
  by_cases hother : other = l
  · subst hother
    simpa using h
  · simp [hother]

lemma sendKeys_update (h : e.sendKeys = (q l).sendKeys) (other : Level) :
    (Function.update q l e other).sendKeys = (q other).sendKeys := by
  by_cases hother : other = l
  · subst hother
    simpa using h
  · simp [hother]

lemma phase_update (h : f.phase = (b l).phase) (other : Level) :
    (Function.update b l f other).phase = (b other).phase := by
  by_cases hother : other = l
  · subst hother
    simpa using h
  · simp [hother]

end Updates

variable {packet : SentPacket} {crypto : Crypto}

section Fresh

def Fresh (s : Core) : Prop := ∀ level n packet,
  (s.recovery.spaces level).sent.get? n = some packet → n < (s.queues level).nextPacketNumber

lemma Fresh.of_le (h : s.Fresh) (hsent : ∀ level n packet, (s'.recovery.spaces level).sent.get? n = some packet →
      (s.recovery.spaces level).sent.get? n = some packet)
    (hqueues : ∀ level, (s.queues level).nextPacketNumber ≤ (s'.queues level).nextPacketNumber) : s'.Fresh :=
  fun level n packet hget => (h level n packet (hsent level n packet hget)).trans_le (hqueues level)

lemma get?_emptied {l : LossDetection} {level other : Level} {discarded : Bool} {n : ℕ}
    (h : ((l.emptied level discarded).spaces other).sent.get? n = some packet) :
    (l.spaces other).sent.get? n = some packet := by
  simp only [LossDetection.emptied, LossDetection.spaces_setSpace] at h
  split_ifs at h
  · cases h
  · exact h

lemma Fresh.send (h : s.Fresh) (keys : PacketKeys)
    (hnumber : packet.packetNumber = (s.queues packet.level).nextPacketNumber) :
    Fresh { (s.note (.sealed packet.level keys packet.packetNumber packet.frames)).onQueue packet.level
        (fun queue => { queue with nextPacketNumber := queue.nextPacketNumber + 1 }) with
      recovery := s.recovery.onPacketSent packet
      held := [] } := by
  intro level n p hget
  have hnext := nextPacketNumber_update (q := s.queues) (l := packet.level)
    (e := { s.queues packet.level with nextPacketNumber := (s.queues packet.level).nextPacketNumber + 1 })
    (Nat.le_succ _)
  simp only [LossDetection.onPacketSent, LossDetection.spaces_setSpace] at hget
  split_ifs at hget with hlevel
  · rw [Dict.get?_set] at hget
    split_ifs at hget with hn
    · simp [onQueue, Core.note, hlevel, hn, hnumber]
    · exact (h level n p (hlevel ▸ hget)).trans_le (hnext level)
  · exact (h level n p hget).trans_le (hnext level)

lemma Fresh.effect (h : s.Fresh) (heffect : Effect s s') : s'.Fresh := by
  cases heffect with
  | discard other hlevel hdiscarded =>
    exact h.of_le (fun _ _ _ => get?_emptied) (nextPacketNumber_update (by rfl))
  | restart other => exact h.of_le (fun _ _ _ => get?_emptied) fun _ => le_refl _
  | settle other acked lost recovery hsettles =>
    refine h.of_le (fun l n packet hget => ?_) fun _ => le_refl _
    have hget : (recovery.spaces l).sent.get? n = some packet := hget
    by_cases hl : l = other
    · subst hl
      exact hsettles.kept n packet hget
    · rwa [hsettles.others l hl] at hget
  | tune recovery hspaces hkeeps hconfirmed =>
    exact h.of_le (fun l n packet hget => by rwa [hspaces] at hget) fun _ => le_refl _
  | send keys packet hdiscarded hnumber hheld hsize => exact h.send keys hnumber
  | takeNumber | protect => exact h.of_le (fun _ _ _ => id) (nextPacketNumber_update (Nat.le_succ _))
  | confirm | emit | requeueCrypto | resendCrypto | sendCrypto | sync | sendKey | rotate | adopt | install
  | retry =>
    exact h.of_le (fun _ _ _ => id) (nextPacketNumber_update (by rfl))
  | close frame =>
    simp only [close]
    split_ifs <;> exact h
  | abort frame errorCode reason =>
    simp only [close]
    split_ifs <;> exact h
  | _ => exact h

end Fresh

def InFlight (s : Core) (crypto : Crypto) : Prop :=
  ∃ n packet, (s.recovery.spaces .initial).sent.get? n = some packet ∧ .crypto crypto ∈ packet.frames

structure Unheard (s : Core) : Prop where
  current : (s.inboxes .oneRtt).phase.current = none
  next : (s.inboxes .oneRtt).phase.next = none
  handshake : (s.queues .handshake).sendKeys = none
  lossTime : ∀ level, (s.recovery.spaces level).lossTime = none
  flown : s.retryToken = [] → ∀ crypto, s.Flown crypto → s.InFlight crypto
  unretried : s.retryToken = [] → ∀ data packet queued, Note.retried data packet queued ∉ s.trace

lemma mem_outward {note : Note} (hnote : note.isOutward = true)
    (h : s'.trace.filter Note.isOutward = s.trace.filter Note.isOutward) (hmem : note ∈ s'.trace) :
    note ∈ s.trace := by
  have hfiltered : note ∈ s'.trace.filter Note.isOutward := List.mem_filter.2 ⟨hmem, hnote⟩
  rw [h] at hfiltered
  exact (List.mem_filter.1 hfiltered).1

lemma Flown.of_outward (h : s'.trace.filter Note.isOutward = s.trace.filter Note.isOutward)
    (hflown : s'.Flown crypto) : s.Flown crypto := by
  obtain ⟨keys, packetNumber, frames, hsealed, hcrypto⟩ := hflown
  exact ⟨keys, packetNumber, frames, mem_outward rfl h hsealed, hcrypto⟩

lemma Unheard.mono (h : s.Unheard)
    (hphase : (s'.inboxes .oneRtt).phase.current = (s.inboxes .oneRtt).phase.current)
    (hnext : (s'.inboxes .oneRtt).phase.next = (s.inboxes .oneRtt).phase.next)
    (hkeys : (s'.queues .handshake).sendKeys = (s.queues .handshake).sendKeys)
    (hspaces : s'.recovery.spaces = s.recovery.spaces) (htoken : s'.retryToken = s.retryToken)
    (htrace : s'.trace.filter Note.isOutward = s.trace.filter Note.isOutward) : s'.Unheard where
  current := hphase.trans h.current
  next := hnext.trans h.next
  handshake := hkeys.trans h.handshake
  lossTime := by
    rw [hspaces]
    exact h.lossTime
  flown hfirst crypto hflown := by
    rw [InFlight, hspaces]
    exact h.flown (htoken ▸ hfirst) crypto (hflown.of_outward htrace)
  unretried hfirst data packet queued hmem :=
    h.unretried (htoken ▸ hfirst) data packet queued (mem_outward rfl htrace hmem)

lemma InFlight.send (hfresh : s.Fresh) (hnumber : packet.packetNumber = (s.queues packet.level).nextPacketNumber)
    (hrecovery : s'.recovery = s.recovery.onPacketSent packet)
    (h : s.InFlight crypto ∨ packet.level = .initial ∧ .crypto crypto ∈ packet.frames) : s'.InFlight crypto := by
  simp only [InFlight, hrecovery, LossDetection.onPacketSent, LossDetection.spaces_setSpace]
  rcases h with ⟨n, sent, hget, hcrypto⟩ | ⟨hlevel, hcrypto⟩
  · refine ⟨n, sent, ?_, hcrypto⟩
    split_ifs with hlevel
    · have hlt := hfresh .initial n sent hget
      have hne : n ≠ packet.packetNumber := by
        rw [hnumber, ← hlevel]
        exact hlt.ne
      rw [Dict.get?_set, if_neg hne, ← hlevel]
      exact hget
    · exact hget
  · refine ⟨packet.packetNumber, packet, ?_, hcrypto⟩
    rw [if_pos hlevel.symm, Dict.get?_set, if_pos rfl]

lemma Unheard.close (h : s.Unheard) (frame : ConnectionClose) : (s.close frame).Unheard := by
  simp only [Core.close]
  split_ifs
  · exact h
  · exact h.mono rfl rfl rfl rfl rfl rfl

lemma Unheard.send (h : s.Unheard) (hfresh : s.Fresh) (keys : PacketKeys)
    (hnumber : packet.packetNumber = (s.queues packet.level).nextPacketNumber) :
    Unheard { (s.note (.sealed packet.level keys packet.packetNumber packet.frames)).onQueue packet.level
        (fun queue => { queue with nextPacketNumber := queue.nextPacketNumber + 1 }) with
      recovery := s.recovery.onPacketSent packet
      held := [] } where
  current := h.current
  next := h.next
  handshake := (sendKeys_update (by rfl) .handshake).trans h.handshake
  lossTime level := by
    simp only [LossDetection.onPacketSent, LossDetection.spaces_setSpace]
    split_ifs
    · exact h.lossTime packet.level
    · exact h.lossTime level
  flown hfirst crypto hflown := by
    refine InFlight.send hfresh hnumber rfl ?_
    obtain ⟨keys, packetNumber, frames, hsealed, hcrypto⟩ := hflown
    rcases List.mem_cons.1 hsealed with hsealed | hsealed
    · obtain ⟨hlevel, -, -, hframes⟩ := Note.sealed.inj hsealed
      exact .inr ⟨hlevel.symm, hframes ▸ hcrypto⟩
    · exact .inl (h.flown hfirst crypto ⟨keys, packetNumber, frames, hsealed, hcrypto⟩)
  unretried hfirst data packet queued hmem := by
    rcases List.mem_cons.1 hmem with hmem | hmem
    · cases hmem
    · exact h.unretried hfirst data packet queued hmem

lemma Unheard.protect (h : s.Unheard) (level : Level) (keys : PacketKeys) (close : ConnectionClose) :
    ((s.note (.sealed level keys (s.queues level).nextPacketNumber [.connectionClose close])).onQueue
      level fun queue =>
      { queue with nextPacketNumber := queue.nextPacketNumber + 1 }).Unheard where
  current := h.current
  next := h.next
  handshake := (sendKeys_update (by rfl) .handshake).trans h.handshake
  lossTime := h.lossTime
  flown hfirst crypto hflown := by
    obtain ⟨keys, packetNumber, frames, hsealed, hcrypto⟩ := hflown
    rcases List.mem_cons.1 hsealed with hsealed | hsealed
    · cases hsealed
      cases List.mem_singleton.1 hcrypto
    · exact h.flown hfirst crypto ⟨keys, packetNumber, frames, hsealed, hcrypto⟩
  unretried hfirst data packet queued hmem := by
    rcases List.mem_cons.1 hmem with hmem | hmem
    · cases hmem
    · exact h.unretried hfirst data packet queued hmem

theorem Unheard.effect (h : ¬s.Heard → s.Unheard) (hfresh : s.Fresh) (heffect : Effect s s') (hs' : ¬s'.Heard) :
    s'.Unheard := by
  have hs : ¬s.Heard := fun hheard => hs' (heffect.heard hheard)
  replace h := h hs
  cases heffect with
  | address => exact absurd (.inr fun _ => rfl) hs'
  | learn cid hcid hserver | adopt dcid scid hscid hserver =>
    exact absurd (.inr fun hclient => absurd (hclient.symm.trans hserver) (by decide)) hs
  | aim dcid hserver => exact absurd (.inr fun hclient => absurd (hclient.symm.trans hserver) (by decide)) hs
  | install => exact h.mono rfl rfl rfl rfl rfl rfl
  | retry packet hcid hclient hunheard hfirst htoken =>
    exact ⟨h.current, h.next, h.handshake, h.lossTime, fun hempty => absurd hempty htoken,
      fun hempty => absurd hempty htoken⟩
  | retried data packet _ hretries =>
    replace hretries := hretries (by simpa using fun hlax => hs (.inl hlax))
    have htoken : s.retryToken ≠ [] := by
      rw [hretries.token]
      exact hretries.nonempty
    exact ⟨h.current, h.next, h.handshake, h.lossTime, fun hempty => absurd hempty htoken,
      fun hempty => absurd hempty htoken⟩
  | agree _ _ hheard | sendKey _ _ _ hheard | secret _ _ _ hheard => exact absurd hheard hs
  | discard level hlevel hdiscarded hheard =>
    have hkeys := hheard.resolve_left hs
    rw [h.handshake] at hkeys
    cases hkeys
  | rotate keys next send hnext => exact absurd (h.next.symm.trans hnext) (by simp)
  | rekey level keys hlevel htls =>
    have hphase : (Function.update s.inboxes level
        { s.inboxes level with phase := { (s.inboxes level).phase with current := keys } } .oneRtt) =
          s.inboxes .oneRtt :=
      Function.update_of_ne hlevel.symm _ _
    exact h.mono (congrArg (·.phase.current) hphase) (congrArg (·.phase.next) hphase) rfl rfl rfl rfl
  | process level | reassemble level =>
    exact h.mono (congrArg Phase.current (phase_update (by rfl) .oneRtt))
      (congrArg Phase.next (phase_update (by rfl) .oneRtt))
      rfl rfl rfl rfl
  | processClose level =>
    exact h.mono (congrArg Phase.current (phase_update (by rfl) .oneRtt))
      (congrArg Phase.next (phase_update (by rfl) .oneRtt))
      rfl rfl rfl rfl
  | emit | requeueCrypto | resendCrypto | sendCrypto | takeNumber =>
    exact h.mono rfl rfl (sendKeys_update (by rfl) .handshake) rfl rfl rfl
  | close frame => exact h.close frame
  | abort frame errorCode reason =>
    have hnote : (s.note (.aborted s.state)).Unheard := h.mono rfl rfl rfl rfl rfl rfl
    exact (hnote.close frame).mono rfl rfl rfl rfl rfl rfl
  | protect level keys frames hdiscarded hframes =>
    obtain ⟨close, rfl⟩ := hframes
    exact h.protect level keys close
  | send keys packet hdiscarded hnumber => exact h.send hfresh keys hnumber
  | settle level acked lost recovery hsettles hheard =>
    rcases hheard with hheard | ⟨-, -, hspaces⟩
    · exact absurd hheard hs
    · exact h.mono rfl rfl rfl hspaces rfl rfl
  | restart level hretry =>
    have htoken : s.retryToken ≠ [] := hretry.resolve_left hs
    refine ⟨h.current, h.next, h.handshake, fun other => ?_, fun hempty => absurd hempty htoken,
      fun hempty => absurd hempty htoken⟩
    simp only [hold, LossDetection.restartSpace, LossDetection.emptied, LossDetection.spaces_setSpace]
    split_ifs
    · rfl
    · exact h.lossTime other
  | tune recovery hspaces => exact h.mono rfl rfl rfl hspaces rfl rfl
  | _ => exact h.mono rfl rfl rfl rfl rfl rfl

end Core

end Dsquic.Connection
