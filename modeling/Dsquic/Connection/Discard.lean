import Dsquic.Connection.Plain
import Dsquic.Connection.Run

/-!
What is left of a space when its keys are discarded: no packet, and no probe.
-/

namespace Dsquic.Connection

open Lib Wire Streams Recovery

def Note.probesPaid : Note → Bool
  | .probed _ owed gone => owed = 0 && !gone
  | .discarded _ owed => owed = 0
  | _ => true

def Note.isPacketAt (level : Level) : Note → Bool
  | .sealed other _ _ _ | .opened other _ => other = level
  | _ => false

def Note.isDiscardOf (level : Level) : Note → Bool
  | .discarded other _ => other = level
  | _ => false

variable {level : Level} {queue : Queue}

namespace Core

variable {s s' : Core}

lemma discarded_update {queues : Level → Queue} {level other : Level}
    (hqueue : (queues level).discarded = true → queue.discarded = true) (h : (queues other).discarded = true) :
    (Function.update queues level queue other).discarded = true := by
  by_cases hother : other = level
  · subst hother
    simpa using hqueue h
  · simpa [hother] using h

lemma discarded_effect (heffect : Effect s s') (level : Level) (h : (s.queues level).discarded = true) :
    (s'.queues level).discarded = true := by
  cases heffect with
  | discard other hlevel hdiscarded => exact discarded_update (fun _ => rfl) h
  | confirm | emit | requeueCrypto | resendCrypto | sendCrypto | takeNumber | protect | send | sync | sendKey
  | rotate | adopt | install | retry => exact discarded_update id h
  | close frame =>
    simp only [close]
    split_ifs <;> exact h
  | abort frame errorCode reason =>
    simp only [close]
    split_ifs <;> exact h
  | _ => exact h

structure Gone (s : Core) : Prop where
  noted : ∀ level owed, Note.discarded level owed ∈ s.trace → (s.queues level).discarded = true
  silent : s.trace.Pairwise fun newer older => ∀ level, older.isDiscardOf level = true →
    newer.isPacketAt level = false

lemma Gone.note (h : s.Gone) (note : Note) (hpacket : ∀ level, note.isPacketAt level = false)
    (hdiscard : ∀ level owed, note ≠ .discarded level owed) : (s.note note).Gone where
  noted level owed hmem := by
    rcases List.mem_cons.1 hmem with heq | hmem
    · exact absurd heq.symm (hdiscard level owed)
    · exact h.noted level owed hmem
  silent := List.pairwise_cons.2 ⟨fun _ _ level _ => hpacket level, h.silent⟩

lemma Gone.packet (h : s.Gone) (note : Note) (hlevel : (s.queues level).discarded = false)
    (hpacket : ∀ other, note.isPacketAt other = true → other = level)
    (hdiscard : ∀ level owed, note ≠ .discarded level owed) : (s.note note).Gone where
  noted other owed hmem := by
    rcases List.mem_cons.1 hmem with heq | hmem
    · exact absurd heq.symm (hdiscard other owed)
    · exact h.noted other owed hmem
  silent := by
    refine List.pairwise_cons.2 ⟨fun older holder other hdiscarded => ?_, h.silent⟩
    by_contra hat
    have hother := hpacket other (by simpa using hat)
    cases older with
    | discarded l owed =>
      have hl : l = other := by simpa [Note.isDiscardOf] using hdiscarded
      have hgone := h.noted l owed holder
      rw [hl, hother, hlevel] at hgone
      cases hgone
    | _ => cases hdiscarded

lemma Gone.queues (h : s.Gone) (hdiscarded : ∀ level, (s.queues level).discarded = true →
    (s'.queues level).discarded = true) (htrace : s'.trace = s.trace) : s'.Gone where
  noted level owed hmem := hdiscarded level (h.noted level owed (htrace ▸ hmem))
  silent := htrace ▸ h.silent

lemma Gone.close (h : s.Gone) (frame : ConnectionClose) : (s.close frame).Gone := by
  simp only [Core.close]
  split_ifs
  · exact h
  · exact { h.note (.closing s.state) (fun _ => rfl) (fun _ _ => Note.noConfusion) with }

lemma Gone.effect (h : s.Gone) (heffect : Effect s s') : s'.Gone := by
  have hstays := discarded_effect heffect
  cases heffect with
  | opened level zeroRtt hlevel hearly =>
    exact h.packet _ hlevel (fun other => by simp [Note.isPacketAt, eq_comm]) fun _ _ => Note.noConfusion
  | protect level keys frames hlevel hframes =>
    have hnote := h.packet (.sealed level keys (s.queues level).nextPacketNumber frames) hlevel
      (fun other => by simp [Note.isPacketAt, eq_comm]) fun _ _ => Note.noConfusion
    exact hnote.queues hstays rfl
  | send keys packet hlevel hnumber hheld hsize =>
    have hnote := h.packet (.sealed packet.level keys packet.packetNumber packet.frames) hlevel
      (fun other => by simp [Note.isPacketAt, eq_comm]) fun _ _ => Note.noConfusion
    exact hnote.queues hstays rfl
  | discard level hlevel hthere =>
    refine ⟨fun other owed hmem => ?_, List.pairwise_cons.2 ⟨fun _ _ _ _ => rfl, h.silent⟩⟩
    rcases List.mem_cons.1 hmem with heq | hmem
    · cases heq
      simp [onQueue, onInbox, Core.note]
    · exact hstays other (h.noted other owed hmem)
  | close frame => exact h.close frame
  | abort frame errorCode reason =>
    have hnote := h.note (.aborted s.state) (fun _ => rfl) fun _ _ => Note.noConfusion
    exact { hnote.close frame with }
  | processClose level packetNumber ecn payload frame reason hnew hcloses hstate =>
    have hprocessed := h.note (.processed level packetNumber ecn payload) (fun _ => rfl) fun _ _ =>
      Note.noConfusion
    have hhandled := hprocessed.note (.handled s.state (.connectionClose frame)) (fun _ => rfl)
      fun _ _ => Note.noConfusion
    exact (hhandled.note .drained (fun _ => rfl) fun _ _ => Note.noConfusion).queues hstays rfl
  | secret keys next htls =>
    have hkeyed := h.note (.keyed (some keys)) (fun _ => rfl) fun _ _ => Note.noConfusion
    exact (hkeyed.note (.keyed (some next)) (fun _ => rfl) fun _ _ => Note.noConfusion).queues hstays rfl
  | unveil | process | reassemble | rotate | handle | confirm | complete | drain | expire | emit | oweProbes
  | count | conclude | acknowledge | sync | adopt | retried | agree =>
    exact (h.note _ (fun _ => rfl) fun _ _ => Note.noConfusion).queues hstays rfl
  | _ => exact h.queues hstays rfl

structure Confirmed (s : Core) : Prop where
  flagged : Note.confirmed ∈ s.trace → s.recovery.handshakeConfirmed = true
  dropped : Note.confirmed ∈ s.trace → (s.queues .oneRtt).early = false
  silent : s.trace.Pairwise fun newer older => older = .confirmed → newer ≠ .opened .oneRtt true

lemma Confirmed.note (h : s.Confirmed) (note : Note) (hopened : note ≠ .opened .oneRtt true)
    (hconfirmed : note ≠ .confirmed) : (s.note note).Confirmed where
  flagged hmem := h.flagged ((List.mem_cons.1 hmem).resolve_left hconfirmed.symm)
  dropped hmem := h.dropped ((List.mem_cons.1 hmem).resolve_left hconfirmed.symm)
  silent := List.pairwise_cons.2 ⟨fun _ _ _ => hopened, h.silent⟩

lemma Confirmed.of_eq (h : s.Confirmed) (htrace : s'.trace = s.trace)
    (hconfirmed : s'.recovery.handshakeConfirmed = s.recovery.handshakeConfirmed)
    (hearly : (s'.queues .oneRtt).early = (s.queues .oneRtt).early) : s'.Confirmed where
  flagged hmem := hconfirmed.trans (h.flagged (htrace ▸ hmem))
  dropped hmem := hearly.trans (h.dropped (htrace ▸ hmem))
  silent := htrace ▸ h.silent

lemma early_update {queues : Level → Queue} (h : queue.early = (queues level).early) (other : Level) :
    (Function.update queues level queue other).early = (queues other).early := by
  by_cases hother : other = level
  · subst hother
    simpa using h
  · simp [hother]

lemma Confirmed.opened (h : s.Confirmed) {zeroRtt : Bool}
    (hearly : zeroRtt = true → (s.queues level).early = true) : (s.note (.opened level zeroRtt)).Confirmed := by
  refine ⟨fun hmem => h.flagged ?_, fun hmem => h.dropped ?_, ?_⟩
  · exact (List.mem_cons.1 hmem).resolve_left Note.noConfusion
  · exact (List.mem_cons.1 hmem).resolve_left Note.noConfusion
  · refine List.pairwise_cons.2 ⟨fun older holder hconfirmed hopened => ?_, h.silent⟩
    cases hopened
    have hdropped := h.dropped (hconfirmed ▸ holder)
    rw [hearly rfl] at hdropped
    cases hdropped

lemma Confirmed.close (h : s.Confirmed) (frame : ConnectionClose) : (s.close frame).Confirmed := by
  simp only [Core.close]
  split_ifs
  · exact h
  · exact { h.note (.closing s.state) Note.noConfusion Note.noConfusion with }

lemma Confirmed.sync (h : s.Confirmed) {early : Bool}
    (hsynced : Note.synced early s.recovery.handshakeConfirmed ≠ .synced true true) :
    ((s.note (.synced early s.recovery.handshakeConfirmed)).onQueue .oneRtt fun queue =>
      { queue with early := queue.early || early }).Confirmed := by
  have hnote := h.note (.synced early s.recovery.handshakeConfirmed) Note.noConfusion Note.noConfusion
  refine ⟨hnote.flagged, fun hmem => ?_, hnote.silent⟩
  have hdropped : (s.queues .oneRtt).early = false := hnote.dropped hmem
  have hflagged : s.recovery.handshakeConfirmed = true := hnote.flagged hmem
  have hearly : early = false := by simpa [hflagged] using hsynced
  simp [onQueue, Core.note, hdropped, hearly]

lemma Confirmed.effect (h : s.Confirmed) (heffect : Effect s s') (hsynced : .synced true true ∉ s'.trace) :
    s'.Confirmed := by
  cases heffect with
  | opened level zeroRtt hlevel hearly => exact h.opened hearly
  | confirm =>
    refine ⟨fun _ => rfl, fun _ => by simp [onQueue],
      List.pairwise_cons.2 ⟨fun _ _ _ => Note.noConfusion, h.silent⟩⟩
  | discard level hlevel hthere =>
    exact (h.note (.discarded level (s.probesPending level)) Note.noConfusion Note.noConfusion).of_eq rfl rfl
      (early_update (by rfl) _)
  | settle level acked lost recovery hsettles => exact h.of_eq rfl hsettles.confirmed rfl
  | tune recovery hspaces hkeeps hconfirmed => exact h.of_eq rfl hconfirmed rfl
  | close frame => exact h.close frame
  | abort frame errorCode reason =>
    have hnote := h.note (.aborted s.state) Note.noConfusion Note.noConfusion
    exact { hnote.close frame with }
  | sync early => exact h.sync fun heq => hsynced (heq ▸ List.mem_cons_self)
  | protect level keys frames hlevel hframes =>
    exact (h.note (.sealed _ _ _ _) Note.noConfusion Note.noConfusion).of_eq rfl rfl (early_update (by rfl) _)
  | send keys packet hlevel hnumber hheld hsize =>
    exact (h.note (.sealed _ _ _ _) Note.noConfusion Note.noConfusion).of_eq rfl rfl (early_update (by rfl) _)
  | emit level data =>
    exact (h.note (.emitted level data) Note.noConfusion Note.noConfusion).of_eq rfl rfl
      (early_update (by rfl) _)
  | processClose level packetNumber ecn payload frame reason hnew hcloses hstate =>
    have hprocessed := h.note (.processed level packetNumber ecn payload) Note.noConfusion Note.noConfusion
    have hhandled := hprocessed.note (.handled s.state (.connectionClose frame)) Note.noConfusion Note.noConfusion
    exact (hhandled.note .drained Note.noConfusion Note.noConfusion).of_eq rfl rfl rfl
  | secret keys next htls =>
    have hkeyed := h.note (.keyed (some keys)) Note.noConfusion Note.noConfusion
    exact (hkeyed.note (.keyed (some next)) Note.noConfusion Note.noConfusion).of_eq rfl rfl rfl
  | unveil | process | reassemble | rotate | handle | complete | drain | expire | oweProbes | count | conclude
  | acknowledge | adopt | retried | agree =>
    exact (h.note _ Note.noConfusion Note.noConfusion).of_eq rfl rfl rfl
  | requeueCrypto | resendCrypto | sendCrypto | takeNumber
  | sendKey => exact h.of_eq rfl rfl (early_update (by rfl) _)
  | _ => exact h.of_eq rfl rfl rfl

end Core

section Keys

variable {env : Env} {c : Conn env}

/-- No packet is sealed or opened at a level after its space is discarded. If early keys are never
synchronised after the handshake is confirmed, there are none from then on, and no 0-RTT packet is opened. -/
theorem discarded_keys_stay_discarded (h : Begins c) (ops : List (Op env)) :
    (((Session.start c).run ops).conn.trace.Pairwise fun newer older => ∀ level,
      older.isDiscardOf level = true → newer.isPacketAt level = false) ∧
    (.synced true true ∉ ((Session.start c).run ops).conn.trace →
      (.confirmed ∈ ((Session.start c).run ops).conn.trace →
        (((Session.start c).run ops).conn.spaces .oneRtt).keysRecvEarly = none) ∧
      (((Session.start c).run ops).conn.trace.Pairwise fun newer older =>
        older = .confirmed → newer ≠ .opened .oneRtt true)) := by
  obtain ⟨_, _, _, _, intact, -, -, hpath, -⟩ := Session.reached h ops
  have hgone := hpath.invariant (P := Core.Gone) (fun _ _ heffect hs => hs.effect heffect)
    ⟨fun _ _ hmem => absurd hmem List.not_mem_nil, List.Pairwise.nil⟩
  have hconfirmed := hpath.invariant (P := fun s => .synced true true ∉ s.trace → s.Confirmed)
    (fun s s' heffect hs hsynced => (hs fun hmem => hsynced (heffect.trace_subset hmem)).effect heffect hsynced)
    (fun _ => ⟨fun hmem => absurd hmem List.not_mem_nil, fun hmem => absurd hmem List.not_mem_nil,
      List.Pairwise.nil⟩)
  refine ⟨hgone.silent, fun hsynced => ⟨fun hmem => ?_, (hconfirmed hsynced).silent⟩⟩
  have hearly : (((Session.start c).run ops).conn.spaces .oneRtt).keysRecvEarly.isSome = false :=
    (hconfirmed hsynced).dropped hmem
  simpa using hearly

theorem discarded_keys_stay_discarded_handshake :
    .confirmed ∈
      ((Session.start (plainServer .default)).run [.datagramReceived plainHandshake 0 none 0]).conn.trace ∧
    (((Session.start (plainServer .default)).run
      [.datagramReceived plainHandshake 0 none 0]).conn.spaces .oneRtt).keysRecvEarly = none :=
  ⟨by decide +kernel, (discarded_keys_stay_discarded (begins_plainServer .default)
    [.datagramReceived plainHandshake 0 none 0]).2 (by decide +kernel) |>.1 (by decide +kernel)⟩

theorem early_keys_reinstalled :
    .confirmed ∈ ((Session.start (plainServer .default)).run
        [.datagramReceived (plainPacket .initial (List.replicate 8 7) (List.replicate 8 9) 0
          [.crypto ⟨0, [3, 4, 2, 1]⟩]) 0 none 0]).conn.trace ∧
      (((Session.start (plainServer .default)).run
        [.datagramReceived (plainPacket .initial (List.replicate 8 7) (List.replicate 8 9) 0
          [.crypto ⟨0, [3, 4, 2, 1]⟩]) 0 none 0]).conn.spaces .oneRtt).keysRecvEarly.isSome = true := by
  decide +kernel

end Keys

/-! Probes that are owed. -/

namespace Core

variable {s s' : Core}

structure Owes (s : Core) : Prop where
  bounded : ∀ level, s.probesPending level ≤ 2
  gone : ∀ level, (s.queues level).discarded = true → s.probesPending level = 0

lemma discarded_update_of_eq {queues : Level → Queue}
    (h : queue.discarded = (queues level).discarded) (other : Level) :
    (Function.update queues level queue other).discarded = (queues other).discarded := by
  by_cases hother : other = level
  · subst hother
    simpa using h
  · simp [hother]

lemma Owes.of_eq (h : s.Owes) (hprobes : s'.probesPending = s.probesPending)
    (hdiscarded : ∀ level, (s'.queues level).discarded = (s.queues level).discarded) : s'.Owes :=
  ⟨hprobes ▸ h.bounded, fun level hgone => hprobes ▸ h.gone level (hdiscarded level ▸ hgone)⟩

lemma Owes.close (h : s.Owes) (frame : ConnectionClose) : (s.close frame).Owes := by
  simp only [Core.close]
  split_ifs
  · exact h
  · exact h.of_eq rfl fun _ => rfl

lemma Owes.payProbe (h : s.Owes) (level : Level) :
    { s with probesPending := Function.update s.probesPending level (s.probesPending level - 1) }.Owes := by
  refine ⟨fun other => ?_, fun other hgone => ?_⟩
  · have := h.bounded other
    by_cases hother : other = level
    · subst hother
      simp
      omega
    · simpa [hother] using this
  · have := h.gone other hgone
    by_cases hother : other = level
    · subst hother
      simp [this]
    · simpa [hother] using this

lemma Owes.oweProbes (h : s.Owes) (howed : s.probesPending level = 0)
    (hthere : (s.queues level).discarded = false) {trace : List Note} :
    { s with
      trace := trace
      probesPending := Function.update s.probesPending level (s.probesPending level + 2) }.Owes := by
  refine ⟨fun other => ?_, fun other hgone => ?_⟩
  · by_cases hother : other = level
    · subst hother
      simp [howed]
    · simpa [hother] using h.bounded other
  · by_cases hother : other = level
    · subst hother
      rw [show ({ s with trace := trace, probesPending := _ } : Core).queues = s.queues from rfl, hthere] at hgone
      cases hgone
    · simpa [hother] using h.gone other hgone

lemma Owes.discard (h : s.Owes) (howed : s.probesPending level = 0) (hprobes : s'.probesPending = s.probesPending)
    (hothers : ∀ other, other ≠ level → (s'.queues other).discarded = (s.queues other).discarded) : s'.Owes := by
  refine ⟨hprobes ▸ h.bounded, fun other hgone => ?_⟩
  rw [hprobes]
  by_cases hother : other = level
  · rw [hother, howed]
  · exact h.gone other (hothers other hother ▸ hgone)

lemma Owes.effect (h : s.Owes) (heffect : Effect s s') (hpaid : ∀ note ∈ s'.trace, note.probesPaid = true) :
    s'.Owes := by
  cases heffect with
  | discard level hlevel hthere =>
    have howed : s.probesPending level = 0 := by
      simpa [Note.probesPaid] using hpaid (.discarded level (s.probesPending level)) List.mem_cons_self
    exact h.discard howed rfl fun other hother => by simp [onQueue, onInbox, note, hother]
  | payProbe level => exact h.payProbe level
  | oweProbes level =>
    have howed : s.probesPending level = 0 ∧ (s.queues level).discarded = false := by
      simpa [Note.probesPaid] using
        hpaid (.probed level (s.probesPending level) (s.queues level).discarded) List.mem_cons_self
    exact h.oweProbes howed.1 howed.2
  | close frame => exact h.close frame
  | abort frame errorCode reason =>
    have hnote : (s.note (.aborted s.state)).Owes := h.of_eq rfl fun _ => rfl
    exact { hnote.close frame with }
  | confirm | emit | requeueCrypto | resendCrypto | sendCrypto | takeNumber | protect | send | sync | sendKey
  | rotate | adopt | install | retry => exact h.of_eq rfl (discarded_update_of_eq (by rfl))
  | _ => exact h.of_eq rfl fun _ => rfl

end Core

section Probes

variable {env : Env} {c : Conn env}

/-- In a run where probes are paid before more are owed and before their space goes, at most two are owed
at a level, none at a level that is gone, and so the exemption from the congestion window is for a probe
that can be sent. -/
theorem probes_bounded (h : Begins c) (ops : List (Op env))
    (hpaid : ∀ note ∈ ((Session.start c).run ops).conn.trace, note.probesPaid = true) :
    (∀ level, ((Session.start c).run ops).conn.probesPending level ≤ 2) ∧
    (∀ level, (((Session.start c).run ops).conn.spaces level).discarded = true →
      ((Session.start c).run ops).conn.probesPending level = 0) ∧
    (((Session.start c).run ops).conn.probes ≠ 0 → ∃ level,
      (((Session.start c).run ops).conn.spaces level).discarded = false ∧
      ((Session.start c).run ops).conn.probesPending level ≠ 0) := by
  obtain ⟨_, _, _, _, intact, -, -, hpath, -⟩ := Session.reached h ops
  have howes := hpath.invariant (P := fun s => (∀ note ∈ s.trace, note.probesPaid = true) → s.Owes)
    (fun s s' heffect hs hpaid => (hs fun note hmem => hpaid note (heffect.trace_subset hmem)).effect
      heffect hpaid)
    (fun _ => ⟨fun _ => Nat.zero_le 2, fun _ _ => rfl⟩) hpaid
  refine ⟨howes.bounded, howes.gone, fun hprobes => ?_⟩
  obtain ⟨n, hn, hpos⟩ := List.exists_mem_ne_zero_of_sum_ne_zero hprobes
  obtain ⟨level, -, rfl⟩ := List.mem_map.1 hn
  refine ⟨level, ?_, hpos⟩
  by_contra hgone
  have hgone : (((Session.start c).run ops).conn.spaces level).discarded = true := by simpa using hgone
  exact hpos (howes.gone level hgone)

def plainSilence : List (Op .plain) := plainFlight ++ [.handleTimer 2]

theorem probes_bounded_timeout :
    0 < ((Session.start (plainServer .default)).run plainSilence).conn.probesPending .handshake ∧
      ((Session.start (plainServer .default)).run plainSilence).conn.probesPending .handshake ≤ 2 :=
  ⟨by decide +kernel, (probes_bounded (begins_plainServer .default) plainSilence (by decide +kernel)).1 .handshake⟩

theorem four_probes_owed :
    ((Session.start (plainServer .default)).run (plainSilence ++ [.handleTimer 6])).conn.probesPending .handshake =
      4 := by
  decide +kernel

end Probes

end Dsquic.Connection
