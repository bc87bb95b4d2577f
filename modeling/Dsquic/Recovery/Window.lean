import Dsquic.Recovery.NewReno
import Mathlib.Tactic.Linarith

/-!
The congestion window over whole runs of the controller: one reduction in a recovery period, and the growth in
congestion avoidance.
-/

namespace Dsquic.Recovery.NewReno

open Lib

inductive Call
  | sent (packet : SentPacket)
  | acked (packets : List SentPacket) (now : ℚ)
  | lost (packets : List SentPacket) (now : ℚ)
  | ecnCe (sentTime now : ℚ)
  | discarded (packets : List SentPacket)
  | persistent

namespace Call

def time : Call → Option ℚ
  | sent packet => some packet.timeSent
  | acked _ now | lost _ now | ecnCe _ now => some now
  | discarded _ | persistent => none

def isQuiet : Call → Bool
  | sent _ | acked _ _ | discarded _ => true
  | lost _ _ | ecnCe _ _ | persistent => false

def ackedPackets : Call → List SentPacket
  | acked packets _ => packets
  | _ => []

def SentAfter (t : ℚ) : Call → Prop
  | lost packets _ => ∃ packet ∈ packets, t < packet.timeSent
  | ecnCe sentTime _ => t < sentTime
  | _ => False

end Call

def step (c : NewReno) : Call → NewReno
  | .sent packet => c.onPacketSent packet
  | .acked packets _ => finalState (onPacketsAcked packets) c
  -- the maximum of no send times raises, before anything has changed
  | .lost packets now => if packets = [] then c else c.onPacketsLost packets now
  | .ecnCe sentTime now => c.onEcnCe sentTime now
  | .discarded packets => c.onPacketsDiscarded packets
  | .persistent => c.onPersistentCongestion

def run (c : NewReno) (calls : List Call) : NewReno := calls.foldl step c

def reduces (c : NewReno) : Call → Bool
  | .lost packets _ => packets ≠ [] && !c.inRecovery (latestSent packets)
  | .ecnCe sentTime _ => !c.inRecovery sentTime
  | _ => false

section Avoidance

def avoidance (datagramSize : ℕ) (window : ℕ) (sizes : List ℕ) : ℕ :=
  sizes.foldl (fun window size => window + datagramSize * size / window) window

variable (datagramSize : ℕ)

lemma avoidance_append (window : ℕ) (sizes sizes' : List ℕ) :
    avoidance datagramSize window (sizes ++ sizes') =
      avoidance datagramSize (avoidance datagramSize window sizes) sizes' :=
  List.foldl_append

lemma le_avoidance (window : ℕ) (sizes : List ℕ) : window ≤ avoidance datagramSize window sizes := by
  induction sizes generalizing window with
  | nil => exact le_rfl
  | cons size sizes ih => exact (Nat.le_add_right _ _).trans (ih _)

@[simp] lemma avoidance_zero (sizes : List ℕ) : avoidance datagramSize 0 sizes = 0 := by
  induction sizes with
  | nil => rfl
  | cons size sizes ih => simpa [avoidance] using ih

lemma avoidance_mul_le (window : ℕ) (sizes : List ℕ) :
    avoidance datagramSize window sizes * window ≤ window * window + datagramSize * sizes.sum := by
  induction sizes generalizing window with
  | nil => exact Nat.le_add_right _ _
  | cons size sizes ih =>
    have hshare := Nat.div_mul_le_self (datagramSize * size) window
    generalize hgrowth : datagramSize * size / window = growth at hshare
    have hrest := ih (window + growth)
    have hle : window + growth ≤ avoidance datagramSize (window + growth) sizes := le_avoidance _ _ _
    rw [avoidance, List.foldl_cons, hgrowth, ← avoidance, List.sum_cons]
    nlinarith

lemma avoidance_of_small {datagramSize window : ℕ} {sizes : List ℕ}
    (h : ∀ size ∈ sizes, datagramSize * size < window) :
    avoidance datagramSize window sizes = window := by
  induction sizes with
  | nil => rfl
  | cons size sizes ih =>
    rw [avoidance, List.foldl_cons, Nat.div_eq_of_lt (h size List.mem_cons_self), ← avoidance]
    exact ih fun size hmem => h size (List.mem_cons_of_mem _ hmem)

lemma lt_avoidance_iff {window : ℕ} (hwindow : 0 < window) (sizes : List ℕ) :
    window < avoidance datagramSize window sizes ↔ ∃ size ∈ sizes, window ≤ datagramSize * size := by
  induction sizes with
  | nil => simp [avoidance]
  | cons size sizes ih =>
    rw [avoidance, List.foldl_cons, ← avoidance, List.exists_mem_cons_iff]
    by_cases hshare : window ≤ datagramSize * size
    · have hgrowth : 0 < datagramSize * size / window := Nat.div_pos hshare hwindow
      have hle := le_avoidance datagramSize (window + datagramSize * size / window) sizes
      exact iff_of_true (by omega) (.inl hshare)
    · rw [Nat.div_eq_of_lt (not_le.1 hshare), Nat.add_zero, ih]
      exact (or_iff_right hshare).symm

end Avoidance

def growing (c : NewReno) (packets : List SentPacket) : List ℕ :=
  (packets.filter fun packet => packet.inFlight && !c.inRecovery packet.timeSent).map (·.size)

structure Avoids (c c' : NewReno) (packets : List SentPacket) : Prop where
  size : c'.maxDatagramSize = c.maxDatagramSize
  threshold : c'.slowStartThreshold = c.slowStartThreshold
  recovery : c'.recoveryStartTime = c.recoveryStartTime
  window : c'.congestionWindow = avoidance c.maxDatagramSize c.congestionWindow (c.growing packets)

variable {call : Call} {calls : List Call}

section Quiet

variable {c c' c'' : NewReno} {packets packets' : List SentPacket}

lemma inRecovery_congr (h : c'.recoveryStartTime = c.recoveryStartTime) (t : ℚ) :
    c'.inRecovery t = c.inRecovery t := by
  rw [inRecovery, inRecovery, h]

lemma growing_nil (c : NewReno) : c.growing [] = [] := rfl

lemma growing_append (c : NewReno) (packets packets' : List SentPacket) :
    c.growing (packets ++ packets') = c.growing packets ++ c.growing packets' := by
  simp [growing]

lemma Avoids.of_window_eq (hsize : c'.maxDatagramSize = c.maxDatagramSize)
    (hthreshold : c'.slowStartThreshold = c.slowStartThreshold)
    (hrecovery : c'.recoveryStartTime = c.recoveryStartTime)
    (hwindow : c'.congestionWindow = c.congestionWindow) (hgrowing : c.growing packets = []) :
    Avoids c c' packets :=
  ⟨hsize, hthreshold, hrecovery, by rw [hgrowing, hwindow]; rfl⟩

lemma Avoids.trans (h : Avoids c c' packets) (h' : Avoids c' c'' packets') :
    Avoids c c'' (packets ++ packets') := by
  have hgrowing : c'.growing packets' = c.growing packets' := by simp only [growing, inRecovery_congr h.recovery]
  refine ⟨h'.size.trans h.size, h'.threshold.trans h.threshold, h'.recovery.trans h.recovery, ?_⟩
  rw [h'.window, h.size, h.window, hgrowing, growing_append, avoidance_append]

lemma Avoids.belowThreshold (h : Avoids c c' packets) (habove : c.belowThreshold = false) :
    c'.belowThreshold = false := by
  have hle := le_avoidance c.maxDatagramSize c.congestionWindow (c.growing packets)
  rw [← h.window] at hle
  simp only [NewReno.belowThreshold, h.threshold] at habove ⊢
  cases hthreshold : c.slowStartThreshold with
  | none => simp [hthreshold] at habove
  | some threshold =>
    simp only [hthreshold, decide_eq_false_iff_not, not_lt] at habove ⊢
    exact habove.trans hle

lemma avoids_release (packet : SentPacket) {packets : List SentPacket} (hgrowing : c.growing packets = []) :
    Avoids c (c.release packet) packets := by
  rw [release]
  split_ifs
  · exact .of_window_eq rfl rfl rfl rfl hgrowing
  · exact .of_window_eq rfl rfl rfl rfl hgrowing

lemma avoids_releases (c : NewReno) (packets : List SentPacket) : Avoids c (packets.foldl release c) [] := by
  induction packets generalizing c with
  | nil => exact .of_window_eq rfl rfl rfl rfl rfl
  | cons packet packets ih => exact (avoids_release packet c.growing_nil).trans (ih (c.release packet))

lemma onPacketAcked_avoids (habove : c.belowThreshold = false) (packet : SentPacket) :
    Ensures (onPacketAcked packet) c (fun _ c' => Avoids c c' [packet])
      fun _ c' => Avoids c c' [packet] ∧ c.congestionWindow = 0 := by
  have hrelease := avoids_release packet c.growing_nil
  have hrecovery := inRecovery_congr hrelease.recovery packet.timeSent
  have hwindow : (c.release packet).congestionWindow = c.congestionWindow := hrelease.window
  have hbelow := hrelease.belowThreshold habove
  simp only [onPacketAcked, ensures_flow, ensures_throw, hbelow, hrecovery, hwindow, hrelease.size,
    Bool.false_eq_true, false_implies, true_and, not_false_eq_true, forall_const]
  refine ⟨fun hout => ?_, fun hin => ⟨fun hrecovers => ?_, fun hcounts => ⟨fun hzero => ?_, fun _ => ?_⟩⟩⟩
  · exact .of_window_eq rfl rfl rfl rfl (by simp [growing, hout])
  · exact avoids_release packet (by simp [growing, hrecovers])
  · refine ⟨⟨hrelease.size, hrelease.threshold, hrelease.recovery, ?_⟩, hzero⟩
    rw [hwindow, hzero, avoidance_zero]
  · refine ⟨rfl, hrelease.threshold, hrelease.recovery, ?_⟩
    simp [growing, avoidance, not_not.1 hin, Bool.not_eq_true _ ▸ hcounts]

lemma avoids_onPacketsAcked (habove : c.belowThreshold = false) (packets : List SentPacket) :
    Avoids c (finalState (onPacketsAcked packets) c) packets := by
  refine Ensures.final (P := fun c' => Avoids c c' packets) ?_
  induction packets generalizing c with
  | nil => exact .of_window_eq rfl rfl rfl rfl rfl
  | cons packet packets ih =>
    simp only [onPacketsAcked, each, ensures_bind]
    apply (onPacketAcked_avoids habove packet).mono
    · rintro _ c₁ h
      exact (ih (h.belowThreshold habove)).both fun c₂ h' => h.trans h'
    · rintro _ c₁ ⟨h, hzero⟩
      refine ⟨h.size, h.threshold, h.recovery, ?_⟩
      rw [h.window, hzero, avoidance_zero, avoidance_zero]

lemma avoids_step (habove : c.belowThreshold = false) (hquiet : call.isQuiet = true) :
    Avoids c (c.step call) call.ackedPackets := by
  cases call with
  | sent packet =>
    rw [step, onPacketSent]
    split_ifs
    · exact .of_window_eq rfl rfl rfl rfl rfl
    · exact .of_window_eq rfl rfl rfl rfl rfl
  | acked packets now => exact avoids_onPacketsAcked habove packets
  | discarded packets => exact avoids_releases c packets
  | lost packets now => cases hquiet
  | ecnCe sentTime now => cases hquiet
  | persistent => cases hquiet

lemma avoids_run (habove : c.belowThreshold = false) (hquiet : ∀ call ∈ calls, call.isQuiet = true) :
    Avoids c (c.run calls) (calls.flatMap Call.ackedPackets) := by
  induction calls generalizing c with
  | nil => exact .of_window_eq rfl rfl rfl rfl rfl
  | cons call calls ih =>
    have hstep := avoids_step habove (hquiet call List.mem_cons_self)
    rw [run, List.foldl_cons, ← run, List.flatMap_cons]
    exact hstep.trans (ih (hstep.belowThreshold habove) fun call hmem => hquiet call (List.mem_cons_of_mem _ hmem))

lemma sum_growing_le (c : NewReno) (packets : List SentPacket) :
    ((c.growing packets).sum : ℤ) ≤ flight packets := by
  induction packets with
  | nil => exact le_rfl
  | cons packet packets ih =>
    simp only [growing, List.filter_cons, flight_cons] at ih ⊢
    split_ifs with hgrows hin hin
    · simp only [List.map_cons, List.sum_cons, Nat.cast_add]
      omega
    · simp [hin] at hgrows
    · omega
    · omega

end Quiet

theorem avoidance_growth_bounded (c : NewReno) (habove : c.belowThreshold = false) (calls : List Call)
    (hquiet : ∀ call ∈ calls, call.isQuiet = true)
    (hsizes : flight (calls.flatMap Call.ackedPackets) ≤ c.congestionWindow) :
    (c.run calls).congestionWindow ≤ c.congestionWindow + c.maxDatagramSize := by
  rw [(avoids_run habove hquiet).window]
  rcases Nat.eq_zero_or_pos c.congestionWindow with hzero | hpos
  · rw [hzero, avoidance_zero]
    exact Nat.zero_le _
  · have hsum : (c.growing (calls.flatMap Call.ackedPackets)).sum ≤ c.congestionWindow := by
      exact_mod_cast (sum_growing_le c _).trans hsizes
    have hmul :=
      avoidance_mul_le c.maxDatagramSize c.congestionWindow (c.growing (calls.flatMap Call.ackedPackets))
    refine Nat.le_of_mul_le_mul_right (hmul.trans ?_) hpos
    rw [Nat.add_mul]
    exact Nat.add_le_add_left (Nat.mul_le_mul_left _ hsum) _

section Samples

def packetOf (number size : ℕ) : SentPacket := ⟨.oneRtt, number, 1, true, true, size, []⟩

def fullPackets (count : ℕ) : List SentPacket := (List.range count).map (packetOf · 1200)

def avoiding (window : ℕ) : NewReno := ⟨1200, window, window, some window, none⟩

lemma belowThreshold_avoiding (window : ℕ) : (avoiding window).belowThreshold = false := by
  simp [avoiding, belowThreshold]

lemma sum_fullPackets (count : ℕ) : ((fullPackets count).map (·.size)).sum = count * 1200 := by
  simp [fullPackets, packetOf, Function.comp_def]

end Samples

theorem avoidance_growth_bounded_whole :
    ((avoiding 2400).run [.acked [packetOf 0 1200] 2, .sent (packetOf 2 1200),
      .acked [packetOf 1 1200] 3]).congestionWindow ≤
      2400 + 1200 :=
  avoidance_growth_bounded (avoiding 2400) rfl _ (by decide) (by decide)

theorem avoidance_progress_iff (c : NewReno) (habove : c.belowThreshold = false) (calls : List Call)
    (hquiet : ∀ call ∈ calls, call.isQuiet = true)
    (hpackets : ∀ packet ∈ calls.flatMap Call.ackedPackets, packet.inFlight = true ∧
    c.inRecovery packet.timeSent = false) :
    c.congestionWindow < (c.run calls).congestionWindow ↔
      0 < c.congestionWindow ∧
        ∃ packet ∈ calls.flatMap Call.ackedPackets, c.congestionWindow ≤ c.maxDatagramSize * packet.size := by
  have hgrowing : c.growing (calls.flatMap Call.ackedPackets) = (calls.flatMap Call.ackedPackets).map
    (·.size) := by
    rw [growing, List.filter_eq_self.2 fun packet hmem => ?_]
    simp [hpackets packet hmem]
  rw [(avoids_run habove hquiet).window, hgrowing]
  rcases Nat.eq_zero_or_pos c.congestionWindow with hzero | hpos
  · simp [hzero]
  · rw [lt_avoidance_iff _ hpos, and_iff_right hpos]
    simp

theorem avoidance_progress_iff_whole :
    (avoiding 2400).congestionWindow < ((avoiding 2400).run [.acked (fullPackets 2) 2]).congestionWindow :=
  (avoidance_progress_iff (avoiding 2400) rfl [.acked (fullPackets 2) 2] (by decide) (by decide)).2
    ⟨by decide, packetOf 0 1200, by decide, by decide⟩

theorem avoidance_stalls :
    (avoiding 1500000).belowThreshold = false ∧
    (∀ packet ∈ fullPackets 1250, packet.inFlight = true ∧ (avoiding 1500000).inRecovery packet.timeSent = false ∧
      1 ≤ packet.size ∧ packet.size ≤ (avoiding 1500000).maxDatagramSize) ∧
    ((fullPackets 1250).map (·.size)).sum = (avoiding 1500000).congestionWindow ∧
    ((avoiding 1500000).run [.acked (fullPackets 1250) 2]).congestionWindow =
      (avoiding 1500000).congestionWindow := by
  refine ⟨belowThreshold_avoiding _, fun packet hmem => ?_, ?_, ?_⟩
  · obtain ⟨number, -, rfl⟩ := List.mem_map.1 hmem
    exact ⟨rfl, rfl, Nat.le_add_left 1 1199, le_rfl⟩
  · rw [sum_fullPackets]
    rfl
  · have havoids := avoids_run (belowThreshold_avoiding 1500000)
      (List.forall_mem_singleton.2 (rfl : (Call.acked (fullPackets 1250) 2).isQuiet = true))
    rw [havoids.window]
    refine avoidance_of_small fun size hsize => ?_
    obtain ⟨packet, hpacket, rfl⟩ := List.mem_map.1 hsize
    have hmem : packet ∈ fullPackets 1250 := by simpa [Call.ackedPackets] using (List.mem_filter.1 hpacket).1
    obtain ⟨number, -, rfl⟩ := List.mem_map.1 hmem
    norm_num [avoiding, packetOf]

section Reduction

variable {c : NewReno} {t : ℚ}

def Wide (c : NewReno) : Prop := 2 * c.maxDatagramSize ≤ c.congestionWindow

lemma wide_new (maxDatagramSize : ℕ) : (new maxDatagramSize).Wide := by
  simp only [Wide, new]
  omega

lemma wide_reduce (c : NewReno) (now : ℚ) : (c.reduce now).Wide := le_max_right _ _

structure Opens (c c' : NewReno) : Prop where
  size : c'.maxDatagramSize = c.maxDatagramSize
  recovery : c'.recoveryStartTime = c.recoveryStartTime
  window : c.congestionWindow ≤ c'.congestionWindow

lemma Opens.refl (c : NewReno) : Opens c c := ⟨rfl, rfl, le_rfl⟩

lemma Opens.trans {c' c'' : NewReno} (h : Opens c c') (h' : Opens c' c'') : Opens c c'' :=
  ⟨h'.size.trans h.size, h'.recovery.trans h.recovery, h.window.trans h'.window⟩

lemma Opens.wide {c' : NewReno} (h : Opens c c') (hwide : c.Wide) : c'.Wide := by
  rw [Wide, h.size]
  exact hwide.trans h.window

lemma opens_release (c : NewReno) (packet : SentPacket) : Opens c (c.release packet) := by
  rw [release]
  split_ifs
  · exact ⟨rfl, rfl, le_rfl⟩
  · exact .refl c

lemma opens_releases (c : NewReno) (packets : List SentPacket) : Opens c (packets.foldl release c) := by
  induction packets generalizing c with
  | nil => exact .refl c
  | cons packet packets ih => exact (c.opens_release packet).trans (ih _)

lemma onPacketAcked_opens (c : NewReno) (packet : SentPacket) :
    Ensures (onPacketAcked packet) c (fun _ => Opens c) fun _ c' => Opens c c' := by
  have hrelease := c.opens_release packet
  simp only [onPacketAcked, ensures_flow, ensures_throw]
  refine ⟨fun _ => .refl c,
    fun _ => ⟨fun _ => hrelease, fun _ => ⟨fun _ => ?_, fun _ => ⟨fun _ => hrelease, fun _ => ?_⟩⟩⟩⟩
  · exact hrelease.trans ⟨rfl, rfl, Nat.le_add_right _ _⟩
  · exact hrelease.trans ⟨rfl, rfl, Nat.le_add_right _ _⟩

lemma opens_onPacketsAcked (c : NewReno) (packets : List SentPacket) :
    Opens c (finalState (onPacketsAcked packets) c) := by
  refine Ensures.final (P := Opens c) ?_
  induction packets generalizing c with
  | nil => exact .refl c
  | cons packet packets ih =>
    simp only [onPacketsAcked, each, ensures_bind]
    apply (c.onPacketAcked_opens packet).imp
    rintro _ c₁ h
    exact (ih c₁).both fun c₂ h' => h.trans h'

lemma step_cases (c : NewReno) (call : Call) :
    Opens c (c.step call) ∧ c.reduces call = false ∨
      (∃ c₁ now, call.time = some now ∧ c.reduces call = true ∧ Opens c c₁ ∧ c.step call = c₁.reduce now) ∨
      call = .persistent := by
  cases call with
  | sent packet =>
    refine .inl ⟨?_, rfl⟩
    rw [step, onPacketSent]
    split_ifs
    · exact ⟨rfl, rfl, le_rfl⟩
    · exact .refl c
  | acked packets now => exact .inl ⟨c.opens_onPacketsAcked packets, rfl⟩
  | lost packets now =>
    have hreleases := c.opens_releases packets
    have hrecovery := inRecovery_congr hreleases.recovery (latestSent packets)
    rw [step, reduces, onPacketsLost, hrecovery]
    by_cases hempty : packets = []
    · rw [if_pos hempty]
      exact .inl ⟨.refl c, by simp [hempty]⟩
    · rw [if_neg hempty]
      split_ifs with hin
      · exact .inl ⟨hreleases, by simp [hin]⟩
      · exact .inr (.inl ⟨_, now, rfl, by simp [hin, hempty], hreleases, rfl⟩)
  | ecnCe sentTime now =>
    rw [step, reduces, onEcnCe]
    split_ifs with hin
    · exact .inl ⟨.refl c, by simp [hin]⟩
    · exact .inr (.inl ⟨c, now, rfl, by simp [hin], .refl c, rfl⟩)
  | discarded packets => exact .inl ⟨c.opens_releases packets, rfl⟩
  | persistent => exact .inr (.inr rfl)

lemma wide_step (hwide : c.Wide) (call : Call) : (c.step call).Wide := by
  rcases c.step_cases call with ⟨hopens, -⟩ | ⟨c₁, now, -, -, -, hreduce⟩ | rfl
  · exact hopens.wide hwide
  · rw [hreduce]
    exact wide_reduce c₁ now
  · exact le_rfl

lemma size_step (c : NewReno) (call : Call) : (c.step call).maxDatagramSize = c.maxDatagramSize := by
  rcases c.step_cases call with ⟨hopens, -⟩ | ⟨c₁, now, -, -, hopens, hreduce⟩ | rfl
  · exact hopens.size
  · rw [hreduce]
    exact hopens.size
  · rfl

lemma wide_run (hwide : c.Wide) (calls : List Call) : (c.run calls).Wide ∧
    (c.run calls).maxDatagramSize = c.maxDatagramSize := by
  induction calls generalizing c with
  | nil => exact ⟨hwide, rfl⟩
  | cons call calls ih =>
    obtain ⟨h, hsize⟩ := ih (wide_step hwide call)
    exact ⟨h, hsize.trans (c.size_step call)⟩

lemma exists_latestSent {packets : List SentPacket} (h : packets ≠ []) :
    ∃ packet ∈ packets, packet.timeSent = latestSent packets := by
  obtain ⟨first, packets, rfl⟩ := List.exists_cons_of_ne_nil h
  exact List.mem_map.1 (List.max?_mem (max?_timeSent first packets))

def RecoversSince (t : ℚ) (c : NewReno) : Prop := ∃ start, c.recoveryStartTime = some start ∧ t ≤ start

lemma RecoversSince.sentAfter (h : RecoversSince t c) (hreduces : c.reduces call = true) :
    call.SentAfter t := by
  obtain ⟨start, hstart, hle⟩ := h
  cases call with
  | lost packets now =>
    simp only [reduces, inRecovery, hstart, Bool.and_eq_true, decide_eq_true_eq, Bool.not_eq_true',
      decide_eq_false_iff_not, not_le] at hreduces
    obtain ⟨packet, hmem, hlatest⟩ := exists_latestSent hreduces.1
    exact ⟨packet, hmem, hlatest ▸ hle.trans_lt hreduces.2⟩
  | ecnCe sentTime now =>
    simp only [reduces, inRecovery, hstart, Bool.not_eq_true', decide_eq_false_iff_not, not_le] at hreduces
    exact hle.trans_lt hreduces
  | _ => cases hreduces

lemma RecoversSince.step (h : RecoversSince t c) (htime : ∀ now ∈ call.time, t ≤ now)
    (hcall : call ≠ .persistent) : RecoversSince t (c.step call) := by
  rcases c.step_cases call with ⟨hopens, -⟩ | ⟨c₁, now, hnow, -, -, hreduce⟩ | hpersistent
  · rw [RecoversSince, hopens.recovery]
    exact h
  · rw [hreduce]
    exact ⟨now, rfl, htime now hnow⟩
  · exact absurd hpersistent hcall

lemma RecoversSince.run (h : RecoversSince t c) (htimes : ∀ now ∈ calls.filterMap Call.time, t ≤ now)
    (hcalls : .persistent ∉ calls) : RecoversSince t (c.run calls) := by
  induction calls generalizing c with
  | nil => exact h
  | cons call calls ih =>
    have hstep : RecoversSince t (c.step call) := h.step
      (fun now hnow => htimes now (List.mem_filterMap.2 ⟨call, List.mem_cons_self, hnow⟩))
      (fun heq => hcalls (heq ▸ List.mem_cons_self))
    refine ih hstep (fun now hnow => htimes now ?_) fun hmem => hcalls (List.mem_cons_of_mem _ hmem)
    obtain ⟨later, hmem, hlater⟩ := List.mem_filterMap.1 hnow
    exact List.mem_filterMap.2 ⟨later, List.mem_cons_of_mem _ hmem, hlater⟩

lemma recoversSince_of_reduces (hreduces : c.reduces call = true) (htime : call.time = some t) :
    RecoversSince t (c.step call) := by
  rcases c.step_cases call with ⟨-, hfalse⟩ | ⟨c₁, now, hnow, -, -, hreduce⟩ | rfl
  · rw [hfalse] at hreduces
    cases hreduces
  · rw [hreduce]
    rw [htime, Option.some.injEq] at hnow
    exact ⟨now, rfl, hnow.le⟩
  · cases hreduces

end Reduction

/-- The window never falls below two datagrams, and only a sign of congestion lowers it. Within a recovery period,
a reduction is due to a packet sent after the reduction before it. -/
theorem one_reduction_per_period (maxDatagramSize : ℕ) (calls : List Call)
    (htimes : (calls.filterMap Call.time).Pairwise (· ≤ ·)) :
    (∀ before, before <+: calls → 2 * maxDatagramSize ≤ ((new maxDatagramSize).run before).congestionWindow) ∧
    (∀ before call, before ++ [call] <+: calls →
      ((new maxDatagramSize).run (before ++ [call])).congestionWindow <
        ((new maxDatagramSize).run before).congestionWindow →
      ((new maxDatagramSize).run before).reduces call = true ∨ call = .persistent) ∧
    ∀ before first between second t, before ++ first :: between ++ [second] <+: calls →
      ((new maxDatagramSize).run before).reduces first = true → first.time = some t → .persistent ∉ between →
      ((new maxDatagramSize).run (before ++ first :: between)).reduces second = true → second.SentAfter t := by
  have hwide := fun before => wide_run (wide_new maxDatagramSize) before
  refine ⟨fun before _ => ?_, fun before call _ hlower => ?_,
    fun before first between second t hprefix hfirst ht hbetween
    hsecond => ?_⟩
  · have hle := (hwide before).1
    rwa [Wide, (hwide before).2] at hle
  · rw [run, List.foldl_concat, ← run] at hlower
    rcases ((new maxDatagramSize).run before).step_cases call with ⟨hopens, -⟩ | ⟨_, _, -, hreduces, -,
      -⟩ | hpersistent
    · exact absurd hlower (not_lt.2 hopens.window)
    · exact .inl hreduces
    · exact .inr hpersistent
  · -- The calls between are not earlier than the first reduction, so that its recovery period lasts.
    have hpart : (before ++ first :: between).filterMap Call.time <+: calls.filterMap Call.time :=
      ((List.prefix_append _ _).trans hprefix).filterMap _
    have hpairs := htimes.sublist hpart.sublist
    rw [List.filterMap_append, List.filterMap_cons_some ht, List.pairwise_append] at hpairs
    have hsince := (recoversSince_of_reduces hfirst ht).run (List.pairwise_cons.1 hpairs.2.1).1 hbetween
    refine RecoversSince.sentAfter ?_ hsecond
    rwa [run, List.foldl_append, List.foldl_cons]

theorem one_reduction_per_period_losses :
    (Call.lost [packetOf 1 1200, { packetOf 2 1200 with timeSent := 4 }] 5).SentAfter 3 :=
  (one_reduction_per_period 1200
    [.lost [packetOf 0 1200] 3, .acked [packetOf 3 1200] 4,
      .lost [packetOf 1 1200, { packetOf 2 1200 with timeSent := 4 }] 5]
    (by decide)).2.2 [] _ [.acked [packetOf 3 1200] 4] _ 3 (List.prefix_refl _) rfl rfl (by simp) (by decide)

end Dsquic.Recovery.NewReno
