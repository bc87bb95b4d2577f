import Dsquic.Recovery.Conservation
import Mathlib.Data.Finite.Prod
import Mathlib.Data.Set.Finite.Lemmas
import Mathlib.Tactic.Linarith

/-!
Persistent congestion, and whether anything was acknowledged across it.
-/

namespace Dsquic.Recovery

open Lib Wire

namespace LossDetection

lemma onAckReceived_of_acknowledge {level : Level} {ack : Ack} {ackDelay now : ℚ} {l l' : LossDetection}
    {acked : List SentPacket} (h : acknowledge level ack ackDelay now l = .ok acked l') (hsome : acked ≠ []) :
    onAckReceived level ack ackDelay now l =
      .ok ⟨acked, (l'.detectAndRemoveLost level now).1⟩ (l'.detectAndRemoveLost level now).2 := by
  show EStateM.bind _ _ l = _
  simp only [EStateM.bind, h, if_neg hsome]
  rfl

lemma spansPersistentCongestion_spec {l : LossDetection} {lost : List SentPacket}
    (h : l.spansPersistentCongestion lost = true) : ∃ first, (first ∈ lost ∧ first.ackEliciting = true) ∧
      ∃ last, (last ∈ lost ∧ last.ackEliciting = true) ∧ l.pto * 3 < last.timeSent - first.timeSent := by
  unfold spansPersistentCongestion at h
  split at h
  · next first second rest heliciting =>
    have hmem : ∀ p ∈ first :: second :: rest, p ∈ lost ∧ p.ackEliciting = true :=
      fun p hp => List.mem_filter.1 (heliciting ▸ hp)
    exact ⟨first, hmem _ List.mem_cons_self, _, hmem _ (List.mem_cons_of_mem _ (List.getLast_mem _)),
      of_decide_eq_true h⟩
  · cases h

end LossDetection

structure Detection where
  state : LossDetection
  level : Level
  now : ℚ
  acked : List SentPacket
  earlier : List SentPacket

namespace Detection

open LossDetection

def batch (d : Detection) : List SentPacket := (d.state.detectAndRemoveLost d.level d.now).1

def lost (d : Detection) : List SentPacket := d.earlier ++ d.batch

def declares (d : Detection) : Bool :=
  d.state.rtt.hasSample && d.state.spansPersistentCongestion (d.batch.filter (·.inFlight))

def duration (d : Detection) : ℚ := d.state.pto * 3

def Silent (d : Detection) (first last : SentPacket) : Prop :=
  ∀ p ∈ d.acked, p.level = d.level → ¬(first.timeSent < p.timeSent ∧ p.timeSent < last.timeSent)

instance (d : Detection) (first last : SentPacket) : Decidable (d.Silent first last) :=
  inferInstanceAs (Decidable (∀ p ∈ d.acked, _))

def IsBlackout (d : Detection) (first last : SentPacket) : Prop :=
  (first.level = d.level ∧ first.ackEliciting = true) ∧ (last.level = d.level ∧ last.ackEliciting = true) ∧
    d.duration < last.timeSent - first.timeSent ∧ d.Silent first last

instance (d : Detection) (first last : SentPacket) : Decidable (d.IsBlackout first last) :=
  inferInstanceAs (Decidable (_ ∧ _))

def overdue (d : Detection) : List SentPacket :=
  (d.state.spaces d.level).sent.values.filter fun p =>
    p.ackEliciting && p.inFlight && d.state.isLost (d.state.spaces d.level) d.now p

def Spares (d : Detection) (first last p : SentPacket) : Prop :=
  ∃ other ∈ d.overdue, other.timeSent ≤ p.timeSent ∧ d.duration < other.timeSent - first.timeSent ∨
    p.timeSent ≤ other.timeSent ∧ d.duration < last.timeSent - other.timeSent

def Unbroken (d : Detection) : Prop :=
  ∀ first ∈ d.overdue, ∀ last ∈ d.overdue, d.duration < last.timeSent - first.timeSent →
    ∀ p ∈ d.acked, p.level = d.level → first.timeSent < p.timeSent ∧ p.timeSent < last.timeSent →
      d.Spares first last p

instance (d : Detection) (first last p : SentPacket) : Decidable (d.Spares first last p) :=
  inferInstanceAs (Decidable (∃ other ∈ d.overdue, _))

instance (d : Detection) : Decidable d.Unbroken := inferInstanceAs (Decidable (∀ first ∈ d.overdue, _))

variable {d : Detection} {p : SentPacket}

lemma mem_overdue : p ∈ d.overdue ↔ p ∈ d.batch.filter (·.inFlight) ∧ p.ackEliciting = true := by
  simp only [overdue, batch, detectAndRemoveLost, List.mem_filter, mem_byNumber, Bool.and_eq_true]
  tauto

lemma exists_silent (h : d.Unbroken) (hfar : ∃ first ∈ d.overdue, ∃ last ∈ d.overdue,
    d.duration < last.timeSent - first.timeSent) : ∃ first ∈ d.overdue, ∃ last ∈ d.overdue,
      d.duration < last.timeSent - first.timeSent ∧ d.Silent first last := by
  let far : Set (SentPacket × SentPacket) := { pair | pair.1 ∈ d.overdue ∧ pair.2 ∈ d.overdue ∧
    d.duration < pair.2.timeSent - pair.1.timeSent }
  have hfinite : far.Finite := (d.overdue.finite_toSet.prod d.overdue.finite_toSet).subset
    fun pair hpair => ⟨hpair.1, hpair.2.1⟩
  have hnonempty : far.Nonempty := by
    obtain ⟨first, hfirst, last, hlast, hlong⟩ := hfar
    exact ⟨(first, last), hfirst, hlast, hlong⟩
  obtain ⟨⟨first, last⟩, ⟨hfirst, hlast, hlong⟩, hleast⟩ :=
    Set.exists_min_image far (fun pair => pair.2.timeSent - pair.1.timeSent) hfinite hnonempty
  refine ⟨first, hfirst, last, hlast, hlong, fun p hp hlevel hbetween => ?_⟩
  obtain ⟨other, hother, ⟨hbefore, hnear⟩ | ⟨hafter, hnear⟩⟩ :=
    h first hfirst last hlast hlong p hp hlevel hbetween
  · have hle : last.timeSent - first.timeSent ≤ other.timeSent - first.timeSent :=
      hleast (first, other) ⟨hfirst, hother, hnear⟩
    linarith [hbetween.2]
  · have hle : last.timeSent - first.timeSent ≤ last.timeSent - other.timeSent :=
      hleast (other, last) ⟨hother, hlast, hnear⟩
    linarith [hbetween.1]

end Detection

namespace Ledger

open LossDetection

def detects (ledger : Ledger) : Op → Option Detection
  | .onAckReceived level ack ackDelay now =>
    match acknowledge level ack ackDelay now ledger.detection with
    | .ok [] _ => none
    | .ok acked l => some ⟨l, level, now, ledger.acked ++ acked, ledger.lost⟩
    | .error _ _ => none
  | .onLossDetectionTimeout now =>
    ledger.detection.earliestLossTime.map fun loss =>
      ⟨{ ledger.detection with lastEvent := some now }, loss.2, now, ledger.acked, ledger.lost⟩
  | _ => none

def detections (ledger : Ledger) : List Op → List Detection
  | [] => []
  | op :: ops => (ledger.detects op).toList ++
    match ledger.step op with
    | .ok ledger => ledger.detections ops
    | .error _ => []

section Runs

variable {ledger ledger' : Ledger} {op : Op}

def Homed (l : LossDetection) : Prop := ∀ level, ∀ p ∈ (l.spaces level).sent.values, p.level = level

lemma homed_step (h : Homed ledger.detection) (hstep : ledger.step op = .ok ledger') :
    Homed ledger'.detection := by
  cases op with
  | onPacketSent packet =>
    cases hstep
    intro level p hp
    rcases mem_sent_onPacketSent hp with ⟨rfl, rfl⟩ | hold
    · rfl
    · exact h level p hold
  | onAckReceived level ack ackDelay now =>
    have hspec := onAckReceived_spec ledger.detection level ack ackDelay now
    cases hack : LossDetection.onAckReceived level ack ackDelay now ledger.detection with
    | ok outcome detection =>
      simp only [Ledger.step, hack] at hstep
      cases hstep
      exact fun other p hp => h other p (mem_sent_settles (hspec.of_ok hack).2.1 hp)
    | error e detection =>
      rcases hspec.of_error hack with ⟨⟨reason, rfl, -⟩, rfl⟩ | ⟨-, rfl, -⟩
      · simp only [Ledger.step, hack] at hstep
        cases hstep
        exact h
      · simp only [Ledger.step, hack] at hstep
        cases hstep
  | onLossDetectionTimeout now =>
    obtain ⟨level, hsettles⟩ := onLossDetectionTimeout_settles ledger.detection now
    cases hstep
    exact fun other p hp => h other p (mem_sent_settles hsettles hp)
  | restartSpace level =>
    cases hstep
    exact fun other p hp => h other p (mem_sent_emptied hp)
  | discardSpace level =>
    cases hstep
    exact fun other p hp => h other p (mem_sent_emptied hp)

lemma detects_spec (h : Homed ledger.detection) {d : Detection} (hd : ledger.detects op = some d) :
    (∃ ledger', ledger.step op = .ok ledger' ∧ ledger'.acked = d.acked ∧ ledger'.lost = d.lost ∧
      ledger'.detection = (d.state.detectAndRemoveLost d.level d.now).2) ∧ ∀ p ∈ d.batch, p.level = d.level := by
  cases op with
  | onAckReceived level ack ackDelay now =>
    simp only [detects] at hd
    split at hd
    · cases hd
    · next acked l hsome hack =>
      cases hd
      have hreceived := onAckReceived_of_acknowledge hack fun hnone => hsome hnone
      have hsettles := ((onAckReceived_spec ledger.detection level ack ackDelay now).of_ok hreceived).2.1
      refine ⟨⟨_, by rw [Ledger.step, hreceived], rfl, rfl, rfl⟩, fun p hp => ?_⟩
      exact h level p (mem_sent_iff.2 (hsettles.wasSent p (.inr hp)))
    · cases hd
  | onLossDetectionTimeout now =>
    obtain ⟨loss, hloss, rfl⟩ := Option.map_eq_some_iff.1 hd
    have hevented :
      ({ ledger.detection with lastEvent := some now } : LossDetection).earliestLossTime = some loss :=
      hloss
    have hsettles := detectAndRemoveLost_settles { ledger.detection with lastEvent := some now } loss.2 now
    refine ⟨⟨_, rfl, rfl, ?_, ?_⟩, fun p hp => h loss.2 p (mem_sent_iff.2 (hsettles.wasSent p (.inr hp)))⟩
    · simp only [hevented, Detection.lost, Detection.batch]
    · simp only [hevented]
  | onPacketSent packet => cases hd
  | restartSpace level => cases hd
  | discardSpace level => cases hd

lemma mem_detections {P : Detection → Prop} (hP : ∀ ledger : Ledger, Homed ledger.detection →
      ∀ op, ∀ d ∈ ledger.detects op, P d) (h : Homed ledger.detection) (ops : List Op) :
    ∀ d ∈ ledger.detections ops, P d := by
  induction ops generalizing ledger with
  | nil => simp [detections]
  | cons op ops ih =>
    intro d hd
    rcases List.mem_append.1 hd with hnow | hlater
    · exact hP ledger h op d (by simpa using hnow)
    · cases hstep : ledger.step op with
      | ok ledger' =>
        rw [hstep] at hlater
        exact ih (homed_step h hstep) d hlater
      | error e =>
        rw [hstep] at hlater
        cases hlater

end Runs

/-- Persistent congestion is a blackout if each acknowledged packet that was sent between overdue ones further
apart than the duration leaves two of them that far apart on one side of it. -/
theorem persistent_congestion_of_unbroken (maxDatagramSize : ℕ) (isClient : Bool) (ops : List Op) (d : Detection)
    (hd : d ∈ (new maxDatagramSize isClient).detections ops) (hdeclares : d.declares = true)
    (hunbroken : d.Unbroken) :
    ∃ first ∈ d.lost, ∃ last ∈ d.lost, d.IsBlackout first last := by
  have hlevel : ∀ p ∈ d.batch, p.level = d.level := by
    refine mem_detections (fun ledger hhomed op d hd => (detects_spec hhomed hd).2) ?_ ops d hd
    intro level p hp
    simp [new, LossDetection.new, SentSpace.new] at hp
  obtain ⟨-, hspans⟩ := Bool.and_eq_true_iff.1 hdeclares
  obtain ⟨first, hfirst, last, hlast, hlong⟩ := spansPersistentCongestion_spec hspans
  obtain ⟨first, hfirst, last, hlast, hlong, hsilent⟩ := Detection.exists_silent hunbroken
    ⟨first, Detection.mem_overdue.2 hfirst, last, Detection.mem_overdue.2 hlast, hlong⟩
  obtain ⟨hfirst, hfirstEliciting⟩ := Detection.mem_overdue.1 hfirst
  obtain ⟨hlast, hlastEliciting⟩ := Detection.mem_overdue.1 hlast
  have hfirst := (List.mem_filter.1 hfirst).1
  have hlast := (List.mem_filter.1 hlast).1
  exact ⟨first, List.mem_append_right _ hfirst, last, List.mem_append_right _ hlast,
    ⟨hlevel first hfirst, hfirstEliciting⟩, ⟨hlevel last hlast, hlastEliciting⟩, hlong, hsilent⟩

def sparseOps (times : List ℚ) (ranges : List (ℕ × ℕ)) : List Op :=
  times.zipIdx.map (fun (time, n) => .onPacketSent ⟨.oneRtt, n, time, true, true, 1200, []⟩) ++
    [.onAckReceived .oneRtt ⟨times.length - 1, 0, ranges, none⟩ 0 (101 / 10)]

theorem persistent_congestion_of_unbroken_sparse :
    ∃ d ∈ (new 1200 true).detections (sparseOps [0, 1 / 2, 3 / 5, 10, 10, 10, 10, 10] [(7, 7), (1, 1)]),
      d.declares = true ∧ d.Unbroken ∧ ∃ first ∈ d.lost, ∃ last ∈ d.lost, d.IsBlackout first last := by
  obtain ⟨d, hd, hdeclares, hunbroken⟩ :
      ∃ d ∈ (new 1200 true).detections (sparseOps [0, 1 / 2, 3 / 5, 10, 10, 10, 10, 10] [(7, 7), (1, 1)]),
        d.declares = true ∧ d.Unbroken := by decide +kernel
  exact ⟨d, hd, hdeclares, hunbroken, persistent_congestion_of_unbroken 1200 true _ d hd hdeclares hunbroken⟩

theorem persistent_congestion_across_ack :
    ∃ d ∈ (new 1200 true).detections (sparseOps [0, 5, 10, 10, 10, 10] [(5, 5), (1, 1)]), d.declares = true ∧
      ¬∃ first ∈ d.lost, ∃ last ∈ d.lost, d.IsBlackout first last := by decide +kernel

end Ledger

end Dsquic.Recovery
