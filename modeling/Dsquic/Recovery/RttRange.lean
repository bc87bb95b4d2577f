import Dsquic.Recovery.LossDetection
import Mathlib.Order.Bounds.Basic
import Mathlib.Tactic.Linarith

/-!
The estimates of the round-trip time stay within the range of the samples.
-/

namespace Dsquic.Recovery.RttEstimator

def updates (r : RttEstimator) (samples : List (ℚ × ℚ)) : RttEstimator :=
  samples.foldl (fun r sample => r.update sample.1 sample.2) r

structure Within (samples : List ℚ) (most : ℚ) (r : RttEstimator) : Prop where
  hasSample : r.hasSample = true
  latest : samples.getLast? = some r.latest
  least : IsLeast {sample | sample ∈ samples} r.min
  greatest : IsGreatest {sample | sample ∈ samples} most
  nonneg : 0 ≤ r.min
  le_smoothed : r.min ≤ r.smoothed
  smoothed_le : r.smoothed ≤ most
  rttvar_nonneg : 0 ≤ r.rttvar
  rttvar_le : r.rttvar ≤ most

section Range

variable {r : RttEstimator} {samples : List ℚ} {most sample delay : ℚ}

lemma within_first (hfirst : r.hasSample = false) (hsample : 0 ≤ sample) :
    Within [sample] sample (r.update sample delay) := by
  have hupdate : r.update sample delay = ⟨sample, sample, sample, sample / 2, true⟩ := by
    rw [update, hfirst]
    rfl
  rw [hupdate]
  refine ⟨rfl, rfl, ?_, ?_, hsample, le_rfl, le_rfl, ?_, ?_⟩
  · simp
  · simp
  · change 0 ≤ sample / 2
    linarith
  · change sample / 2 ≤ sample
    linarith

lemma adjusted_mem (r : RttEstimator) (sample : ℚ) (hdelay : 0 ≤ delay) :
    Min.min r.min sample ≤ (if sample - delay ≥ Min.min r.min sample then sample - delay else sample) ∧
      (if sample - delay ≥ Min.min r.min sample then sample - delay else sample) ≤ sample := by
  split_ifs with h
  · exact ⟨h, by linarith⟩
  · exact ⟨min_le_right _ _, le_rfl⟩

lemma Within.update (h : Within samples most r) (hsample : 0 ≤ sample) (hdelay : 0 ≤ delay) :
    Within (samples ++ [sample]) (max most sample) (r.update sample delay) := by
  obtain ⟨hleast, hmost⟩ := adjusted_mem r sample hdelay
  have hnonneg : 0 ≤ Min.min r.min sample := le_min h.nonneg hsample
  have hmin : Min.min r.min sample ≤ r.min := min_le_left _ _
  have hsmoothed := h.le_smoothed
  have hold := h.smoothed_le.trans (le_max_left most sample)
  have hvar := h.rttvar_le.trans (le_max_left most sample)
  have hvar' := h.rttvar_nonneg
  have hnew := hmost.trans (le_max_right most sample)
  simp only [RttEstimator.update, h.hasSample, not_true, if_false]
  generalize (if sample - delay ≥ Min.min r.min sample then sample - delay else sample) = adjusted at *
  -- The old estimate and the adjusted sample are both between the least and the greatest sample.
  have habs : |r.smoothed - adjusted| ≤ max most sample := by
    rw [abs_le]
    constructor <;> linarith
  have habs' := abs_nonneg (r.smoothed - adjusted)
  refine ⟨rfl, by simp, ?_, ?_, hnonneg, ?_, ?_, ?_, ?_⟩
  · simpa [Set.insert_def, or_comm, min_comm] using h.least.insert sample
  · simpa [Set.insert_def, or_comm, max_comm] using h.greatest.insert sample
  all_goals
    dsimp only
    linarith

end Range

theorem rtt_within_samples (r : RttEstimator) (hfresh : r.hasSample = false) (samples : List (ℚ × ℚ))
    (hne : samples ≠ [])
    (hnonneg : ∀ sample ∈ samples, 0 ≤ sample.1 ∧ 0 ≤ sample.2) :
    ∃ most, IsGreatest {sample | sample ∈ samples.map Prod.fst} most ∧
      IsLeast {sample | sample ∈ samples.map Prod.fst} (r.updates samples).min ∧
      (samples.map Prod.fst).getLast? = some (r.updates samples).latest ∧
      (r.updates samples).min ≤ (r.updates samples).smoothed ∧ (r.updates samples).smoothed ≤ most ∧
      0 ≤ (r.updates samples).rttvar ∧ (r.updates samples).rttvar ≤ most := by
  have hwithin : ∃ most, Within (samples.map Prod.fst) most (r.updates samples) := by
    induction samples using List.reverseRecOn with
    | nil => exact absurd rfl hne
    | append_singleton samples sample ih =>
      have hsample := hnonneg sample (List.mem_append_right _ (List.mem_singleton_self _))
      have hbefore : ∀ sample ∈ samples, 0 ≤ sample.1 ∧ 0 ≤ sample.2 :=
        fun sample hmem => hnonneg sample (List.mem_append_left _ hmem)
      rw [updates, List.foldl_concat, ← updates, List.map_append, List.map_singleton]
      rcases eq_or_ne samples [] with rfl | hne
      · exact ⟨_, within_first hfresh hsample.1⟩
      · obtain ⟨most, hmost⟩ := ih hne hbefore
        exact ⟨_, hmost.update hsample.1 hsample.2⟩
  obtain ⟨most, h⟩ := hwithin
  exact ⟨most, h.greatest, h.least, h.latest, h.le_smoothed, h.smoothed_le, h.rttvar_nonneg, h.rttvar_le⟩

theorem rtt_within_samples_delayed :
    ∃ most, IsGreatest {sample | sample ∈ [(1, 0), (2, 3 / 2)].map Prod.fst} most ∧
      IsLeast {sample | sample ∈ [(1, 0), (2, 3 / 2)].map Prod.fst}
        (RttEstimator.new.updates [(1, 0), (2, 3 / 2)]).min ∧
      ([(1, 0), (2, 3 / 2)].map Prod.fst).getLast? = some (RttEstimator.new.updates [(1, 0), (2, 3 / 2)]).latest ∧
      (RttEstimator.new.updates [(1, 0), (2, 3 / 2)]).min ≤
        (RttEstimator.new.updates [(1, 0), (2, 3 / 2)]).smoothed ∧
      (RttEstimator.new.updates [(1, 0), (2, 3 / 2)]).smoothed ≤ most ∧
      0 ≤ (RttEstimator.new.updates [(1, 0), (2, 3 / 2)]).rttvar ∧
      (RttEstimator.new.updates [(1, 0), (2, 3 / 2)]).rttvar ≤ most :=
  rtt_within_samples .new rfl [(1, 0), (2, 3 / 2)] (List.cons_ne_nil _ _) (by norm_num)

end Dsquic.Recovery.RttEstimator
