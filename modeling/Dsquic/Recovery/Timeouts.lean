import Dsquic.Recovery.LossDetection
import Mathlib.Algebra.Order.Archimedean.Basic

/-!
How many timeouts of loss detection can fall due at one time.
-/

namespace Dsquic.Recovery

open Lib Wire

instance (P : Level → Prop) [DecidablePred P] : Decidable (∀ level, P level) :=
  decidable_of_iff (P .initial ∧ P .handshake ∧ P .oneRtt)
    ⟨fun h level => by cases level <;> simp [h], fun h => ⟨h _, h _, h _⟩⟩

def reached (deadline : Option ℚ) (now : ℚ) : Bool := deadline.any (· ≤ now)

lemma not_reached_iff {deadline : Option ℚ} {now : ℚ} :
    reached deadline now = false ↔ ∀ time ∈ deadline, now < time := by
  cases deadline <;> simp [reached]

namespace LossDetection

def ptoBase (l : LossDetection) (level : Level) : ℚ :=
  let duration := l.rtt.smoothed + max (4 * l.rtt.rttvar) granularity
  if level = .oneRtt then duration + l.maxAckDelay else duration

def counts (l : LossDetection) (level : Level) : Bool :=
  !(l.spaces level).discarded && (level ≠ .oneRtt || l.handshakeConfirmed)

def Recent (now : ℚ) (packet : SentPacket) : Prop := packet.ackEliciting = true ∧ now < packet.timeSent + 60

instance (now : ℚ) (packet : SentPacket) : Decidable (Recent now packet) := inferInstanceAs (Decidable (_ ∧ _))

/-- The spaces whose probe timer counts have sent an ack-eliciting packet in the last minute that no loss takes
from them: all those in flight, or one of them while no loss is awaited. -/
def Active (l : LossDetection) (now : ℚ) (next : Level → ℕ) : Prop :=
  ∀ level, l.counts level = true →
    (∀ packet ∈ (l.spaces level).sent.values, packet.ackEliciting = true → Recent now packet) ∨
    (l.spaces level).lossTime = none ∧ ∃ item ∈ (l.spaces level).sent.items, item.1 < next level ∧
      Recent now item.2

instance (l : LossDetection) (now : ℚ) (next : Level → ℕ) : Decidable (l.Active now next) :=
  inferInstanceAs (Decidable (∀ _, _))

def dueLosses (l : LossDetection) (now : ℚ) : ℕ :=
  (Level.all.map fun level => (reached (l.spaces level).lossTime now).toNat).sum

def urgency (l : LossDetection) (now : ℚ) (doublings : ℕ) : ℕ :=
  doublings - l.ptoCount + l.dueLosses now + if l.lastEvent = some now then 0 else 1

def Bounded (l : LossDetection) (doublings : ℕ) : Prop := ∀ level, 60 ≤ l.ptoBase level * 2 ^ doublings

section Earliest

variable {candidates : List (ℚ × Level)} {best : ℚ × Level}

lemma earliestOf_mem (h : earliestOf candidates = some best) : best ∈ candidates := by
  have hfold : ∀ (cs : List (ℚ × Level)) (c : ℚ × Level),
      cs.foldl (fun best c => if c.1 < best.1 then c else best) c ∈ c :: cs := by
    intro cs
    induction cs with
    | nil => exact fun c => List.mem_singleton.2 rfl
    | cons d cs ih =>
      intro c
      rw [List.foldl_cons]
      rcases List.mem_cons.1 (ih (if d.1 < c.1 then d else c)) with heq | hmem
      · rw [heq]
        split_ifs
        · exact List.mem_cons_of_mem _ List.mem_cons_self
        · exact List.mem_cons_self
      · exact List.mem_cons_of_mem _ (List.mem_cons_of_mem _ hmem)
  cases candidates with
  | nil => cases h
  | cons c cs =>
    cases h
    exact hfold cs c

end Earliest

variable {l : LossDetection} {now : ℚ} {doublings : ℕ} {level : Level}

lemma earliestLossTime_eq_some {loss : ℚ × Level} (h : l.earliestLossTime = some loss) :
    (l.spaces loss.2).lossTime = some loss.1 := by
  obtain ⟨level, -, hlevel⟩ := List.mem_filterMap.1 (earliestOf_mem h)
  split_ifs at hlevel
  obtain ⟨time, htime, hpair⟩ := Option.map_eq_some_iff.1 hlevel
  cases hpair
  exact htime

def Lapsed (l : LossDetection) (now : ℚ) (level : Level) : Prop :=
  l.counts level = true ∧ (∃ packet ∈ (l.spaces level).sent.values, packet.ackEliciting = true) ∧
    ∀ packet ∈ (l.spaces level).sent.values, packet.ackEliciting = true → packet.timeSent + 60 ≤ now

instance (l : LossDetection) (now : ℚ) (level : Level) : Decidable (l.Lapsed now level) :=
  inferInstanceAs (Decidable (_ ∧ _))

section Detection

lemma not_reached_earliest {times : List ℚ} {first : Option ℚ} (hfirst : reached first now = false)
    (h : ∀ time ∈ times, now < time) : reached (times.foldl earliest first) now = false := by
  induction times generalizing first with
  | nil => exact hfirst
  | cons time times ih =>
    apply ih
    · have htime := h time List.mem_cons_self
      rw [not_reached_iff] at hfirst ⊢
      cases first with
      | none => simpa [earliest] using htime
      | some first =>
        simp only [earliest, Option.mem_some, forall_eq'] at hfirst ⊢
        split_ifs
        · exact htime
        · exact hfirst
    · exact fun other hother => h other (List.mem_cons_of_mem _ hother)

lemma not_reached_lossTime (l : LossDetection) (level : Level) (now : ℚ) :
    reached ((l.detectAndRemoveLost level now).2.spaces level).lossTime now = false := by
  simp only [detectAndRemoveLost, spaces_setSpace, if_true]
  refine not_reached_earliest rfl fun time htime => ?_
  obtain ⟨packet, hpacket, rfl⟩ := List.mem_map.1 htime
  have hwaiting := (List.mem_filter.1 hpacket).2
  simp only [isLost, Bool.and_eq_true, Bool.not_eq_true', Bool.and_eq_false_iff, Bool.or_eq_false_iff,
    decide_eq_true_eq, decide_eq_false_iff_not] at hwaiting
  rcases hwaiting with ⟨hacked, hnot | ⟨-, hlate⟩⟩
  · exact absurd hacked hnot
  · linarith [not_le.1 hlate]

end Detection

section Active

variable {next next' : Level → ℕ}

lemma Active.of_keeps {l' : LossDetection} (h : l.Active now next)
    (hcounts : ∀ level, l'.counts level = true → l.counts level = true)
    (hsent : ∀ level, ∀ packet ∈ (l'.spaces level).sent.values,
      packet ∈ (l.spaces level).sent.values ∨ packet.timeSent = now)
    (hkept : ∀ level, l'.counts level = true → (l.spaces level).lossTime = none →
    (l'.spaces level).lossTime = none ∧
      ∀ item ∈ (l.spaces level).sent.items, item.1 < next level → item ∈ (l'.spaces level).sent.items)
    (hnext : ∀ level, next level ≤ next' level) : l'.Active now next' := by
  intro level hlevel
  rcases h level (hcounts level hlevel) with hall | ⟨hloss, item, hitem, hnumber, hrecent⟩
  · refine .inl fun packet hpacket heliciting => ?_
    rcases hsent level packet hpacket with hold | hnew
    · exact hall packet hold heliciting
    · exact ⟨heliciting, by linarith⟩
  · obtain ⟨hloss', hitems⟩ := hkept level hlevel hloss
    exact .inr ⟨hloss', item, hitems item hitem hnumber, hnumber.trans_le (hnext level), hrecent⟩

lemma Active.onPacketSent {packet : SentPacket} (h : l.Active now next) (htime : packet.timeSent = now)
    (hnumber : packet.packetNumber = next packet.level) (hnext : ∀ level, next level ≤ next' level) :
    (l.onPacketSent packet).Active now next' := by
  refine h.of_keeps (fun level hlevel => ?_) (fun level p hp => ?_) (fun level _ hloss => ?_) hnext
  · simp only [counts, LossDetection.onPacketSent, spaces_setSpace] at hlevel ⊢
    split_ifs at hlevel with heq
    · subst heq
      exact hlevel
    · exact hlevel
  · rcases mem_sent_onPacketSent hp with ⟨rfl, -⟩ | hold
    · exact .inr htime
    · exact .inl hold
  · simp only [LossDetection.onPacketSent, spaces_setSpace]
    split_ifs with heq
    · subst heq
      refine ⟨hloss, fun item hitem hlt => Dict.get?_eq_some_iff.1 ?_⟩
      rw [Dict.get?_set, if_neg (by omega)]
      exact Dict.get?_eq_some_iff.2 hitem
    · exact ⟨hloss, fun item hitem _ => hitem⟩

lemma Active.discardSpace (h : l.Active now next) : (l.discardSpace .initial).Active now next := by
  have hspace : ∀ level, (l.discardSpace .initial).counts level = true →
      (l.discardSpace .initial).spaces level = l.spaces level := by
    intro level hlevel
    simp only [counts, LossDetection.discardSpace, emptied, spaces_setSpace] at hlevel ⊢
    split_ifs at hlevel ⊢
    · cases hlevel
    · rfl
  refine h.of_keeps (fun level hlevel => ?_) (fun level packet hpacket => .inl (mem_sent_emptied hpacket))
    (fun level hlevel hloss => ?_) fun _ => le_rfl
  · have hcounts := hlevel
    rwa [counts, hspace level hlevel] at hcounts
  · rw [hspace level hlevel]
    exact ⟨hloss, fun item hitem _ => hitem⟩

lemma Active.onLossDetectionTimeout (h : l.Active now next) :
    (l.onLossDetectionTimeout now).2.Active now next := by
  cases hloss : l.earliestLossTime with
  | some loss =>
    rw [onLossDetectionTimeout_loss now hloss]
    have hd : Settles l loss.2 [] _ _ :=
      { detectAndRemoveLost_settles { l with lastEvent := some now } loss.2 now with }
    refine h.of_keeps (fun level hlevel => ?_) (fun level packet hpacket => .inl (mem_sent_settles hd hpacket))
      (fun level _ hnone => ?_) fun _ => le_rfl
    · by_cases heq : level = loss.2
      · simpa [counts, heq, hd.discarded, hd.confirmed] using hlevel
      · simpa [counts, hd.others level heq, hd.confirmed] using hlevel
    · have hne : level ≠ loss.2 := by
        rintro rfl
        rw [earliestLossTime_eq_some hloss] at hnone
        cases hnone
      rw [hd.others level hne]
      exact ⟨hnone, fun item hitem _ => hitem⟩
  | none =>
    obtain ⟨level, hprobe⟩ := onLossDetectionTimeout_probe now hloss
    rw [hprobe]
    exact h

end Active

end LossDetection

end Dsquic.Recovery
