import Dsquic.Lib.Dict
import Dsquic.Recovery.NewReno
import Mathlib.Data.List.Sort

/-!
Loss detection over the three packet number spaces.
-/

namespace Dsquic.Recovery

open Lib Wire

def granularity : ℚ := 1 / 1000

structure RttEstimator where
  latest : ℚ
  min : ℚ
  smoothed : ℚ
  rttvar : ℚ
  hasSample : Bool

namespace RttEstimator

def new : RttEstimator := ⟨333 / 1000, 333 / 1000, 333 / 1000, 333 / 1000 / 2, false⟩

def update (r : RttEstimator) (sample ackDelay : ℚ) : RttEstimator :=
  if ¬r.hasSample then ⟨sample, sample, sample, sample / 2, true⟩
  else
    let least := Min.min r.min sample
    let adjusted := if sample - ackDelay ≥ least then sample - ackDelay else sample
    { r with
      latest := sample
      min := least
      rttvar := 3 / 4 * r.rttvar + 1 / 4 * |r.smoothed - adjusted|
      smoothed := 7 / 8 * r.smoothed + 1 / 8 * adjusted }

end RttEstimator

structure SentSpace where
  sent : Dict ℕ SentPacket
  largestSent : ℤ
  largestAcked : ℤ
  lossTime : Option ℚ
  discarded : Bool

def SentSpace.new : SentSpace := ⟨.empty, -1, -1, none, false⟩

structure AckOutcome where
  acked : List SentPacket
  lost : List SentPacket

structure TimeoutOutcome where
  lost : List SentPacket
  probeLevel : Option Level

structure LossDetection where
  controller : NewReno
  rtt : RttEstimator
  handshakeConfirmed : Bool
  isClient : Bool
  maxAckDelay : ℚ
  ptoCount : ℕ
  spaces : Level → SentSpace
  lastEvent : Option ℚ

def byNumber (packets : List SentPacket) : List SentPacket :=
  packets.insertionSort fun p q => p.packetNumber ≤ q.packetNumber

namespace LossDetection

def new (controller : NewReno) (isClient : Bool) : LossDetection where
  controller := controller
  rtt := .new
  handshakeConfirmed := false
  isClient := isClient
  maxAckDelay := 25 / 1000
  ptoCount := 0
  spaces _ := .new
  lastEvent := none

def setSpace (l : LossDetection) (level : Level) (space : SentSpace) : LossDetection :=
  { l with spaces := Function.update l.spaces level space }

def onPacketSent (l : LossDetection) (packet : SentPacket) : LossDetection :=
  let space := l.spaces packet.level
  { l.setSpace packet.level { space with
      sent := space.sent.set packet.packetNumber packet
      largestSent := max space.largestSent packet.packetNumber } with
    lastEvent := some packet.timeSent
    controller := l.controller.onPacketSent packet }

def largestAcked (l : LossDetection) (level : Level) : ℤ := (l.spaces level).largestAcked

def unacked (l : LossDetection) (level : Level) : List SentPacket :=
  byNumber (l.spaces level).sent.values

def inRange (range : ℕ × ℕ) (packetNumber : ℕ) : Bool := range.1 ≤ packetNumber && packetNumber ≤ range.2

def takeAcked (sent : Dict ℕ SentPacket) : List (ℕ × ℕ) → List SentPacket × Dict ℕ SentPacket
  | [] => ([], sent)
  | range :: ranges =>
    let taken := (sent.filter fun number _ => inRange range number).values
    let (rest, sent) := takeAcked (sent.filter fun number _ => !inRange range number) ranges
    (taken ++ rest, sent)

def lossDelay (l : LossDetection) : ℚ :=
  max (9 / 8 * max l.rtt.latest l.rtt.smoothed) granularity

def isLost (l : LossDetection) (space : SentSpace) (now : ℚ) (packet : SentPacket) : Bool :=
  (packet.packetNumber : ℤ) ≤ space.largestAcked &&
    ((packet.packetNumber : ℤ) ≤ space.largestAcked - 3 || packet.timeSent ≤ now - l.lossDelay)

def earliest : Option ℚ → ℚ → Option ℚ
  | none, candidate => some candidate
  | some time, candidate => some (if candidate < time then candidate else time)

def pto (l : LossDetection) : ℚ :=
  l.rtt.smoothed + max (4 * l.rtt.rttvar) granularity + l.maxAckDelay

def spansPersistentCongestion (l : LossDetection) (lost : List SentPacket) : Bool :=
  match lost.filter (·.ackEliciting) with
  | first :: second :: rest =>
    ((second :: rest).getLast (by simp)).timeSent - first.timeSent > l.pto * 3
  | _ => false

def lossResponse (l : LossDetection) (lost : List SentPacket) (now : ℚ) : NewReno :=
  let inFlight := lost.filter (·.inFlight)
  if inFlight = [] then l.controller
  else
    let controller := l.controller.onPacketsLost inFlight now
    if l.rtt.hasSample && l.spansPersistentCongestion inFlight then controller.onPersistentCongestion
    else controller

def detectAndRemoveLost (l : LossDetection) (level : Level) (now : ℚ) : List SentPacket × LossDetection :=
  let space := l.spaces level
  let packets := byNumber space.sent.values
  let lost := packets.filter (l.isLost space now)
  let waiting := packets.filter fun packet =>
    (packet.packetNumber : ℤ) ≤ space.largestAcked && !l.isLost space now packet
  (lost,
    { l.setSpace level { space with
        sent := space.sent.filter fun _ packet => !l.isLost space now packet
        lossTime := (waiting.map fun packet => packet.timeSent + l.lossDelay).foldl earliest none } with
      controller := l.lossResponse lost now })

def rttSample (l : LossDetection) (ack : Ack) (ackDelay now : ℚ) (acked : List SentPacket) :
    RttEstimator :=
  match acked.getLast? with
  | some largest =>
    if largest.packetNumber = ack.largest ∧ acked.any (·.ackEliciting) then
      l.rtt.update (now - largest.timeSent)
        (if l.handshakeConfirmed then min ackDelay l.maxAckDelay else ackDelay)
    else l.rtt
  | none => l.rtt

def acknowledge (level : Level) (ack : Ack) (ackDelay now : ℚ) :
    EStateM Raised LossDetection (List SentPacket) := do
  modify fun l => { l with lastEvent := some now }
  let l ← get
  let space := l.spaces level
  raiseIf ((ack.largest : ℤ) > space.largestSent)
    (.ackOfUnsent s!"ACK for unsent packet {ack.largest} at {level.name}")
  let (taken, sent) := takeAcked space.sent ack.ranges
  set (l.setSpace level { space with sent := sent })
  if taken = [] then return []
  else
    let acked := byNumber taken
    modify fun l =>
      { l.setSpace level { space with sent := sent, largestAcked := max space.largestAcked ack.largest } with
        rtt := l.rttSample ack ackDelay now acked
        ptoCount := 0 }
    zoom controller (fun controller l => { l with controller := controller })
      (NewReno.onPacketsAcked (acked.filter (·.inFlight)))
    return acked

def onAckReceived (level : Level) (ack : Ack) (ackDelay now : ℚ) : EStateM Raised LossDetection AckOutcome := do
  let acked ← acknowledge level ack ackDelay now
  if acked = [] then return ⟨[], []⟩
  else
    let lost ← modifyGet (detectAndRemoveLost · level now)
    return ⟨acked, lost⟩

def ptoDuration (l : LossDetection) (level : Level) : ℚ :=
  let duration := l.rtt.smoothed + max (4 * l.rtt.rttvar) granularity
  let duration := if level = .oneRtt then duration + l.maxAckDelay else duration
  min (duration * 2 ^ l.ptoCount) 60

def earliestOf : List (ℚ × Level) → Option (ℚ × Level)
  | [] => none
  | candidate :: candidates =>
    some (candidates.foldl (fun best c => if c.1 < best.1 then c else best) candidate)

def earliestLossTime (l : LossDetection) : Option (ℚ × Level) :=
  earliestOf (Level.all.filterMap fun level =>
    if (l.spaces level).discarded then none else (l.spaces level).lossTime.map (·, level))

def earliestPto (l : LossDetection) : Option (ℚ × Level) :=
  earliestOf (Level.all.filterMap fun level =>
    if (l.spaces level).discarded then none
    else if level = .oneRtt ∧ ¬l.handshakeConfirmed then none
    else
      match (l.spaces level).sent.values.filter (·.ackEliciting) with
      | [] => none
      | packet :: packets => some (NewReno.latestSent (packet :: packets) + l.ptoDuration level, level))

def antiDeadlockLevel (l : LossDetection) : Level :=
  if (l.spaces .initial).discarded then .handshake else .initial

def antiDeadlockPto (l : LossDetection) : Option ℚ :=
  l.lastEvent.map (· + l.ptoDuration l.antiDeadlockLevel)

def lossDetectionTimeout (l : LossDetection) : Option ℚ :=
  match l.earliestLossTime with
  | some loss => some loss.1
  | none =>
    match l.earliestPto with
    | some pto => some pto.1
    | none => if l.isClient ∧ ¬l.handshakeConfirmed then l.antiDeadlockPto else none

def onLossDetectionTimeout (l : LossDetection) (now : ℚ) : TimeoutOutcome × LossDetection :=
  let l := { l with lastEvent := some now }
  match l.earliestLossTime with
  | some loss =>
    let (lost, l) := l.detectAndRemoveLost loss.2 now
    (⟨lost, none⟩, l)
  | none =>
    let l := { l with ptoCount := l.ptoCount + 1 }
    match l.earliestPto with
    | some pto => (⟨[], some pto.2⟩, l)
    | none => (⟨[], some l.antiDeadlockLevel⟩, l)

def emptied (l : LossDetection) (level : Level) (discarded : Bool) : LossDetection :=
  let space := l.spaces level
  { l.setSpace level { space with sent := .empty, lossTime := none, discarded := discarded } with
    controller := l.controller.onPacketsDiscarded (space.sent.values.filter (·.inFlight))
    ptoCount := 0 }

def restartSpace (l : LossDetection) (level : Level) : List SentPacket × LossDetection :=
  ((l.spaces level).sent.values, l.emptied level (l.spaces level).discarded)

def discardSpace (l : LossDetection) (level : Level) : LossDetection := l.emptied level true

section Acknowledgement

variable {l l' : LossDetection} {level : Level} {p : SentPacket}

@[simp] lemma spaces_setSpace (l : LossDetection) (level other : Level) (space : SentSpace) :
    (l.setSpace level space).spaces other = if other = level then space else l.spaces other := by
  simp [setSpace, Function.update_apply]

lemma mem_byNumber {packets : List SentPacket} : p ∈ byNumber packets ↔ p ∈ packets :=
  (List.perm_insertionSort _ packets).mem_iff

lemma mem_values_filter {sent : Dict ℕ SentPacket} {f : ℕ → SentPacket → Bool} :
    p ∈ (sent.filter f).values ↔ ∃ n, sent.get? n = some p ∧ f n p = true := by
  simp only [Dict.mem_values, Dict.mem_items_filter, Dict.get?_eq_some_iff]

lemma takeAcked_spec (sent : Dict ℕ SentPacket) (ranges : List (ℕ × ℕ)) :
    (∀ n p, sent.get? n = some p →
      (takeAcked sent ranges).2.get? n = some p ∨ p ∈ (takeAcked sent ranges).1) ∧
    (∀ n p, (takeAcked sent ranges).2.get? n = some p → sent.get? n = some p) ∧
    ∀ p ∈ (takeAcked sent ranges).1, ∃ n, sent.get? n = some p := by
  induction ranges generalizing sent with
  | nil => exact ⟨fun n p h => .inl h, fun n p h => h, by simp [takeAcked]⟩
  | cons range ranges ih =>
    obtain ⟨hsplit, hkept, htaken⟩ := ih (sent.filter fun number _ => !inRange range number)
    refine ⟨fun n p h => ?_, fun n p h => ?_, fun p hp => ?_⟩
    · by_cases hin : inRange range n = true
      · exact .inr (List.mem_append_left _ (mem_values_filter.2 ⟨n, h, hin⟩))
      · exact (hsplit n p (Dict.get?_filter_eq_some.2 ⟨h, by simp [hin]⟩)).imp_right
          (List.mem_append_right _)
    · exact (Dict.get?_filter_eq_some.1 (hkept n p h)).1
    · rcases List.mem_append.1 hp with hp | hp
      · obtain ⟨n, hn, -⟩ := mem_values_filter.1 hp
        exact ⟨n, hn⟩
      · obtain ⟨n, hn⟩ := htaken p hp
        exact ⟨n, (Dict.get?_filter_eq_some.1 hn).1⟩

lemma byNumber_perm (packets : List SentPacket) : (byNumber packets).Perm packets :=
  List.perm_insertionSort _ packets

lemma takeAcked_perm (sent : Dict ℕ SentPacket) (ranges : List (ℕ × ℕ)) :
    ((takeAcked sent ranges).1 ++ (takeAcked sent ranges).2.values).Perm sent.values := by
  induction ranges generalizing sent with
  | nil => exact .refl _
  | cons range ranges ih =>
    simp only [takeAcked, List.append_assoc]
    exact ((ih _).append_left _).trans (sent.values_filter_perm fun number _ => inRange range number)

lemma lossResponse_accounts (l : LossDetection) (lost : List SentPacket) (now : ℚ) :
    l.controller.Keeps (l.lossResponse lost now) ∧
      (l.lossResponse lost now).bytesInFlight = l.controller.bytesInFlight - flight lost := by
  obtain ⟨hkeeps, hbytes⟩ := l.controller.onPacketsLost_accounts (lost.filter (·.inFlight)) now
  rw [flight_filter] at hbytes
  simp only [lossResponse]
  split_ifs with hnone
  · refine ⟨.refl _, ?_⟩
    rw [← flight_filter, hnone, flight_nil, sub_zero]
  · exact ⟨hkeeps.trans (NewReno.keeps_onPersistentCongestion _), hbytes⟩
  · exact ⟨hkeeps, hbytes⟩

structure Settles (l : LossDetection) (level : Level) (acked lost : List SentPacket)
    (l' : LossDetection) : Prop where
  others : ∀ other, other ≠ level → l'.spaces other = l.spaces other
  split : ∀ n p, (l.spaces level).sent.get? n = some p →
    (l'.spaces level).sent.get? n = some p ∨ p ∈ acked ∨ p ∈ lost
  kept : ∀ n p, (l'.spaces level).sent.get? n = some p → (l.spaces level).sent.get? n = some p
  wasSent : ∀ p, p ∈ acked ∨ p ∈ lost → ∃ n, (l.spaces level).sent.get? n = some p
  largestSent : (l'.spaces level).largestSent = (l.spaces level).largestSent
  discarded : (l'.spaces level).discarded = (l.spaces level).discarded
  confirmed : l'.handshakeConfirmed = l.handshakeConfirmed
  isClient : l'.isClient = l.isClient
  maxAckDelay : l'.maxAckDelay = l.maxAckDelay
  permuted : (acked ++ lost ++ (l'.spaces level).sent.values).Perm (l.spaces level).sent.values
  keeps : l.controller.Keeps l'.controller
  accounts : l'.controller.bytesInFlight = l.controller.bytesInFlight - flight (acked ++ lost)

lemma detectAndRemoveLost_settles (l : LossDetection) (level : Level) (now : ℚ) :
    Settles l level [] (l.detectAndRemoveLost level now).1 (l.detectAndRemoveLost level now).2 := by
  have haccounts := l.lossResponse_accounts (l.detectAndRemoveLost level now).1 now
  refine ⟨fun other hne => ?_, fun n p h => ?_, fun n p h => ?_, ?_, ?_, ?_, rfl, rfl, rfl, ?_, haccounts.1,
    haccounts.2⟩
  · exact (spaces_setSpace _ _ _ _).trans (if_neg hne)
  · simp only [detectAndRemoveLost, spaces_setSpace, if_true, List.not_mem_nil, false_or]
    by_cases hlost : l.isLost (l.spaces level) now p = true
    · refine .inr (List.mem_filter.2 ⟨mem_byNumber.2 ?_, hlost⟩)
      exact Dict.mem_values.2 ⟨n, Dict.get?_eq_some_iff.1 h⟩
    · exact .inl (Dict.get?_filter_eq_some.2 ⟨h, by simp [hlost]⟩)
  · simp only [detectAndRemoveLost, spaces_setSpace, if_true] at h
    exact (Dict.get?_filter_eq_some.1 h).1
  · rintro p (hp | hp)
    · simp at hp
    · obtain ⟨n, hn⟩ := Dict.mem_values.1 (mem_byNumber.1 (List.mem_filter.1 hp).1)
      exact ⟨n, Dict.get?_eq_some_iff.2 hn⟩
  · simp [detectAndRemoveLost]
  · simp [detectAndRemoveLost]
  · simp only [detectAndRemoveLost, spaces_setSpace, if_true, List.nil_append, Dict.values_filter]
    have hlost := (byNumber_perm (l.spaces level).sent.values).filter (l.isLost (l.spaces level) now)
    exact (hlost.append_right _).trans (List.filter_append_perm _ _)

lemma largestAcked_detectAndRemoveLost (l : LossDetection) (level other : Level) (now : ℚ) :
    (l.detectAndRemoveLost level now).2.largestAcked other = l.largestAcked other := by
  simp only [largestAcked, detectAndRemoveLost, spaces_setSpace]
  split_ifs with h
  · rw [h]
  · rfl

lemma settles_refl (l : LossDetection) (level : Level) : Settles l level [] [] l :=
  ⟨fun _ _ => rfl, fun _ _ h => .inl h, fun _ _ h => h, by simp, rfl, rfl, rfl, rfl, rfl, .refl _, .refl _,
    by simp⟩

lemma onLossDetectionTimeout_loss {l : LossDetection} (now : ℚ) {loss : ℚ × Level}
    (h : l.earliestLossTime = some loss) :
    l.onLossDetectionTimeout now =
      (⟨(({ l with lastEvent := some now } : LossDetection).detectAndRemoveLost loss.2 now).1, none⟩,
        (({ l with lastEvent := some now } : LossDetection).detectAndRemoveLost loss.2 now).2) := by
  have hevented : ({ l with lastEvent := some now } : LossDetection).earliestLossTime = some loss := h
  simp only [onLossDetectionTimeout, hevented]

lemma onLossDetectionTimeout_probe {l : LossDetection} (now : ℚ) (h : l.earliestLossTime = none) :
    ∃ level, l.onLossDetectionTimeout now =
      (⟨[], some level⟩, { l with lastEvent := some now, ptoCount := l.ptoCount + 1 }) := by
  have hevented : ({ l with lastEvent := some now } : LossDetection).earliestLossTime = none := h
  simp only [onLossDetectionTimeout, hevented]
  split <;> exact ⟨_, rfl⟩

lemma onLossDetectionTimeout_settles (l : LossDetection) (now : ℚ) :
    ∃ level, Settles l level [] (l.onLossDetectionTimeout now).1.lost (l.onLossDetectionTimeout now).2 := by
  cases hloss : l.earliestLossTime with
  | some loss =>
    rw [onLossDetectionTimeout_loss now hloss]
    exact ⟨loss.2, { detectAndRemoveLost_settles { l with lastEvent := some now } loss.2 now with }⟩
  | none =>
    obtain ⟨level, hprobe⟩ := onLossDetectionTimeout_probe now hloss
    rw [hprobe]
    exact ⟨.initial, { settles_refl l .initial with }⟩

lemma onLossDetectionTimeout_quiet (l : LossDetection) (now : ℚ) (h : ∀ level, (l.spaces level).lossTime = none) :
    (l.onLossDetectionTimeout now).1.lost = [] ∧ (l.onLossDetectionTimeout now).2.spaces = l.spaces := by
  obtain ⟨level, hprobe⟩ := onLossDetectionTimeout_probe (l := l) now (by simp [earliestLossTime, earliestOf, h])
  rw [hprobe]
  exact ⟨rfl, rfl⟩

lemma largestAcked_onLossDetectionTimeout (l : LossDetection) (now : ℚ) (level : Level) :
    (l.onLossDetectionTimeout now).2.largestAcked level = l.largestAcked level := by
  cases hloss : l.earliestLossTime with
  | some loss =>
    rw [onLossDetectionTimeout_loss now hloss]
    exact largestAcked_detectAndRemoveLost _ _ _ _
  | none =>
    obtain ⟨_, hprobe⟩ := onLossDetectionTimeout_probe now hloss
    rw [hprobe]
    rfl

def AckGrows (l : LossDetection) (level : Level) (ack : Ack) (l' : LossDetection) : Prop :=
  ∀ other, l'.largestAcked other = l.largestAcked other ∨
    (other = level ∧ l'.largestAcked other = max (l.largestAcked other) ack.largest)

lemma Settles.detects {acked : List SentPacket} (h : Settles l level acked [] l') (now : ℚ) :
    Settles l level acked (l'.detectAndRemoveLost level now).1 (l'.detectAndRemoveLost level now).2 := by
  have hd := detectAndRemoveLost_settles l' level now
  refine ⟨fun other hne => (hd.others other hne).trans (h.others other hne), fun n p hp => ?_,
    fun n p hp => h.kept n p (hd.kept n p hp), ?_, hd.largestSent.trans h.largestSent,
      hd.discarded.trans h.discarded,
    hd.confirmed.trans h.confirmed, hd.isClient.trans h.isClient, hd.maxAckDelay.trans h.maxAckDelay, ?_,
    h.keeps.trans hd.keeps, ?_⟩
  · rcases h.split n p hp with hp | hp | hp
    · exact (hd.split n p hp).imp_right fun hp => .inr (hp.resolve_left List.not_mem_nil)
    · exact .inr (.inl hp)
    · simp at hp
  · rintro p (hp | hp)
    · exact h.wasSent p (.inl hp)
    · obtain ⟨n, hn⟩ := hd.wasSent p (.inr hp)
      exact ⟨n, h.kept n p hn⟩
  · have hrest := h.permuted
    rw [List.append_nil] at hrest
    rw [List.append_assoc]
    exact (hd.permuted.append_left acked).trans hrest
  · rw [hd.accounts, h.accounts, List.nil_append, List.append_nil, flight_append]
    ring

def AckFails (l : LossDetection) (level : Level) (ack : Ack) (now : ℚ) (e : Raised) (l' : LossDetection) : Prop :=
  ((∃ reason, e = .ackOfUnsent reason ∧ (l.spaces level).largestSent < ack.largest) ∧
      l' = { l with lastEvent := some now }) ∨
    (AckGrows l level ack l' ∧ e = .zeroDivision ∧ (l.spaces level).sent.values ≠ [] ∧
      (l.controller.Open → l.controller.maxDatagramSize = 0))

lemma acknowledge_spec (l : LossDetection) (level : Level) (ack : Ack) (ackDelay now : ℚ) :
    Ensures (acknowledge level ack ackDelay now) l
      (fun acked l' => (ack.largest : ℤ) ≤ (l.spaces level).largestSent ∧ Settles l level acked [] l' ∧
        AckGrows l level ack l')
      (AckFails l level ack now) := by
  obtain ⟨hsplit, hkept, htaken⟩ := takeAcked_spec (l.spaces level).sent ack.ranges
  have hperm := takeAcked_perm (l.spaces level).sent ack.ranges
  simp only [acknowledge, ensures_flow]
  refine ⟨fun hunsent => .inl ⟨⟨_, rfl, hunsent⟩, rfl⟩, fun hsent => ⟨fun hnone => ?_, fun _ => ?_⟩⟩
  · -- nothing newly acknowledged
    rw [hnone] at hsplit hperm
    refine ⟨not_lt.1 hsent, ⟨fun other hne => by simp [hne], fun n p h => .inl ?_, fun n p h => ?_, by simp,
      by simp, by simp, rfl, rfl, rfl, ?_, .refl _, by simp [setSpace]⟩, fun other => .inl ?_⟩
    · simpa using hsplit n p h
    · exact hkept n p (by simpa using h)
    · simpa using hperm
    · simp only [largestAcked, spaces_setSpace]
      split_ifs with h
      · rw [h]
      · rfl
  · have hgrows : ∀ l' : LossDetection, l'.spaces = (l.setSpace level { l.spaces level with
        sent := (takeAcked (l.spaces level).sent ack.ranges).2
        largestAcked := max (l.spaces level).largestAcked ack.largest }).spaces → AckGrows l level ack l' := by
      intro l' hl' other
      by_cases h : other = level
      · exact .inr ⟨h, by simp [largestAcked, hl', h]⟩
      · exact .inl (by simp [largestAcked, hl', h])
    have hspaces :
      ∀ before after : SentSpace, (({ l with lastEvent := some now }.setSpace level before).setSpace level
        after).spaces = (l.setSpace level after).spaces := fun before after => Function.update_idem _ _ _
    apply (NewReno.onPacketsAcked_spec l.controller _).mono
    · rintro _ controller ⟨hkeeps, hbytes⟩
      rw [flight_filter] at hbytes
      refine ⟨not_lt.1 hsent,
        ⟨fun other hne => by simp [hne], fun n p h => ?_, fun n p h => ?_, ?_, by simp, by simp,
        rfl, rfl, rfl, ?_, hkeeps, by simpa using hbytes⟩, hgrows _ (hspaces _ _)⟩
      · simpa [mem_byNumber] using hsplit n p h
      · exact hkept n p (by simpa using h)
      · rintro p (hp | hp)
        · exact htaken p (mem_byNumber.1 hp)
        · simp at hp
      · simpa using ((byNumber_perm _).append_right _).trans hperm
    · rintro e controller ⟨he, -, hsome, hclosed⟩
      refine .inr ⟨hgrows _ (hspaces _ _), he, fun hnone => hsome ?_, hclosed⟩
      rw [hnone, List.perm_nil, List.append_eq_nil_iff] at hperm
      simp [hperm.1, byNumber]

lemma ensures_onAckReceived {ack : Ack} {ackDelay now : ℚ} {Q : AckOutcome → LossDetection → Prop}
    {E : Raised → LossDetection → Prop} : Ensures (onAckReceived level ack ackDelay now) l Q E ↔
      Ensures (acknowledge level ack ackDelay now) l (fun acked l' => (acked = [] → Q ⟨[], []⟩ l') ∧
        (acked ≠ [] → Q ⟨acked, (l'.detectAndRemoveLost level now).1⟩ (l'.detectAndRemoveLost level now).2))
          E := by
  simp only [onAckReceived, ensures_flow, ne_eq]

lemma onAckReceived_spec (l : LossDetection) (level : Level) (ack : Ack) (ackDelay now : ℚ) :
    Ensures (onAckReceived level ack ackDelay now) l
      (fun out l' => (ack.largest : ℤ) ≤ (l.spaces level).largestSent ∧
        Settles l level out.acked out.lost l' ∧ AckGrows l level ack l')
      (AckFails l level ack now) := by
  rw [ensures_onAckReceived]
  apply (acknowledge_spec l level ack ackDelay now).imp
  rintro acked l₁ ⟨hsent, hsettles, hgrows⟩
  refine ⟨fun hnone => ⟨hsent, hnone ▸ hsettles, hgrows⟩, fun _ => ⟨hsent, hsettles.detects now, fun other => ?_⟩⟩
  rw [largestAcked_detectAndRemoveLost]
  exact hgrows other

variable {packet p : SentPacket} {other : Level}

lemma mem_sent_iff : p ∈ (l.spaces level).sent.values ↔ ∃ n, (l.spaces level).sent.get? n = some p := by
  simp only [Dict.mem_values, Dict.get?_eq_some_iff]

lemma mem_sent_onPacketSent (h : p ∈ ((l.onPacketSent packet).spaces level).sent.values) :
    (p = packet ∧ level = packet.level) ∨ p ∈ (l.spaces level).sent.values := by
  obtain ⟨n, hn⟩ := mem_sent_iff.1 h
  simp only [onPacketSent, spaces_setSpace] at hn
  split_ifs at hn with hlevel
  · rw [Dict.get?_set] at hn
    split_ifs at hn
    · exact .inl ⟨(Option.some.inj hn).symm, hlevel⟩
    · exact .inr (mem_sent_iff.2 ⟨n, hlevel ▸ hn⟩)
  · exact .inr (mem_sent_iff.2 ⟨n, hn⟩)

lemma mem_sent_emptied {discarded : Bool}
    (h : p ∈ ((l.emptied level discarded).spaces other).sent.values) : p ∈ (l.spaces other).sent.values := by
  simp only [emptied, spaces_setSpace] at h
  split_ifs at h
  · simp at h
  · exact h

lemma mem_sent_settles {acked lost : List SentPacket}
    (hs : Settles l level acked lost l') (h : p ∈ (l'.spaces other).sent.values) :
    p ∈ (l.spaces other).sent.values := by
  by_cases hother : other = level
  · subst hother
    obtain ⟨n, hn⟩ := mem_sent_iff.1 h
    exact mem_sent_iff.2 ⟨n, hs.kept n p hn⟩
  · rwa [hs.others other hother] at h

end Acknowledgement

end LossDetection

end Dsquic.Recovery
