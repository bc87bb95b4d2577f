import Dsquic.Recovery.Conservation
import Dsquic.Recovery.Timeouts

/-!
A packet behind the largest acknowledged is never without a loss timer.
-/

namespace Dsquic.Recovery

open Lib Wire

def SentSpace.behind (space : SentSpace) : Set SentPacket :=
  { packet | ∃ number, space.sent.get? number = some packet ∧ (number : ℤ) ≤ space.largestAcked }

structure SentSpace.Due (space : SentSpace) (delay : ℚ) : Prop where
  armed : space.lossTime.isSome ↔ space.behind.Nonempty
  least : ∀ time ∈ space.lossTime, IsLeast ((fun packet => packet.timeSent + delay) '' space.behind) time

variable {level : Level} {acked lost : List SentPacket} {packet : SentPacket} {p : SentPacket} {n : ℕ}

namespace LossDetection

lemma foldl_earliest (times : List ℚ) : times.foldl earliest none = times.min? := by
  have hfold : ∀ (times : List ℚ) (time : ℚ), times.foldl earliest (some time) = some (times.foldl min time) := by
    intro times
    induction times with
    | nil => exact fun time => rfl
    | cons candidate times ih =>
      intro time
      have hmin : (if candidate < time then candidate else time) = min time candidate := by
        rw [min_comm, min_def_lt]
      rw [List.foldl_cons, List.foldl_cons, earliest, ih, hmin]
  cases times with
  | nil => rfl
  | cons time times => exact hfold times time

section Detection

variable {l : LossDetection} {level : Level} {now : ℚ}

lemma isLost_iff {space : SentSpace} :
    l.isLost space now packet = true ↔ (packet.packetNumber : ℤ) ≤ space.largestAcked ∧
      ((packet.packetNumber : ℤ) ≤ space.largestAcked - 3 ∨ packet.timeSent ≤ now - l.lossDelay) := by
  simp only [isLost, Bool.and_eq_true, Bool.or_eq_true, decide_eq_true_eq]

lemma sent_detectAndRemoveLost : ((l.detectAndRemoveLost level now).2.spaces level).sent.get? n = some p ↔
      (l.spaces level).sent.get? n = some p ∧ l.isLost (l.spaces level) now p = false := by
  simp only [detectAndRemoveLost, spaces_setSpace, if_true, Dict.get?_filter_eq_some, Bool.not_eq_true']

lemma detectAndRemoveLost_due (hkeyed : ∀ n p, (l.spaces level).sent.get? n = some p → p.packetNumber = n) :
    ((l.detectAndRemoveLost level now).2.spaces level).Due l.lossDelay := by
  set waiting := (byNumber (l.spaces level).sent.values).filter fun packet =>
    decide ((packet.packetNumber : ℤ) ≤ (l.spaces level).largestAcked) && !l.isLost (l.spaces level) now packet
    with hwaiting
  have htime : ((l.detectAndRemoveLost level now).2.spaces level).lossTime =
      (waiting.map fun packet => packet.timeSent + l.lossDelay).min? := by
    rw [← foldl_earliest]
    simp [detectAndRemoveLost, hwaiting]
  have hbehind : ∀ p, p ∈ ((l.detectAndRemoveLost level now).2.spaces level).behind ↔ p ∈ waiting := by
    intro p
    have hacked := largestAcked_detectAndRemoveLost l level level now
    simp only [largestAcked] at hacked
    simp only [SentSpace.behind, Set.mem_ofPred_eq, sent_detectAndRemoveLost, hacked, hwaiting, List.mem_filter,
      mem_byNumber, mem_sent_iff, Bool.and_eq_true, decide_eq_true_eq, Bool.not_eq_true']
    constructor
    · rintro ⟨n, ⟨hn, hlost⟩, hle⟩
      exact ⟨⟨n, hn⟩, by rwa [hkeyed n p hn], hlost⟩
    · rintro ⟨⟨n, hn⟩, hle, hlost⟩
      exact ⟨n, ⟨hn, hlost⟩, by rwa [hkeyed n p hn] at hle⟩
  refine ⟨?_, fun time h => ?_⟩
  · rw [htime, Set.Nonempty, exists_congr hbehind, List.isSome_min?_iff, ne_eq, List.map_eq_nil_iff,
      List.eq_nil_iff_forall_not_mem, not_forall_not]
  · rw [htime, Option.mem_def, List.min?_eq_some_iff] at h
    obtain ⟨hmem, hleast⟩ := h
    refine ⟨?_, ?_⟩
    · obtain ⟨p, hp, rfl⟩ := List.mem_map.1 hmem
      exact ⟨p, (hbehind p).2 hp, rfl⟩
    · rintro _ ⟨p, hp, rfl⟩
      exact hleast _ (List.mem_map.2 ⟨p, (hbehind p).1 hp, rfl⟩)

lemma onAckReceived_detects (l : LossDetection) (level : Level) (ack : Ack) (ackDelay now : ℚ) :
    Ensures (onAckReceived level ack ackDelay now) l
      fun out l' => (out.acked = [] ∧ out.lost = [] ∧ l'.rtt = l.rtt ∧ ∀ other,
          (l'.spaces other).lossTime = (l.spaces other).lossTime ∧
          (l'.spaces other).largestAcked = (l.spaces other).largestAcked) ∨
        (out.acked ≠ [] ∧ ∃ l₁ : LossDetection, l' = (l₁.detectAndRemoveLost level now).2 ∧
          ∀ n p, (l₁.spaces level).sent.get? n = some p → (l.spaces level).sent.get? n = some p) := by
  obtain ⟨-, hkept, -⟩ := takeAcked_spec (l.spaces level).sent ack.ranges
  simp only [ensures_onAckReceived, acknowledge, ensures_flow]
  refine ⟨fun _ => trivial, fun _ => ⟨fun _ => ⟨fun _ => .inl ⟨trivial, trivial, rfl, fun other => ?_⟩,
    fun hsome => absurd rfl hsome⟩, fun hsome => ?_⟩⟩
  · simp only [spaces_setSpace]
    split_ifs with h
    · exact h ▸ ⟨rfl, rfl⟩
    · exact ⟨rfl, rfl⟩
  · apply (NewReno.onPacketsAcked_spec l.controller _).imp_true
    intro _ controller _
    exact ⟨fun hnone => absurd (List.perm_nil.1 (hnone ▸ (byNumber_perm _).symm)) hsome,
      fun hacked => .inr ⟨hacked, _, rfl, fun n p h => hkept n p (by simpa using h)⟩⟩

end Detection

lemma Settles.largestSent_eq {l l' : LossDetection} (h : Settles l level acked lost l') (other : Level) :
    (l'.spaces other).largestSent = (l.spaces other).largestSent := by
  by_cases hother : other = level
  · exact hother ▸ h.largestSent
  · rw [h.others other hother]

lemma largestSent_emptied (l : LossDetection) (level : Level) (discarded : Bool) (other : Level) :
    ((l.emptied level discarded).spaces other).largestSent = (l.spaces other).largestSent := by
  simp only [emptied, spaces_setSpace]
  split_ifs with hother
  · rw [hother]
  · rfl

inductive Event
  | call (op : Op)
  | assign (handshakeConfirmed : Bool) (maxAckDelay : ℚ)

def Event.packet? : Event → Option SentPacket
  | .call op => op.packet?
  | .assign _ _ => none

def Increasing (packets : List SentPacket) : Prop :=
  packets.Pairwise fun p q => p.level = q.level → p.packetNumber < q.packetNumber

instance (packets : List SentPacket) : Decidable (Increasing packets) :=
  inferInstanceAs (Decidable (List.Pairwise _ packets))

end LossDetection

structure Watch where
  detection : LossDetection
  delay : Level → ℚ

namespace Watch

open LossDetection

def new (maxDatagramSize : ℕ) (isClient : Bool) : Watch :=
  let detection := LossDetection.new (.new maxDatagramSize) isClient
  ⟨detection, fun _ => detection.lossDelay⟩

def detected (watch : Watch) (detection : LossDetection) (level : Level) : Watch :=
  ⟨detection, Function.update watch.delay level detection.lossDelay⟩

def step (watch : Watch) : Event → Except Raised Watch
  | .call (.onPacketSent packet) => .ok { watch with detection := watch.detection.onPacketSent packet }
  | .call (.onAckReceived level ack ackDelay now) =>
    match LossDetection.onAckReceived level ack ackDelay now watch.detection with
    | .ok outcome detection =>
      .ok (if outcome.acked = [] then { watch with detection := detection } else watch.detected detection level)
    | .error (.ackOfUnsent _) detection => .ok { watch with detection := detection }
    | .error e _ => .error e
  | .call (.onLossDetectionTimeout now) =>
    let detection := (watch.detection.onLossDetectionTimeout now).2
    match watch.detection.earliestLossTime with
    | some loss => .ok (watch.detected detection loss.2)
    | none => .ok { watch with detection := detection }
  | .call (.restartSpace level) => .ok { watch with detection := (watch.detection.restartSpace level).2 }
  | .call (.discardSpace level) => .ok { watch with detection := watch.detection.discardSpace level }
  | .assign handshakeConfirmed maxAckDelay => .ok { watch with
      detection := { watch.detection with handshakeConfirmed := handshakeConfirmed, maxAckDelay := maxAckDelay } }

def run (watch : Watch) (events : List Event) : Except Raised Watch := events.foldlM step watch

structure Tracked (watch : Watch) : Prop where
  keyed : ∀ level n p, (watch.detection.spaces level).sent.get? n = some p →
    p.packetNumber = n ∧ (n : ℤ) ≤ (watch.detection.spaces level).largestSent
  acked : ∀ level, (watch.detection.spaces level).largestAcked ≤ (watch.detection.spaces level).largestSent
  due : ∀ level, (watch.detection.spaces level).Due (watch.delay level)
  current : ∃ level, watch.delay level = watch.detection.lossDelay
  isOpen : watch.detection.controller.Open

variable {detection : LossDetection} {watch : Watch} {outcome : AckOutcome} {ackDelay now : ℚ} {ack : Ack}

section Steps

variable {watch : Watch}

lemma tracked_new (maxDatagramSize : ℕ) (isClient : Bool) : (new maxDatagramSize isClient).Tracked := by
  refine ⟨fun level n p h => ?_, fun level => le_refl _, fun level => ⟨?_, ?_⟩, ⟨.initial, rfl⟩,
    NewReno.open_new _⟩
  · simp [new, LossDetection.new, SentSpace.new] at h
  · simp [new, LossDetection.new, SentSpace.new, SentSpace.behind, Set.Nonempty]
  · simp [new, LossDetection.new, SentSpace.new]

lemma Tracked.onPacketSent (h : watch.Tracked)
    (hnew : (watch.detection.spaces packet.level).largestSent < packet.packetNumber) :
    Tracked { watch with detection := watch.detection.onPacketSent packet } := by
  have hspace : ∀ level, (watch.detection.onPacketSent packet).spaces level =
      if level = packet.level then
        { watch.detection.spaces packet.level with
          sent := (watch.detection.spaces packet.level).sent.set packet.packetNumber packet
          largestSent := max (watch.detection.spaces packet.level).largestSent packet.packetNumber }
      else watch.detection.spaces level := fun level => spaces_setSpace _ _ _ _
  refine ⟨fun level n p hp => ?_, fun level => ?_, fun level => ?_, h.current,
    (NewReno.keeps_onPacketSent _ packet).isOpen h.isOpen⟩
  · simp only [hspace] at hp ⊢
    split_ifs at hp ⊢ with hlevel
    · rw [Dict.get?_set] at hp
      split_ifs at hp with hn
      · cases hp
        exact ⟨hn.symm, hn ▸ le_max_right _ _⟩
      · obtain ⟨hnumber, hle⟩ := h.keyed _ n p hp
        exact ⟨hnumber, hle.trans (le_max_left _ _)⟩
    · exact h.keyed level n p hp
  · simp only [hspace]
    split_ifs with hlevel
    · exact (h.acked packet.level).trans (le_max_left _ _)
    · exact h.acked level
  · simp only [hspace]
    split_ifs with hlevel
    · subst hlevel
      have hbehind : SentSpace.behind { watch.detection.spaces packet.level with
          sent := (watch.detection.spaces packet.level).sent.set packet.packetNumber packet
          largestSent := max (watch.detection.spaces packet.level).largestSent packet.packetNumber } =
          (watch.detection.spaces packet.level).behind := by
        have hacked := h.acked packet.level
        ext p
        apply exists_congr
        intro n
        simp only [Dict.get?_set]
        split_ifs with hn
        · subst hn
          refine ⟨fun hp => absurd hp.2 (by omega), fun hp => absurd hp.2 (by omega)⟩
        · rfl
      exact ⟨by rw [hbehind]; exact (h.due _).armed, by rw [hbehind]; exact (h.due _).least⟩
    · exact h.due level

lemma Tracked.detected (h : watch.Tracked) {l₁ detection : LossDetection} {now : ℚ}
    (hs : Settles watch.detection level acked lost detection)
    (hacked : (detection.spaces level).largestAcked ≤ (watch.detection.spaces level).largestSent)
    (hdetect : detection = (l₁.detectAndRemoveLost level now).2)
    (hkept : ∀ n p, (l₁.spaces level).sent.get? n = some p → (watch.detection.spaces level).sent.get? n = some p) :
    (watch.detected detection level).Tracked := by
  refine ⟨fun other n p hp => ?_, fun other => ?_, fun other => ?_, ⟨level, by simp [Watch.detected]⟩,
    hs.keeps.isOpen h.isOpen⟩
  · by_cases hother : other = level
    · subst hother
      simp only [Watch.detected, hs.largestSent]
      exact h.keyed other n p (hs.kept n p hp)
    · simp only [Watch.detected, hs.others other hother] at hp ⊢
      exact h.keyed other n p hp
  · by_cases hother : other = level
    · subst hother
      simpa only [Watch.detected, hs.largestSent] using hacked
    · simp only [Watch.detected, hs.others other hother]
      exact h.acked other
  · by_cases hother : other = level
    · subst hother
      have hdelay : (watch.detected detection other).delay other = l₁.lossDelay := by
        simp [Watch.detected, hdetect, lossDelay, detectAndRemoveLost, setSpace]
      rw [hdelay]
      simp only [Watch.detected, hdetect]
      exact detectAndRemoveLost_due fun n p hp => (h.keyed other n p (hkept n p hp)).1
    · simp only [Watch.detected, hs.others other hother, Function.update_of_ne hother]
      exact h.due other

lemma Tracked.untouched (h : watch.Tracked) (hsent : ∀ level n p, (detection.spaces level).sent.get? n = some p ↔
      (watch.detection.spaces level).sent.get? n = some p)
    (hlargest : ∀ level, (detection.spaces level).largestSent = (watch.detection.spaces level).largestSent)
    (hacked : ∀ level, (detection.spaces level).largestAcked = (watch.detection.spaces level).largestAcked)
    (htime : ∀ level, (detection.spaces level).lossTime = (watch.detection.spaces level).lossTime)
    (hrtt : detection.rtt = watch.detection.rtt) (hopen : detection.controller.Open) :
    Tracked { watch with detection := detection } := by
  have hbehind : ∀ level, (detection.spaces level).behind = (watch.detection.spaces level).behind := by
    intro level
    ext p
    simp only [SentSpace.behind, hsent, hacked]
  refine ⟨fun level n p hp => ?_, fun level => ?_, fun level => ⟨?_, ?_⟩, ?_, hopen⟩
  · rw [hlargest]
    exact h.keyed level n p ((hsent level n p).1 hp)
  · rw [hlargest, hacked]
    exact h.acked level
  · rw [htime, hbehind]
    exact (h.due level).armed
  · rw [htime, hbehind]
    exact (h.due level).least
  · simpa only [lossDelay, hrtt] using h.current

lemma Tracked.emptied (h : watch.Tracked) (level : Level) (discarded : Bool) :
    Tracked { watch with detection := watch.detection.emptied level discarded } := by
  have hspace : ∀ other, (watch.detection.emptied level discarded).spaces other =
      if other = level then
        { watch.detection.spaces level with sent := .empty, lossTime := none, discarded := discarded }
      else watch.detection.spaces other := fun other => spaces_setSpace _ _ _ _
  refine ⟨fun other n p hp => ?_, fun other => ?_, fun other => ?_, h.current,
    (NewReno.releases _ _).1.isOpen h.isOpen⟩
  · simp only [hspace] at hp ⊢
    split_ifs at hp ⊢
    · simp at hp
    · exact h.keyed other n p hp
  · simp only [hspace]
    split_ifs
    · exact h.acked level
    · exact h.acked other
  · simp only [hspace]
    split_ifs
    · exact ⟨by simp [SentSpace.behind, Set.Nonempty], by simp⟩
    · exact h.due other

lemma Tracked.onAckReceived (h : watch.Tracked)
    (hack : LossDetection.onAckReceived level ack ackDelay now watch.detection = .ok outcome detection) :
    Tracked (if outcome.acked = [] then { watch with detection := detection } else watch.detected
      detection level) := by
  obtain ⟨hsent, hsettles, hgrows⟩ := (onAckReceived_spec watch.detection level ack ackDelay now).of_ok hack
  rcases (onAckReceived_detects watch.detection level ack ackDelay now).of_ok hack with
    ⟨hnone, hlost, hrtt, hkeeps⟩ | ⟨hsome, l₁, hdetect, hkept⟩
  · rw [if_pos hnone]
    rw [hnone, hlost] at hsettles
    refine h.untouched (fun other n p => ?_) (fun other => ?_) (fun other => (hkeeps other).2)
      (fun other => (hkeeps other).1) hrtt (hsettles.keeps.isOpen h.isOpen)
    · by_cases hother : other = level
      · subst hother
        exact ⟨hsettles.kept n p, fun hp => by simpa using hsettles.split n p hp⟩
      · rw [hsettles.others other hother]
    · exact hsettles.largestSent_eq other
  · rw [if_neg hsome]
    refine h.detected hsettles ?_ hdetect hkept
    rcases hgrows level with hsame | ⟨-, hmax⟩
    · exact hsame.trans_le (h.acked level)
    · exact hmax.trans_le (max_le (h.acked level) hsent)

lemma Tracked.onLossDetectionTimeout (h : watch.Tracked) (now : ℚ) {loss : ℚ × Level}
    (hloss : watch.detection.earliestLossTime = some loss) :
    (watch.detected (watch.detection.onLossDetectionTimeout now).2 loss.2).Tracked := by
  rw [onLossDetectionTimeout_loss now hloss]
  have hs := detectAndRemoveLost_settles { watch.detection with lastEvent := some now } loss.2 now
  refine h.detected { hs with } ?_ rfl fun n p hp => hp
  exact (largestAcked_detectAndRemoveLost _ _ _ _).trans_le (h.acked loss.2)

def Sends (watch : Watch) (packet? : Option SentPacket) (watch' : Watch) : Prop :=
  ∀ level, (watch'.detection.spaces level).largestSent = (watch.detection.spaces level).largestSent ∨
    ∃ packet ∈ packet?, packet.level = level ∧ (watch'.detection.spaces level).largestSent = packet.packetNumber

lemma Tracked.step (h : watch.Tracked) (event : Event)
    (hnew : ∀ packet ∈ event.packet?, (watch.detection.spaces packet.level).largestSent < packet.packetNumber) :
    match watch.step event with
    | .ok watch' => watch'.Tracked ∧ watch.Sends event.packet? watch' ∧
        watch'.detection.controller.maxDatagramSize = watch.detection.controller.maxDatagramSize
    | .error e => e = .zeroDivision ∧ watch.detection.controller.maxDatagramSize = 0 := by
  cases event with
  | assign handshakeConfirmed maxAckDelay =>
    exact ⟨h.untouched (fun _ _ _ => .rfl) (fun _ => rfl) (fun _ => rfl) (fun _ => rfl) rfl h.isOpen,
      fun _ => .inl rfl, rfl⟩
  | call op =>
    cases op with
    | onPacketSent packet =>
      have hlt := hnew packet rfl
      refine ⟨h.onPacketSent hlt, fun level => ?_, (NewReno.keeps_onPacketSent _ packet).size⟩
      by_cases hlevel : level = packet.level
      · subst hlevel
        refine .inr ⟨packet, rfl, rfl, ?_⟩
        simpa [LossDetection.onPacketSent, setSpace] using hlt.le
      · exact .inl (by simp [LossDetection.onPacketSent, setSpace, hlevel])
    | onAckReceived level ack ackDelay now =>
      have hspec := onAckReceived_spec watch.detection level ack ackDelay now
      cases hack : LossDetection.onAckReceived level ack ackDelay now watch.detection with
      | ok outcome detection =>
        obtain ⟨-, hsettles, -⟩ := hspec.of_ok hack
        have htracked := h.onAckReceived hack
        simp only [Watch.step, hack]
        refine ⟨htracked, fun other => .inl ?_, ?_⟩
        · split_ifs <;> exact hsettles.largestSent_eq other
        · split_ifs <;> exact hsettles.keeps.size
      | error e detection =>
        rcases hspec.of_error hack with ⟨⟨reason, rfl, -⟩, rfl⟩ | ⟨-, rfl, -, hclosed⟩
        · simp only [Watch.step, hack]
          exact ⟨h.untouched (fun _ _ _ => .rfl) (fun _ => rfl) (fun _ => rfl) (fun _ => rfl) rfl h.isOpen,
            fun _ => .inl rfl, trivial⟩
        · simp only [Watch.step, hack]
          exact ⟨trivial, hclosed h.isOpen⟩
    | onLossDetectionTimeout now =>
      cases hloss : watch.detection.earliestLossTime with
      | some loss =>
        obtain ⟨level, hsettles⟩ := onLossDetectionTimeout_settles watch.detection now
        simp only [Watch.step, hloss]
        exact ⟨h.onLossDetectionTimeout now hloss, fun other => .inl (hsettles.largestSent_eq other),
          hsettles.keeps.size⟩
      | none =>
        obtain ⟨_, hprobe⟩ := onLossDetectionTimeout_probe now hloss
        simp only [Watch.step, hloss, hprobe]
        exact ⟨h.untouched (fun _ _ _ => .rfl) (fun _ => rfl) (fun _ => rfl) (fun _ => rfl) rfl h.isOpen,
          fun _ => .inl rfl, trivial⟩
    | restartSpace level =>
      exact ⟨h.emptied level _, fun other => .inl (largestSent_emptied _ level _ other),
        (NewReno.releases _ _).1.size⟩
    | discardSpace level =>
      exact ⟨h.emptied level true, fun other => .inl (largestSent_emptied _ level _ other),
        (NewReno.releases _ _).1.size⟩

lemma Tracked.run (h : watch.Tracked) (events : List Event)
    (hincreasing : Increasing (events.filterMap Event.packet?))
    (hnew : ∀ packet ∈ events.filterMap Event.packet?,
      (watch.detection.spaces packet.level).largestSent < packet.packetNumber) :
    match watch.run events with
    | .ok watch' => watch'.Tracked
    | .error e => e = .zeroDivision ∧ watch.detection.controller.maxDatagramSize = 0 := by
  induction events generalizing watch with
  | nil => exact h
  | cons event events ih =>
    have hsplit : (event :: events).filterMap Event.packet? =
        event.packet?.toList ++ events.filterMap Event.packet? := by
      cases hevent : event.packet? <;> simp [hevent]
    rw [hsplit] at hincreasing hnew
    obtain ⟨-, hrest, hbefore⟩ := List.pairwise_append.1 hincreasing
    have hstep := h.step event fun packet hpacket => hnew packet (by simp [Option.mem_def.1 hpacket])
    rw [Watch.run, List.foldlM_cons]
    cases hevent : watch.step event with
    | error e =>
      simp only [hevent] at hstep
      exact hstep
    | ok watch' =>
      simp only [hevent] at hstep
      obtain ⟨htracked, hsends, hsize⟩ := hstep
      have hrun := ih htracked hrest fun packet hpacket => ?_
      · rw [hsize] at hrun
        exact hrun
      · rcases hsends packet.level with hsame | ⟨sent, hsent, hlevel, hlargest⟩
        · rw [hsame]
          exact hnew packet (List.mem_append_right _ hpacket)
        · rw [hlargest]
          exact_mod_cast hbefore sent (by simpa using hsent) packet hpacket hlevel

end Steps

lemma Tracked.fires (h : watch.Tracked) {time : ℚ}
    (hloss : watch.detection.earliestLossTime = some (time, level)) :
    (∃ packet ∈ (watch.detection.onLossDetectionTimeout time).1.lost,
      packet ∈ (watch.detection.spaces level).sent.values) ∨
    ((∃ later, ((watch.detection.onLossDetectionTimeout time).2.spaces level).lossTime = some later ∧
      time < later) ∧
      watch.delay level < watch.detection.lossDelay ∧
      ∃ other, other ≠ level ∧ watch.delay other = watch.detection.lossDelay) := by
  obtain ⟨⟨packet, ⟨n, hn, hbehind⟩, htime⟩, -⟩ :=
    (h.due level).least time (earliestLossTime_eq_some hloss)
  have hkeyed := (h.keyed level n packet hn).1
  have hfired := onLossDetectionTimeout_loss time hloss
  set l : LossDetection := { watch.detection with lastEvent := some time }
  have hsent : packet ∈ (watch.detection.spaces level).sent.values := mem_sent_iff.2 ⟨n, hn⟩
  rw [hfired]
  cases hlost : l.isLost (l.spaces level) time packet with
  | true => exact .inl ⟨packet, List.mem_filter.2 ⟨mem_byNumber.2 hsent, hlost⟩, hsent⟩
  | false =>
    have hlonger : watch.delay level < watch.detection.lossDelay := by
      by_contra hle
      have hnot : ¬l.isLost (l.spaces level) time packet = true := by simp [hlost]
      refine hnot (isLost_iff.2 ⟨hkeyed.symm ▸ hbehind, .inr ?_⟩)
      have hdelay : l.lossDelay = watch.detection.lossDelay := rfl
      simp only at htime
      linarith [not_lt.1 hle]
    have hdue : ((l.detectAndRemoveLost level time).2.spaces level).Due l.lossDelay :=
      detectAndRemoveLost_due fun n p hp => (h.keyed level n p hp).1
    have hset : ((l.detectAndRemoveLost level time).2.spaces level).lossTime.isSome :=
      hdue.armed.2 ⟨packet, n, sent_detectAndRemoveLost.2 ⟨hn, hlost⟩, by
        rw [show ((l.detectAndRemoveLost level time).2.spaces level).largestAcked =
          (l.spaces level).largestAcked from largestAcked_detectAndRemoveLost l level level time]
        exact hbehind⟩
    obtain ⟨later, hlater⟩ := Option.isSome_iff_exists.1 hset
    obtain ⟨other, hother⟩ := h.current
    refine .inr ⟨⟨later, hlater, ?_⟩, hlonger, other, ?_, hother⟩
    · exact not_reached_iff.1 (not_reached_lossTime l level time) later hlater
    · rintro rfl
      exact hlonger.ne hother

lemma Tracked.overtaken (h : watch.Tracked)
    (hack : LossDetection.onAckReceived level ack ackDelay now watch.detection = .ok outcome detection)
    (hsome : outcome.acked ≠ []) (hp : (detection.spaces level).sent.get? n = some p) :
    (detection.spaces level).largestAcked - 3 < n := by
  rcases (onAckReceived_detects watch.detection level ack ackDelay now).of_ok hack with
    ⟨hnone, -⟩ | ⟨-, l₁, rfl, hkept⟩
  · exact absurd hnone hsome
  · obtain ⟨hn, hlost⟩ := sent_detectAndRemoveLost.1 hp
    have hkeyed := (h.keyed level n p (hkept n p hn)).1
    have hacked : ((l₁.detectAndRemoveLost level now).2.spaces level).largestAcked =
      (l₁.spaces level).largestAcked :=
      largestAcked_detectAndRemoveLost l₁ level level now
    rw [hacked]
    by_contra hle
    have hnot : ¬l₁.isLost (l₁.spaces level) now p = true := by simp [hlost]
    exact hnot (isLost_iff.2 ⟨by omega, .inl (by omega)⟩)

structure Complete (watch : Watch) : Prop where
  armed : ∀ level, (watch.detection.spaces level).lossTime.isSome ↔
    ∃ n p, (watch.detection.spaces level).sent.get? n = some p ∧
      (n : ℤ) ≤ (watch.detection.spaces level).largestAcked
  least : ∀ level, ∀ time ∈ (watch.detection.spaces level).lossTime,
    IsLeast { due | ∃ n p, (watch.detection.spaces level).sent.get? n = some p ∧
      (n : ℤ) ≤ (watch.detection.spaces level).largestAcked ∧ due = p.timeSent + watch.delay level } time
  threshold : ∀ level ack ackDelay now outcome detection,
    LossDetection.onAckReceived level ack ackDelay now watch.detection = .ok outcome detection →
    outcome.acked ≠ [] → ∀ n p, (detection.spaces level).sent.get? n = some p →
    (detection.spaces level).largestAcked - 3 < n
  fires : ∀ level time, watch.detection.earliestLossTime = some (time, level) →
    (∃ p ∈ (watch.detection.onLossDetectionTimeout time).1.lost, p ∈ (watch.detection.spaces level).sent.values) ∨
    ((∃ later, ((watch.detection.onLossDetectionTimeout time).2.spaces level).lossTime = some later ∧
      time < later) ∧
      watch.delay level < watch.detection.lossDelay ∧
      ∃ other, other ≠ level ∧ watch.delay other = watch.detection.lossDelay)

lemma Tracked.complete (h : watch.Tracked) : watch.Complete := by
  refine ⟨fun level => ?_, fun level time htime => ⟨?_, ?_⟩,
    fun level ack ackDelay now outcome detection hack hsome n p hp =>
    h.overtaken hack hsome hp, fun level time hloss => h.fires hloss⟩
  · exact (h.due level).armed.trans exists_comm
  · obtain ⟨p, ⟨n, hn, hle⟩, hdue⟩ := ((h.due level).least time htime).1
    exact ⟨n, p, hn, hle, hdue.symm⟩
  · rintro _ ⟨n, p, hn, hle, rfl⟩
    exact ((h.due level).least time htime).2 ⟨p, ⟨n, hn, hle⟩, rfl⟩

/-- The division by a closed congestion window, which ends a run, needs datagrams of no size. -/
theorem loss_detection_complete (maxDatagramSize : ℕ) (isClient : Bool) (events : List Event)
    (h : Increasing (events.filterMap Event.packet?)) :
    match (new maxDatagramSize isClient).run events with
    | .ok watch => watch.Complete
    | .error e => e = .zeroDivision ∧ maxDatagramSize = 0 := by
  have hrun := (tracked_new maxDatagramSize isClient).run events h fun packet _ =>
    show (-1 : ℤ) < packet.packetNumber by omega
  cases hwatch : (new maxDatagramSize isClient).run events with
  | error e =>
    rw [hwatch] at hrun
    exact hrun
  | ok watch =>
    rw [hwatch] at hrun
    exact hrun.complete

def overtakingEvents : List Event :=
  (List.range 3).map (fun n => .call (.onPacketSent ⟨.handshake, n, n, true, true, 1200, []⟩)) ++
    [.assign true 0, .call (.onAckReceived .handshake ⟨1, 0, [(1, 1)], none⟩ 0 2)]

theorem loss_detection_complete_overtaking :
    Increasing (overtakingEvents.filterMap Event.packet?) ∧
    match (new 1200 true).run overtakingEvents with
    | .ok watch => watch.Complete
    | .error e => e = .zeroDivision ∧ 1200 = 0 :=
  ⟨by decide, loss_detection_complete 1200 true overtakingEvents (by decide)⟩

end Watch

end Dsquic.Recovery
