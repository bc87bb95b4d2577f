import Dsquic.Wire.Frames
import Mathlib.Data.Rat.Defs
import Mathlib.Algebra.BigOperators.Group.List.Basic
import Mathlib.Algebra.Order.Ring.Rat
import Mathlib.Tactic.Ring

/-!
Sent packets and the NewReno congestion controller. Times and rates are exact rationals.
-/

namespace Dsquic.Recovery

open Lib Wire

inductive Level
  | initial
  | handshake
  | oneRtt
  deriving DecidableEq

namespace Level

def all : List Level := [initial, handshake, oneRtt]

def name : Level → String
  | initial => "INITIAL"
  | handshake => "HANDSHAKE"
  | oneRtt => "ONE_RTT"

end Level

structure SentPacket where
  level : Level
  packetNumber : ℕ
  timeSent : ℚ
  ackEliciting : Bool
  inFlight : Bool
  size : ℕ
  frames : List Frame
  deriving DecidableEq

/-- `slowStartThreshold` none is infinity. -/
structure NewReno where
  maxDatagramSize : ℕ
  congestionWindow : ℕ
  bytesInFlight : ℤ
  slowStartThreshold : Option ℕ
  recoveryStartTime : Option ℚ

namespace NewReno

def new (maxDatagramSize : ℕ) : NewReno where
  maxDatagramSize := maxDatagramSize
  congestionWindow := min (10 * maxDatagramSize) (max 14720 (2 * maxDatagramSize))
  bytesInFlight := 0
  slowStartThreshold := none
  recoveryStartTime := none

def pacingRate (c : NewReno) (smoothedRtt : ℚ) : Option ℚ :=
  if smoothedRtt ≤ 0 then none else some (5 / 4 * c.congestionWindow / smoothedRtt)

def inRecovery (c : NewReno) (sentTime : ℚ) : Bool :=
  match c.recoveryStartTime with
  | some start => sentTime ≤ start
  | none => false

def onPacketSent (c : NewReno) (packet : SentPacket) : NewReno :=
  if packet.inFlight then { c with bytesInFlight := c.bytesInFlight + packet.size } else c

def release (c : NewReno) (packet : SentPacket) : NewReno :=
  if packet.inFlight then { c with bytesInFlight := c.bytesInFlight - packet.size } else c

def belowThreshold (c : NewReno) : Bool :=
  match c.slowStartThreshold with
  | some threshold => c.congestionWindow < threshold
  | none => true

def onPacketAcked (packet : SentPacket) : EStateM Raised NewReno PUnit := do
  let c ← get
  if ¬packet.inFlight then pure ⟨⟩
  else do
    let c := c.release packet
    set c
    if c.inRecovery packet.timeSent then pure ⟨⟩
    else if c.belowThreshold then set { c with congestionWindow := c.congestionWindow + packet.size }
    else if c.congestionWindow = 0 then throw .zeroDivision
    else set { c with congestionWindow :=
      c.congestionWindow + c.maxDatagramSize * packet.size / c.congestionWindow }

def onPacketsAcked (packets : List SentPacket) : EStateM Raised NewReno PUnit := each onPacketAcked packets

def reduce (c : NewReno) (now : ℚ) : NewReno :=
  let window := max (c.congestionWindow / 2) (2 * c.maxDatagramSize)
  { c with
    recoveryStartTime := some now
    congestionWindow := window
    slowStartThreshold := some window }

def latestSent : List SentPacket → ℚ
  | [] => 0
  | packet :: packets => packets.foldl (fun latest p => max latest p.timeSent) packet.timeSent

lemma max?_timeSent (packet : SentPacket) (packets : List SentPacket) :
    ((packet :: packets).map (·.timeSent)).max? = some (latestSent (packet :: packets)) := by
  rw [List.map_cons, List.max?_cons', List.foldl_map]
  rfl

def onPacketsDiscarded (c : NewReno) (packets : List SentPacket) : NewReno := packets.foldl release c

def onPacketsLost (c : NewReno) (packets : List SentPacket) (now : ℚ) : NewReno :=
  let c := packets.foldl release c
  if c.inRecovery (latestSent packets) then c else c.reduce now

def onEcnCe (c : NewReno) (sentTime now : ℚ) : NewReno :=
  if c.inRecovery sentTime then c else c.reduce now

def onPersistentCongestion (c : NewReno) : NewReno :=
  { c with congestionWindow := 2 * c.maxDatagramSize, recoveryStartTime := none }

end NewReno

def flight (packets : List SentPacket) : ℤ :=
  (packets.map fun packet => if packet.inFlight then (packet.size : ℤ) else 0).sum

section Flight

variable {packets : List SentPacket}

@[simp] lemma flight_nil : flight [] = 0 := rfl

@[simp] lemma flight_cons (packet : SentPacket) (packets : List SentPacket) :
    flight (packet :: packets) = (if packet.inFlight then (packet.size : ℤ) else 0) + flight packets := by
  simp [flight]

@[simp] lemma flight_append (packets others : List SentPacket) :
    flight (packets ++ others) = flight packets + flight others := by
  simp [flight]

lemma flight_perm {others : List SentPacket} (h : packets.Perm others) : flight packets = flight others :=
  (h.map _).sum_eq

lemma flight_nonneg (packets : List SentPacket) : 0 ≤ flight packets := by
  induction packets with
  | nil => simp
  | cons packet packets ih =>
    rw [flight_cons]
    split_ifs <;> omega

@[simp] lemma flight_filter (packets : List SentPacket) :
    flight (packets.filter (·.inFlight)) = flight packets := by
  induction packets with
  | nil => rfl
  | cons packet packets ih =>
    by_cases h : packet.inFlight = true
    · simp [h, ih]
    · simp [h, ih]

end Flight

namespace NewReno

def Open (c : NewReno) : Prop := 0 < c.maxDatagramSize → 0 < c.congestionWindow

structure Keeps (c c' : NewReno) : Prop where
  size : c'.maxDatagramSize = c.maxDatagramSize
  isOpen : c.Open → c'.Open

lemma Keeps.refl (c : NewReno) : c.Keeps c := ⟨rfl, id⟩

lemma Keeps.trans {c c₁ c₂ : NewReno} (h : c.Keeps c₁) (h₁ : c₁.Keeps c₂) : c.Keeps c₂ :=
  ⟨h₁.size.trans h.size, h₁.isOpen ∘ h.isOpen⟩

section Accounting

variable (c : NewReno)

lemma open_new (maxDatagramSize : ℕ) : (new maxDatagramSize).Open := by
  intro h
  have hsize : 0 < maxDatagramSize := h
  simp only [new]
  omega

lemma keeps_onPacketSent (packet : SentPacket) : c.Keeps (c.onPacketSent packet) := by
  simp only [onPacketSent]
  split_ifs
  · exact ⟨rfl, id⟩
  · exact .refl c

lemma keeps_release (packet : SentPacket) : c.Keeps (c.release packet) := by
  simp only [release]
  split_ifs
  · exact ⟨rfl, id⟩
  · exact .refl c

lemma bytesInFlight_onPacketSent (packet : SentPacket) :
    (c.onPacketSent packet).bytesInFlight = c.bytesInFlight + flight [packet] := by
  simp only [onPacketSent, flight_cons, flight_nil]
  split_ifs <;> simp

lemma bytesInFlight_release (packet : SentPacket) :
    (c.release packet).bytesInFlight = c.bytesInFlight - flight [packet] := by
  simp only [release, flight_cons, flight_nil]
  split_ifs <;> simp

lemma releases (packets : List SentPacket) :
    c.Keeps (packets.foldl release c) ∧
      (packets.foldl release c).bytesInFlight = c.bytesInFlight - flight packets := by
  induction packets generalizing c with
  | nil => exact ⟨.refl c, by simp⟩
  | cons packet packets ih =>
    obtain ⟨hkeeps, hbytes⟩ := ih (c.release packet)
    refine ⟨(c.keeps_release packet).trans hkeeps, ?_⟩
    rw [List.foldl_cons, hbytes, bytesInFlight_release, flight_cons, flight_cons, flight_nil]
    ring

lemma keeps_reduce (now : ℚ) : c.Keeps (c.reduce now) := by
  refine ⟨rfl, fun _ hsize => ?_⟩
  have hsize : 0 < c.maxDatagramSize := hsize
  simp only [reduce]
  omega

lemma keeps_onEcnCe (sentTime now : ℚ) : c.Keeps (c.onEcnCe sentTime now) := by
  simp only [onEcnCe]
  split_ifs
  · exact .refl c
  · exact c.keeps_reduce now

lemma onPacketsLost_accounts (packets : List SentPacket) (now : ℚ) :
    c.Keeps (c.onPacketsLost packets now) ∧
      (c.onPacketsLost packets now).bytesInFlight = c.bytesInFlight - flight packets := by
  obtain ⟨hkeeps, hbytes⟩ := c.releases packets
  simp only [onPacketsLost]
  split_ifs
  · exact ⟨hkeeps, hbytes⟩
  · exact ⟨hkeeps.trans (keeps_reduce _ now), hbytes⟩

lemma keeps_onPersistentCongestion : c.Keeps c.onPersistentCongestion := by
  refine ⟨rfl, fun _ hsize => ?_⟩
  have hsize : 0 < c.maxDatagramSize := hsize
  simp only [onPersistentCongestion]
  omega

lemma onPacketAcked_spec (packet : SentPacket) :
    Ensures (onPacketAcked packet) c
      (fun _ c' => c.Keeps c' ∧ c'.bytesInFlight = c.bytesInFlight - flight [packet])
      fun e c' => e = .zeroDivision ∧ c.Keeps c' ∧ (c.Open → c.maxDatagramSize = 0) := by
  have hkeeps := c.keeps_release packet
  have hbytes := c.bytesInFlight_release packet
  simp only [onPacketAcked, ensures_flow, ensures_throw]
  refine ⟨fun hout => ⟨.refl c, ?_⟩, fun _ => ⟨fun _ => ⟨hkeeps, hbytes⟩, fun _ => ⟨fun _ => ?_, fun _ => ?_⟩⟩⟩
  · simp [hout]
  · exact ⟨hkeeps.trans ⟨rfl, fun h hsize => Nat.add_pos_left (h hsize) _⟩, hbytes⟩
  · refine ⟨fun hclosed => ⟨trivial, hkeeps, fun hopen => ?_⟩, fun hopen => ?_⟩
    · by_contra hsize
      have := hkeeps.isOpen hopen (hkeeps.size ▸ Nat.pos_of_ne_zero hsize)
      omega
    · exact ⟨hkeeps.trans ⟨rfl, fun _ _ => Nat.add_pos_left (Nat.pos_of_ne_zero hopen) _⟩, hbytes⟩

lemma onPacketsAcked_spec (packets : List SentPacket) :
    Ensures (onPacketsAcked packets) c
      (fun _ c' => c.Keeps c' ∧ c'.bytesInFlight = c.bytesInFlight - flight packets)
      fun e c' => e = .zeroDivision ∧ c.Keeps c' ∧ packets ≠ [] ∧ (c.Open → c.maxDatagramSize = 0) := by
  induction packets generalizing c with
  | nil =>
    simp only [onPacketsAcked, each, ensures_pure, flight_nil, sub_zero, and_true]
    exact .refl c
  | cons packet packets ih =>
    rw [onPacketsAcked, each, ensures_bind]
    apply (c.onPacketAcked_spec packet).mono
    · rintro _ c₁ ⟨hkeeps, hbytes⟩
      apply (ih c₁).mono
      · rintro _ c₂ ⟨hkeeps', hbytes'⟩
        refine ⟨hkeeps.trans hkeeps', ?_⟩
        rw [hbytes', hbytes, flight_cons, flight_cons, flight_nil]
        ring
      · rintro _ c₂ ⟨he, hkeeps', -, hclosed⟩
        exact ⟨he, hkeeps.trans hkeeps', by simp, fun h => hkeeps.size ▸ hclosed (hkeeps.isOpen h)⟩
    · rintro _ c₁ ⟨he, hkeeps, hclosed⟩
      exact ⟨he, hkeeps, by simp, hclosed⟩

end Accounting

end NewReno

end Dsquic.Recovery
