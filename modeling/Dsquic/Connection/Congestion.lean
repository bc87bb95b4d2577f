import Dsquic.Connection.Backlog
import Dsquic.Connection.DatagramSize

/-!
What a datagram adds to the bytes in flight, against the congestion window.
-/

namespace Dsquic.Connection

open Lib Wire Streams Recovery

variable {env : Env}

namespace Conn

/-- The window has room for a datagram, whose token adds to the size of the path only where it does not fit. -/
def WindowOpen (c : Conn env) : Prop :=
  (c.config.maxDatagramSize + (c.tokenAt .initial).length : ℤ) ≤
      c.recovery.controller.congestionWindow - c.recovery.controller.bytesInFlight ∨
    1200 ≤ c.config.maxDatagramSize ∧ c.InitialFits ∧
      (c.config.maxDatagramSize : ℤ) ≤ c.recovery.controller.congestionWindow - c.recovery.controller.bytesInFlight

instance (c : Conn env) : Decidable c.WindowOpen := inferInstanceAs (Decidable (_ ∨ _ ∧ _ ∧ _))

def Launches (c c' : Conn env) : Prop :=
  ∃ level, ∃ packet ∈ (c'.recovery.spaces level).sent.values,
    packet ∉ (c.recovery.spaces level).sent.values ∧ packet.inFlight = true

end Conn

structure Weighs (ackOnly : Bool) (n : ℕ) (c c' : Conn env) : Prop where
  window : c'.recovery.controller.congestionWindow = c.recovery.controller.congestionWindow
  flight : c'.recovery.controller.bytesInFlight ≤ c.recovery.controller.bytesInFlight + n
  sent : ∀ level, ∀ packet ∈ (c'.recovery.spaces level).sent.values,
    packet ∈ (c.recovery.spaces level).sent.values ∨ (ackOnly = true → packet.inFlight = false)

section Weighs

variable {c c' c'' : Conn env} {ackOnly : Bool} {m n : ℕ} {now : ℚ} {level : Level} {room : ℤ}

lemma Weighs.of_recovery (h : c'.recovery = c.recovery) : Weighs ackOnly 0 c c' := by
  refine ⟨by rw [h], by rw [h, Nat.cast_zero, add_zero], fun level packet hpacket => ?_⟩
  rw [h] at hpacket
  exact .inl hpacket

lemma Weighs.trans (h : Weighs ackOnly m c c') (h' : Weighs ackOnly n c' c'') : Weighs ackOnly (m + n) c c'' := by
  refine ⟨h'.window.trans h.window, ?_, fun level packet hpacket => ?_⟩
  · have hfirst := h.flight
    have hsecond := h'.flight
    omega
  · exact (h'.sent level packet hpacket).elim (h.sent level packet) .inr

lemma congestionWindow_onPacketsDiscarded (controller : NewReno) (packets : List SentPacket) :
    (controller.onPacketsDiscarded packets).congestionWindow = controller.congestionWindow := by
  induction packets generalizing controller with
  | nil => rfl
  | cons packet packets ih =>
    refine (ih (controller.release packet)).trans ?_
    rw [NewReno.release]
    split_ifs <;> rfl

lemma discardSpace_weighs (c : Conn env) (level : Level) : Weighs ackOnly 0 c (c.discardSpace level) := by
  rw [Conn.discardSpace]
  split_ifs
  · exact .of_recovery rfl
  · -- the packets of the space leave flight
    obtain ⟨-, hbytes⟩ := c.recovery.controller.releases
      ((c.recovery.spaces level).sent.values.filter (·.inFlight))
    have hnonneg := flight_nonneg ((c.recovery.spaces level).sent.values.filter (·.inFlight))
    refine ⟨congestionWindow_onPacketsDiscarded _ _, hbytes.trans_le ?_,
      fun other packet hpacket => .inl (LossDetection.mem_sent_emptied hpacket)⟩
    omega

lemma onPacketSent_weighs (packet : SentPacket) (h : ackOnly = true → packet.inFlight = false) :
    Weighs ackOnly packet.size c (c.setRecovery (c.recovery.onPacketSent packet)) := by
  refine ⟨?_, ?_, fun level p hp => ?_⟩
  · simp only [Conn.setRecovery, LossDetection.onPacketSent, NewReno.onPacketSent]
    split_ifs <;> rfl
  · simp only [Conn.setRecovery, LossDetection.onPacketSent, NewReno.onPacketSent]
    split_ifs
    · exact le_refl _
    · exact Int.le_add_of_nonneg_right (Int.natCast_nonneg _)
  · rcases LossDetection.mem_sent_onPacketSent hp with ⟨rfl, -⟩ | hp
    · exact .inr h
    · exact .inl hp

lemma pendingFrames_ackOnly :
    Ensures (pendingFrames level room true) c fun frames _ => frames.any isAckEliciting = false := by
  simp only [pendingFrames, chooseAck, ensures_state, if_true]
  cases (c.spaces level).buildAck with
  | none => rfl
  | some ack =>
    simp only [ensures_flow]
    exact ⟨fun _ _ => ⟨fun _ => rfl, fun _ => rfl⟩, fun _ _ => trivial⟩

lemma pendingFrames_weighs (ackOnly : Bool) :
    Ensures (pendingFrames level room ackOnly) c fun frames c' => c'.recovery = c.recovery ∧
      (ackOnly = true → frames.any isAckEliciting = false) := by
  have hquiet : Ensures (pendingFrames level room ackOnly) c fun frames _ =>
      ackOnly = true → frames.any isAckEliciting = false := by
    cases ackOnly with
    | false => exact (ensures_self _ c).imp_true (fun _ _ _ h => (by cases h))
    | true => exact pendingFrames_ackOnly.imp (fun _ _ h _ => h)
  exact ((pendingFrames_pays ackOnly).and hquiet).mono
    (fun _ _ h => ⟨congrArg Timing.recovery h.1.timing, h.2⟩) fun _ _ _ => trivial

lemma buildPacket_weighs (padTo : ℕ) (ackOnly : Bool) :
    Ensures (buildPacket level room now padTo ackOnly) c
      fun packet c' => Weighs ackOnly (packet.getD []).length c c' := by
  apply ensures_buildPacket (.of_recovery rfl) (fun _ => pendingFrames_weighs ackOnly)
    fun _ h => .of_recovery h.1
  rintro keys frames c₁ payload - ⟨hrecovery, hquiet⟩ - -
  apply (sealPacket_spec keys _ padTo (padPayload payload) _ frames).imp_true
  rintro packet c₂ rfl
  have hchosen : Weighs ackOnly 0 c ((c₁.takeNumber level).note (.sealed level keys
    (c₁.spaces level).nextPacketNumber frames)) := .of_recovery hrecovery
  have hsent := hchosen.trans (onPacketSent_weighs ⟨level, (c₁.spaces level).nextPacketNumber, now,
    frames.any isAckEliciting, frames.any isAckEliciting, packet.length, frames⟩ hquiet)
  rwa [Nat.zero_add] at hsent

lemma buildPackets_weighs (ackOnly : Bool) (budget : ℤ) (levels : List Level) (payload : Bytes) :
    Ensures (buildPackets now ackOnly budget levels payload) c
      fun payload' c' => ∃ n, payload'.length = payload.length + n ∧ Weighs ackOnly n c c' := by
  induction levels generalizing payload c with
  | nil => exact ⟨0, rfl, .of_recovery rfl⟩
  | cons level levels ih =>
    -- what the levels that follow add to what has joined so far
    have hrest : ∀ (payload₁ : Bytes) (c₁ : Conn env) (m : ℕ), payload₁.length = payload.length + m →
        Weighs ackOnly m c c₁ → Ensures (buildPackets now ackOnly budget levels payload₁) c₁
          fun payload' c' => ∃ n, payload'.length = payload.length + n ∧ Weighs ackOnly n c c' := by
      intro payload₁ c₁ m hlength h₁
      apply (ih payload₁).imp
      rintro payload' c₂ ⟨n, hlength', h₂⟩
      exact ⟨m + n, by rw [hlength', hlength, Nat.add_assoc], h₁.trans h₂⟩
    simp only [buildPackets, ensures_flow]
    refine ⟨fun _ => hrest payload c 0 rfl (.of_recovery rfl), fun _ => ?_⟩
    apply (buildPacket_weighs _ ackOnly).imp
    intro packet c₁ h₁
    cases packet with
    | none => exact hrest payload c₁ 0 rfl h₁
    | some packet =>
      have hlength : (payload ++ packet).length = payload.length + packet.length := List.length_append
      have hdiscard : Weighs ackOnly packet.length c (c₁.discardSpace .initial) :=
        h₁.trans (discardSpace_weighs c₁ .initial)
      simp only [ensures_flow]
      exact ⟨fun _ => ⟨fun _ => ⟨_, hlength, hdiscard⟩, fun _ => hrest _ _ _ hlength hdiscard⟩,
        fun _ => ⟨fun _ => ⟨_, hlength, h₁⟩, fun _ => hrest _ _ _ hlength h₁⟩⟩

theorem congestion_window_respected (h : Begins c) (ops : List (Op env)) (now : ℚ) (ackOnly : Bool)
    {datagram : OutgoingDatagram env} {c' : Conn env}
    (hprobes : ((Session.start c).run ops).conn.probes = 0)
    (hopen : ackOnly = true ∨ ((Session.start c).run ops).conn.WindowOpen)
    (hbuild : buildDatagram now ackOnly ((Session.start c).run ops).conn = .ok (some datagram) c')
    (hlaunches : ((Session.start c).run ops).conn.Launches c') :
    c'.recovery.controller.bytesInFlight ≤ c'.recovery.controller.congestionWindow := by
  obtain ⟨hhost, hpeer⟩ := Session.length_cids h ops
  generalize ((Session.start c).run ops).conn = c at *
  have hbound : Ensures (buildDatagram now ackOnly) c fun datagram c' => ∀ d, datagram = some d →
      Weighs ackOnly d.data.length c c' ∧ (d.data.length : ℤ) ≤
        max (c.config.maxDatagramSize + (c.tokenAt .initial).length : ℤ) (c.sendBudget ackOnly) ∧
      (1200 ≤ c.config.maxDatagramSize → c.InitialFits → d.data.length ≤ c.config.maxDatagramSize) := by
    simp only [buildDatagram, ensures_flow]
    refine ⟨fun _ _ hd => (by cases hd), fun hbudget => ?_⟩
    have hlimit : Ensures (buildPackets now ackOnly (c.sendBudget ackOnly) Level.all []) c fun payload _ =>
        1200 ≤ c.config.maxDatagramSize → c.InitialFits → payload.length ≤ c.config.maxDatagramSize := by
      by_cases hfits : 1200 ≤ c.config.maxDatagramSize ∧ c.InitialFits
      · exact (buildPackets_fits now ackOnly (not_le.1 hbudget) hpeer hhost hfits.1 hfits.2).mono
          (fun _ _ hlength _ _ => hlength) fun _ _ h => h
      · exact (ensures_self _ c).imp_true fun _ _ _ hsize hinitial => absurd ⟨hsize, hinitial⟩ hfits
    apply ((buildPackets_weighs ackOnly _ Level.all []).and
      ((buildPackets_all .new now ackOnly (not_le.1 hbudget)).and
      hlimit)).imp_true
    rintro payload c₁ ⟨⟨n, hlength, hweighs⟩, ⟨-, hfits⟩, hlimit⟩
    refine ⟨fun _ _ hd => (by cases hd), ?_⟩
    rintro - _ ⟨⟩
    rw [List.length_nil, Nat.zero_add] at hlength
    rw [← hlength] at hweighs
    have hcounted : Weighs ackOnly 0 c₁ (c₁.countSent payload.length) := .of_recovery rfl
    exact ⟨hweighs.trans hcounted, hfits hpeer hhost, hlimit⟩
  obtain ⟨hweighs, hlength, hlimit⟩ := hbound.of_ok hbuild datagram rfl
  obtain ⟨level, packet, hpacket, hnew, hflight⟩ := hlaunches
  -- a packet in flight is none that only acknowledges
  have hfull : ackOnly = false := by
    by_contra hack
    rw [Bool.not_eq_false] at hack
    rcases hweighs.sent level packet hpacket with hold | hquiet
    · exact hnew hold
    · exact Bool.false_ne_true ((hquiet hack).symm.trans hflight)
  have hwindow := hopen.resolve_left (by rw [hfull]; decide)
  have hbudget : c.sendBudget ackOnly ≤
      c.recovery.controller.congestionWindow - c.recovery.controller.bytesInFlight := by
    simp only [Conn.sendBudget, hfull, hprobes, ne_eq, not_true_eq_false, if_false, Bool.false_eq_true]
    split_ifs
    · exact min_le_left _ _
    · exact le_refl _
  rw [hweighs.window]
  have hflight := hweighs.flight
  rcases hwindow with hwindow | ⟨hsize, hfits, hwindow⟩
  · omega
  · have hlimit := hlimit hsize hfits
    omega

end Weighs

def plainTokens (n : ℕ) : List (Op .plain) :=
  [.datagramReceived (plainInitial 0 [.crypto ⟨0, [3]⟩]) 0 none 0,
    .datagramReceived (plainPacket .handshake (List.replicate 8 1) (List.replicate 8 9) 0 [.crypto ⟨0, [4, 1]⟩]) 0
      none 0] ++
  List.replicate n (.sendNewToken (List.replicate 1090 0)) ++
    [.datagramsToSend 0 12, .sendNewToken (List.replicate 1090 0)]

def launched {env : Env} (c : Conn env) : Option (ℤ × ℕ) :=
  match buildDatagram 1 false c with
  | .ok (some _) c' =>
    if c.probes = 0 ∧ (c'.recovery.spaces .oneRtt).sent.values.any fun packet =>
      packet ∉ (c.recovery.spaces .oneRtt).sent.values ∧ packet.inFlight
    then some (c'.recovery.controller.bytesInFlight, c'.recovery.controller.congestionWindow) else none
  | _ => none

lemma exists_of_launched {env : Env} {c : Conn env} (bytes : ℤ) (window : ℕ)
    (h : launched c = some (bytes, window)) :
    ∃ datagram c', buildDatagram 1 false c = .ok (some datagram) c' ∧ c.probes = 0 ∧ c.Launches c' ∧
      c'.recovery.controller.bytesInFlight = bytes ∧ c'.recovery.controller.congestionWindow = window := by
  unfold launched at h
  split at h
  · next datagram c' hbuild =>
    split_ifs at h with hany
    obtain ⟨packet, hpacket, hnew⟩ := List.any_eq_true.1 hany.2
    obtain ⟨hnew, hflight⟩ := of_decide_eq_true hnew
    cases h
    exact ⟨datagram, c', hbuild, hany.1, ⟨.oneRtt, packet, hpacket, hnew, hflight⟩, rfl, rfl⟩
  · cases h

theorem congestion_window_respected_tokens : ∃ datagram c',
    buildDatagram 1 false ((Session.start (plainServer .default)).run (plainTokens 1)).conn =
      .ok (some datagram) c' ∧
      ((Session.start (plainServer .default)).run (plainTokens 1)).conn.Launches c' ∧
      c'.recovery.controller.bytesInFlight ≤ c'.recovery.controller.congestionWindow := by
  obtain ⟨datagram, c', hbuild, hprobes, hlaunches, -, -⟩ := exists_of_launched 2239 12000
    (c := ((Session.start (plainServer .default)).run (plainTokens 1)).conn) (by decide +kernel)
  exact ⟨datagram, c', hbuild, hlaunches, congestion_window_respected (begins_plainServer .default)
    (plainTokens 1) 1 false
    hprobes (.inr (by decide +kernel)) hbuild hlaunches⟩

/-- The window is compared with what is in flight, not with what the datagram will add to it. -/
theorem window_overshot : ∃ datagram c',
    buildDatagram 1 false ((Session.start (plainServer .default)).run (plainTokens 10)).conn =
      .ok (some datagram) c' ∧
      ((Session.start (plainServer .default)).run (plainTokens 10)).conn.probes = 0 ∧
      ((Session.start (plainServer .default)).run (plainTokens 10)).conn.Launches c' ∧
      c'.recovery.controller.congestionWindow < c'.recovery.controller.bytesInFlight := by
  obtain ⟨datagram, c', hbuild, hprobes, hlaunches, hbytes, hwindow⟩ := exists_of_launched 12310 12000
    (c := ((Session.start (plainServer .default)).run (plainTokens 10)).conn) (by decide +kernel)
  refine ⟨datagram, c', hbuild, hprobes, hlaunches, ?_⟩
  rw [hbytes, hwindow]
  decide

end Dsquic.Connection
