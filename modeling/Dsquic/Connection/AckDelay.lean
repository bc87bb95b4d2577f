import Dsquic.Connection.Discard

/-!
The delay that loss detection allows its peer for an acknowledgement. A peer announces it among its
transport parameters, but loss detection is made with that of 25 milliseconds and keeps it.
-/

namespace Dsquic.Recovery.LossDetection

open Lib Wire

def eliciting (l : LossDetection) (level : Level) : List SentPacket :=
  (l.spaces level).sent.values.filter (·.ackEliciting)

def Samples (l : LossDetection) (level : Level) (ack : Ack) (ackDelay cap now : ℚ) (l' : LossDetection) : Prop :=
  l'.rtt = l.rtt ∨ ∃ packet ∈ (l.spaces level).sent.values, packet.packetNumber = ack.largest ∧
    l'.rtt = l.rtt.update (now - packet.timeSent) (min ackDelay cap)

structure Allows (l : LossDetection) (delay : ℚ) : Prop where
  deadline : l.lossDetectionTimeout = some (NewReno.latestSent (l.eliciting .oneRtt) +
    min ((l.rtt.smoothed + max (4 * l.rtt.rttvar) granularity + delay) * 2 ^ l.ptoCount) 60)
  capped : ∀ level ack ackDelay now, Always (onAckReceived level ack ackDelay now) l
    (l.Samples level ack ackDelay delay now)

variable {l : LossDetection}

lemma earliestPto_oneRtt (hconfirmed : l.handshakeConfirmed = true)
    (hdiscarded : ∀ level, (l.spaces level).discarded = true ↔ level ≠ .oneRtt)
    (hsent : l.eliciting .oneRtt ≠ []) :
    l.earliestPto = some (NewReno.latestSent (l.eliciting .oneRtt) + l.ptoDuration .oneRtt, .oneRtt) := by
  obtain ⟨packet, packets, hpackets⟩ := List.exists_cons_of_ne_nil hsent
  have hinitial : (l.spaces .initial).discarded = true := (hdiscarded _).2 (by decide)
  have hhandshake : (l.spaces .handshake).discarded = true := (hdiscarded _).2 (by decide)
  have hopen : (l.spaces .oneRtt).discarded = false :=
    Bool.eq_false_iff.2 fun h => (hdiscarded _).1 h rfl
  rw [hpackets]
  rw [eliciting] at hpackets
  simp [earliestPto, Level.all, earliestOf, hinitial, hhandshake, hopen, hconfirmed, hpackets]

lemma rttSample_samples (hconfirmed : l.handshakeConfirmed = true) (level : Level) (ack : Ack) (ackDelay now : ℚ)
    {acked : List SentPacket} (hacked : ∀ packet ∈ acked, packet ∈ (l.spaces level).sent.values)
    {l' : LossDetection}
    (hl' : l'.rtt = l.rttSample ack ackDelay now acked) : l.Samples level ack ackDelay l.maxAckDelay now l' := by
  simp only [rttSample, hconfirmed, if_true] at hl'
  split at hl'
  · next largest hlargest =>
    split_ifs at hl' with hsample
    · exact .inr ⟨largest, hacked largest (List.mem_of_getLast? hlargest), hsample.1, hl'⟩
    · exact .inl hl'
  · exact .inl hl'

lemma onAckReceived_samples (hconfirmed : l.handshakeConfirmed = true) (level : Level) (ack : Ack)
    (ackDelay now : ℚ) :
    Always (onAckReceived level ack ackDelay now) l (l.Samples level ack ackDelay l.maxAckDelay now) := by
  have hacked : ∀ packet ∈ byNumber (takeAcked (l.spaces level).sent ack.ranges).1,
      packet ∈ (l.spaces level).sent.values := fun packet hpacket =>
    mem_sent_iff.2 ((takeAcked_spec (l.spaces level).sent ack.ranges).2.2 packet (mem_byNumber.1 hpacket))
  simp only [ensures_onAckReceived, acknowledge, ensures_flow]
  refine ⟨fun _ => .inl rfl, fun _ => ⟨fun _ => ⟨fun _ => .inl rfl, fun _ => .inl rfl⟩, fun _ => ?_⟩⟩
  apply (NewReno.onPacketsAcked_spec l.controller _).mono
  · exact fun _ _ _ => ⟨fun _ => rttSample_samples hconfirmed level ack ackDelay now hacked rfl,
      fun _ => rttSample_samples hconfirmed level ack ackDelay now hacked rfl⟩
  · exact fun _ _ _ => rttSample_samples hconfirmed level ack ackDelay now hacked rfl

lemma allows_maxAckDelay (hconfirmed : l.handshakeConfirmed = true)
    (hdiscarded : ∀ level, (l.spaces level).discarded = true ↔ level ≠ .oneRtt) (hsent : l.eliciting .oneRtt ≠ [])
    (hloss : l.earliestLossTime = none) : l.Allows l.maxAckDelay where
  deadline := by
    simp only [lossDetectionTimeout, hloss, earliestPto_oneRtt hconfirmed hdiscarded hsent, ptoDuration, if_true]
  capped := onAckReceived_samples hconfirmed

end Dsquic.Recovery.LossDetection

namespace Dsquic.Connection

open Lib Wire Streams Recovery

namespace Core

variable {s s' : Core}

structure Allowing (s : Core) : Prop where
  delay : s.recovery.maxAckDelay = 25 / 1000
  discarded : ∀ level, (s.recovery.spaces level).discarded = (s.queues level).discarded
  kept : (s.queues .oneRtt).discarded = false
  confirmed : s.recovery.handshakeConfirmed = true → s.caller.confirming = true ∨
    (s.queues .handshake).discarded = true ∧ (s.isClient = true → (s.queues .initial).discarded = true)

lemma Allowing.of_eq (h : s.Allowing) (hdelay : s'.recovery.maxAckDelay = s.recovery.maxAckDelay)
    (hconfirmed : s'.recovery.handshakeConfirmed = s.recovery.handshakeConfirmed)
    (hspaces : ∀ level, (s'.recovery.spaces level).discarded = (s.recovery.spaces level).discarded)
    (hqueues : ∀ level, (s'.queues level).discarded = (s.queues level).discarded)
    (hclient : s'.isClient = s.isClient) (hconfirming : s'.caller.confirming = s.caller.confirming) :
    s'.Allowing where
  delay := hdelay.trans h.delay
  discarded level := by rw [hspaces, hqueues, h.discarded]
  kept := (hqueues _).trans h.kept
  confirmed := by
    rw [hconfirmed, hqueues, hqueues, hclient, hconfirming]
    exact h.confirmed

lemma Allowing.close (h : s.Allowing) (frame : ConnectionClose) : (s.close frame).Allowing := by
  simp only [Core.close]
  split_ifs
  · exact h
  · exact { h with }

lemma Allowing.discard (h : s.Allowing) {level : Level} (hlevel : level ≠ .oneRtt)
    (hrecovery : s'.recovery = s.recovery.discardSpace level)
    (hqueues : ∀ other, (s'.queues other).discarded = if other = level then true else (s.queues other).discarded)
    (hclient : s'.isClient = s.isClient) (hconfirming : s'.caller.confirming = s.caller.confirming) :
    s'.Allowing where
  delay := (congrArg LossDetection.maxAckDelay hrecovery).trans h.delay
  discarded other := by
    rw [hqueues, hrecovery, LossDetection.discardSpace, LossDetection.emptied, LossDetection.spaces_setSpace]
    split_ifs
    · rfl
    · exact h.discarded other
  kept := by rw [hqueues, if_neg hlevel.symm, h.kept]
  confirmed hconfirmed := by
    have hstays : ∀ other, (s.queues other).discarded = true → (s'.queues other).discarded = true := by
      intro other hother
      rw [hqueues]
      split_ifs
      · rfl
      · exact hother
    rw [hclient, hconfirming]
    rw [hrecovery] at hconfirmed
    refine (h.confirmed hconfirmed).imp_right fun hgone =>
      ⟨hstays _ hgone.1, fun hrole => hstays _ (hgone.2 hrole)⟩

lemma Allowing.effect (h : s.Allowing) (heffect : Effect s s') : s'.Allowing := by
  cases heffect with
  | discard level hlevel hthere =>
    refine h.discard hlevel rfl (fun other => ?_) rfl rfl
    by_cases hother : other = level <;> simp [onQueue, onInbox, note, hother]
  | confirm =>
    refine ⟨h.delay, fun level => ?_, ?_, fun _ => .inl rfl⟩
    · exact (h.discarded level).trans (discarded_update_of_eq (by rfl) level).symm
    · exact (discarded_update_of_eq (by rfl) _).trans h.kept
  | confirmed confirming hhandshake hinitial => exact { h with confirmed := fun _ => .inr ⟨hhandshake, hinitial⟩ }
  | settle level acked lost recovery hsettles =>
    refine h.of_eq hsettles.maxAckDelay hsettles.confirmed (fun other => ?_) (fun _ => rfl) rfl rfl
    by_cases hother : other = level
    · subst hother
      exact hsettles.discarded
    · exact congrArg SentSpace.discarded (hsettles.others other hother)
  | tune recovery hspaces hkeeps hconfirmed hdelay =>
    exact h.of_eq hdelay hconfirmed (fun other => congrArg (fun spaces => (spaces other).discarded) hspaces)
      (fun _ => rfl) rfl rfl
  | send keys packet hthere =>
    refine h.of_eq rfl rfl (fun other => ?_) (discarded_update_of_eq (by rfl)) rfl rfl
    by_cases hother : other = packet.level <;> simp [LossDetection.onPacketSent, hother]
  | restart level =>
    refine h.of_eq rfl rfl (fun other => ?_) (fun _ => rfl) rfl rfl
    by_cases hother : other = level <;> simp [LossDetection.restartSpace, LossDetection.emptied, hold, hother]
  | close frame => exact h.close frame
  | abort frame errorCode reason =>
    have hnote : (s.note (.aborted s.state)).Allowing := { h with }
    exact { hnote.close frame with }
  | emit | requeueCrypto | resendCrypto | sendCrypto | takeNumber | protect | sync | sendKey | rotate | adopt
  | install | retry => exact h.of_eq rfl rfl (fun _ => rfl) (discarded_update_of_eq (by rfl)) rfl rfl
  | _ => exact { h with }

end Core

section Delay

variable {env : Env} {c : Conn env}

lemma Session.allowing (h : Begins c) (ops : List (Op env)) :
    ∃ intact, (((Session.start c).run ops).core intact).Allowing := by
  obtain ⟨_, _, _, _, intact, -, -, hpath, -⟩ := Session.reached h ops
  exact ⟨intact, hpath.invariant (P := Core.Allowing) (fun _ _ heffect hs => hs.effect heffect)
    ⟨rfl, fun _ => rfl, rfl, fun hconfirmed => absurd hconfirmed Bool.false_ne_true⟩⟩

/-- Once the handshake is confirmed, loss detection allows the delay that the peer announced, if it announced
25 milliseconds. A server is to have discarded its Initial space, as it does on the first Handshake packet. -/
theorem announced_delay_allowed (h : Begins c) (ops : List (Op env))
    (hconfirmed : ((Session.start c).run ops).conn.recovery.handshakeConfirmed = true)
    (hinitial : ((Session.start c).run ops).conn.isClient = false →
      (((Session.start c).run ops).conn.spaces .initial).discarded = true)
    (hsent : ((Session.start c).run ops).conn.recovery.eliciting .oneRtt ≠ [])
    (hloss : ((Session.start c).run ops).conn.recovery.earliestLossTime = none) :
    ∀ parameters peer source, .agreed parameters peer source ∈ ((Session.start c).run ops).conn.trace →
      peer.maxAckDelayMs = 25 → ((Session.start c).run ops).conn.recovery.Allows (peer.maxAckDelayMs / 1000) := by
  intro parameters peer source _ hannounced
  obtain ⟨intact, hallowing⟩ := Session.allowing h ops
  have hgone := (hallowing.confirmed hconfirmed).resolve_left Bool.false_ne_true
  have hdiscarded : ∀ level, (((Session.start c).run ops).conn.recovery.spaces level).discarded = true ↔
      level ≠ .oneRtt := by
    intro level
    refine (Bool.eq_iff_iff.1 (hallowing.discarded level)).trans ?_
    cases level with
    | initial =>
      refine iff_of_true ?_ (by decide)
      cases hrole : ((Session.start c).run ops).conn.isClient with
      | true => exact hgone.2 hrole
      | false => exact hinitial hrole
    | handshake => exact iff_of_true hgone.1 (by decide)
    | oneRtt => exact iff_of_false (Bool.eq_false_iff.1 hallowing.kept) fun hne => hne rfl
  have hdelay : ((Session.start c).run ops).conn.recovery.maxAckDelay = peer.maxAckDelayMs / 1000 := by
    rw [hannounced]
    exact hallowing.delay
  rw [← hdelay]
  exact LossDetection.allows_maxAckDelay hconfirmed hdiscarded hsent hloss

def plainFinished (message : Bytes) : List (Op .plain) :=
  [.datagramReceived (plainInitial 0 [.crypto ⟨0, [3, 4]⟩]) 0 none 0,
    .datagramReceived (plainPacket .handshake (List.replicate 8 1) (List.replicate 8 9) 0 [.crypto ⟨0, message⟩]) 0
      none 0,
    .datagramsToSend 0 4]

theorem announced_delay_allowed_default :
    ((Session.start (plainServer .default)).run (plainFinished [1])).conn.recovery.Allows ((25 : ℕ) / 1000) :=
  announced_delay_allowed (begins_plainServer .default) (plainFinished [1]) (by decide +kernel)
    (fun _ => by decide +kernel) (by decide +kernel) (by decide +kernel) [] {} (List.replicate 8 9)
    (by decide +kernel) rfl

theorem announced_delay_ignored :
    .agreed [11, 1, 50] { maxAckDelayMs := 50 } (List.replicate 8 9) ∈
        ((Session.start (plainServer .default)).run (plainFinished [8])).conn.trace ∧
      ((Session.start (plainServer .default)).run (plainFinished [8])).conn.recovery.handshakeConfirmed = true ∧
      (((Session.start (plainServer .default)).run (plainFinished [8])).conn.spaces .initial).discarded = true ∧
      ((Session.start (plainServer .default)).run (plainFinished [8])).conn.recovery.eliciting .oneRtt ≠ [] ∧
      ((Session.start (plainServer .default)).run (plainFinished [8])).conn.recovery.earliestLossTime = none ∧
      ((Session.start (plainServer .default)).run (plainFinished [8])).conn.recovery.lossDetectionTimeout =
        some (333 / 1000 + 666 / 1000 + 25 / 1000) ∧
      ¬((Session.start (plainServer .default)).run (plainFinished [8])).conn.recovery.Allows (50 / 1000) := by
  refine ⟨by decide +kernel, by decide +kernel, by decide +kernel, by decide +kernel, by decide +kernel,
    by decide +kernel, fun hallows => ?_⟩
  exact absurd hallows.deadline (by decide +kernel)

end Delay

end Dsquic.Connection
