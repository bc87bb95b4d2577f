import Dsquic.Connection.Backlog
import Dsquic.Connection.Plain
import Dsquic.Connection.SendPath
import Dsquic.Recovery.Timeouts

/-!
Running the timers of a connection at one time, until none of them is due at that time.
-/

namespace Dsquic.Connection

open Lib Wire Streams Recovery

variable {env : Env}

lemma due_eq_reached (deadline : Option ℚ) (now : ℚ) : Conn.due deadline now = reached deadline now := by
  cases deadline <;> simp [Conn.due, reached]

def Conn.urgency (c : Conn env) (now : ℚ) (doublings : ℕ) : ℕ :=
  (doublings + 1) * (!(c.spaces .initial).discarded).toNat + c.recovery.urgency now doublings

def Conn.Active (c : Conn env) (now : ℚ) : Prop :=
  c.recovery.Active now fun level => (c.spaces level).nextPacketNumber

structure Awake (now : ℚ) (c : Conn env) : Prop where
  isOpen : c.state = .handshaking ∨ c.state = .connected
  closeFrame : c.closeFrame = none
  updatable : (c.spaces .oneRtt).updatable = true
  closing : reached c.closingDeadline now = false
  idle : reached c.idleDeadline now = false

structure Waits (now : ℚ) (doublings bound : ℕ) (c : Conn env) : Prop extends Awake now c where
  bounded : c.recovery.Bounded doublings
  bound : c.urgency now doublings ≤ bound

structure Endures (now : ℚ) (c c' : Conn env) : Prop where
  waits : ∀ {doublings bound}, Waits now doublings bound c → Waits now doublings bound c'
  active : c.Active now → c'.Active now
  pacing : reached c.pacingDeadline now = false → reached c'.pacingDeadline now = false

section Endures

variable {c c' c'' : Conn env} {now : ℚ} {doublings bound : ℕ}

lemma Endures.refl (c : Conn env) : Endures now c c := ⟨id, id, id⟩

lemma Endures.trans (h : Endures now c c') (h' : Endures now c' c'') : Endures now c c'' :=
  ⟨fun hwaits => h'.waits (h.waits hwaits), fun hactive => h'.active (h.active hactive),
    fun hpacing => h'.pacing (h.pacing hpacing)⟩

lemma idleDeadline_congr (hstarted : c'.idleStarted = c.idleStarted)
    (hlocal : c'.localParameters = c.localParameters)
    (hpeer : c'.peerParameters = c.peerParameters) (hrtt : c'.recovery.rtt = c.recovery.rtt)
    (hdelay : c'.recovery.maxAckDelay = c.recovery.maxAckDelay) : c'.idleDeadline = c.idleDeadline := by
  simp only [Conn.idleDeadline, Conn.idleTimeoutMs, LossDetection.pto, hstarted, hlocal, hpeer, hrtt, hdelay]

lemma bounded_congr {l l' : LossDetection} (hrtt : l'.rtt = l.rtt) (hdelay : l'.maxAckDelay = l.maxAckDelay) :
    l'.Bounded doublings ↔ l.Bounded doublings := by
  simp only [LossDetection.Bounded, LossDetection.ptoBase, hrtt, hdelay]

lemma Awake.of_clock (hawake : Awake now c) (h : c'.clock = c.clock) (hrtt : c'.recovery.rtt = c.recovery.rtt)
    (hdelay : c'.recovery.maxAckDelay = c.recovery.maxAckDelay) : Awake now c' := by
  have hstate : c'.state = c.state := congrArg Clock.state h
  have hframe : c'.closeFrame = c.closeFrame := congrArg Clock.closeFrame h
  have hupdatable : (c'.spaces .oneRtt).updatable = (c.spaces .oneRtt).updatable := congrArg Clock.updatable h
  have hclosing : c'.closingDeadline = c.closingDeadline := congrArg Clock.closingDeadline h
  refine ⟨hstate ▸ hawake.isOpen, hframe.trans hawake.closeFrame, hupdatable.trans hawake.updatable,
    hclosing ▸ hawake.closing, ?_⟩
  rw [idleDeadline_congr (congrArg Clock.idleStarted h) (congrArg Clock.localParameters h)
    (congrArg Clock.peerParameters h) hrtt hdelay]
  exact hawake.idle

lemma Endures.of_numbers (h : { c'.timing with nextPacketNumber := c.timing.nextPacketNumber } = c.timing)
    (hnext : ∀ level, (c.spaces level).nextPacketNumber ≤ (c'.spaces level).nextPacketNumber) :
    Endures now c c' := by
  have hrecovery : c'.recovery = c.recovery := congrArg Timing.recovery h
  have hinitial : (c'.spaces .initial).discarded = (c.spaces .initial).discarded :=
    congrArg Timing.initialDiscarded h
  have hpaced : c'.pacingDeadline = c.pacingDeadline := congrArg Timing.pacingDeadline h
  refine ⟨fun hwaits => ⟨hwaits.toAwake.of_clock (congrArg Timing.clock h) (congrArg _ hrecovery)
    (congrArg _ hrecovery), hrecovery ▸ hwaits.bounded, ?_⟩, fun hactive => ?_, fun hpacing => hpaced ▸ hpacing⟩
  · rw [Conn.urgency, hrecovery, hinitial]
    exact hwaits.bound
  · rw [Conn.Active, hrecovery]
    exact hactive.of_keeps (fun _ => id) (fun _ _ => .inl) (fun _ _ hloss => ⟨hloss, fun _ hitem _ => hitem⟩) hnext

lemma Endures.of_timing (h : c'.timing = c.timing) : Endures now c c' :=
  .of_numbers (by rw [h]) fun level => (congrFun (congrArg Timing.nextPacketNumber h) level).ge

lemma timing_takeNumber (c : Conn env) (level : Level) :
    { (c.takeNumber level).timing with nextPacketNumber := c.timing.nextPacketNumber } = c.timing := by
  cases level <;> rfl

lemma nextPacketNumber_takeNumber (c : Conn env) (level other : Level) :
    (c.spaces other).nextPacketNumber ≤ ((c.takeNumber level).spaces other).nextPacketNumber := by
  simp only [Conn.takeNumber, Conn.onSpace, Conn.setSpace, Function.update_apply]
  split_ifs with h
  · exact h ▸ Nat.le_succ _
  · exact le_rfl

lemma endures_takeNumber (note : Note) (level : Level) : Endures now c ((c.takeNumber level).note note) :=
  .of_numbers (timing_takeNumber c level) (nextPacketNumber_takeNumber c level)

lemma endures_sent (note : Note) (packet : SentPacket) (htime : packet.timeSent = now)
    (hnumber : packet.packetNumber = (c.spaces packet.level).nextPacketNumber) :
    Endures now c (((c.takeNumber packet.level).note note).setRecovery (c.recovery.onPacketSent packet)) := by
  refine ⟨fun hwaits => ?_, fun hactive => ?_, id⟩
  · have hnumbered := (endures_takeNumber note packet.level).waits hwaits
    refine { hnumbered with bounded := hwaits.bounded, bound := (Nat.add_le_add_left ?_ _).trans hnumbered.bound }
    have hlosses : (c.recovery.onPacketSent packet).dueLosses now = c.recovery.dueLosses now := by
      have hspace : ∀ level, ((c.recovery.onPacketSent packet).spaces level).lossTime =
          (c.recovery.spaces level).lossTime := by
        intro level
        simp only [LossDetection.onPacketSent, LossDetection.spaces_setSpace]
        split_ifs with hlevel
        · rw [hlevel]
        · rfl
      simp only [LossDetection.dueLosses, hspace]
    have hevent : (c.recovery.onPacketSent packet).lastEvent = some now := congrArg some htime
    simp only [Conn.setRecovery, LossDetection.urgency, hlosses, hevent, if_true]
    exact Nat.le_add_right _ _
  · exact LossDetection.Active.onPacketSent hactive htime hnumber (nextPacketNumber_takeNumber c packet.level)

lemma endures_discardSpace : Endures now c (c.discardSpace .initial) := by
  cases hinitial : (c.spaces .initial).discarded with
  | true =>
    simp only [Conn.discardSpace, hinitial, if_true]
    exact .refl c
  | false =>
    have hrecovery : (c.discardSpace .initial).recovery = c.recovery.discardSpace .initial := by
      simp [Conn.discardSpace, hinitial]
    have hdiscarded : ((c.discardSpace .initial).spaces .initial).discarded = true :=
      (c.discarded_discardSpace _ _).2 (.inl rfl)
    have hnumbers : ∀ level, ((c.discardSpace .initial).spaces level).nextPacketNumber =
        (c.spaces level).nextPacketNumber := by
      intro level
      cases level <;> simp [Conn.discardSpace, hinitial, Conn.onSpace, Conn.setSpace, Conn.note]
    refine ⟨fun hwaits => ⟨hwaits.toAwake.of_clock ?_ (by rw [hrecovery]; rfl) (by rw [hrecovery]; rfl), ?_, ?_⟩,
      fun hactive => ?_, fun hpacing => ?_⟩
    · simp [Conn.discardSpace, hinitial, Conn.onSpace, Conn.setSpace, Conn.note, Conn.clock]
    · rw [hrecovery]
      exact (bounded_congr rfl rfl).2 hwaits.bounded
    · have hbound := hwaits.bound
      have hlosses : (c.recovery.discardSpace .initial).dueLosses now ≤ c.recovery.dueLosses now := by
        simp [LossDetection.dueLosses, LossDetection.discardSpace, LossDetection.emptied, Level.all, reached]
      have hcount : (c.recovery.discardSpace .initial).ptoCount = 0 := rfl
      have hevent : (c.recovery.discardSpace .initial).lastEvent = c.recovery.lastEvent := rfl
      simp only [Conn.urgency, hinitial, hdiscarded, hrecovery, hcount, hevent, LossDetection.urgency,
        Bool.not_false, Bool.not_true, Bool.toNat_true, Bool.toNat_false] at hbound ⊢
      omega
    · simp only [Conn.Active, hrecovery, hnumbers]
      exact LossDetection.Active.discardSpace hactive
    · simpa [Conn.discardSpace, hinitial, Conn.onSpace, Conn.setSpace, Conn.note] using hpacing

end Endures

section Sending

variable {c : Conn env} {now : ℚ} {level : Level} {room : ℤ}

lemma backlog_takeNumber (c : Conn env) (level : Level) : (c.takeNumber level).backlog = c.backlog := by
  have hset := c.backlog_setSpace level
    { c.spaces level with nextPacketNumber := (c.spaces level).nextPacketNumber + 1 }
  exact Nat.add_right_cancel hset

lemma buildPacket_endures (padTo : ℕ) (ackOnly : Bool) :
    Ensures (buildPacket level room now padTo ackOnly) c
      (fun packet c' => Endures now c c' ∧ c'.backlog + packet.toList.length ≤ c.backlog)
      fun _ c' => Endures now c c' := by
  simp only [buildPacket, ensures_bind, ensures_get]
  cases (c.spaces level).sendingKeys level with
  | none => exact .refl c
  | some keys =>
    simp only [ensures_ite, ensures_state]
    refine ⟨fun _ => ⟨.refl c, le_refl _⟩, fun _ => ?_⟩
    apply (pendingFrames_pays ackOnly).mono
    · intro frames c₁ h₁
      have hchosen : Endures now c c₁ := .of_timing h₁.timing
      have hbacklog := h₁.backlog
      refine ⟨fun _ => ⟨hchosen, (Nat.le_add_right _ _).trans hbacklog⟩, fun hsome => ?_⟩
      have hpos := List.length_pos_of_ne_nil hsome
      simp only [ensures_lift, ensures_raiseIf]
      refine ⟨fun payload _ => ⟨fun _ => hchosen, fun _ => ?_⟩, fun _ _ => hchosen⟩
      apply (sealPacket_spec keys _ padTo (padPayload payload) _ frames).mono
      · rintro packet c₂ rfl
        have hnumber := backlog_takeNumber c₁ level
        have hsent := endures_sent (c := c₁) (.sealed level keys (c₁.spaces level).nextPacketNumber frames)
          ⟨level, (c₁.spaces level).nextPacketNumber, now, frames.any isAckEliciting, frames.any isAckEliciting,
            packet.length, frames⟩ rfl rfl
        refine ⟨hchosen.trans hsent, ?_⟩
        change (c₁.takeNumber level).backlog + 1 ≤ c.backlog
        omega
      · rintro e c₂ rfl
        exact hchosen.trans (.of_numbers (timing_takeNumber c₁ level) (nextPacketNumber_takeNumber c₁ level))
    · exact fun _ _ h => .of_timing h

lemma backlog_discardSpace (c : Conn env) (level : Level) : (c.discardSpace level).backlog ≤ c.backlog := by
  simp only [Conn.discardSpace]
  split_ifs
  · exact le_refl _
  · have hset := c.backlog_setSpace level { c.spaces level with
      discarded := true
      keysSend := none
      keysRecv := none
      cryptoPending := []
      cryptoRetransmit := [] }
    have hspace : ({ c.spaces level with
      discarded := true
      keysSend := none
      keysRecv := none
      cryptoPending := []
      cryptoRetransmit := [] } : Space PacketKeys Bytes).backlog ≤ (c.spaces level).backlog := by
      simp only [Space.backlog, List.map_nil, List.sum_nil, List.length_nil]
      omega
    have hle := Nat.add_le_add_left hspace c.backlog
    rw [← hset] at hle
    exact Nat.le_of_add_le_add_right hle

lemma buildPackets_endures (ackOnly : Bool) (budget : ℤ) (levels : List Level) (payload : Bytes) :
    Ensures (buildPackets now ackOnly budget levels payload) c
      (fun payload' c' => Endures now c c' ∧ c'.backlog ≤ c.backlog ∧
        (payload' = payload ∨ c'.backlog < c.backlog))
      fun _ c' => Endures now c c' := by
  induction levels generalizing payload c with
  | nil => exact ⟨.refl c, le_refl _, .inl rfl⟩
  | cons level levels ih =>
    simp only [buildPackets, ensures_bind, ensures_get, ensures_ite]
    refine ⟨fun _ => ih payload, fun _ => ?_⟩
    apply (buildPacket_endures _ ackOnly).imp
    rintro packet c₁ ⟨h₁, hbacklog₁⟩
    cases packet with
    | none =>
      apply (ih payload).mono
      · rintro payload' c₂ ⟨h₂, hle, hsame⟩
        exact ⟨h₁.trans h₂, hle.trans hbacklog₁, hsame.imp_right fun hlt => hlt.trans_le hbacklog₁⟩
      · exact fun _ _ h₂ => h₁.trans h₂
    | some packet =>
      have hlt₁ : c₁.backlog < c.backlog := hbacklog₁
      -- what follows the packet, once the Initial space is discarded or not
      have hrest : ∀ (padTo : ℕ) (c₂ : Conn env), Endures now c c₂ → c₂.backlog < c.backlog →
          Ensures (if padTo ≠ 0 then pure (payload ++ packet)
            else buildPackets now ackOnly budget levels (payload ++ packet)) c₂
            (fun payload' c' => Endures now c c' ∧ c'.backlog ≤ c.backlog ∧
              (payload' = payload ∨ c'.backlog < c.backlog)) fun _ c' => Endures now c c' := by
        intro padTo c₂ h₂ hlt₂
        simp only [ensures_ite, ensures_pure]
        refine ⟨fun _ => ⟨h₂, hlt₂.le, .inr hlt₂⟩, fun _ => ?_⟩
        apply (ih _).mono
        · rintro payload' c₃ ⟨h₃, hle, -⟩
          exact ⟨h₂.trans h₃, (hle.trans_lt hlt₂).le, .inr (hle.trans_lt hlt₂)⟩
        · exact fun _ _ h₃ => h₂.trans h₃
      simp only [ensures_bind, ensures_doIf, ensures_modify]
      refine ⟨fun _ => hrest _ _ (h₁.trans endures_discardSpace) ?_, fun _ => hrest _ _ h₁ hlt₁⟩
      exact (backlog_discardSpace c₁ .initial).trans_lt hlt₁

lemma buildDatagram_endures (ackOnly : Bool) :
    Ensures (buildDatagram now ackOnly) c
      (fun datagram c' => Endures now c c' ∧ c'.backlog + datagram.toList.length ≤ c.backlog)
      fun _ c' => Endures now c c' := by
  simp only [buildDatagram, ensures_flow]
  refine ⟨fun _ => ⟨.refl c, le_refl _⟩, fun _ => ?_⟩
  apply (buildPackets_endures ackOnly _ Level.all []).imp
  rintro payload c₁ ⟨h₁, hle, hsame⟩
  refine ⟨fun _ => ⟨h₁, hle⟩, fun hpayload => ⟨h₁.trans ⟨fun hwaits => { hwaits with }, id, id⟩, ?_⟩⟩
  exact hsame.resolve_left hpayload

lemma pacingAllowance_spec :
    Ensures (pacingAllowance now) c (fun _ c' => c'.timing = c.timing ∧ c'.backlog = c.backlog)
      fun _ _ => False := by
  simp only [pacingAllowance, ensures_state]
  cases c.recovery.controller.pacingRate c.recovery.rtt.smoothed with
  | none => exact ⟨rfl, rfl⟩
  | some rate => exact ⟨rfl, rfl⟩

def Conn.unpaced (c : Conn env) : Timing := { c.timing with pacingDeadline := none }

lemma pacingBlocked_unpaced :
    Ensures (pacingBlocked now) c (fun _ c' => c'.unpaced = c.unpaced) fun _ _ => False := by
  have hunpaced : ∀ c₁ : Conn env, c₁.timing = c.timing → c₁.unpaced = c.unpaced := by
    intro c₁ htiming
    rw [Conn.unpaced, htiming, Conn.unpaced]
  exact ensures_pacingBlocked pacingAllowance_spec (fun c₁ h => hunpaced c₁ h.1) fun c₁ _ _ h => hunpaced c₁ h.1

lemma pacingBlocked_endures :
    Ensures (pacingBlocked now) c (fun _ c' => Endures now c c' ∧ c'.backlog = c.backlog) fun _ _ => False := by
  refine ensures_pacingBlocked pacingAllowance_spec (fun _ h => ⟨.of_timing h.1, h.2⟩) fun c₁ later hlater h => ?_
  have h₁ : Endures now c c₁ := .of_timing h.1
  refine ⟨h₁.trans ⟨fun hwaits => { hwaits with }, id, fun _ => ?_⟩, h.2⟩
  rw [not_reached_iff]
  intro time htime
  cases htime
  exact hlater

lemma rotateKeys_updatable (hupdatable : (c.spaces .oneRtt).updatable = true)
    (hnext : (c.spaces .oneRtt).keysRecvNext.isSome = true) :
    Ensures (rotateKeys .oneRtt now) c (fun _ c' => c'.timing = c.timing) fun _ _ => False := by
  obtain ⟨recv, hrecv⟩ := Option.isSome_iff_exists.1 hnext
  have hsend : (c.spaces .oneRtt).keysSend.isSome = true := by
    simpa [Space.updatable, hrecv] using hupdatable
  obtain ⟨send, hsend⟩ := Option.isSome_iff_exists.1 hsend
  simp only [rotateKeys, ensures_flow, Space.rotateKeys, hrecv, hsend]
  refine ⟨fun space hspace => ?_, fun e he => by cases he⟩
  cases hspace
  refine (Conn.timing_setSpace ?_).trans rfl
  exact Prod.ext rfl (Prod.ext hupdatable.symm rfl)

lemma maybeUpdateKeys_updatable (hupdatable : (c.spaces .oneRtt).updatable = true) :
    Ensures (maybeUpdateKeys now) c (fun _ c' => c'.timing = c.timing) fun _ _ => False := by
  simp only [maybeUpdateKeys, ensures_state]
  cases c.config.keyUpdateInterval with
  | none => rfl
  | some interval =>
    simp only [ensures_flow, initiateKeyUpdate]
    refine ⟨fun _ => ⟨fun hstarts => ?_, fun _ => trivial⟩, fun _ => trivial⟩
    simp only [Space.mayUpdate, Bool.and_eq_true] at hstarts
    exact rotateKeys_updatable hupdatable hstarts.1.1

end Sending

section Timeout

variable {c : Conn env} {now : ℚ} {doublings bound : ℕ}

lemma requeueFrame_timing (level : Level) (frame : Frame) :
    Ensures (requeueFrame level frame) c (fun _ c' => c'.timing = c.timing) fun _ c' => c'.timing = c.timing := by
  have hsend : ∀ (streams : StreamManager) (i : ℕ) (f : SendStream → Except Raised SendStream),
      Ensures (onStreams streams (StreamManager.withSend i f)) c (fun _ c' => c'.timing = c.timing)
        fun _ c' => c'.timing = c.timing := by
    intro streams i f
    rw [onStreams, ensures_zoom]
    exact (ensures_self _ _).mono (fun _ _ _ => rfl) fun _ _ _ => rfl
  simp only [requeueFrame, ensures_state]
  cases frame with
  | crypto crypto => exact Conn.timing_setSpace rfl
  | stream stream =>
    simp only
    cases c.streams with
    | none => rfl
    | some streams => exact hsend streams _ _
  | maxStreamData streamId maximum =>
    simp only
    cases c.streams with
    | none => rfl
    | some streams =>
      simp only [ensures_flow]
      exact ⟨fun _ _ => rfl, fun _ _ => trivial⟩
  | maxData maximum | maxStreams maximum bidirectional =>
    simp only
    cases c.streams with
    | none => rfl
    | some streams => rfl
  | _ => rfl

lemma each_timing {α : Type} {body : α → M env PUnit}
    (hbody : ∀ a c, Always (body a) c fun c' => c'.timing = c.timing)
    (as : List α) :
    Always (each body as) c fun c' => c'.timing = c.timing := by
  have hloop := ensures_each (f := body) (I := fun _ (c' : Conn env) => c'.timing = c.timing)
    (E := fun _ c' => c'.timing = c.timing)
  refine hloop (fun a _ c₁ h₁ => ?_) as c rfl
  exact (hbody a c₁).both fun _ h => h.trans h₁

lemma requeueAll_timing (packets : List SentPacket) :
    Always (each requeueLost packets) c fun c' => c'.timing = c.timing :=
  each_timing (fun packet _ => each_timing (fun frame _ => requeueFrame_timing packet.level frame) packet.frames)
    packets

lemma prepareProbe_timing (level : Level) :
    Always (prepareProbe level) c fun c' => c'.timing = c.timing := by
  have hrest : ∀ (c₁ : Conn env) (other : Level), c₁.timing = c.timing →
      Always (if c₁.hasPendingData other then pure ⟨⟩ else each requeueLost ((c₁.recovery.unacked other).take 2))
        c₁
        fun c' => c'.timing = c.timing := by
    intro c₁ other h₁
    simp only [ensures_ite, ensures_pure]
    exact ⟨fun _ => h₁, fun _ => (requeueAll_timing _).both fun _ h => h.trans h₁⟩
  simp only [prepareProbe, ensures_bind, ensures_get, ensures_doIf]
  refine ⟨fun _ => ?_, fun _ => hrest c level rfl⟩
  simp only [resendEarlyApplicationData, ensures_bind, ensures_get]
  exact (hrest c .oneRtt rfl).imp fun _ c₁ h₁ => hrest c₁ level h₁

lemma onTimeout_timing :
    Always (onTimeout now) c
      fun c' => c'.timing = (c.setRecovery (c.recovery.onLossDetectionTimeout now).2).timing := by
  simp only [onTimeout, ensures_state]
  apply (requeueAll_timing _).mono
  · intro _ c₁ h₁
    cases (c.recovery.onLossDetectionTimeout now).1.probeLevel with
    | none => exact h₁
    | some level =>
      simp only [ensures_state]
      have h₂ : (c₁.oweProbes level).timing = _ := h₁
      exact (prepareProbe_timing level).both fun c₃ h₃ => h₃.trans h₂
  · exact fun _ c₁ h₁ => h₁

lemma handleTimer_awake (h : Awake now c) {P : Conn env → Prop}
    (htimeout : reached c.recovery.lossDetectionTimeout now = true →
      Always (onTimeout now) c P)
    (hquiet : reached c.recovery.lossDetectionTimeout now = false → P c) : P (finalState (handleTimer now) c) := by
  apply Ensures.final
  simp only [handleTimer, ensures_flow, due_eq_reached]
  refine ⟨fun hclosing => ?_, fun _ => ⟨fun hdown => ?_, fun _ => ⟨fun hidle => ?_, fun _ => ⟨htimeout,
    fun hdue => hquiet (Bool.eq_false_iff.2 hdue)⟩⟩⟩⟩
  · rw [h.closing] at hclosing
    cases hclosing
  · rcases h.isOpen with hstate | hstate <;> simp [hstate] at hdown
  · rw [h.idle] at hidle
    cases hidle

end Timeout

section Ends

variable {c : Conn env} {now : ℚ} {rounds more : ℕ}

lemma buildDatagrams_ends (h : c.backlog < rounds) (hmore : rounds ≤ more) :
    buildDatagrams now more c = buildDatagrams now rounds c := by
  induction rounds generalizing c more with
  | zero => omega
  | succ rounds ih =>
    obtain ⟨more, rfl⟩ := Nat.exists_eq_add_of_lt (Nat.zero_lt_of_lt hmore)
    rw [Nat.zero_add, buildDatagrams, buildDatagrams]
    refine pacingBlocked_endures.bind_congr ?_
    rintro pacedOut c₁ ⟨-, hbacklog₁⟩
    change (buildDatagram now pacedOut >>= _) c₁ = (buildDatagram now pacedOut >>= _) c₁
    refine (buildDatagram_endures pacedOut).bind_congr ?_
    rintro datagram c₂ ⟨-, hbacklog₂⟩
    cases datagram with
    | none => rfl
    | some datagram =>
      have hlt : c₂.backlog < rounds := by
        rw [Option.toList_some, List.length_singleton] at hbacklog₂
        omega
      change EStateM.bind (buildDatagrams now more) _ _ = EStateM.bind (buildDatagrams now rounds) _ _
      rw [EStateM.bind, EStateM.bind, ih (by exact hlt) (by omega)]

lemma rotateKeys_backlog (level : Level) :
    Ensures (rotateKeys level now) c (fun _ c' => c'.backlog = c.backlog) fun e _ => e = .assertion := by
  simp only [rotateKeys, ensures_flow]
  constructor
  · intro space hspace
    have hsame : space.backlog = (c.spaces level).backlog := by
      simp only [Space.rotateKeys] at hspace
      split at hspace <;> cases hspace
      rfl
    have hset := (c.note (.keyed space.keysRecvNext)).backlog_setSpace level space
    rw [hsame] at hset
    exact Nat.add_right_cancel hset
  · intro e he
    simp only [Space.rotateKeys] at he
    split at he <;> cases he
    rfl

lemma maybeUpdateKeys_backlog :
    Ensures (maybeUpdateKeys now) c (fun _ c' => c'.backlog = c.backlog) fun e _ => e = .assertion := by
  simp only [maybeUpdateKeys, ensures_state]
  cases c.config.keyUpdateInterval with
  | none => rfl
  | some interval =>
    simp only [ensures_flow, initiateKeyUpdate]
    exact ⟨fun _ => ⟨fun _ => rotateKeys_backlog .oneRtt, fun _ => trivial⟩, fun _ => trivial⟩

lemma datagramsToSend_ends (h : c.backlog < rounds) (hmore : rounds ≤ more) :
    datagramsToSend now more c = datagramsToSend now rounds c := by
  change (if c.state = .draining ∨ c.state = .terminated then pure [] else if c.closeFrame.isSome
    then buildCloseDatagram now else _) c = (if c.state = .draining ∨ c.state = .terminated then pure []
    else if c.closeFrame.isSome then buildCloseDatagram now else _) c
  split_ifs
  · rfl
  · rfl
  · refine maybeUpdateKeys_backlog.bind_congr ?_
    intro _ c₁ hbacklog
    change EStateM.bind (buildDatagrams now more) _ _ = EStateM.bind (buildDatagrams now rounds) _ _
    have hless : ({ c₁ with pacingDeadline := none } : Conn env).backlog < rounds := hbacklog.trans_lt h
    rw [EStateM.bind, EStateM.bind, buildDatagrams_ends hless hmore]

end Ends

namespace Session

end Session

namespace Conn

variable (c : Conn env) (now : ℚ)

def Stuck : Prop :=
  reached c.closingDeadline now = false ∧
    (c.state = .draining ∧ reached c.pacingDeadline now = true ∨
      c.state = .closing ∧ c.closeFrame.isSome = true ∧ 0 < c.recovery.pto ∧
        (reached c.idleDeadline now = true ∨ reached c.pacingDeadline now = true))

instance : Decidable (c.Stuck now) := inferInstanceAs (Decidable (_ ∧ _))

instance : Decidable (c.Active now) := inferInstanceAs (Decidable (c.recovery.Active now _))

end Conn

structure Held (now : ℚ) (c : Conn env) : Prop extends Awake now c where
  unvalidated : c.unvalidated = true
  allowance : c.allowance ≤ 0
  settled : c.recovery.earliestLossTime = none
  lapsed : ∃ level, c.recovery.Lapsed now level

section Progress

variable {c : Conn env} {now : ℚ} {doublings bound : ℕ} {s s' : Session env}

end Progress

section Stuck

variable {c : Conn env} {now : ℚ} {s s' : Session env} {c' : Conn env}

lemma Conn.Stuck.handleTimer (h : c.Stuck now) : (finalState (handleTimer now) c).Stuck now := by
  apply Ensures.final (P := fun c' : Conn env => c'.Stuck now)
  simp only [Connection.handleTimer, ensures_flow, due_eq_reached, h.1]
  refine ⟨Bool.noConfusion, fun _ => ⟨fun _ => h, fun hup => ?_⟩⟩
  obtain ⟨-, ⟨hstate, -⟩ | ⟨hstate, -⟩⟩ := h
  · simp [hstate] at hup
  · simp [hstate] at hup

lemma Conn.Stuck.of_clock (h : c.Stuck now)
    (hclock : { c'.clock with closingDeadline := c.closingDeadline } = c.clock)
    (hrecovery : c'.recovery = c.recovery)
    (hpacing : c'.pacingDeadline = c.pacingDeadline) (hclosing : reached c'.closingDeadline now = false) :
    c'.Stuck now := by
  have hstate : c'.state = c.state := congrArg Clock.state hclock
  have hframe : c'.closeFrame = c.closeFrame := congrArg Clock.closeFrame hclock
  have hidle : c'.idleDeadline = c.idleDeadline :=
    idleDeadline_congr (congrArg Clock.idleStarted hclock) (congrArg Clock.localParameters hclock)
      (congrArg Clock.peerParameters hclock) (congrArg _ hrecovery) (congrArg _ hrecovery)
  simp only [Conn.Stuck, hstate, hframe, hrecovery, hpacing, hidle, hclosing]
  exact ⟨trivial, h.2⟩

lemma clock_closed (c : Conn env) (note : Note) (reason packet : Bytes) :
    { ((c.note note).closed reason packet now).clock with closingDeadline := c.closingDeadline } = c.clock := rfl

lemma Conn.Stuck.datagramsToSend (h : c.Stuck now) (rounds : ℕ) :
    (finalState (datagramsToSend now rounds) c).Stuck now := by
  apply Ensures.final (P := fun c' : Conn env => c'.Stuck now)
  simp only [Connection.datagramsToSend, ensures_flow]
  refine ⟨fun _ => h, fun hup => ?_⟩
  have hclock : ∀ level, (c.takeNumber level).clock = c.clock := fun level =>
    congrArg Timing.clock (timing_takeNumber c level)
  have hnumber : ∀ level, (c.takeNumber level).Stuck now := fun level =>
    h.of_clock (congrArg (fun clock : Clock => { clock with closingDeadline := c.closingDeadline }) (hclock level))
      rfl rfl h.1
  obtain ⟨-, ⟨hstate, -⟩ | ⟨-, hframe, hpos, -⟩⟩ := id h
  · simp [hstate] at hup
  refine ⟨fun _ => ?_, fun hnone => absurd hframe hnone⟩
  simp only [buildCloseDatagram, ensures_state]
  cases c.closeFrame with
  | none => exact h
  | some frame =>
    cases c.closeLevel with
    | none => exact h
    | some chosen =>
      simp only [ensures_flow]
      refine ⟨fun _ => h, fun _ => ⟨fun payload _ => ?_, fun _ _ => h⟩⟩
      apply (sealPacket_spec chosen.2 _ 0 (padPayload payload) _ [.connectionClose frame]).mono
      · rintro packet c₁ rfl
        refine (hnumber chosen.1).of_clock (clock_closed _ _ _ _) rfl rfl ?_
        rw [not_reached_iff]
        intro time htime
        cases htime
        change now < now + 3 * c.recovery.pto
        linarith
      · rintro e c₁ rfl
        exact hnumber chosen.1

lemma Held.of_unpaced (h : Held now c) (hspaces : c'.recovery.spaces = c.recovery.spaces)
    (hconfirmed : c'.recovery.handshakeConfirmed = c.recovery.handshakeConfirmed)
    (hrtt : c'.recovery.rtt = c.recovery.rtt) (hdelay : c'.recovery.maxAckDelay = c.recovery.maxAckDelay)
    (hrest : { c'.unpaced with recovery := c.recovery } = c.unpaced) : Held now c' := by
  have hunvalidated : c'.unvalidated = c.unvalidated := congrArg Timing.unvalidated hrest
  have hallowance : c'.allowance = c.allowance := congrArg Timing.allowance hrest
  refine { h.toAwake.of_clock (congrArg Timing.clock hrest) hrtt hdelay with
    unvalidated := hunvalidated.trans h.unvalidated
    allowance := hallowance.trans_le h.allowance
    settled := ?_
    lapsed := ?_ }
  · simpa only [LossDetection.earliestLossTime, hspaces] using h.settled
  · simpa only [LossDetection.Lapsed, LossDetection.counts, hspaces, hconfirmed] using h.lapsed

lemma Held.handleTimer (h : Held now c) : Held now (finalState (handleTimer now) c) := by
  refine handleTimer_awake h.toAwake (fun _ => ?_) fun _ => h
  obtain ⟨level, hprobe⟩ := LossDetection.onLossDetectionTimeout_probe now h.settled
  have hsame : ∀ c' : Conn env, c'.timing = (c.setRecovery (c.recovery.onLossDetectionTimeout now).2).timing →
      Held now c' := by
    intro c' htiming
    have hrecovery : c'.recovery = (c.recovery.onLossDetectionTimeout now).2 := congrArg Timing.recovery htiming
    rw [hprobe] at hrecovery
    refine h.of_unpaced (by rw [hrecovery]) (by rw [hrecovery]) (by rw [hrecovery]) (by rw [hrecovery]) ?_
    rw [Conn.unpaced, htiming]
    rfl
  exact onTimeout_timing.both hsame

lemma Held.datagramsToSend (h : Held now c) (rounds : ℕ) :
    Held now (finalState (datagramsToSend now rounds) c) := by
  have hsame : ∀ c' : Conn env, c'.unpaced = c.unpaced → Held now c' := by
    intro c' hrest
    have hrecovery : c'.recovery = c.recovery := congrArg Timing.recovery hrest
    exact h.of_unpaced (by rw [hrecovery]) (by rw [hrecovery]) (by rw [hrecovery]) (by rw [hrecovery])
      (congrArg (fun timing : Timing => { timing with recovery := c.recovery }) hrest)
  apply Ensures.final
  simp only [Connection.datagramsToSend, ensures_flow]
  refine ⟨fun _ => h, fun _ => ⟨fun hclose => ?_, fun _ => ?_⟩⟩
  · rw [h.closeFrame] at hclose
    cases hclose
  · apply (maybeUpdateKeys_updatable h.updatable).mono
    · intro _ c₁ h₁
      have hcleared : ({ c₁ with pacingDeadline := none } : Conn env).unpaced = c.unpaced :=
        congrArg (fun timing : Timing => { timing with pacingDeadline := none }) h₁
      cases rounds with
      | zero => exact hsame _ hcleared
      | succ rounds =>
        simp only [buildDatagrams, ensures_state]
        apply pacingBlocked_unpaced.mono
        · intro pacedOut c₂ h₂
          have hheld := hsame c₂ (h₂.trans hcleared)
          have hbudget := (sendBudget_le_allowance pacedOut hheld.unvalidated).trans hheld.allowance
          simp only [buildDatagram, ensures_state, if_pos hbudget]
          exact { hheld with }
        · exact fun _ _ h => h.elim
    · exact fun _ _ h => h.elim

end Stuck

end Dsquic.Connection
