import Dsquic.Connection.Congestion
import Dsquic.Connection.DatagramSize
import Dsquic.Connection.Observed
import Dsquic.Connection.Timers

/-!
The pacer: what one call to send puts in flight, against the burst that the leaky bucket allows. Credit is
spent by the change in the bytes in flight, so a datagram costs what it puts in flight unless building it
gives up packets of the Initial level that still are.
-/

namespace Dsquic.Connection

open Lib Wire Streams Recovery

variable {env : Env} {other : Level}

namespace Conn

def launched (c c' : Conn env) : ℕ :=
  (Level.all.map fun level => (((c'.recovery.spaces level).sent.values.filter fun packet =>
    packet.inFlight && packet ∉ (c.recovery.spaces level).sent.values).map (·.size)).sum).sum

def Idle (c : Conn env) (level : Level) : Prop := c.hasPendingData level = false ∧ c.probesPending level = 0

def Retains (c : Conn env) : Prop :=
  c.isClient = false ∨ (c.spaces .initial).discarded = true ∨ (c.spaces .handshake).discarded = true ∨
    (c.spaces .handshake).keysSend = none ∨
    (c.Idle .initial ∧ ∀ packet ∈ (c.recovery.spaces .initial).sent.values, packet.inFlight = false)

def HeaderFits (c : Conn env) : Prop :=
  (c.spaces .initial).keysSend = none ∨ (c.spaces .initial).discarded = true ∨
    c.peerCid.length + c.hostCid.length + (c.tokenAt .initial).length ≤ 34

instance (c : Conn env) (level : Level) : Decidable (c.Idle level) := inferInstanceAs (Decidable (_ ∧ _))

instance (c : Conn env) : Decidable c.Retains := inferInstanceAs (Decidable (_ ∨ _ ∨ _ ∨ _ ∨ _ ∧ _))

instance (c : Conn env) : Decidable c.HeaderFits := inferInstanceAs (Decidable (_ ∨ _ ∨ _))

end Conn

def weighToSend (now : ℚ) (rounds : ℕ) : M env (List (OutgoingDatagram env × ℕ)) :=
  observeToSend (fun _ c c' => c.launched c') 0 now rounds

section Idle

variable {c c' : Conn env} {level : Level} {room : ℤ}

lemma Touches.idle (h : Touches level c c') (hother : other ≠ level) (hidle : c.Idle other) :
    c'.Idle other := by
  obtain ⟨hdata, hprobes⟩ := hidle
  refine ⟨?_, (h.probes other hother).trans hprobes⟩
  simp only [Conn.hasPendingData, h.spaces other hother] at hdata ⊢
  by_cases hlevel : other = .oneRtt
  · subst hlevel
    obtain ⟨hcontrol, hdone, hstreams⟩ := h.application (Ne.symm hother)
    rwa [hcontrol, hdone, hstreams]
  · simpa only [ne_eq, hlevel, not_false_eq_true, if_true] using hdata

lemma Conn.Idle.crypto (h : c.Idle level) : (c.spaces level).cryptoPending = [] ∧
    (c.spaces level).cryptoRetransmit = [] := by
  have hdata := h.1
  simp only [Conn.hasPendingData] at hdata
  split_ifs at hdata with hcrypto
  all_goals simpa only [ne_eq, not_or, not_not] using hcrypto

lemma Conn.Idle.application (h : c.Idle .oneRtt) : c.controlFrames = [] ∧ c.handshakeDonePending = false ∧
    (c.streams.map (·.writableStreams)).getD [] = [] := by
  obtain ⟨hpending, hretransmit⟩ := h.crypto
  have hdata := h.1
  simp only [Conn.hasPendingData, hpending, hretransmit, ne_eq, not_true_eq_false, or_self, if_false] at hdata
  split_ifs at hdata with hcontrol
  rw [not_or, not_not, Bool.not_eq_true] at hcontrol
  refine ⟨hcontrol.1, hcontrol.2, ?_⟩
  cases hstreams : c.streams with
  | none => rfl
  | some streams => simpa [hstreams] using hdata

lemma pendingFrames_idle (h : c.Idle level) (ackOnly : Bool) :
    Ensures (pendingFrames level room ackOnly) c fun frames c' => frames.any isAckEliciting = false ∧
      c'.Idle level ∧
      ((c.spaces level).buildAck = none → frames = []) := by
  have hack : Ensures (chooseAck level room) c fun ack c' => ack.1.any isAckEliciting = false ∧ c'.Idle level ∧
      ((c.spaces level).buildAck = none → ack.1 = []) := by
    simp only [chooseAck, ensures_state]
    cases (c.spaces level).buildAck with
    | none => exact ⟨rfl, h, fun _ => rfl⟩
    | some ack =>
      simp only [ensures_flow]
      refine ⟨fun _ _ => ⟨fun _ => ⟨rfl, ?_, fun hnone => absurd hnone (Option.some_ne_none ack)⟩,
        fun _ => ⟨rfl, h, fun _ => trivial⟩⟩, fun _ _ => trivial⟩
      simpa [Conn.Idle, Conn.hasPendingData, Conn.onSpace, Conn.setSpace] using h
  simp only [pendingFrames, ensures_flow]
  refine hack.imp fun ack c₁ h₁ => ⟨fun _ => h₁, fun _ => ?_⟩
  obtain ⟨hquiet, hidle, hnone⟩ := h₁
  obtain ⟨hpending, hretransmit⟩ := hidle.crypto
  have hnext : ∀ available, (c₁.spaces level).nextCrypto available = (none, c₁.spaces level) := by
    intro available
    simp [Space.nextCrypto, hpending, hretransmit]
  have hsame : c₁.setSpace level (c₁.spaces level) = c₁ := by simp [Conn.setSpace]
  have happlication : Ensures (applicationFramesAt level (room - (ack.2 + 0 : ℕ))) c₁
      fun application c₂ => application.1 = [] ∧ c₂ = c₁ := by
    rw [applicationFramesAt, ensures_ite]
    refine ⟨?_, fun _ => ⟨rfl, rfl⟩⟩
    rintro rfl
    obtain ⟨hcontrol, hdone, hstreams⟩ := hidle.application
    simp [applicationFrames, chooseHandshakeDone, hcontrol, hdone, hstreams, takeControl, takeStreams]
  simp only [chooseCrypto, ensures_state, hnext, hsame]
  refine happlication.imp fun application c₂ h₂ => ?_
  obtain ⟨hempty, rfl⟩ := h₂
  simp only [chooseProbe, ensures_state, hidle.2, if_true, hempty, List.append_nil]
  exact ⟨hquiet, hidle, hnone⟩

end Idle

structure Loads (w : ℕ) (c c' : Conn env) : Prop where
  isClient : c'.isClient = c.isClient
  config : c'.config = c.config
  credit : c'.pacingCredit = c.pacingCredit
  updated : c'.pacingUpdated = c.pacingUpdated
  rtt : c'.recovery.rtt = c.recovery.rtt
  window : c'.recovery.controller.congestionWindow = c.recovery.controller.congestionWindow
  flight : c'.recovery.controller.bytesInFlight = c.recovery.controller.bytesInFlight + w
  added : ∃ added : Level → List SentPacket, (∀ level, (c'.recovery.spaces level).sent.values.Subperm
    (added level ++ (c.recovery.spaces level).sent.values)) ∧
      (Level.all.map fun level => (((added level).filter (·.inFlight)).map (·.size)).sum).sum = w
  idle : ∀ level, c.Idle level → c'.Idle level

section Loads

variable {c c' c'' : Conn env} {level : Level} {m n w : ℕ}

lemma Loads.of_recovery (hrecovery : c'.recovery = c.recovery) (hclient : c'.isClient = c.isClient)
    (hconfig : c'.config = c.config) (hcredit : c'.pacingCredit = c.pacingCredit)
    (hupdated : c'.pacingUpdated = c.pacingUpdated) (hidle : ∀ level, c.Idle level → c'.Idle level) :
    Loads 0 c c' := by
  refine ⟨hclient, hconfig, hcredit, hupdated, by rw [hrecovery], by rw [hrecovery], by rw [hrecovery]; simp,
    ⟨fun _ => [], fun level => ?_, rfl⟩, hidle⟩
  rw [hrecovery]
  exact List.Subperm.refl _

lemma Loads.refl (c : Conn env) : Loads 0 c c := .of_recovery rfl rfl rfl rfl rfl fun _ h => h

lemma Loads.trans (h : Loads m c c') (h' : Loads n c' c'') : Loads (m + n) c c'' := by
  obtain ⟨added, hadded, hm⟩ := h.added
  obtain ⟨added', hadded', hn⟩ := h'.added
  refine ⟨h'.isClient.trans h.isClient, h'.config.trans h.config, h'.credit.trans h.credit,
    h'.updated.trans h.updated, h'.rtt.trans h.rtt,
    h'.window.trans h.window, ?_, ⟨fun level => added' level ++ added level, fun level => ?_, ?_⟩,
    fun level hidle => h'.idle level (h.idle level hidle)⟩
  · rw [h'.flight, h.flight, Nat.cast_add, add_assoc]
  · rw [List.append_assoc]
    exact (hadded' level).trans ((List.subperm_append_left _).2 (hadded level))
  · simp only [Level.all, List.map_cons, List.map_nil, List.sum_cons, List.sum_nil, List.filter_append,
      List.map_append, List.sum_append] at hm hn ⊢
    omega

lemma Loads.launched_le (h : Loads w c c') : c.launched c' ≤ w := by
  obtain ⟨added, hadded, rfl⟩ := h.added
  refine List.sum_le_sum fun level _ => ?_
  have hnew := (hadded level).filter fun packet =>
    packet.inFlight && decide (packet ∉ (c.recovery.spaces level).sent.values)
  have hold : (c.recovery.spaces level).sent.values.filter (fun packet =>
      packet.inFlight && decide (packet ∉ (c.recovery.spaces level).sent.values)) = [] := by
    rw [List.filter_eq_nil_iff]
    intro packet hpacket
    simp [hpacket]
  rw [List.filter_append, hold, List.append_nil] at hnew
  obtain ⟨packets, hperm, hsub⟩ := hnew
  have hfilter := hsub.trans (List.monotone_filter_right (added level)
    (q := (·.inFlight)) fun packet hpacket => (Bool.and_eq_true_iff.1 hpacket).1)
  rw [← (hperm.map _).sum_eq]
  exact (hfilter.map _).sum_le_sum fun _ _ => Nat.zero_le _

lemma loads_onPacketSent (c : Conn env) (packet : SentPacket) :
    Loads (if packet.inFlight then packet.size else 0) c (c.setRecovery (c.recovery.onPacketSent packet)) := by
  refine ⟨rfl, rfl, rfl, rfl, rfl, ?_, ?_,
    ⟨fun level => if level = packet.level then [packet] else [], fun level => ?_, ?_⟩, fun level hidle => hidle⟩
  · simp only [Conn.setRecovery, LossDetection.onPacketSent, NewReno.onPacketSent]
    split_ifs <;> rfl
  · simp only [Conn.setRecovery, LossDetection.onPacketSent, NewReno.onPacketSent]
    split_ifs <;> simp
  · simp only [Conn.setRecovery, LossDetection.onPacketSent, LossDetection.spaces_setSpace]
    split_ifs with hlevel
    · subst hlevel
      exact Dict.subperm_values_set _ _ _
    · exact List.Subperm.refl _
  · cases packet.level <;> cases hflight : packet.inFlight <;> simp [Level.all, hflight]

end Loads

structure Conn.Steady (c : Conn env) : Prop where
  retains : c.Retains
  fits : c.HeaderFits
  size : 1200 ≤ c.config.maxDatagramSize
  peer : c.peerCid.length ≤ maxCidLength
  host : c.hostCid.length = 8

section Packets

variable {c c' : Conn env} {level : Level} {room : ℤ} {now : ℚ}

lemma Conn.Steady.of_outline (h : c.Steady) (houtline : c'.outline = c.outline)
    (hrims : ∀ level, (c'.spaces level).rim = (c.spaces level).rim) (hretains : c'.Retains) : c'.Steady := by
  obtain ⟨hconfig, hpeer, hhost⟩ := Conn.of_outline houtline
  refine ⟨hretains, ?_, by rw [hconfig]; exact h.size, by rw [hpeer]; exact h.peer, by rw [hhost]; exact h.host⟩
  have hkeys : (c'.spaces .initial).keysSend = (c.spaces .initial).keysSend :=
    congrArg Rim.keysSend (hrims .initial)
  have hdiscarded : (c'.spaces .initial).discarded = (c.spaces .initial).discarded :=
    congrArg Rim.discarded (hrims .initial)
  simp only [Conn.HeaderFits, hkeys, hdiscarded, hpeer, hhost, tokenAt_of_outline .initial houtline]
  exact h.fits

lemma Conn.Retains.of_outline (h : c.Retains) (houtline : c'.outline = c.outline)
    (hrims : ∀ level, (c'.spaces level).rim = (c.spaces level).rim)
    (hidle : c.Idle .initial → c'.Idle .initial)
    (hsent : c.Idle .initial → ∀ packet ∈ (c'.recovery.spaces .initial).sent.values,
      packet ∈ (c.recovery.spaces .initial).sent.values ∨ packet.inFlight = false) : c'.Retains := by
  have hclient : c'.isClient = c.isClient := congrArg Outline.isClient houtline
  have hinitial : (c'.spaces .initial).discarded = (c.spaces .initial).discarded :=
    congrArg Rim.discarded (hrims .initial)
  have hdiscarded : (c'.spaces .handshake).discarded = (c.spaces .handshake).discarded :=
    congrArg Rim.discarded (hrims .handshake)
  have hkeys : (c'.spaces .handshake).keysSend = (c.spaces .handshake).keysSend :=
    congrArg Rim.keysSend (hrims .handshake)
  simp only [Conn.Retains, hclient, hinitial, hdiscarded, hkeys]
  refine h.imp_right (Or.imp_right (Or.imp_right (Or.imp_right ?_)))
  rintro ⟨hwaits, hquiet⟩
  exact ⟨hidle hwaits, fun packet hpacket => (hsent hwaits packet hpacket).elim (hquiet packet) id⟩

lemma idle_takeNumber : (c.takeNumber level).Idle other ↔ c.Idle other := by
  by_cases hother : other = level
  · subst hother
    simp [Conn.Idle, Conn.hasPendingData, Conn.takeNumber, Conn.onSpace, Conn.setSpace]
  · simp [Conn.Idle, Conn.hasPendingData, Conn.takeNumber, Conn.onSpace, Conn.setSpace, hother]

lemma rims_takeNumber (c : Conn env) (level other : Level) :
    ((c.takeNumber level).spaces other).rim = (c.spaces other).rim := by
  refine Conn.rim_setSpace ?_ other
  rfl

lemma pendingFrames_loads (ackOnly : Bool) (h : c.Steady) :
    Ensures (pendingFrames level room ackOnly) c fun frames c₁ => c₁.outline = c.outline ∧
      c₁.recovery = c.recovery ∧ Loads 0 c c₁ ∧ c₁.Steady ∧
      (∀ other, (c₁.spaces other).rim = (c.spaces other).rim) ∧
      (ackOnly = true ∨ c.Idle level → frames.any isAckEliciting = false) := by
  have hidle : Ensures (pendingFrames level room ackOnly) c fun frames c' =>
      c.Idle level → frames.any isAckEliciting = false ∧ c'.Idle level := by
    by_cases hlevel : c.Idle level
    · exact (pendingFrames_idle hlevel ackOnly).imp fun _ _ hframes _ => ⟨hframes.1, hframes.2.1⟩
    · exact (ensures_self _ c).imp_true fun _ _ _ hno => absurd hno hlevel
  apply ((pendingFrames_sends .new [] ackOnly).and ((pendingFrames_weighs ackOnly).and
    ((pendingFrames_touches ackOnly).and hidle))).imp_true
  rintro frames c₁ ⟨hsends, ⟨hrecovery, hquiet⟩, htouches, hidle⟩
  have hclient : c₁.isClient = c.isClient := congrArg Outline.isClient hsends.outline
  have hconfig : c₁.config = c.config := congrArg Outline.config hsends.outline
  have hidle₁ : ∀ other, c.Idle other → c₁.Idle other := by
    intro other hother
    by_cases hlevel : other = level
    · subst hlevel
      exact (hidle hother).2
    · exact htouches.idle hlevel hother
  have hretains : c₁.Retains := h.retains.of_outline hsends.outline hsends.rims (hidle₁ .initial)
    fun _ packet hpacket => .inl (hrecovery ▸ hpacket)
  exact ⟨hsends.outline, hrecovery,
    .of_recovery hrecovery hclient hconfig htouches.credit htouches.updated hidle₁,
    h.of_outline hsends.outline hsends.rims hretains, hsends.rims,
    fun hcalm => hcalm.elim hquiet fun hwaits => (hidle hwaits).1⟩

lemma buildPacket_loads (padTo : ℕ) (ackOnly : Bool) (h : c.Steady) :
    Ensures (buildPacket level room now padTo ackOnly) c fun packet c' => ∃ w, w ≤ (packet.getD []).length ∧
      Loads w c c' ∧ c'.Steady ∧ (∀ level, (c'.spaces level).rim = (c.spaces level).rim) ∧
      (ackOnly = true ∨ c.Idle level → w = 0) := by
  refine ensures_buildPacket ⟨0, Nat.zero_le _, .refl c, h, fun _ => rfl, fun _ => rfl⟩
    (fun _ => pendingFrames_loads ackOnly h) ?_ ?_
  · rintro c₁ ⟨-, -, hchosen, hsteady, hrims, -⟩
    exact ⟨0, Nat.zero_le _, hchosen, hsteady, hrims, fun _ => rfl⟩
  rintro keys frames c₁ payload - ⟨houtline, hrecovery, hchosen, -, hrims, hquiet⟩ - -
  apply (sealPacket_spec keys _ padTo (padPayload payload) _ frames).imp_true
  rintro packet c₂ rfl
  have hsealed : Loads 0 c₁ ((c₁.takeNumber level).note (.sealed level keys
      (c₁.spaces level).nextPacketNumber frames)) :=
    .of_recovery rfl rfl rfl rfl rfl fun other hother => idle_takeNumber.2 hother
  have hsent := (hchosen.trans hsealed).trans (loads_onPacketSent _ ⟨level, (c₁.spaces level).nextPacketNumber,
    now, frames.any isAckEliciting, frames.any isAckEliciting, packet.length, frames⟩)
  have hrims : ∀ other, ((c₁.takeNumber level).spaces other).rim = (c.spaces other).rim :=
    fun other => (rims_takeNumber c₁ level other).trans (hrims other)
  refine ⟨_, ?_, hsent, ?_, hrims, fun hcalm => ?_⟩
  · simp only [Option.getD_some, Nat.zero_add]
    split_ifs
    · exact le_refl _
    · exact Nat.zero_le _
  · refine h.of_outline houtline hrims (h.retains.of_outline houtline hrims (hsent.idle .initial) ?_)
    intro hwaits p hp
    rcases LossDetection.mem_sent_onPacketSent hp with ⟨rfl, hlevel⟩ | hp
    · subst hlevel
      exact .inr (hquiet (.inr hwaits))
    · exact .inl (hrecovery ▸ hp)
  · simp [hquiet hcalm]

lemma discardSpace_loads (h : c.Steady) (hclient : c.isClient = true)
    (hopen : (c.spaces .handshake).discarded = false)
    (hkeys : (c.spaces .handshake).keysSend.isSome = true) :
    Loads 0 c (c.discardSpace .initial) ∧ (c.discardSpace .initial).Steady := by
  by_cases hdiscarded : (c.spaces .initial).discarded = true
  · rw [Conn.discardSpace, if_pos hdiscarded]
    exact ⟨.refl c, h⟩
  · rcases h.retains with hserver | hgone | hgone | hnone | ⟨hidle, hquiet⟩
    · simp [hclient] at hserver
    · exact absurd hgone hdiscarded
    · simp [hopen] at hgone
    · simp [hnone] at hkeys
    · have hflight : (c.recovery.spaces .initial).sent.values.filter (·.inFlight) = [] := by
        rw [List.filter_eq_nil_iff]
        exact fun packet hpacket => by simp [hquiet packet hpacket]
      have hcontroller : (c.recovery.discardSpace .initial).controller = c.recovery.controller := by
        simp only [LossDetection.discardSpace, LossDetection.emptied, hflight]
        rfl
      rw [Conn.discardSpace, if_neg hdiscarded]
      refine ⟨⟨rfl, rfl, rfl, rfl, rfl, by rw [hcontroller], by rw [hcontroller]; simp,
        ⟨fun _ => [], fun level => ?_, rfl⟩,
        fun level hlevel => ?_⟩, ⟨.inr (.inl ?_), .inr (.inl ?_), h.size, h.peer, h.host⟩⟩
      · simp only [LossDetection.discardSpace, LossDetection.emptied, LossDetection.spaces_setSpace,
          List.nil_append]
        split_ifs with hinitial
        · exact List.nil_subperm
        · exact List.Subperm.refl _
      · by_cases hinitial : level = .initial
        · subst hinitial
          exact ⟨by simp [Conn.hasPendingData, Conn.onSpace, Conn.setSpace], hlevel.2⟩
        · simpa [Conn.Idle, Conn.hasPendingData, Conn.onSpace, Conn.setSpace, Conn.note, hinitial] using hlevel
      · simp [Conn.onSpace, Conn.setSpace]
      · simp [Conn.onSpace, Conn.setSpace]

lemma buildPackets_loads (ackOnly : Bool) (budget : ℤ) (levels : List Level) (payload : Bytes) (h : c.Steady) :
    Ensures (buildPackets now ackOnly budget levels payload) c fun payload' c' => ∃ w,
      payload.length + w ≤ payload'.length ∧ Loads w c c' ∧ c'.Steady ∧
      (ackOnly = true ∨ (∀ level, c.Idle level) → w = 0) := by
  induction levels generalizing payload c with
  | nil => exact ⟨0, le_refl _, .refl c, h, fun _ => rfl⟩
  | cons level levels ih =>
    -- what the levels that follow add to what has joined so far
    have hrest : ∀ (payload₁ : Bytes) (c₁ : Conn env) (m : ℕ), payload.length + m ≤ payload₁.length →
      Loads m c c₁ →
        c₁.Steady → (ackOnly = true ∨ (∀ level, c.Idle level) → m = 0) →
        Ensures (buildPackets now ackOnly budget levels payload₁) c₁ fun payload' c' => ∃ w,
          payload.length + w ≤ payload'.length ∧ Loads w c c' ∧ c'.Steady ∧
          (ackOnly = true ∨ (∀ level, c.Idle level) → w = 0) := by
      intro payload₁ c₁ m hlength h₁ hsteady hzero
      apply (ih payload₁ hsteady).imp
      rintro payload' c₂ ⟨n, hlength', h₂, hsteady₂, hzero'⟩
      refine ⟨m + n, by omega, h₁.trans h₂, hsteady₂, fun hquiet => ?_⟩
      rw [hzero hquiet, hzero' (hquiet.imp_right fun hidle level => h₁.idle level (hidle level))]
    simp only [buildPackets, ensures_flow]
    refine ⟨fun _ => hrest payload c 0 (le_refl _) (.refl c) h fun _ => rfl, fun hkeys => ?_⟩
    rw [not_or, Bool.not_eq_true] at hkeys
    apply (buildPacket_loads _ ackOnly h).imp
    rintro packet c₁ ⟨w, hle, h₁, hsteady₁, hrims, hzero⟩
    have hzero₁ : ackOnly = true ∨ (∀ level, c.Idle level) → w = 0 :=
      fun hquiet => hzero (hquiet.imp_right fun hidle => hidle level)
    cases packet with
    | none => exact hrest payload c₁ w (by simpa using hle) h₁ hsteady₁ hzero₁
    | some packet =>
      have hlength : payload.length + w ≤ (payload ++ packet).length := by
        rw [List.length_append]
        exact Nat.add_le_add_left hle _
      simp only [ensures_flow]
      refine ⟨fun hgives => ?_, fun _ => ⟨fun _ => ⟨w, hlength, h₁, hsteady₁, hzero₁⟩,
        fun _ => hrest _ c₁ w hlength h₁ hsteady₁ hzero₁⟩⟩
      obtain ⟨hclient, rfl⟩ := hgives
      have hopen : (c₁.spaces .handshake).discarded = false :=
        (congrArg Rim.discarded (hrims .handshake)).trans hkeys.2
      have hsend : (c₁.spaces .handshake).keysSend = (c.spaces .handshake).keysSend :=
        congrArg Rim.keysSend (hrims .handshake)
      have hsome : (c₁.spaces .handshake).keysSend.isSome = true := by
        obtain ⟨keys, hkey⟩ := Option.ne_none_iff_exists'.1 hkeys.1
        rw [hsend, (Space.keysSend_of_sendingKeys hkey).resolve_left (by decide)]
        rfl
      obtain ⟨h₂, hsteady₂⟩ := discardSpace_loads hsteady₁ (h₁.isClient.trans hclient) hopen hsome
      exact ⟨fun _ => ⟨w, hlength, h₁.trans h₂, hsteady₂, hzero₁⟩,
        fun _ => hrest _ _ w hlength (h₁.trans h₂) hsteady₂ hzero₁⟩

lemma Conn.Steady.initialFits (h : c.Steady) : c.InitialFits := by
  rcases h.fits with hnone | hgone | hheader
  · exact .inl (by simp [Space.sendingKeys, hnone])
  · exact .inr (.inl hgone)
  · have hsize := h.size
    refine .inr (.inr ?_)
    have hmin := min_le_left (c.config.maxDatagramSize - 77) (c.demand .initial)
    omega

lemma buildDatagram_loads (ackOnly : Bool) (h : c.Steady) :
    Ensures (buildDatagram now ackOnly) c fun _ c' => ∃ w, w ≤ c.config.maxDatagramSize ∧
      Loads w c c' ∧ c'.Steady ∧
      (ackOnly = true ∨ (∀ level, c.Idle level) → w = 0) := by
  simp only [buildDatagram, ensures_flow]
  refine ⟨fun _ => ⟨0, Nat.zero_le _, .refl c, h, fun _ => rfl⟩, fun hbudget => ?_⟩
  apply ((buildPackets_loads ackOnly _ Level.all [] h).and
    (buildPackets_fits now ackOnly (not_le.1 hbudget) h.peer h.host h.size h.initialFits)).imp_true
  rintro payload c₁ ⟨⟨w, hw, h₁, hsteady, hzero⟩, hlength⟩
  rw [List.length_nil, Nat.zero_add] at hw
  have hcount : Loads 0 c₁ (c₁.countSent payload.length) := .of_recovery rfl rfl rfl rfl rfl fun _ hidle => hidle
  exact ⟨fun _ => ⟨w, hw.trans hlength, h₁, hsteady, hzero⟩,
    fun _ => ⟨w, hw.trans hlength, h₁.trans hcount, { hsteady with }, hzero⟩⟩

end Packets

def Conn.creditAt (c : Conn env) (rate now : ℚ) : ℚ :=
  match c.pacingUpdated with
  | none => 10 * c.config.maxDatagramSize
  | some updated => min (c.pacingCredit + max 0 (now - updated) * rate) (10 * c.config.maxDatagramSize)

section Loop

variable {c : Conn env} {now rate : ℚ}

lemma creditAt_le (c : Conn env) (rate now : ℚ) : c.creditAt rate now ≤ 10 * c.config.maxDatagramSize := by
  unfold Conn.creditAt
  split
  · exact le_refl _
  · exact min_le_right _ _

lemma pacingBlocked_credit (hrate : c.recovery.controller.pacingRate c.recovery.rtt.smoothed = some rate)
    (hpos : 0 < rate) (h : c.Steady) :
    Ensures (pacingBlocked now) c fun pacedOut c' => c'.recovery = c.recovery ∧ c'.config = c.config ∧ c'.Steady ∧
      c'.pacingCredit = c.creditAt rate now ∧ c'.pacingUpdated = some now ∧
      (pacedOut = true ∨ (c.config.maxDatagramSize : ℚ) ≤ c.creditAt rate now ∨ ∀ level, c'.Idle level) := by
  simp only [pacingBlocked, pacingAllowance, ensures_flow, hrate]
  refine ⟨fun hfree => ⟨trivial, trivial, { h with }, rfl, trivial, .inr ?_⟩,
    fun _ => ⟨trivial, trivial, { h with }, rfl, trivial, .inl trivial⟩⟩
  rcases hfree with hcredit | hnothing | hstill
  · exact .inl hcredit
  · refine .inr fun level => ?_
    simp only [Conn.inFlightDataPending, Bool.or_eq_true, List.any_eq_true, decide_eq_true_iff, not_or, not_exists,
      not_and, not_not, Bool.not_eq_true] at hnothing
    have hlevel : level ∈ Level.all := by cases level <;> decide
    exact ⟨hnothing.2 level hlevel, hnothing.1 level hlevel⟩
  · exact absurd hpos hstill.not_gt

lemma observeDatagrams_le (rounds : ℕ)
    (hrate : c.recovery.controller.pacingRate c.recovery.rtt.smoothed = some rate)
    (hpos : 0 < rate) (h : c.Steady) :
    Ensures (observeDatagrams (fun _ c c' => c.launched c') now rounds) c
      fun datagrams _ => (((datagrams.map Prod.snd).sum : ℕ) : ℚ) ≤ max 0 (c.creditAt rate now) := by
  induction rounds generalizing c with
  | zero => trivial
  | succ rounds ih =>
    simp only [observeDatagrams, ensures_state]
    refine (pacingBlocked_credit hrate hpos h).imp fun pacedOut c₁ h₁ => ?_
    obtain ⟨hrecovery, hconfig, hsteady, hcredit, hupdated, hfree⟩ := h₁
    refine (buildDatagram_loads pacedOut hsteady).imp fun datagram c₂ h₂ => ?_
    obtain ⟨w, hw, hloads, hsteady₂, hzero⟩ := h₂
    cases datagram with
    | none => simp
    | some datagram =>
      simp only [ensures_state]
      have hrate₂ : c₂.recovery.controller.pacingRate c₂.recovery.rtt.smoothed = some rate := by
        rw [← hrate, hloads.rtt, hrecovery, NewReno.pacingRate, NewReno.pacingRate, hloads.window, hrecovery]
      refine Ensures.mono (ih hrate₂ (by exact { hsteady₂ with })) ?_ fun _ _ h => h
      intro datagrams c₃ hrest
      -- what is left of the credit, which no time has passed to fill
      have hspent : Conn.creditAt ({ c₂ with pacingCredit := c₂.pacingCredit -
          (c₂.recovery.controller.bytesInFlight - c₁.recovery.controller.bytesInFlight : ℤ) } :
            Conn env) rate now =
          c.creditAt rate now - w := by
        have hle := creditAt_le c rate now
        simp only [Conn.creditAt, hloads.updated, hupdated, hloads.flight, hloads.credit, hcredit,
          hloads.config, hconfig]
        rw [sub_self, max_self, zero_mul, add_zero, add_sub_cancel_left, Int.cast_natCast, min_eq_left]
        have hw : (0 : ℚ) ≤ w := Nat.cast_nonneg w
        exact (sub_le_self _ hw).trans hle
      rw [hspent] at hrest
      have hlaunched : (c₁.launched c₂ : ℚ) ≤ w := Nat.cast_le.2 hloads.launched_le
      simp only [List.map_cons, List.sum_cons, Nat.cast_add]
      rcases Nat.eq_zero_or_pos w with rfl | hpaid
      · rw [Nat.cast_zero] at hlaunched
        rw [Nat.cast_zero, sub_zero] at hrest
        linarith
      · -- a datagram that costs something was not held back, and had the credit
        have hcovered : (c.config.maxDatagramSize : ℚ) ≤ c.creditAt rate now := by
          rcases hfree with hblocked | hcovered | hidle
          · exact absurd (hzero (.inl hblocked)) hpaid.ne'
          · exact hcovered
          · exact absurd (hzero (.inr hidle)) hpaid.ne'
        rw [hconfig] at hw
        have hw : (w : ℚ) ≤ c.config.maxDatagramSize := Nat.cast_le.2 hw
        rw [max_eq_right (sub_nonneg.2 (hw.trans hcovered))] at hrest
        have hmax := le_max_right 0 (c.creditAt rate now)
        linarith

lemma maybeUpdateKeys_steady (h : c.Steady) :
    Ensures (maybeUpdateKeys now) c fun _ c' => c'.Steady ∧ c'.recovery = c.recovery ∧ c'.config = c.config := by
  have hsame : ∀ note space, ((c.note note).setSpace .oneRtt space).Steady := by
    intro note space
    refine ⟨?_, ?_, h.size, h.peer, h.host⟩
    · simpa [Conn.Retains, Conn.Idle, Conn.hasPendingData, Conn.setSpace, Conn.note] using h.retains
    · exact h.fits
  simp only [maybeUpdateKeys, ensures_state]
  cases c.config.keyUpdateInterval with
  | none => exact ⟨h, rfl, rfl⟩
  | some interval =>
    simp only [ensures_flow, initiateKeyUpdate, rotateKeys]
    exact ⟨fun _ => ⟨fun _ => ⟨fun _ _ => ⟨hsame _ _, rfl, rfl⟩, fun _ _ => trivial⟩,
      fun _ => ⟨h, trivial, trivial⟩⟩, fun _ => ⟨h, trivial, trivial⟩⟩

lemma weighToSend_le (rounds : ℕ) (hrate : c.recovery.controller.pacingRate c.recovery.rtt.smoothed = some rate)
    (hpos : 0 < rate) (h : c.Steady) :
    Ensures (weighToSend now rounds) c
      fun datagrams _ => (datagrams.map Prod.snd).sum ≤ 10 * c.config.maxDatagramSize := by
  have hfree : ∀ datagrams : List (OutgoingDatagram env), ((datagrams.map (·, 0)).map Prod.snd).sum = 0 := by
    intro datagrams
    rw [List.map_map, List.sum_eq_zero]
    intro n hn
    obtain ⟨datagram, -, rfl⟩ := List.mem_map.1 hn
    rfl
  simp only [weighToSend, observeToSend, ensures_flow, ensures_map]
  refine ⟨fun _ => Nat.zero_le _, fun _ => ⟨fun _ => ?_, fun _ => ?_⟩⟩
  · refine (ensures_self (buildCloseDatagram now) c).imp_true fun datagrams _ _ => ?_
    rw [hfree]
    exact Nat.zero_le _
  · refine (maybeUpdateKeys_steady h).imp fun _ c₁ h₁ => ?_
    obtain ⟨hsteady, hrecovery, hconfig⟩ := h₁
    have hrate₁ : c₁.recovery.controller.pacingRate c₁.recovery.rtt.smoothed = some rate := by
      rw [hrecovery, hrate]
    refine Ensures.mono (observeDatagrams_le rounds hrate₁ hpos (by exact { hsteady with })) ?_ fun _ _ h => h
    intro datagrams c₂ hsum
    rw [List.map_append, List.sum_append, hfree, Nat.zero_add]
    have hburst := creditAt_le ({ c₁ with pacingDeadline := none } : Conn env) rate now
    have hnonneg : (0 : ℚ) ≤ 10 * c₁.config.maxDatagramSize := by positivity
    have hle := hsum.trans (max_le hnonneg hburst)
    rw [← hconfig]
    exact_mod_cast hle

end Loop

/-- One call to send puts no more in flight than a burst, wherever it gives up no packet of the Initial level in
flight and the header of an Initial packet keeps to the room for it. -/
theorem burst_bounded {c : Conn env} (h : Begins c) (ops : List (Op env)) (now rate : ℚ) (rounds : ℕ)
    (hrate : ((Session.start c).run ops).conn.recovery.controller.pacingRate
      ((Session.start c).run ops).conn.recovery.rtt.smoothed = some rate)
    (hsize : 1200 ≤ ((Session.start c).run ops).conn.config.maxDatagramSize)
    (hretains : ((Session.start c).run ops).conn.Retains) (hfits : ((Session.start c).run ops).conn.HeaderFits)
    {weighed : List (OutgoingDatagram env × ℕ)} {c' : Conn env}
    (hsend : weighToSend now rounds ((Session.start c).run ops).conn = .ok weighed c') :
    datagramsToSend now rounds ((Session.start c).run ops).conn = .ok (weighed.map Prod.fst) c' ∧
      (weighed.map Prod.snd).sum ≤ 10 * ((Session.start c).run ops).conn.config.maxDatagramSize := by
  obtain ⟨hhost, hpeer⟩ := Session.length_cids h ops
  obtain ⟨_, _, _, _, intact, -, -, hpath, -⟩ := Session.reached h ops
  have hsound := (Core.sound_initial _ _ _ _ _).path hpath
  have hopen : ((Session.start c).run ops).conn.recovery.controller.Open := hsound.isOpen
  have hsame : ((Session.start c).run ops).conn.recovery.controller.maxDatagramSize =
    ((Session.start c).run ops).conn.config.maxDatagramSize := hsound.size
  generalize ((Session.start c).run ops).conn = c at *
  -- the window is never empty, so neither is the rate
  have hpos : 0 < rate := by
    have hwindow : 0 < c.recovery.controller.congestionWindow := hopen (by omega)
    unfold NewReno.pacingRate at hrate
    split_ifs at hrate with hrtt
    cases hrate
    have hrtt : 0 < c.recovery.rtt.smoothed := not_le.1 hrtt
    positivity
  refine ⟨datagramsToSend_of_observe hsend, ?_⟩
  exact (weighToSend_le rounds hrate hpos ⟨hretains, hfits, hsize, hpeer, hhost⟩).of_ok hsend

def tokenOps : List (Op .plain) := (plainTokens 12).take 14

theorem burst_bounded_tokens : ∃ weighed c',
    weighToSend 1 14 ((Session.start (plainServer .default)).run tokenOps).conn = .ok weighed c' ∧
      weighed.map Prod.snd = 1120 :: List.replicate 9 1119 ∧
      (weighed.map Prod.snd).sum ≤ 10 *
        ((Session.start (plainServer .default)).run tokenOps).conn.config.maxDatagramSize := by
  have hweights : observations (fun _ c c' => c.launched c') 0 1 14
      ((Session.start (plainServer .default)).run tokenOps).conn = 1120 :: List.replicate 9 1119 := by
    decide +kernel
  obtain ⟨weighed, c', hsend, hweighed⟩ := exists_of_observations (hweights.trans_ne (List.cons_ne_nil _ _))
  refine ⟨weighed, c', hsend, hweighed.trans hweights, ?_⟩
  exact (burst_bounded (begins_plainServer .default) tokenOps 1 (5000000 / 111) 14 (by decide +kernel)
    (by decide +kernel)
    (by decide +kernel) (by decide +kernel) hsend).2

def roomyParameters : Bytes := [8, 1, 1, 4, 4, 0x80, 1, 0, 0, 6, 4, 0x80, 1, 0, 0]

def refundOps : List (Op .plain) :=
  [.openStream, .datagramsToSend 0 3, .sendStreamData 0 (List.replicate 13000 65) true,
    .datagramReceived (plainPacket .initial (List.replicate 8 2) (List.replicate 8 9) 0 [.crypto ⟨0, [3, 5]⟩]) 1
      none 0]

theorem burst_exceeded : ∃ weighed c',
    weighToSend 1 14 ((Session.start (plainClient .default (some roomyParameters))).run refundOps).conn =
        .ok weighed c' ∧
      datagramsToSend 1 14 ((Session.start (plainClient .default (some roomyParameters))).run refundOps).conn =
        .ok (weighed.map Prod.fst) c' ∧
      ((Session.start (plainClient .default (some roomyParameters))).run
        refundOps).conn.recovery.controller.pacingRate
        ((Session.start (plainClient .default (some roomyParameters))).run refundOps).conn.recovery.rtt.smoothed =
          some (5000000 / 111) ∧
      10 * ((Session.start (plainClient .default (some roomyParameters))).run
        refundOps).conn.config.maxDatagramSize = 12000 ∧
      (weighed.map Prod.snd).sum = 12582 := by
  have hweights : (observations (fun _ c c' => c.launched c') 0 1 14
      ((Session.start (plainClient .default (some roomyParameters))).run refundOps).conn).sum = 12582 := by
    decide +kernel
  obtain ⟨weighed, c', hsend, hweighed⟩ := exists_of_observations
    (fun hnone => by rw [hnone] at hweights; cases hweights)
  exact ⟨weighed, c', hsend, datagramsToSend_of_observe hsend, by decide +kernel, by decide +kernel,
    by rw [hweighed, hweights]⟩

end Dsquic.Connection
