import Dsquic.Connection.ReceivePath
import Dsquic.Connection.Size

/-!
What the send path does is a path of effects. A call that raises may leave frames in hand.
-/

namespace Dsquic.Connection

open Lib Wire Streams Recovery

structure Outline where
  isClient : Bool
  config : Config
  hostCid : Bytes
  peerCid : Bytes
  retryToken : Bytes
  state : ConnectionState
  closeFrame : Option ConnectionClose
  bytesReceived : ℕ
  bytesSent : ℕ
  addressValidated : Bool

def Core.outline (s : Core) : Outline where
  isClient := s.isClient
  config := s.config
  hostCid := s.hostCid
  peerCid := s.peerCid
  retryToken := s.retryToken
  state := s.state
  closeFrame := s.closeFrame
  bytesReceived := s.bytesReceived
  bytesSent := s.bytesSent
  addressValidated := s.addressValidated

def Conn.outline {env : Env} (c : Conn env) : Outline := (c.core .new []).outline

lemma Conn.of_outline {env : Env} {c c' : Conn env} (h : c'.outline = c.outline) :
    c'.config = c.config ∧ c'.peerCid = c.peerCid ∧ c'.hostCid = c.hostCid :=
  ⟨congrArg Outline.config h, congrArg Outline.peerCid h, congrArg Outline.hostCid h⟩

structure Rim where
  discarded : Bool
  keysSend : Option PacketKeys
  keysSendEarly : Option PacketKeys

def Space.rim (space : Space PacketKeys Bytes) : Rim := ⟨space.discarded, space.keysSend, space.keysSendEarly⟩

structure Sends {env : Env} (w : Caller) (held held' : List (Level × Frame)) (c c' : Conn env) : Prop where
  path : (c.core w held).Sending → Path (c.core w held) (c'.core w held')
  outline : c'.outline = c.outline
  rims : ∀ level, (c'.spaces level).rim = (c.spaces level).rim

def Strays {env : Env} (w : Caller) (held : List (Level × Frame)) (c c' : Conn env) : Prop :=
  ∃ held', Sends w held held' c c'

variable {space : Space PacketKeys Bytes} {level : Level} {keys : PacketKeys}

lemma Conn.rim_setSpace {env : Env} {c : Conn env} (h : space.rim = (c.spaces level).rim) (other : Level) :
    ((c.setSpace level space).spaces other).rim = (c.spaces other).rim := by
  by_cases hother : other = level
  · subst hother
    simp [Conn.setSpace, h]
  · simp [Conn.setSpace, hother]

section Sends

variable {env : Env} {c c' c'' : Conn env} {w : Caller} {held held' held'' : List (Level × Frame)}

lemma sending_of_outline (h : c'.outline = c.outline) (hsending : (c.core w held).Sending) :
    (c'.core w held').Sending := by
  have hstate : c'.state = c.state := congrArg Outline.state h
  have hclose : c'.closeFrame = c.closeFrame := congrArg Outline.closeFrame h
  simp only [Core.Sending, Conn.core, hstate, hclose]
  exact hsending

lemma Sends.refl (c : Conn env) : Sends w held held c c := ⟨fun _ => .refl, rfl, fun _ => rfl⟩

lemma Sends.trans (h : Sends w held held' c c') (h' : Sends w held' held'' c' c'') :
    Sends w held held'' c c'' where
  path hsending := (h.path hsending).trans (h'.path (sending_of_outline h.outline hsending))
  outline := h'.outline.trans h.outline
  rims level := (h'.rims level).trans (h.rims level)

lemma Sends.discarded (h : Sends w held held' c c') (level : Level) :
    (c'.spaces level).discarded = (c.spaces level).discarded := congrArg Rim.discarded (h.rims level)

lemma Sends.sendingKeys (h : Sends w held held' c c') (level : Level) :
    (c'.spaces level).sendingKeys level = (c.spaces level).sendingKeys level := by
  have hsend : (c'.spaces level).keysSend = (c.spaces level).keysSend := congrArg Rim.keysSend (h.rims level)
  have hearly : (c'.spaces level).keysSendEarly = (c.spaces level).keysSendEarly :=
    congrArg Rim.keysSendEarly (h.rims level)
  simp only [Space.sendingKeys, hsend, hearly]

lemma Space.keysSend_of_sendingKeys
    (h : space.sendingKeys level = some keys) : level = .oneRtt ∨ space.keysSend = some keys := by
  simp only [Space.sendingKeys] at h
  split at h
  · next hsend =>
    cases h
    exact .inr hsend
  · split_ifs at h with hlevel
    exact .inl hlevel

lemma Sends.handshakeKeys (h : Sends w held held' c c')
    (hkeys : (c.spaces .handshake).sendingKeys .handshake ≠ none) :
    (c'.spaces .handshake).keysSend.isSome = true := by
  obtain ⟨keys, hkeys⟩ := Option.ne_none_iff_exists'.1 hkeys
  have hsend := Space.keysSend_of_sendingKeys ((h.sendingKeys .handshake).trans hkeys)
  rw [hsend.resolve_left (by decide)]
  rfl

lemma Sends.effect {s' : Core} (h : Effect (c.core w held) s') (hs' : s' = c'.core w held')
    (houtline : s'.outline = (c.core w held).outline)
    (hrims : ∀ level, (c'.spaces level).rim = (c.spaces level).rim) :
    Sends w held held' c c' := by
  subst hs'
  exact ⟨fun _ => h.path, houtline, hrims⟩

lemma Sends.of_core_eq (h : c'.core w held = c.core w held)
    (hrims : ∀ level, (c'.spaces level).rim = (c.spaces level).rim) : Sends w held held c c' := by
  have houtline : (c'.core w held).outline = (c.core w held).outline := congrArg Core.outline h
  exact ⟨fun _ => h ▸ .refl, houtline, hrims⟩

lemma Sends.strays (h : Sends w held held' c c') : Strays w held c c' := ⟨held', h⟩

lemma Strays.refl (c : Conn env) : Strays w held c c := (Sends.refl c).strays

lemma Sends.stray (h : Sends w held held' c c') (h' : Strays w held' c' c'') : Strays w held c c'' := by
  obtain ⟨held'', h''⟩ := h'
  exact ⟨held'', h.trans h''⟩

end Sends

section Choice

variable {env : Env} {c : Conn env} (w : Caller) (held : List (Level × Frame)) {level : Level} {room : ℤ}

abbrev Gathers (held : List (Level × Frame)) (level : Level) (m : M env (List Frame × ℕ)) (c : Conn env) : Prop :=
  Ensures m c (fun r => Sends w held (held ++ r.1.map (level, ·)) c) fun _ => Strays w held c

lemma ensures_nothing (used : ℕ) :
    Gathers w held level (pure ([], used) : M env (List Frame × ℕ)) c := by
  simp only [ensures_pure, List.map_nil, List.append_nil]
  exact .refl c

lemma largest_of_buildAck {ack : Ack} (h : space.buildAck = some ack) :
    (ack.largest : ℤ) = space.largestReceived := by
  simp only [Space.buildAck] at h
  split_ifs at h with hpending
  all_goals
    cases h
    exact Int.toNat_of_nonneg (not_lt.1 fun hlt => hpending (.inr hlt))

lemma chooseAck_sends :
    Gathers w held level (chooseAck level room) c := by
  simp only [chooseAck, ensures_state]
  cases hack : (c.spaces level).buildAck with
  | none => exact ensures_nothing w held 0
  | some ack =>
    simp only [ensures_flow]
    refine ⟨fun encoded _ => ⟨fun _ => ?_, fun _ => ensures_nothing w held 0⟩, fun _ _ => .refl c⟩
    have hchoose : Sends w held (held ++ [(level, .ack ack)]) c c := by
      refine ⟨fun hsending => Effect.path (.choose _ level (.ack ack) rfl ?_), rfl, fun _ => rfl⟩
      rintro _ ⟨⟩
      exact ⟨hsending, largest_of_buildAck hack⟩
    exact hchoose.trans (.of_core_eq (Conn.core_onSpace_of_eq rfl rfl) (Conn.rim_setSpace rfl))

lemma nextCrypto_sends {available : ℕ} {crypto : Option Crypto}
    (h : (c.spaces level).nextCrypto available = (crypto, space)) :
    Sends w held (held ++ (crypto.map fun frame => (level, Frame.crypto frame)).toList) c
      (c.setSpace level space) := by
  rcases nextCrypto_cases (c.spaces level) available with hnone | ⟨lost, rest, hlost, -, hnext⟩ | ⟨-, hnext⟩
  · rw [hnone] at h
    cases h
    rw [Option.map_none, Option.toList_none, List.append_nil]
    exact .of_core_eq (Conn.core_setSpace_of_eq rfl rfl) (Conn.rim_setSpace rfl)
  · rw [hnext] at h
    cases h
    exact .effect (.resendCrypto _ level lost rest available hlost)
      (congrArg (fun s : Core => s.hold _) (Conn.core_setSpace (by rfl) (by rfl)).symm) rfl (Conn.rim_setSpace rfl)
  · rw [hnext] at h
    cases h
    exact .effect (.sendCrypto _ level available)
      (congrArg (fun s : Core => s.hold _) (Conn.core_setSpace (by rfl) (by rfl)).symm) rfl (Conn.rim_setSpace rfl)

lemma chooseCrypto_sends :
    Gathers w held level (chooseCrypto level room) c := by
  simp only [chooseCrypto, ensures_state]
  cases hnext : (c.spaces level).nextCrypto (room - 16).toNat with
  | mk crypto space =>
    have hsends := nextCrypto_sends w held hnext
    cases crypto with
    | none => exact hsends
    | some frame =>
      simp only [ensures_flow]
      exact ⟨fun _ _ => hsends, fun _ _ => hsends.strays⟩

lemma chooseHandshakeDone_sends :
    Gathers w held .oneRtt chooseHandshakeDone c := by
  simp only [chooseHandshakeDone, ensures_flow]
  refine ⟨fun hpending => ?_, fun _ => ensures_nothing w held 0⟩
  exact .effect (.takeDone _ hpending) rfl rfl fun _ => rfl

lemma takeControl_sends (frames : List Frame) (used : ℕ) (h : c.controlFrames = frames) :
    Gathers w held .oneRtt (takeControl room frames used) c := by
  induction frames generalizing used held c with
  | nil => exact ensures_nothing w held used
  | cons control rest ih =>
    simp only [takeControl, ensures_flow]
    refine ⟨fun _ => ⟨fun encoded _ => ⟨fun _ => ensures_nothing w held used, fun _ => ?_⟩, fun _ _ => .refl c⟩,
      fun _ => ensures_nothing w held used⟩
    have htake : Sends w held (held ++ [(.oneRtt, control)]) c { c with controlFrames := rest } :=
      .effect (.takeControl _ control rest h) rfl rfl fun _ => rfl
    apply (ih _ (used + encoded.length) rfl).mono
    · intro r c' hr
      have hall := htake.trans hr
      rw [List.append_assoc] at hall
      exact hall
    · exact fun _ _ hr => htake.stray hr

lemma nextFrame_none {m : StreamManager} {i dataSent : ℕ} {send : SendStream} {maxBytes credit : ℤ}
    (hsend : m.send? i = some send) (h : none = (send.nextFrame maxBytes credit).1) :
    m.Preserves { m.setSend i (send.nextFrame maxBytes credit).2 with dataSent := dataSent } := by
  have hsame : (send.nextFrame maxBytes credit).2 = send.onMaxStreamData 0 := by
    rcases send.nextFrame_cases maxBytes credit with hcase | ⟨_, _, -, hcase⟩ | ⟨_, _, -, -, -, hcase⟩
    · simp [hcase, SendStream.onMaxStreamData]
    · simp [hcase] at h
    · simp [hcase] at h
  rw [hsame]
  exact (StreamManager.Preserves.onMaxStreamData hsend 0).trans (.of_streams_eq rfl rfl rfl)

lemma takeStreams_sends (streamIds : List ℕ) (used : ℕ) :
    Gathers w held .oneRtt (takeStreams room streamIds used) c := by
  induction streamIds generalizing used held c with
  | nil => exact ensures_nothing w held used
  | cons streamId streamIds ih =>
    simp only [takeStreams, ensures_state]
    cases hstreams : c.streams with
    | none => exact ensures_nothing w held used
    | some streams =>
      simp only [ensures_flow, onStreams]
      refine ⟨fun _ => ensures_nothing w held used, fun _ => ?_⟩
      apply (streams.nextFrame_spec streamId (room - used - 24)).mono
      · rintro frame m' ⟨send, hsend, hframe, hm'⟩
        cases frame with
        | none =>
          have hpreserves : streams.Preserves m' := hm' ▸ nextFrame_none hsend hframe
          have hmanage : Sends w held held c (c.setStreams m') :=
            .effect (.manage _ streams m' hstreams hpreserves (hm' ▸ .setSend _ _ _ _)) rfl rfl fun _ => rfl
          apply (ih held used).mono
          · exact fun _ _ hr => hmanage.trans hr
          · exact fun _ _ hr => hmanage.stray hr
        | some frame =>
          have htake : Sends w held (held ++ [(.oneRtt, .stream frame)]) c (c.setStreams m') := by
            rw [hm']
            exact .effect (.takeStream _ streams streamId send _ frame (room - used - 24)
              ((streams.maxData : ℤ) - streams.dataSent) _ hstreams hsend (Prod.ext hframe.symm rfl)) rfl rfl
              fun _ => rfl
          simp only [ensures_flow]
          refine ⟨fun encoded _ => ?_, fun _ _ => htake.strays⟩
          apply (ih _ (used + encoded.length)).mono
          · intro r c' hr
            have hall := htake.trans hr
            rw [List.append_assoc] at hall
            exact hall
          · exact fun _ _ hr => htake.stray hr
      · rintro e m' ⟨rfl, -⟩
        have hsame : Sends w held held c (c.setStreams m') :=
          .of_core_eq (by simp [Conn.core, Conn.setStreams, hstreams]) fun _ => rfl
        exact hsame.strays

lemma applicationFrames_sends :
    Gathers w held .oneRtt (applicationFrames room) c := by
  simp only [applicationFrames, ensures_state, List.map_append]
  apply (chooseHandshakeDone_sends w held).imp
  intro done c₁ h₁
  apply (takeControl_sends w _ c₁.controlFrames done.2 rfl).mono
  · intro control c₂ h₂
    apply (takeStreams_sends w _ _ control.2).mono
    · intro streams c₃ h₃
      have hall := (h₁.trans h₂).trans h₃
      simp only [List.append_assoc] at hall ⊢
      exact hall
    · exact fun _ _ h₃ => (h₁.trans h₂).stray h₃
  · exact fun _ _ h₂ => h₁.stray h₂

lemma applicationFramesAt_sends :
    Gathers w held level (applicationFramesAt level room) c := by
  simp only [applicationFramesAt, ensures_ite]
  refine ⟨fun hlevel => ?_, fun _ => ensures_nothing w held 0⟩
  subst hlevel
  exact applicationFrames_sends w held

lemma firstFitting_cases (frames : List Crypto) {filler : Frame} (h : firstFitting room frames = .ok filler) :
    filler = .ping ∨ ∃ frame ∈ frames, filler = .crypto frame := by
  induction frames with
  | nil =>
    cases h
    exact .inl rfl
  | cons frame frames ih =>
    obtain ⟨encoded, -, h⟩ := bind_eq_ok.1 h
    split_ifs at h
    · cases h
      exact .inr ⟨frame, List.mem_cons_self, rfl⟩
    · rcases ih h with hping | ⟨other, hother, hfiller⟩
      · exact .inl hping
      · exact .inr ⟨other, List.mem_cons_of_mem _ hother, hfiller⟩

lemma mem_cryptoFrames {packets : List SentPacket} {frame : Crypto} (h : frame ∈ cryptoFrames packets) :
    ∃ packet ∈ packets, .crypto frame ∈ packet.frames := by
  obtain ⟨packet, hpacket, hframe⟩ := List.mem_flatMap.1 h
  obtain ⟨f, hf, hsome⟩ := List.mem_filterMap.1 hframe
  refine ⟨packet, hpacket, ?_⟩
  cases f with
  | crypto f =>
    cases hsome
    exact hf
  | _ => cases hsome

lemma chooseProbe_sends (chosen : List Frame) :
    Ensures (chooseProbe level room chosen) c (fun frames c' => Sends w held (held ++ frames.map (level, ·)) c c')
      fun _ c' => Strays w held c c' := by
  have hpay : ∀ held, Sends w held held c { c with
      probesPending := Function.update c.probesPending level (c.probesPending level - 1) } :=
    fun held => .effect (.payProbe _ level) rfl rfl fun _ => rfl
  simp only [chooseProbe, ensures_flow, List.map_nil, List.append_nil]
  refine ⟨fun _ => .refl c, fun _ => ⟨fun _ => hpay held, fun _ => ⟨fun filler hfiller =>
    ⟨fun _ _ => ?_, fun _ _ => .refl c⟩, fun _ _ => .refl c⟩⟩⟩
  have hchoose : Sends w held (held ++ [(level, filler)]) c c := by
    rcases firstFitting_cases _ hfiller with rfl | ⟨frame, hframe, rfl⟩
    · exact .effect (.choose _ level .ping rfl fun _ h => by cases h) rfl rfl fun _ => rfl
    · obtain ⟨packet, hpacket, hmem⟩ := mem_cryptoFrames hframe
      exact .effect (.copyCrypto _ level packet frame (LossDetection.mem_byNumber.1 hpacket) hmem) rfl rfl fun _ =>
        rfl
  exact hchoose.trans (hpay _)

lemma pendingFrames_sends (ackOnly : Bool) :
    Ensures (pendingFrames level room ackOnly) c
      (fun frames c' => Sends w held (held ++ frames.map (level, ·)) c c')
      fun _ c' => Strays w held c c' := by
  simp only [pendingFrames, ensures_flow, List.map_append]
  apply (chooseAck_sends w held).imp
  intro ack c₁ h₁
  refine ⟨fun _ => h₁, fun _ => ?_⟩
  apply (chooseCrypto_sends w _).mono
  · intro crypto c₂ h₂
    apply (applicationFramesAt_sends w _).mono
    · intro application c₃ h₃
      have hchosen := (h₁.trans h₂).trans h₃
      apply (chooseProbe_sends w _ _).mono
      · intro filler c₄ h₄
        have hall := hchosen.trans h₄
        simp only [List.append_assoc] at hall ⊢
        exact hall
      · exact fun _ _ h₄ => hchosen.stray h₄
    · exact fun _ _ h₃ => (h₁.trans h₂).stray h₃
  · exact fun _ _ h₂ => h₁.stray h₂

end Choice

section Packets

variable {env : Env} {c : Conn env} (w : Caller) {level : Level} {room : ℤ}

lemma sealPacket_spec (keys : PacketKeys) (short : Bool) (padTo : ℕ) (payload : Bytes) (number : ℕ)
    (frames : List Frame) :
    Ensures (sealPacket level keys short padTo payload number frames) c
      (fun _ c' => c' = (c.takeNumber level).note (.sealed level keys number frames))
      fun _ c' => c' = c.takeNumber level := by
  simp only [sealPacket, ensures_flow]
  exact ⟨fun _ _ => ⟨fun _ _ => ⟨fun _ _ => trivial, fun _ _ => trivial⟩, fun _ _ => trivial⟩, fun _ _ => trivial⟩

/-- A packet is built in two steps: the choice of its frames, and its sealing. -/
lemma ensures_buildPacket {now : ℚ} {padTo : ℕ} {ackOnly : Bool} {P : List Frame → Conn env → Prop}
    {Q : Option Bytes → Conn env → Prop} (hnone : Q none c)
    (hframes : 64 + aeadTagLength < room →
      Ensures (pendingFrames level (room - 64 - aeadTagLength) ackOnly) c P)
    (hempty : ∀ c₁, P [] c₁ → Q none c₁)
    (hseals : ∀ keys frames c₁ payload, (c.spaces level).sendingKeys level = some keys → P frames c₁ →
      frames ≠ [] → concatEncoded (frames.map Frame.encode) = .ok payload →
      Ensures (sealPacket level keys (level = .oneRtt ∧ (c₁.spaces level).keysSend.isSome) padTo
        (padPayload payload) (c₁.spaces level).nextPacketNumber frames) c₁ fun packet c₂ => Q (some packet)
          (c₂.setRecovery (c₂.recovery.onPacketSent ⟨level, (c₁.spaces level).nextPacketNumber, now,
            frames.any isAckEliciting, frames.any isAckEliciting, packet.length, frames⟩))) :
    Ensures (buildPacket level room now padTo ackOnly) c Q := by
  simp only [buildPacket, ensures_bind, ensures_get]
  cases hkeys : (c.spaces level).sendingKeys level with
  | none => trivial
  | some keys =>
    simp only [ensures_ite, ensures_state]
    refine ⟨fun _ => hnone, fun hroom => ?_⟩
    apply (hframes (not_le.1 hroom)).imp_true
    intro frames c₁ h₁
    refine ⟨fun hnothing => hempty c₁ (hnothing ▸ h₁), fun hsome => ?_⟩
    simp only [ensures_lift, ensures_raiseIf]
    exact ⟨fun payload hpayload => ⟨fun _ => trivial,
      fun _ => hseals keys frames c₁ payload hkeys h₁ hsome hpayload⟩, fun _ _ => trivial⟩

lemma core_takeNumber (held : List (Level × Frame)) :
    (c.takeNumber level).core w held = (c.core w held).onQueue level fun queue =>
      { queue with nextPacketNumber := queue.nextPacketNumber + 1 } := Conn.core_onSpace rfl rfl

lemma takeNumber_path (held : List (Level × Frame)) : Path (c.core w held) ((c.takeNumber level).core w held) := by
  rw [core_takeNumber]
  exact Effect.path (.takeNumber _ level)

lemma takeNumber_sends (held : List (Level × Frame)) : Sends w held held c (c.takeNumber level) :=
  ⟨fun _ => takeNumber_path w held, rfl, Conn.rim_setSpace rfl⟩

lemma protect_path (keys : PacketKeys) (frame : ConnectionClose) (hdiscarded : (c.spaces level).discarded = false)
    (hkeys : level = .oneRtt ∨ (c.spaces level).keysSend = some keys) :
    Path (c.core w []) (((c.takeNumber level).note
      (.sealed level keys (c.spaces level).nextPacketNumber [.connectionClose frame])).core w []) := by
  have hprotect := Effect.protect (c.core w []) level keys [.connectionClose frame] hdiscarded ⟨frame, rfl⟩ hkeys
  refine Effect.path ?_
  have hcore : ((c.takeNumber level).note (.sealed level keys (c.spaces level).nextPacketNumber
      [.connectionClose frame])).core w [] = ((c.takeNumber level).core w []).note
        (.sealed level keys (c.spaces level).nextPacketNumber [.connectionClose frame]) := rfl
  rw [hcore, core_takeNumber]
  exact hprotect

lemma send_sends (packet : SentPacket) (keys : PacketKeys) (hdiscarded : (c.spaces packet.level).discarded = false)
    (hnumber : packet.packetNumber = (c.spaces packet.level).nextPacketNumber)
    (hsize : 0 < c.config.maxDatagramSize)
    (hkeys : packet.level = .oneRtt ∨ (c.spaces packet.level).keysSend = some keys) :
    Sends w (packet.frames.map (packet.level, ·)) [] c
      (((c.takeNumber packet.level).note (.sealed packet.level keys packet.packetNumber packet.frames)).setRecovery
        (c.recovery.onPacketSent packet)) := by
  have hqueue : (c.takeNumber packet.level).core w [] = _ := core_takeNumber w []
  exact .effect (.send _ keys packet hdiscarded hnumber rfl hsize hkeys)
    (congrArg (fun s : Core => { s.note (.sealed packet.level keys packet.packetNumber packet.frames) with
      recovery := c.recovery.onPacketSent packet }) hqueue.symm) rfl (Conn.rim_setSpace rfl)

def Conn.tokenAt (c : Conn env) (level : Level) : Bytes := (c.headerTemplate level).token

lemma tokenAt_of_outline {c' : Conn env} (level : Level) (h : c'.outline = c.outline) :
    c'.tokenAt level = c.tokenAt level := by
  have hretry : c'.retryToken = c.retryToken := congrArg Outline.retryToken h
  have hconfig : c'.config = c.config := congrArg Outline.config h
  simp only [Conn.tokenAt, Conn.headerTemplate, hretry, hconfig]

lemma buildPacket_sends (now : ℚ) (padTo : ℕ) (ackOnly : Bool) (hdiscarded : (c.spaces level).discarded = false)
    (hroom : room ≤ c.config.maxDatagramSize) :
    Ensures (buildPacket level room now padTo ackOnly) c
      (fun packet c' => Sends w [] [] c c' ∧ ∀ data, packet = some data → c.peerCid.length ≤ maxCidLength →
        c.hostCid.length = 8 → (data.length : ℤ) ≤ max (room + (c.tokenAt level).length) padTo)
      fun _ c' => Strays w [] c c' := by
  simp only [buildPacket, ensures_bind, ensures_get]
  cases hkeys : (c.spaces level).sendingKeys level with
  | none => exact .refl c
  | some keys =>
    simp only [ensures_ite, ensures_state]
    refine ⟨fun _ => ⟨.refl c, fun _ h => by cases h⟩, fun hlarge => ?_⟩
    simp only [aeadTagLength] at hlarge
    have hfits : Ensures (pendingFrames level (room - 64 - aeadTagLength) ackOnly) c _ _ :=
      pendingFrames_fits (by simp only [aeadTagLength]; omega) ackOnly
    apply ((pendingFrames_sends w [] ackOnly).and hfits).mono
    · rintro frames c₁ ⟨h₁, n, hn, hle⟩
      rw [List.nil_append] at h₁
      refine ⟨fun hempty => ?_, fun _ => ?_⟩
      · subst hempty
        exact ⟨h₁, fun _ h => by cases h⟩
      simp only [ensures_lift, ensures_raiseIf]
      refine ⟨fun payload hpayload => ⟨fun _ => h₁.strays, fun _ => ?_⟩, fun _ _ => h₁.strays⟩
      have hpayload := hn payload hpayload
      have hdiscarded₁ : (c₁.spaces level).discarded = false := (h₁.discarded level).trans hdiscarded
      have hconfig : c₁.config = c.config := congrArg Outline.config h₁.outline
      apply ((sealPacket_spec keys _ padTo (padPayload payload) _ frames).and
        (sealPacket_fits keys _ padTo (padPayload payload) _ frames)).mono
      · rintro packet c₂ ⟨rfl, hpacket⟩
        refine ⟨h₁.trans ?_, ?_⟩
        · apply send_sends w ⟨level, (c₁.spaces level).nextPacketNumber, now, _, _, packet.length, frames⟩
            keys hdiscarded₁ rfl
          · rw [hconfig]
            omega
          · exact Space.keysSend_of_sendingKeys ((h₁.sendingKeys level).trans hkeys)
        · intro data hdata hpeer hhost
          cases hdata
          obtain ⟨-, hpeer₁, hhost₁⟩ := Conn.of_outline h₁.outline
          have htoken := tokenAt_of_outline level h₁.outline
          rw [length_padPayload, hpeer₁, hhost₁, show (c₁.headerTemplate level).token = _ from htoken] at hpacket
          simp only [aeadTagLength, maxCidLength] at hle hpeer
          omega
      · rintro e c₂ ⟨rfl, -⟩
        exact (h₁.trans (takeNumber_sends w _)).strays
    · exact fun _ _ h => h.1

end Packets

section Datagrams

variable {env : Env} {c c' : Conn env} (w : Caller)

structure Builds (c c' : Conn env) : Prop where
  path : (c.core w []).Sending → Leads w c c'
  outline : c'.outline = c.outline

def Breaks (c c' : Conn env) : Prop := ∃ held, Path (c.core w []) (c'.core w held)

variable {w} {c'' : Conn env}

lemma Builds.refl (c : Conn env) : Builds w c c := ⟨fun _ => .refl, rfl⟩

lemma Builds.sending (h : Builds w c c') (hsending : (c.core w []).Sending) : (c'.core w []).Sending :=
  sending_of_outline h.outline hsending

lemma Builds.trans (h : Builds w c c') (h' : Builds w c' c'') : Builds w c c'' :=
  ⟨fun hsending => (h.path hsending).trans (h'.path (h.sending hsending)), h'.outline.trans h.outline⟩

lemma Builds.breaks (h : Builds w c c') (h' : (c'.core w []).Sending → Breaks w c' c'')
    (hsending : (c.core w []).Sending) : Breaks w c c'' := by
  obtain ⟨held, hpath⟩ := h' (h.sending hsending)
  exact ⟨held, (h.path hsending).trans hpath⟩

lemma Breaks.of_path (h : Leads w c c') : Breaks w c c' := ⟨[], h⟩

lemma Sends.builds (h : Sends w [] [] c c') : Builds w c c' := ⟨h.path, h.outline⟩

lemma Strays.breaks (h : Strays w [] c c') (hsending : (c.core w []).Sending) : Breaks w c c' := by
  obtain ⟨held, hsends⟩ := h
  exact ⟨held, hsends.path hsending⟩

lemma discardSpace_builds (level : Level) (hlevel : level ≠ .oneRtt)
    (hkeys : (c.spaces .handshake).keysSend.isSome = true) : Builds w c (c.discardSpace level) := by
  refine ⟨fun _ => (discardSpace_goes level hlevel (.inr hkeys)).path, ?_⟩
  simp only [Conn.discardSpace]
  split_ifs
  · rfl
  · rfl

variable (w)

lemma buildPackets_rest (now : ℚ) (ackOnly : Bool) (budget : ℤ) (levels : List Level) (payload : Bytes)
    (hlevels : Level.initial ∉ levels) :
    Ensures (buildPackets now ackOnly budget levels payload) c
      (fun payload' c' => Builds w c c' ∧ (c.peerCid.length ≤ maxCidLength → c.hostCid.length = 8 →
        payload'.length ≤ max payload.length c.config.maxDatagramSize))
      fun _ c' => (c.core w []).Sending → Breaks w c c' := by
  induction levels generalizing payload c with
  | nil => exact ⟨.refl c, fun _ _ => le_max_left _ _⟩
  | cons level levels ih =>
    have hne : level ≠ .initial := fun h => hlevels (h ▸ List.mem_cons_self)
    have hlevels : Level.initial ∉ levels := fun h => hlevels (List.mem_cons_of_mem _ h)
    simp only [buildPackets, ensures_flow, if_neg hne]
    refine ⟨fun _ => ih payload hlevels, fun hkeys => ?_⟩
    have hdiscarded : (c.spaces level).discarded = false := by simpa using fun h => hkeys (.inr h)
    have htoken : c.tokenAt level = [] := by simp [Conn.tokenAt, Conn.headerTemplate, hne]
    have hrest : ∀ (c₁ : Conn env) (payload₁ : Bytes), Builds w c c₁ →
        Ensures (buildPackets now ackOnly budget levels payload₁) c₁
          (fun payload' c' => Builds w c c' ∧ (c.peerCid.length ≤ maxCidLength → c.hostCid.length = 8 →
            payload'.length ≤ max payload₁.length c.config.maxDatagramSize)) fun _ c' => (c.core w []).Sending →
              Breaks w c c' := by
      intro c₁ payload₁ h₁
      obtain ⟨hconfig, hpeer, hhost⟩ := Conn.of_outline h₁.outline
      apply (ih payload₁ hlevels).mono
      · rintro payload' c₂ ⟨h₂, hlength⟩
        rw [hconfig, hpeer, hhost] at hlength
        exact ⟨h₁.trans h₂, hlength⟩
      · exact fun _ _ h₂ => h₁.breaks h₂
    apply (buildPacket_sends w now 0 ackOnly hdiscarded (by omega)).mono
    · rintro packet c₁ ⟨h₁, hpacket⟩
      cases packet with
      | none => exact hrest c₁ payload h₁.builds
      | some packet =>
        have hgrown : ∀ c₂ : Conn env, Builds w c c₂ →
            Ensures (buildPackets now ackOnly budget levels (payload ++ packet)) c₂
              (fun payload' c' => Builds w c c' ∧ (c.peerCid.length ≤ maxCidLength → c.hostCid.length = 8 →
                payload'.length ≤ max payload.length c.config.maxDatagramSize)) fun _ c' => (c.core w []).Sending →
                  Breaks w c c' := by
          intro c₂ h₂
          apply (hrest c₂ (payload ++ packet) h₂).imp
          rintro payload' c₃ ⟨h₃, hlength⟩
          refine ⟨h₃, fun hpeer hhost => ?_⟩
          have hpacket := hpacket packet rfl hpeer hhost
          have hlength := hlength hpeer hhost
          rw [htoken] at hpacket
          simp only [List.length_append, List.length_nil] at hlength hpacket
          omega
        simp only [ensures_flow]
        refine ⟨fun hhandshake => ⟨fun h => absurd rfl h, fun _ => ?_⟩,
          fun _ => ⟨fun h => absurd rfl h, fun _ => ?_⟩⟩
        · -- the packet was sealed under keys of the handshake
          obtain ⟨-, rfl⟩ := hhandshake
          exact hgrown _ (h₁.builds.trans (discardSpace_builds .initial (by decide)
            (h₁.handshakeKeys fun h => hkeys (.inl h))))
        · exact hgrown c₁ h₁.builds
    · exact fun _ _ h => h.breaks

lemma buildPackets_all (now : ℚ) (ackOnly : Bool) {budget : ℤ} (hbudget : 0 < budget) :
    Ensures (buildPackets now ackOnly budget Level.all []) c
      (fun payload c' => Builds w c c' ∧ (c.peerCid.length ≤ maxCidLength → c.hostCid.length = 8 →
        (payload.length : ℤ) ≤ max (c.config.maxDatagramSize + (c.tokenAt .initial).length : ℤ) budget))
      fun _ c' => (c.core w []).Sending → Breaks w c c' := by
  have hrest : ∀ c₁ : Conn env, Builds w c c₁ →
      Ensures (buildPackets now ackOnly budget [Level.handshake, Level.oneRtt] []) c₁
        (fun payload c' => Builds w c c' ∧ (c.peerCid.length ≤ maxCidLength → c.hostCid.length = 8 →
          (payload.length : ℤ) ≤ max (c.config.maxDatagramSize + (c.tokenAt .initial).length : ℤ) budget))
        fun _ c' => (c.core w []).Sending → Breaks w c c' := by
    intro c₁ h₁
    obtain ⟨hconfig, hpeer, hhost⟩ := Conn.of_outline h₁.outline
    apply (buildPackets_rest w now ackOnly budget [Level.handshake, Level.oneRtt] [] (by decide)).mono
    · rintro payload c₂ ⟨h₂, hlength⟩
      rw [hconfig, hpeer, hhost] at hlength
      refine ⟨h₁.trans h₂, fun hpeer hhost => ?_⟩
      have := hlength hpeer hhost
      simp only [List.length_nil] at this
      omega
    · exact fun _ _ h₂ => h₁.breaks h₂
  have hpad : (min 1200 budget).toNat ≠ 0 := by omega
  rw [Level.all, buildPackets]
  simp only [ensures_flow, if_pos]
  refine ⟨fun _ => hrest c (.refl c), fun hkeys => ?_⟩
  have hdiscarded : (c.spaces .initial).discarded = false := by simpa using fun h => hkeys (.inr h)
  apply (buildPacket_sends w now _ ackOnly hdiscarded (by simp)).mono
  · rintro packet c₁ ⟨h₁, hpacket⟩
    cases packet with
    | none => exact hrest c₁ h₁.builds
    | some packet =>
      simp only [ensures_flow]
      refine ⟨fun h => absurd h.2 (by decide), fun _ => ⟨fun _ => ⟨h₁.builds, fun hpeer hhost => ?_⟩,
        fun h => absurd hpad h⟩⟩
      have := hpacket packet rfl hpeer hhost
      simp only [List.length_nil, List.nil_append] at this ⊢
      omega
  · exact fun _ _ h => h.breaks

lemma sendBudget_le_allowance (ackOnly : Bool) (h : c.unvalidated = true) :
    c.sendBudget ackOnly ≤ c.allowance := by
  simp only [Conn.sendBudget, h, if_true]
  exact min_le_right _ _

lemma countSent_path {length : ℕ} (hopen : c.closeFrame = none)
    (h : c.unvalidated = true → c.peerCid.length ≤ maxCidLength → c.hostCid.length = 8 →
    (length : ℤ) ≤ max (c.config.maxDatagramSize + (c.tokenAt .initial).length : ℤ) c.allowance) :
    Path (c.core w []) ((c.countSent length).core w []) :=
  Effect.path (.count _ length hopen h)

lemma buildDatagram_path (now : ℚ) (ackOnly : Bool) (hsending : (c.core w []).Sending) :
    Ensures (buildDatagram now ackOnly) c
      (fun datagram c' => Leads w c c' ∧
        c'.bytesSent = c.bytesSent + Session.totalLength datagram.toList ∧ (c'.core w []).Sending)
      fun _ c' => Breaks w c c' := by
  simp only [buildDatagram, ensures_flow]
  refine ⟨fun _ => ⟨.refl, rfl, hsending⟩, fun hbudget => ?_⟩
  apply (buildPackets_all w now ackOnly (not_le.1 hbudget)).mono
  · rintro payload c₁ ⟨h₁, hlength⟩
    have hpath := h₁.path hsending
    have hsent : c₁.bytesSent = c.bytesSent := congrArg Outline.bytesSent h₁.outline
    have hsending₁ := h₁.sending hsending
    refine ⟨fun _ => ⟨hpath, hsent, hsending₁⟩,
      fun _ => ⟨hpath.trans (countSent_path w hsending₁.1 ?_), ?_, hsending₁⟩⟩
    · obtain ⟨hconfig, hpeer, hhost⟩ := Conn.of_outline h₁.outline
      have htoken := tokenAt_of_outline .initial h₁.outline
      have hreceived : c₁.bytesReceived = c.bytesReceived := congrArg Outline.bytesReceived h₁.outline
      have hclient : c₁.isClient = c.isClient := congrArg Outline.isClient h₁.outline
      have hvalidated : c₁.addressValidated = c.addressValidated := congrArg Outline.addressValidated h₁.outline
      simp only [Conn.unvalidated, Conn.allowance, hconfig, hpeer, hhost, htoken, hreceived, hsent,
        hclient, hvalidated]
      intro hunvalidated hpeer hhost
      have hallowed := sendBudget_le_allowance ackOnly hunvalidated
      exact (hlength hpeer hhost).trans (max_le_max (le_refl _) hallowed)
    · simp [Conn.countSent, Conn.note, Session.totalLength, hsent]
  · exact fun _ _ h => h hsending

lemma pacingAllowance_quiet (now : ℚ) :
    Ensures (pacingAllowance now) c (fun _ c' => c'.core w [] = c.core w []) fun _ _ => False := by
  simp only [pacingAllowance, ensures_state]
  cases c.recovery.controller.pacingRate c.recovery.rtt.smoothed with
  | none => rfl
  | some rate => rfl

/-- The pacer either lets the datagram go or sets a deadline in the future. -/
lemma ensures_pacingBlocked {now : ℚ} {P Q : Conn env → Prop}
    (h : Ensures (pacingAllowance now) c (fun _ => P) fun _ _ => False) (hfree : ∀ c₁, P c₁ → Q c₁)
    (hblocks : ∀ c₁ later, now < later → P c₁ → Q { c₁ with pacingDeadline := some later }) :
    Ensures (pacingBlocked now) c (fun _ => Q) fun _ _ => False := by
  simp only [pacingBlocked, ensures_state]
  apply h.imp
  intro allowance c₁ h₁
  cases allowance with
  | none => exact hfree c₁ h₁
  | some allowance =>
    cases c₁.recovery.controller.pacingRate c₁.recovery.rtt.smoothed with
    | none => exact hfree c₁ h₁
    | some rate =>
      simp only [ensures_flow, not_or, not_le]
      refine ⟨fun _ => hfree c₁ h₁, fun hblocked => hblocks c₁ _ ?_ h₁⟩
      exact lt_add_of_pos_right now (div_pos (sub_pos.2 hblocked.1) hblocked.2.2)

lemma pacingBlocked_quiet (now : ℚ) :
    Ensures (pacingBlocked now) c (fun _ c' => c'.core w [] = c.core w []) fun _ _ => False :=
  ensures_pacingBlocked (pacingAllowance_quiet w now) (fun _ h => h) fun _ _ _ h => h

lemma buildDatagrams_path (now : ℚ) (rounds : ℕ) (hsending : (c.core w []).Sending) :
    Ensures (buildDatagrams now rounds) c
      (fun datagrams c' => Leads w c c' ∧
        c'.bytesSent = c.bytesSent + Session.totalLength datagrams)
      fun _ c' => Breaks w c c' := by
  induction rounds generalizing c with
  | zero => exact .of_path .refl
  | succ rounds ih =>
    simp only [buildDatagrams, ensures_state]
    apply (pacingBlocked_quiet w now).mono
    · intro pacedOut c₁ hquiet
      have hsent₁ : c₁.bytesSent = c.bytesSent := congrArg Core.bytesSent hquiet
      apply (buildDatagram_path w now pacedOut (hquiet ▸ hsending)).mono
      · rintro datagram c₂ ⟨h₂, hsent₂, hsending₂⟩
        simp only [Leads, Breaks, hquiet, hsent₁] at *
        cases datagram with
        | none => exact ⟨h₂, hsent₂⟩
        | some datagram =>
          simp only [ensures_state]
          refine Ensures.mono (ih (by exact hsending₂)) ?_ ?_
          · rintro datagrams c₃ ⟨h₃, hsent₃⟩
            refine ⟨h₂.trans h₃, ?_⟩
            simp only [hsent₃, hsent₂, Session.totalLength, Option.toList_some, List.map_cons, List.map_nil,
              List.sum_cons, List.sum_nil]
            omega
          · rintro e c₃ ⟨held, h₃⟩
            exact ⟨held, h₂.trans h₃⟩
      · rintro e c₂ ⟨held, h₂⟩
        exact ⟨held, hquiet ▸ h₂⟩
    · exact fun _ _ h => h.elim

lemma rotateKeys_builds (now : ℚ) :
    Ensures (rotateKeys .oneRtt now) c (fun _ c' => Builds w c c' ∧ Goes w [] [] c c') fun _ c' => c' = c := by
  apply ((rotateKeys_goes now []).and (rotateKeys_core now [])).mono
  · rintro _ c' ⟨hgoes, keys, next, send, -, hcore⟩
    have houtline : (c'.core w []).outline = (c.core w []).outline := by
      rw [hcore]
      rfl
    exact ⟨⟨fun _ => hgoes.path, houtline⟩, hgoes⟩
  · exact fun _ _ h => h.1

lemma initiateKeyUpdate_builds (now : ℚ) :
    Ensures (initiateKeyUpdate now) c (fun _ c' => Builds w c c' ∧ Goes w [] [] c c') fun _ c' => c' = c := by
  simp only [initiateKeyUpdate, ensures_flow]
  exact ⟨fun _ => rotateKeys_builds w now, fun _ => ⟨.refl c, .refl c⟩⟩

lemma maybeUpdateKeys_builds (now : ℚ) :
    Ensures (maybeUpdateKeys now) c (fun _ => Builds w c) fun _ c' => c' = c := by
  simp only [maybeUpdateKeys, ensures_state]
  cases c.config.keyUpdateInterval with
  | none => exact .refl c
  | some interval =>
    simp only [ensures_flow]
    refine ⟨fun _ => ?_, fun _ => .refl c⟩
    exact (initiateKeyUpdate_builds w now).imp fun _ _ h => h.1

end Datagrams

section Close

variable {env : Env} {c : Conn env} (w : Caller)

lemma closeLevel_eq_some (h : c.closeLevel = some (level, keys)) :
    (c.spaces level).discarded = false ∧ (c.spaces level).keysSend = some keys := by
  obtain ⟨other, -, hother⟩ := List.exists_of_findSome?_eq_some h
  split_ifs at hother with hdiscarded
  obtain ⟨_, hkeys, hpair⟩ := Option.map_eq_some_iff.1 hother
  cases hpair
  exact ⟨by simpa using hdiscarded, hkeys⟩

lemma buildCloseDatagram_path (now : ℚ) :
    Ensures (buildCloseDatagram now) c
      (fun datagrams c' => Leads w c c' ∧
        (c.core w []).spent + Session.totalLength datagrams ≤ (c'.core w []).spent)
      fun _ c' => Breaks w c c' := by
  simp only [buildCloseDatagram, ensures_state]
  cases hframe : c.closeFrame with
  | none => exact ⟨.refl, le_refl _⟩
  | some frame =>
    cases hlevel : c.closeLevel with
    | none => exact ⟨.refl, le_refl _⟩
    | some chosen =>
      obtain ⟨level, keys⟩ := chosen
      simp only [ensures_flow]
      refine ⟨fun _ => ⟨.refl, le_refl _⟩, fun hsent => ⟨fun payload hpayload => ?_, fun _ _ => .of_path .refl⟩⟩
      obtain ⟨hdiscarded, hkeys⟩ := closeLevel_eq_some hlevel
      have hprotect := protect_path w (c := c) keys frame hdiscarded (.inr hkeys)
      apply ((sealPacket_spec keys _ 0 (padPayload payload) _ [.connectionClose frame]).and
        (sealPacket_fits keys _ 0 (padPayload payload) _ [.connectionClose frame])).mono
      · rintro packet c₁ ⟨rfl, hpacket⟩
        have hclosed : c.peerCid.length ≤ maxCidLength → c.hostCid.length = 8 →
            packet.length ≤ (c.core w []).closeBound frame.reason.length := by
          intro hpeer hhost
          have htoken : (c.headerTemplate level).token.length ≤ (c.core w []).token.length := by
            simp only [Conn.headerTemplate]
            split_ifs with hinitial hretry
            · simp [Core.token, Conn.core, hretry]
            · simp [Core.token, Conn.core, hretry]
            · exact Nat.zero_le _
          have hpayload := length_encode_close hpayload
          rw [length_padPayload] at hpacket
          simp only [Core.closeBound, maxCidLength] at hpeer ⊢
          omega
        have hnotSent : c.closeSent = false := by simpa using hsent
        have hconclude := Effect.conclude (((c.takeNumber level).note (.sealed level keys
          (c.spaces level).nextPacketNumber [.connectionClose frame])).core w []) frame packet.length
            hframe hnotSent
          hclosed
        refine ⟨hprotect.trans (Effect.path hconclude), ?_⟩
        simp only [Core.spent, closedSize, Conn.core, Conn.closed, Conn.note, Conn.takeNumber, Conn.onSpace,
          Conn.setSpace, Session.totalLength, List.map_cons, List.map_nil, List.sum_cons, List.sum_nil,
          Note.closedSize]
        omega
      · rintro e c₁ ⟨rfl, -⟩
        exact .of_path (takeNumber_path w [])

theorem datagramsToSend_path (now : ℚ) (rounds : ℕ) :
    Ensures (datagramsToSend now rounds) c
      (fun datagrams c' => Leads w c c' ∧
        (c.core w []).spent + Session.totalLength datagrams ≤ (c'.core w []).spent + Session.totalLength c.pending)
      fun _ c' => Breaks w c c' := by
  have hidle : Path (c.core w []) (c.core w []) ∧
    (c.core w []).spent + Session.totalLength ([] : List (OutgoingDatagram env)) ≤
      (c.core w []).spent + Session.totalLength c.pending := ⟨.refl, Nat.add_le_add_left (Nat.zero_le _) _⟩
  simp only [datagramsToSend, ensures_flow]
  refine ⟨fun _ => hidle, fun hstate => ⟨fun _ => ?_, fun hopen => ?_⟩⟩
  · apply (buildCloseDatagram_path w now).imp
    exact fun _ _ h => ⟨h.1, h.2.trans (Nat.le_add_right _ _)⟩
  · have hopen : c.closeFrame = none := by simpa using hopen
    have hsending : (c.core w []).Sending :=
      ⟨hopen, fun h => hstate (.inl h), fun h => hstate (.inr h)⟩
    apply (maybeUpdateKeys_builds w now).mono
    · intro _ c₁ h₁
      have hpath := h₁.path hsending
      have hsending₁ : (({ c₁ with pacingDeadline := none } : Conn env).core w []).Sending := h₁.sending hsending
      refine Ensures.mono (buildDatagrams_path w now rounds hsending₁) ?_ ?_
      · rintro datagrams c₂ ⟨h₂, hsent⟩
        have h₂ : Path (c.core w []) (c₂.core w []) := hpath.trans h₂
        have hsent : c₂.bytesSent = c.bytesSent + Session.totalLength datagrams := by
          rw [hsent, ← show c₁.bytesSent = c.bytesSent from congrArg Outline.bytesSent h₁.outline]
        have hclosed : closedSize c.trace ≤ closedSize c₂.trace := h₂.spends.closed
        have hpending : Session.totalLength c₂.pending ≤ Session.totalLength c.pending := h₂.spends.pending
        refine ⟨h₂.trans (Effect.path (.flush _)), ?_⟩
        simp only [Core.spent, Conn.core, Session.totalLength, List.map_append, List.sum_append] at *
        omega
      · rintro e c₂ ⟨held, h₂⟩
        exact ⟨held, hpath.trans h₂⟩
    · rintro _ _ rfl
      exact .of_path .refl

end Close

end Dsquic.Connection
