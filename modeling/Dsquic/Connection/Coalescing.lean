import Dsquic.Connection.PacketCodec
import Dsquic.Connection.Run

/-!
The packets of a datagram. An Initial packet stands alone in its datagram, and a short header comes last.
-/

namespace Dsquic.Connection

open Lib Wire Streams Recovery

variable {env : Env} {c : Conn env} {budget : ℤ}

def Conn.Seals (c : Conn env) (level : Level) (short : Bool) (padTo : ℕ) (packet : Bytes) : Prop :=
  ∃ (keys : PacketKeys) (payload pnBytes header padded : Bytes) (number : ℕ),
    encodePacketNumber number none = .ok pnBytes ∧
    c.frameUp level short padTo payload number pnBytes = .ok (header, padded) ∧
    env.protect keys header padded number = .ok packet

def Conn.Packs (c : Conn env) (level : Level) (short : Bool) (padTo : ℕ) (packet : Bytes) : Prop :=
  ∃ c₁ : Conn env, c₁.outline = c.outline ∧ ((c₁.spaces level).sendingKeys level).isSome ∧
    short = decide (level = .oneRtt ∧ (c₁.spaces level).keysSend.isSome) ∧ c₁.Seals level short padTo packet

section Packs

variable {c c' : Conn env} {level : Level} {short : Bool} {padTo : ℕ} {packet : Bytes}

lemma Conn.Packs.of_builds (h : c'.Packs level short padTo packet) (hbuilds : Builds .new c c') :
    c.Packs level short padTo packet := by
  obtain ⟨c₁, houtline, hrest⟩ := h
  exact ⟨c₁, houtline.trans hbuilds.outline, hrest⟩

lemma frameUp_takeNumber (c : Conn env) (level : Level) (short : Bool) (padTo : ℕ) (payload : Bytes) (number : ℕ)
    (pnBytes : Bytes) : (c.takeNumber level).frameUp level short padTo payload number pnBytes =
      c.frameUp level short padTo payload number pnBytes := by
  have hheader : (c.takeNumber level).shortHeader level pnBytes = c.shortHeader level pnBytes := by
    simp [Conn.shortHeader, shortHeaderFirstByte, Conn.takeNumber, Conn.onSpace, Conn.setSpace]
  simp only [Conn.frameUp, hheader]
  rfl

lemma sealPacket_seals (keys : PacketKeys) (payload : Bytes) (number : ℕ) (frames : List Frame) :
    Ensures (sealPacket level keys short padTo payload number frames) c
      fun packet _ => c.Seals level short padTo packet := by
  simp only [sealPacket, ensures_flow]
  refine ⟨fun pnBytes hpn => ⟨fun framed hframed => ⟨fun packet hpacket => ?_, fun _ _ => trivial⟩,
    fun _ _ => trivial⟩, fun _ _ => trivial⟩
  rw [frameUp_takeNumber] at hframed
  exact ⟨keys, payload, pnBytes, framed.1, framed.2, number, hpn, hframed, hpacket⟩

lemma buildPacket_packs (room : ℤ) (now : ℚ) (ackOnly : Bool) :
    Ensures (buildPacket level room now padTo ackOnly) c
      fun packet _ => ∀ data, packet = some data → ∃ short, c.Packs level short padTo data := by
  apply ensures_buildPacket (fun _ h => by cases h)
    (fun _ => (pendingFrames_sends .new [] ackOnly).imp_true fun _ _ => id) (fun _ _ _ h => by cases h)
  intro keys frames c₁ payload hkeys h₁ _ _
  have hkeys₁ : ((c₁.spaces level).sendingKeys level).isSome := by rw [h₁.sendingKeys level, hkeys]; rfl
  apply (sealPacket_seals keys _ _ frames).imp
  rintro packet _ hseals _ ⟨⟩
  exact ⟨_, c₁, h₁.outline, hkeys₁, rfl, hseals⟩

lemma headerTemplate_of_outline (level : Level) (h : c'.outline = c.outline) :
    c'.headerTemplate level = c.headerTemplate level := by
  obtain ⟨hconfig, hpeer, hhost⟩ := Conn.of_outline h
  have hretry : c'.retryToken = c.retryToken := congrArg Outline.retryToken h
  simp only [Conn.headerTemplate, hconfig, hpeer, hhost, hretry]

lemma Conn.Seals.veiled_short (h : c.Seals level true padTo packet) :
    ∃ first length, isLong first = false ∧ hasFixedBit first = true ∧ Veiled first c.peerCid length packet := by
  obtain ⟨keys, payload, pnBytes, header, padded, number, hpn, hframed, hpacket⟩ := h
  obtain ⟨hpos, hle⟩ := length_encodePacketNumber hpn
  obtain ⟨hshort, hfixed, hlength, -⟩ := shortHeaderFirstByte_spec (c.spaces level) hpos hle
  cases hframed
  exact ⟨_, _, hshort, hfixed, Primitives.veiled_protect hlength hpacket⟩

lemma Conn.Seals.veiled_long (h : c.Seals level false padTo packet) :
    ∃ first middle length, isLong first = true ∧ PacketType.ofFirst first = packetTypeOf level ∧
      Veiled first middle length packet ∧ ((c.headerTemplate level).WellFormed → ∀ n other rest,
        Veiled first middle n other → parseLongHeader (other ++ rest) = .ok
          { packetType := packetTypeOf level
            version := quicV1
            destinationCid := c.peerCid
            sourceCid := c.hostCid
            token := (c.headerTemplate level).token
            length := length
            pnOffset := 1 + middle.length }) := by
  obtain ⟨keys, payload, pnBytes, header, padded, number, hpn, hframed, hpacket⟩ := h
  obtain ⟨hpos, hle⟩ := length_encodePacketNumber hpn
  obtain ⟨expanded, -, hframed⟩ := bind_eq_ok.1 hframed
  obtain ⟨built, hbuilt, hframed⟩ := bind_eq_ok.1 hframed
  cases hframed
  obtain ⟨middle, hshape, -, hparse⟩ := buildLongHeader_eq hpos hle hbuilt
  obtain ⟨hlong, -, htype, hlength, -⟩ := longFirst_spec (packetTypeOf level) hpos hle
  rw [← encodePacketNumber_eq hpn] at hshape
  subst hshape
  refine ⟨_, middle, _, hlong, htype, Primitives.veiled_protect hlength hpacket, fun hwf n other rest hother => ?_⟩
  rw [Nat.add_assoc]
  exact hparse hwf n other rest hother

end Packs

def coalesce (now : ℚ) (ackOnly : Bool) (budget : ℤ) : List Level → List Bytes → M env (List Bytes)
  | [], packets => return packets
  | level :: levels, packets => do
    let c ← get
    if (c.spaces level).sendingKeys level = none ∨ (c.spaces level).discarded then
      coalesce now ackOnly budget levels packets
    else do
      let padTo := if level = .initial then (min 1200 budget).toNat else 0
      let packet ← buildPacket level (c.config.maxDatagramSize - packets.flatten.length) now padTo ackOnly
      match packet with
      | none => coalesce now ackOnly budget levels packets
      | some packet => do
        doIf (c.isClient ∧ level = .handshake) (modify fun c => c.discardSpace .initial)
        if padTo ≠ 0 then return packets ++ [packet]
        else coalesce now ackOnly budget levels (packets ++ [packet])

lemma buildPackets_flatten (now : ℚ) (ackOnly : Bool) (budget : ℤ) (levels : List Level) (packets : List Bytes) :
    (buildPackets now ackOnly budget levels packets.flatten : M env Bytes) =
      List.flatten <$> coalesce now ackOnly budget levels packets := by
  induction levels generalizing packets with
  | nil => simp [buildPackets, coalesce]
  | cons level levels ih =>
    have hgrown (packet : Bytes) : packets.flatten ++ packet = (packets ++ [packet]).flatten := by simp
    simp only [buildPackets, coalesce, map_bind]
    congr 1
    funext c
    by_cases hkeys : (c.spaces level).sendingKeys level = none ∨ (c.spaces level).discarded = true
    · simp only [if_pos hkeys, ih]
    · simp only [if_neg hkeys, map_bind]
      congr 1
      funext packet
      cases packet with
      | none => exact ih packets
      | some packet =>
        simp only [map_bind, hgrown]
        congr 1
        funext _
        by_cases hpad : (if level = .initial then (min 1200 budget).toNat else 0) = 0
        · simp only [hpad, ne_eq, not_true, if_false, ih]
        · simp only [ne_eq, hpad, not_false_eq_true, if_true, map_pure]

inductive Conn.Carries (c : Conn env) (budget : ℤ) : List Level → List Bytes → Prop
  | none : c.Carries budget [] []
  | skip {level : Level} {levels : List Level} {packets : List Bytes} (h : c.Carries budget levels packets) :
      c.Carries budget (level :: levels) packets
  | initial {levels : List Level} {packet : Bytes} (h : c.Packs .initial false (min 1200 budget).toNat packet) :
      c.Carries budget (.initial :: levels) [packet]
  | load {level : Level} {levels : List Level} {short : Bool} {packet : Bytes} {packets : List Bytes}
      (hlevel : level ≠ .initial) (h : c.Packs level short 0 packet) (hrest : c.Carries budget levels packets) :
      c.Carries budget (level :: levels) (packet :: packets)

lemma Conn.Carries.of_builds {c c' : Conn env} {levels : List Level} {packets : List Bytes}
    (h : c'.Carries budget levels packets) (hbuilds : Builds .new c c') : c.Carries budget levels packets := by
  induction h with
  | none => exact .none
  | skip _ ih => exact .skip ih
  | initial h => exact .initial (h.of_builds hbuilds)
  | load hlevel h _ ih => exact .load hlevel (h.of_builds hbuilds) ih

lemma Conn.Packs.short_eq_false {level : Level} {short : Bool} {padTo : ℕ} {packet : Bytes}
    (h : c.Packs level short padTo packet) (hlevel : level ≠ .oneRtt) : short = false := by
  obtain ⟨c₁, -, -, hshort, -⟩ := h
  simpa [hlevel] using hshort

lemma coalesce_spec (now : ℚ) (ackOnly : Bool) (hbudget : 0 < budget)
    (levels : List Level) (packets : List Bytes) :
    Ensures (coalesce now ackOnly budget levels packets) c
      fun packets' _ => ∃ more, packets' = packets ++ more ∧ c.Carries budget levels more := by
  induction levels generalizing packets c with
  | nil => exact ⟨[], (List.append_nil _).symm, .none⟩
  | cons level levels ih =>
    have hskip : ∀ c₁ : Conn env, Builds .new c c₁ → Ensures (coalesce now ackOnly budget levels packets) c₁
        fun packets' _ => ∃ more, packets' = packets ++ more ∧ c.Carries budget (level :: levels) more := by
      intro c₁ h₁
      apply (ih packets).imp
      rintro _ _ ⟨more, rfl, hmore⟩
      exact ⟨more, rfl, .skip (hmore.of_builds h₁)⟩
    simp only [coalesce, ensures_flow]
    refine ⟨fun _ => hskip c (.refl c), fun hkeys => ?_⟩
    have hdiscarded : (c.spaces level).discarded = false := by simpa using fun h => hkeys (.inr h)
    apply ((buildPacket_sends .new now _ ackOnly hdiscarded (by omega)).and
      (buildPacket_packs _ now ackOnly)).imp_true
    rintro packet c₁ ⟨⟨h₁, -⟩, hpacks⟩
    cases packet with
    | none => exact hskip c₁ h₁.builds
    | some packet =>
      obtain ⟨short, hpacks⟩ := hpacks packet rfl
      have hload : level ≠ .initial → ∀ c₂ : Conn env, Builds .new c c₂ →
          Ensures (coalesce now ackOnly budget levels (packets ++ [packet])) c₂
            fun packets' _ => ∃ more, packets' = packets ++ more ∧ c.Carries budget (level :: levels) more := by
        intro hlevel c₂ h₂
        rw [if_neg hlevel] at hpacks
        apply (ih _).imp
        rintro _ _ ⟨more, rfl, hmore⟩
        exact ⟨packet :: more, by simp, .load hlevel hpacks (hmore.of_builds h₂)⟩
      simp only [ensures_flow]
      by_cases hlevel : level = .initial
      · subst hlevel
        obtain rfl := hpacks.short_eq_false (by decide)
        rw [if_pos rfl] at hpacks ⊢
        refine ⟨fun h => absurd h.2 (by decide), fun _ => ⟨fun _ => ⟨[packet], rfl, .initial hpacks⟩,
          fun h => absurd (by omega) h⟩⟩
      · rw [if_neg hlevel]
        refine ⟨fun hhandshake => ⟨fun h => absurd rfl h, fun _ => ?_⟩,
          fun _ => ⟨fun h => absurd rfl h, fun _ => ?_⟩⟩
        · obtain ⟨-, rfl⟩ := hhandshake
          exact hload hlevel _ (h₁.builds.trans (discardSpace_builds .initial (by decide)
            (h₁.handshakeKeys fun h => hkeys (.inl h))))
        · exact hload hlevel c₁ h₁.builds

section Datagrams

variable {c : Conn env} {now : ℚ} {rounds : ℕ} {G : Bytes → Prop} {P : Conn env → Prop}

lemma buildDatagram_each {ackOnly : Bool}
    (h : 0 < c.sendBudget ackOnly → Ensures (coalesce now ackOnly (c.sendBudget ackOnly) Level.all []) c
      (fun packets _ => G packets.flatten)) :
    Ensures (buildDatagram now ackOnly) c fun datagram _ => ∀ d, datagram = some d → G d.data := by
  simp only [buildDatagram, ensures_flow]
  refine ⟨fun _ _ hd => (by cases hd), fun hbudget => ?_⟩
  rw [← List.flatten_nil, buildPackets_flatten, ensures_map]
  refine (h (not_le.1 hbudget)).imp fun packets _ hpackets => ⟨fun _ _ hd => (by cases hd), ?_⟩
  rintro _ _ ⟨⟩
  exact hpackets

lemma buildDatagrams_each (hkeep : ∀ c c' : Conn env, P c → Path (c.core .new []) (c'.core .new []) → P c')
    (hbuild : ∀ (c : Conn env) ackOnly, P c → Ensures (buildDatagram now ackOnly) c
      (fun datagram _ => ∀ d, datagram = some d → G d.data))
    (rounds : ℕ) (hsending : (c.core .new []).Sending) (hc : P c) :
    Ensures (buildDatagrams now rounds) c fun datagrams _ => ∀ d ∈ datagrams, G d.data := by
  induction rounds generalizing c with
  | zero => trivial
  | succ rounds ih =>
    simp only [buildDatagrams, ensures_state]
    apply (pacingBlocked_quiet .new now).imp_true
    intro pacedOut c₁ h₁
    have hc₁ : P c₁ := hkeep c c₁ hc (h₁ ▸ .refl)
    apply ((buildDatagram_path .new now pacedOut (h₁ ▸ hsending)).and (hbuild c₁ pacedOut hc₁)).imp_true
    rintro datagram c₂ ⟨⟨hpath, -, hsending₂⟩, hdatagram⟩
    cases datagram with
    | none => simp
    | some datagram =>
      simp only [ensures_state]
      refine Ensures.imp (ih ?_ (hkeep c₁ _ hc₁ hpath)) fun datagrams _ hdatagrams => ?_
      · exact hsending₂
      · exact List.forall_mem_cons.2 ⟨hdatagram datagram rfl, hdatagrams⟩

lemma buildCloseDatagram_each (h : ∀ level keys packet, c.closeSent = false → c.closeLevel = some (level, keys) →
      c.Seals level (level = .oneRtt) 0 packet → G packet) :
    Ensures (buildCloseDatagram now) c fun datagrams _ => ∀ d ∈ datagrams, G d.data := by
  simp only [buildCloseDatagram, ensures_state]
  cases c.closeFrame with
  | none => simp
  | some frame =>
    cases hlevel : c.closeLevel with
    | none => simp
    | some chosen =>
      obtain ⟨level, keys⟩ := chosen
      simp only [ensures_flow]
      refine ⟨fun _ _ hd => absurd hd List.not_mem_nil, fun hsent => ⟨fun payload _ => ?_, fun _ _ => trivial⟩⟩
      refine (sealPacket_seals keys _ _ [.connectionClose frame]).imp fun packet _ hseals => ?_
      exact List.forall_mem_singleton.2 (h level keys packet (by simpa using hsent) hlevel hseals)

lemma datagramsToSend_flushed (hempty : G []) (hpending : Session.totalLength c.pending = 0)
    (hclose : c.closeFrame.isSome → Ensures (buildCloseDatagram now) c
      (fun datagrams _ => ∀ d ∈ datagrams, G d.data))
    (hbuild : c.closeFrame = none → (c.core .new []).Sending → ∀ c₁, maybeUpdateKeys now c = .ok ⟨⟩ c₁ →
      Builds .new c c₁ → Ensures (buildDatagrams now rounds) { c₁ with pacingDeadline := none }
        (fun datagrams _ => ∀ d ∈ datagrams, G d.data)) :
    Ensures (datagramsToSend now rounds) c fun datagrams _ => ∀ d ∈ datagrams, G d.data := by
  simp only [datagramsToSend, ensures_flow]
  refine ⟨fun _ _ hd => absurd hd List.not_mem_nil, fun hstate => ⟨hclose, fun hopen => ?_⟩⟩
  have hopen : c.closeFrame = none := by simpa using hopen
  have hsending : (c.core .new []).Sending := ⟨hopen, fun h => hstate (.inl h), fun h => hstate (.inr h)⟩
  apply ((ensures_self (maybeUpdateKeys now) c).and (maybeUpdateKeys_builds .new now)).imp_true
  rintro _ c₁ ⟨hkeys, hbuilds⟩
  have hpending₁ : Session.totalLength c₁.pending ≤ Session.totalLength c.pending :=
    (hbuilds.path hsending).spends.pending
  refine Ensures.imp_true ((hbuild hopen hsending c₁ hkeys hbuilds).and
    (buildDatagrams_path .new now rounds (by exact hbuilds.sending hsending))) ?_
  rintro datagrams c₂ ⟨hdatagrams, hpath, -⟩ d hd
  have hpending₂ : Session.totalLength c₂.pending ≤ Session.totalLength c₁.pending := hpath.spends.pending
  rcases List.mem_append.1 hd with hd | hd
  · have hnil : d.data.length = 0 := List.sum_eq_zero_iff.1 (show Session.totalLength c₂.pending = 0 by omega) _
      (List.mem_map_of_mem hd)
    rwa [List.length_eq_zero_iff.1 hnil]
  · exact hdatagrams d hd

lemma datagramsToSend_each (hkeep : ∀ c c' : Conn env, P c → Path (c.core .new []) (c'.core .new []) → P c')
    (hbuild : ∀ (c : Conn env) ackOnly, P c → Ensures (buildDatagram now ackOnly) c
      (fun datagram _ => ∀ d, datagram = some d → G d.data))
    (hclose : ∀ level keys packet, c.closeSent = false → c.closeLevel = some (level, keys) →
      c.Seals level (level = .oneRtt) 0 packet → G packet)
    (hempty : G []) (hpending : Session.totalLength c.pending = 0) (hc : P c) :
    Ensures (datagramsToSend now rounds) c fun datagrams _ => ∀ d ∈ datagrams, G d.data :=
  datagramsToSend_flushed hempty hpending (fun _ => buildCloseDatagram_each hclose) fun _ hsending c₁ _ hbuilds =>
    buildDatagrams_each hkeep hbuild rounds (by exact hbuilds.sending hsending)
      (hkeep c _ hc (hbuilds.path hsending))

end Datagrams

end Dsquic.Connection
