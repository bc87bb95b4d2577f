import Dsquic.Connection.Coalescing
import Dsquic.Connection.Pacing

/-!
The datagrams of a client that hold an Initial packet.
-/

namespace Dsquic.Connection

open Lib Wire Streams Recovery

def opensInitial (data : Bytes) : Bool := isLong (data.headD 0) && PacketType.ofFirst (data.headD 0) = .initial

section Opening

variable {env : Env} {c : Conn env} {level : Level} {short : Bool} {padTo : ℕ} {packet : Bytes} {budget : ℤ}
  {packets : List Bytes} {now : ℚ}

lemma Conn.Seals.opensInitial (h : c.Seals level short padTo packet) (hlevel : level ≠ .initial) (rest : Bytes) :
    opensInitial (packet ++ rest) = false := by
  cases short with
  | true =>
    obtain ⟨first, length, hshort, -, mask, body, rfl, -⟩ := h.veiled_short
    simp [Connection.opensInitial, isLong_masked, hshort]
  | false =>
    obtain ⟨first, middle, length, hlong, htype, ⟨mask, body, rfl, -⟩, -⟩ := h.veiled_long
    have hother : packetTypeOf level ≠ .initial := by cases level <;> simp [packetTypeOf] at hlevel ⊢
    simp [Connection.opensInitial, ofFirst_masked first mask hlong, htype, hother]

lemma Conn.Carries.opensInitial {levels : List Level} (h : c.Carries budget levels packets)
    (hlevels : Level.initial ∉ levels) : opensInitial packets.flatten = false := by
  induction h with
  | none => rfl
  | skip _ ih => exact ih fun h => hlevels (List.mem_cons_of_mem _ h)
  | initial => exact absurd List.mem_cons_self hlevels
  | load hlevel hpacks =>
    obtain ⟨c₁, -, -, -, hseals⟩ := hpacks
    exact hseals.opensInitial hlevel _

/-- Nothing waits at the level, or only what a datagram of acknowledgements leaves out. -/
def Conn.Silent (c : Conn env) (ackOnly : Bool) (level : Level) : Prop :=
  (c.spaces level).buildAck.isNone ∧ (ackOnly = true ∨ c.Idle level)

lemma buildPacket_silent {room : ℤ} {ackOnly : Bool} (h : c.Silent ackOnly level) :
    Ensures (buildPacket level room now padTo ackOnly) c fun packet _ => packet = none := by
  have hack : (c.spaces level).buildAck = none := Option.isNone_iff_eq_none.1 h.1
  have hframes (room : ℤ) : Ensures (pendingFrames level room ackOnly) c fun frames _ => frames = [] := by
    rcases h.2 with rfl | hidle
    · simp [pendingFrames, chooseAck, hack]
    · exact (pendingFrames_idle hidle ackOnly).imp fun _ _ hframes => hframes.2.2 hack
  exact ensures_buildPacket rfl (fun _ => hframes _) (fun _ _ => rfl)
    fun _ _ _ _ _ hnone hsome => absurd hnone hsome

lemma coalesce_initial (now : ℚ) (ackOnly : Bool) (hbudget : 0 < budget) :
    Ensures (coalesce now ackOnly budget Level.all []) c fun packets _ => opensInitial packets.flatten = true →
      ((c.spaces .initial).sendingKeys .initial).isSome ∧ (c.spaces .initial).discarded = false ∧
        ¬c.Silent ackOnly .initial ∧
        ∃ packet, packets = [packet] ∧ c.Packs .initial false (min 1200 budget).toNat packet := by
  have hrest (P : List Bytes → Prop) (c₁ : Conn env) :
    Ensures (coalesce now ackOnly budget [.handshake, .oneRtt] []) c₁
      fun packets _ => opensInitial packets.flatten = true → P packets := by
    apply (coalesce_spec now ackOnly hbudget [.handshake, .oneRtt] []).imp_true
    rintro _ _ ⟨more, rfl, hmore⟩ hopens
    rw [hmore.opensInitial (by decide)] at hopens
    cases hopens
  by_cases hkeys : (c.spaces .initial).sendingKeys .initial = none ∨ (c.spaces .initial).discarded = true
  · rw [Level.all, coalesce, ensures_bind, ensures_get, if_pos hkeys]
    exact hrest _ c
  by_cases hsilent : c.Silent ackOnly .initial
  · rw [Level.all, coalesce, ensures_bind, ensures_get, if_neg hkeys, ensures_bind]
    refine (buildPacket_silent hsilent).imp ?_
    rintro _ c₁ rfl
    exact hrest _ c₁
  · rw [not_or, Bool.not_eq_true] at hkeys
    apply (coalesce_spec now ackOnly hbudget Level.all []).imp_true
    rintro _ _ ⟨more, rfl, hmore⟩ hopens
    refine ⟨Option.isSome_iff_ne_none.2 hkeys.1, hkeys.2, hsilent, ?_⟩
    cases hmore with
    | skip hmore =>
      rw [hmore.opensInitial (by decide)] at hopens
      cases hopens
    | initial hpacks => exact ⟨_, rfl, hpacks⟩
    | load hlevel => exact absurd rfl hlevel

lemma buildDatagram_packs {ackOnly : Bool} {G : Bytes → Prop}
    (h : ∀ packet, ((c.spaces .initial).sendingKeys .initial).isSome → (c.spaces .initial).discarded = false →
      ¬c.Silent ackOnly .initial → c.Packs .initial false (min 1200 (c.sendBudget ackOnly)).toNat packet →
        G packet) :
    Ensures (buildDatagram now ackOnly) c
      fun datagram _ => ∀ d, datagram = some d → opensInitial d.data = true → G d.data := by
  refine buildDatagram_each (G := fun data => opensInitial data = true → G data) fun hbudget =>
    (coalesce_initial now ackOnly hbudget).imp fun packets _ hinitial hopens => ?_
  obtain ⟨hkeys, hdiscarded, hsilent, packet, rfl, hpacks⟩ := hinitial hopens
  simpa using h packet hkeys hdiscarded hsilent hpacks

lemma Conn.Packs.length_initial (h : c.Packs .initial false padTo packet) (hpad : padTo ≠ 0) :
    ∃ n padded, n ≤ 4 ∧
      packet.length = longHeaderLength (c.headerTemplate .initial) (padded + 16) n + padded + 16 ∧
      padTo ≤ longHeaderLength (c.headerTemplate .initial) padTo n + padded + 16 := by
  obtain ⟨c₁, houtline, -, -, keys, payload, pnBytes, header, padded, number, hpn, hframed, hpacket⟩ := h
  obtain ⟨-, hle⟩ := length_encodePacketNumber hpn
  obtain ⟨expanded, hexpanded, hframed⟩ := bind_eq_ok.1 hframed
  obtain ⟨built, hbuilt, hframed⟩ := bind_eq_ok.1 hframed
  cases hframed
  rw [headerTemplate_of_outline .initial houtline] at hbuilt hexpanded
  rw [expandPayload, if_neg hpad] at hexpanded
  obtain ⟨trial, htrial, hexpanded⟩ := bind_eq_ok.1 hexpanded
  have htrial := length_buildLongHeader htrial (by omega)
  have hheader := length_buildLongHeader hbuilt (by omega)
  refine ⟨pnBytes.length, padded.length, hle, ?_, ?_⟩
  · rw [env.length_protect hpacket, hheader, aeadTagLength]
  · obtain rfl := Except.ok.inj hexpanded
    rw [← htrial]
    simp only [List.length_append, List.length_replicate, aeadTagLength]
    omega

end Opening

namespace Conn

variable {env : Env}

/-- Where an Initial packet has something to carry there is budget for a full datagram, and its header leaves room
for the length of its payload to take two bytes. -/
def Roomy (c : Conn env) (ackOnly : Bool) : Prop :=
  ((c.spaces .initial).sendingKeys .initial).isNone ∨ (c.spaces .initial).discarded ∨ c.Silent ackOnly .initial ∨
    (1200 ≤ c.sendBudget ackOnly ∧
      7 + c.peerCid.length + c.hostCid.length + tokenLength (c.headerTemplate .initial) ≤ 1134)

instance (c : Conn env) (ackOnly : Bool) (level : Level) : Decidable (c.Silent ackOnly level) :=
  inferInstanceAs (Decidable (_ ∧ _))

instance (c : Conn env) (ackOnly : Bool) : Decidable (c.Roomy ackOnly) :=
  inferInstanceAs (Decidable (_ ∨ _ ∨ _ ∨ _ ∧ _))

def buildsRoomily (now : ℚ) : ℕ → Conn env → Bool
  | 0, _ => true
  | rounds + 1, c =>
    match pacingBlocked now c with
    | .error _ _ => true
    | .ok pacedOut c₁ => c₁.Roomy pacedOut &&
      match buildDatagram now pacedOut c₁ with
      | .ok (some _) c₂ => buildsRoomily now rounds { c₂ with pacingCredit := c₂.pacingCredit -
          (c₂.recovery.controller.bytesInFlight - c₁.recovery.controller.bytesInFlight : ℤ) }
      | _ => true

def sendsRoomily (c : Conn env) (now : ℚ) (rounds : ℕ) : Bool :=
  if c.closeFrame.isSome then c.closeSent || c.closeLevel.all fun chosen => chosen.1 ≠ .initial
  else
    match maybeUpdateKeys now c with
    | .error _ _ => true
    | .ok _ c₁ => buildsRoomily now rounds { c₁ with pacingDeadline := none }

end Conn

def FullSize (data : Bytes) : Prop := opensInitial data = true → 1200 ≤ data.length

section Size

variable {env : Env} {c : Conn env} {now : ℚ} {rounds : ℕ}

lemma Conn.Packs.fullSize {packet : Bytes} (h : c.Packs .initial false 1200 packet)
    (hheader : 7 + c.peerCid.length + c.hostCid.length + tokenLength (c.headerTemplate .initial) ≤ 1134) :
    1200 ≤ packet.length := by
  obtain ⟨n, padded, hn, hlength, hpadded⟩ := h.length_initial (by decide)
  have htrial : varintLength (n + 1200) = 2 := by
    rw [varintLength, if_neg (by omega), if_pos (by omega)]
  simp only [longHeaderLength, Conn.headerTemplate] at hlength hpadded hheader
  -- the header that is sent takes two bytes for the length, as the trial header did
  have hfinal : 2 ≤ varintLength (n + (padded + 16)) := by
    have hlong : ¬n + (padded + 16) ≤ 0x3F := by omega
    rw [varintLength, if_neg hlong]
    split_ifs <;> decide
  omega

lemma buildDatagram_fullSize {ackOnly : Bool} (h : c.Roomy ackOnly) :
    Ensures (buildDatagram now ackOnly) c fun datagram _ => ∀ d, datagram = some d → FullSize d.data := by
  refine buildDatagram_packs (G := fun data => 1200 ≤ data.length) fun packet hkeys hdiscarded hsilent hpacks => ?_
  rcases h with hnone | hgone | hquiet | ⟨hroom, hheader⟩
  · simp [Option.isNone_iff_eq_none.1 hnone] at hkeys
  · simp [hgone] at hdiscarded
  · exact absurd hquiet hsilent
  · rw [min_eq_left hroom] at hpacks
    exact hpacks.fullSize hheader

lemma buildDatagrams_fullSize (h : c.buildsRoomily now rounds = true) :
    Ensures (buildDatagrams now rounds) c fun datagrams _ => ∀ d ∈ datagrams, FullSize d.data := by
  induction rounds generalizing c with
  | zero => trivial
  | succ rounds ih =>
    simp only [buildDatagrams, ensures_state]
    apply (ensures_self (pacingBlocked now) c).imp_true
    intro pacedOut c₁ hpaced
    rw [Conn.buildsRoomily, hpaced, Bool.and_eq_true, decide_eq_true_iff] at h
    obtain ⟨hroomy, hrest⟩ := h
    apply ((ensures_self (buildDatagram now pacedOut) c₁).and (buildDatagram_fullSize hroomy)).imp_true
    rintro datagram c₂ ⟨hbuild, hfull⟩
    cases datagram with
    | none => simp
    | some datagram =>
      rw [hbuild] at hrest
      simp only [ensures_state]
      apply (ih hrest).imp
      intro datagrams _ hdatagrams d hd
      rcases List.mem_cons.1 hd with rfl | hd
      · exact hfull d rfl
      · exact hdatagrams d hd

lemma datagramsToSend_fullSize (h : c.sendsRoomily now rounds = true)
    (hpending : Session.totalLength c.pending = 0) :
    Ensures (datagramsToSend now rounds) c fun datagrams _ => ∀ d ∈ datagrams, FullSize d.data := by
  rw [Conn.sendsRoomily] at h
  refine datagramsToSend_flushed (fun hopens => absurd hopens (by decide)) hpending (fun hclosed => ?_)
    fun hopen _ c₁ hkeys _ => ?_
  · rw [if_pos hclosed] at h
    refine buildCloseDatagram_each fun level keys packet hsent hlevel hseals hopens => ?_
    have hclosed := hseals.opensInitial (by simpa [hsent, hlevel] using h) []
    rw [List.append_nil, hopens] at hclosed
    cases hclosed
  · rw [if_neg (by simp [hopen]), hkeys] at h
    exact buildDatagrams_fullSize h

/-- Every datagram that holds an Initial packet is of full size, if it is built with room and the connection is
not closed at the Initial level. -/
theorem initial_datagrams_full (h : Begins c) (ops : List (Op env)) (now : ℚ) (rounds : ℕ)
    {datagrams : List (OutgoingDatagram env)} {c' : Conn env}
    (hroomy : ((Session.start c).run ops).conn.sendsRoomily now rounds = true)
    (hsend : datagramsToSend now rounds ((Session.start c).run ops).conn = .ok datagrams c') :
    ∀ d ∈ datagrams, opensInitial d.data = true → 1200 ≤ d.data.length := by
  obtain ⟨_, _, _, _, intact, -, -, hpath, -⟩ := Session.reached h ops
  have hbalanced := (Core.balanced_initial _ _ _ _ _).path hpath
  exact (datagramsToSend_fullSize hroomy hbalanced.flushed).of_ok hsend

end Size

theorem initial_datagrams_full_hello : ∃ datagrams c',
    datagramsToSend 0 2 ((Session.start (plainClient .default none)).run []).conn = .ok datagrams c' ∧
      ∃ d ∈ datagrams, opensInitial d.data = true ∧ 1200 ≤ d.data.length := by
  have hopens :
    (sentAt 0 2 ((Session.start (plainClient .default none)).run []).conn).any opensInitial = true := by
    decide +kernel
  obtain ⟨data, hdata, hopens⟩ := List.any_eq_true.1 hopens
  obtain ⟨datagrams, c', hsend, d, hd, rfl⟩ := exists_of_mem_sentAt hdata
  refine ⟨datagrams, c', hsend, d, hd, hopens, ?_⟩
  exact initial_datagrams_full (begins_plainClient .default none) [] 0 2 (by decide +kernel) hsend d hd hopens

theorem closing_initial_short : ∃ datagrams c',
    datagramsToSend 0 2 ((Session.start (plainClient .default none)).run [.close 0 "" none]).conn =
      .ok datagrams c' ∧
      ∃ d ∈ datagrams, opensInitial d.data = true ∧ d.data.length < 1200 := by
  have hshort : (sentAt 0 2 ((Session.start (plainClient .default none)).run [.close 0 "" none]).conn).any
      (fun data => opensInitial data && decide (data.length < 1200)) = true := by decide +kernel
  obtain ⟨data, hdata, hshort⟩ := List.any_eq_true.1 hshort
  obtain ⟨datagrams, c', hsend, d, hd, rfl⟩ := exists_of_mem_sentAt hdata
  rw [Bool.and_eq_true, decide_eq_true_iff] at hshort
  exact ⟨datagrams, c', hsend, d, hd, hshort⟩

end Dsquic.Connection
