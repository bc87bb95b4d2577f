import Dsquic.Connection.Plain
import Dsquic.Connection.Run
import Mathlib.Data.Multiset.Lattice
import Mathlib.Order.Lattice.Nat

/-!
The datagrams of a connection keep to the size of its path, unless the header of an Initial packet leaves
too little room for what the packet has to carry.
-/

namespace Dsquic.Connection

open Lib Wire Streams Recovery

def Space.ackLength (space : Space PacketKeys Bytes) : ℕ :=
  match space.buildAck with
  | none => 0
  | some ack => (ack.encode.toOption.getD []).length

namespace Conn

variable {env : Env}

def cryptoLength (c : Conn env) (level : Level) : ℕ :=
  (Multiset.ofList ((c.spaces level).cryptoPending.length :: ((c.spaces level).cryptoRetransmit ++
    cryptoFrames (c.recovery.unacked level)).map (·.data.length))).sup

def demand (c : Conn env) (level : Level) : ℕ := (c.spaces level).ackLength + 17 + c.cryptoLength level

def InitialFits (c : Conn env) : Prop :=
  ((c.spaces .initial).sendingKeys .initial).isNone ∨ (c.spaces .initial).discarded ∨
    43 + c.peerCid.length + c.hostCid.length + (c.tokenAt .initial).length +
      min (c.config.maxDatagramSize - 77) (c.demand .initial) ≤ c.config.maxDatagramSize

instance (c : Conn env) : Decidable c.InitialFits := inferInstanceAs (Decidable (_ ∨ _ ∨ _))

end Conn

section Demand

variable {env : Env} {c : Conn env} {level : Level} {room : ℤ} {frame : Crypto}

lemma le_cryptoLength_pending (c : Conn env) (level : Level) :
    (c.spaces level).cryptoPending.length ≤ c.cryptoLength level := Multiset.le_sup (by simp)

lemma le_cryptoLength
    (h : frame ∈ (c.spaces level).cryptoRetransmit ∨ frame ∈ cryptoFrames (c.recovery.unacked level)) :
    frame.data.length ≤ c.cryptoLength level := by
  apply Multiset.le_sup
  simp only [Multiset.mem_coe, List.mem_cons, List.mem_map, List.mem_append]
  exact .inr ⟨frame, h, rfl⟩

lemma chooseAck_demand :
    Ensures (chooseAck level room) c fun r c' => Accounted r.1 (c.spaces level).ackLength ∧
      r.1.any isAckEliciting = false ∧ c'.cryptoLength level = c.cryptoLength level := by
  simp only [chooseAck, ensures_state, Space.ackLength]
  cases (c.spaces level).buildAck with
  | none => exact ⟨accounted_nil 0, rfl, rfl⟩
  | some ack =>
    simp only [ensures_flow]
    refine ⟨fun encoded hencoded => ⟨fun _ => ?_, fun _ => ⟨accounted_nil _, rfl, trivial⟩⟩, fun _ _ => trivial⟩
    rw [hencoded]
    refine ⟨accounted_singleton (.ack ack) hencoded, rfl, ?_⟩
    simp [Conn.cryptoLength, Conn.onSpace, Conn.setSpace]

lemma length_nextCrypto_le {space : Space PacketKeys Bytes} {available : ℕ}
    (h : (c.spaces level).nextCrypto available = (some frame, space)) :
    frame.data.length ≤ c.cryptoLength level := by
  rcases nextCrypto_cases (c.spaces level) available with hnone | ⟨lost, rest, hlost, -, hnext⟩ | ⟨-, hnext⟩
  · rw [hnone] at h
    cases h
  · rw [hnext] at h
    cases h
    exact (List.length_take_le' _ _).trans (le_cryptoLength (.inl (by simp [hlost])))
  · rw [hnext] at h
    cases h
    exact (List.length_take_le' _ _).trans (le_cryptoLength_pending c level)

lemma chooseCrypto_demand :
    Ensures (chooseCrypto level room) c fun r c' =>
      (r.1 = [] ∧ c'.cryptoLength level = c.cryptoLength level) ∨
        (r.1.any isAckEliciting = true ∧ Accounted r.1 (17 + c.cryptoLength level)) := by
  simp only [chooseCrypto, ensures_state]
  cases hnext : (c.spaces level).nextCrypto (room - 16).toNat with
  | mk crypto space =>
    cases crypto with
    | none =>
      have hspace : space = c.spaces level := by
        rcases nextCrypto_cases (c.spaces level) (room - 16).toNat with h | ⟨_, _, -, -, h⟩ | ⟨-, h⟩
        · exact (Prod.ext_iff.1 (hnext.symm.trans h)).2
        · simp [h] at hnext
        · simp [h] at hnext
      refine .inl ⟨rfl, ?_⟩
      simp [Conn.cryptoLength, Conn.setSpace, hspace]
    | some frame =>
      simp only [ensures_flow]
      refine ⟨fun encoded hencoded => .inr ⟨rfl, ?_⟩, fun _ _ => trivial⟩
      have hdata := length_nextCrypto_le hnext
      have hlength := length_encode_crypto hencoded
      exact (accounted_singleton (.crypto frame) hencoded).mono (by omega)

lemma chooseProbe_demand (chosen : List Frame) :
    Ensures (chooseProbe level room chosen) c fun frames _ => (chosen.any isAckEliciting = true → frames = []) ∧
      Accounted frames (17 + c.cryptoLength level) := by
  simp only [chooseProbe, ensures_flow]
  refine ⟨fun _ => ⟨fun _ => trivial, accounted_nil _⟩, fun _ => ⟨fun _ => ⟨fun _ => trivial, accounted_nil _⟩,
    fun hnone =>
      ⟨fun filler hfiller => ⟨fun encoded hencoded => ⟨fun h => absurd h hnone, ?_⟩, fun _ _ => trivial⟩,
      fun _ _ => trivial⟩⟩⟩
  apply (accounted_singleton filler hencoded).mono
  rcases firstFitting_cases _ hfiller with rfl | ⟨frame, hframe, rfl⟩
  · cases hencoded
    exact (show 1 ≤ 17 by decide).trans (Nat.le_add_right _ _)
  · have hdata : frame.data.length ≤ c.cryptoLength level := le_cryptoLength (.inr hframe)
    have hlength := length_encode_crypto hencoded
    omega

lemma pendingFrames_demand (hlevel : level ≠ .oneRtt) (ackOnly : Bool) :
    Ensures (pendingFrames level room ackOnly) c fun frames _ => Accounted frames (c.demand level) := by
  simp only [pendingFrames, ensures_flow, applicationFramesAt, if_neg hlevel]
  apply chooseAck_demand.imp
  rintro ⟨ack, a⟩ c₁ ⟨hack, hsilent, hlength⟩
  refine ⟨fun _ => hack.mono (by simp only [Conn.demand]; omega), fun _ => ?_⟩
  apply chooseCrypto_demand.imp
  rintro ⟨crypto, b⟩ c₂ hcrypto
  apply (chooseProbe_demand _).imp
  rintro filler _ ⟨hfiller, hfits⟩
  rw [Conn.demand, Nat.add_assoc]
  rcases hcrypto with ⟨hnone, hlength₂⟩ | ⟨hsome, htakes⟩
  · rw [hlength₂, hlength] at hfits
    simp only at hnone
    subst hnone
    simpa using hack.append hfits
  · simp only at hsome htakes
    rw [hfiller (by simp [hsome]), hlength] at *
    simpa using hack.append htakes

end Demand

section Limit

variable {env : Env} {c : Conn env} {level : Level}

lemma buildPacket_demand (hlevel : level ≠ .oneRtt) (room : ℤ) (now : ℚ) (padTo : ℕ) (ackOnly : Bool) :
    Ensures (buildPacket level room now padTo ackOnly) c fun packet _ => ∀ data, packet = some data →
      (data.length : ℤ) ≤ max ((43 + c.peerCid.length + c.hostCid.length + (c.tokenAt level).length : ℕ) +
        min (room - 77) (c.demand level)) padTo := by
  apply ensures_buildPacket (fun _ h => by cases h)
    (fun hlarge => ((pendingFrames_sends .new [] ackOnly).and ((pendingFrames_fits (by omega) ackOnly).and
      (pendingFrames_demand hlevel ackOnly))).imp_true fun _ _ => And.intro hlarge) (fun _ _ _ h => by cases h)
  rintro keys frames c₁ payload - ⟨hlarge, h₁, ⟨n, hn, hle⟩, hdemand⟩ - hpayload
  apply (sealPacket_fits keys _ padTo (padPayload payload) _ frames).imp_true
  rintro packet _ hpacket _ ⟨⟩
  obtain ⟨-, hpeer, hhost⟩ := Conn.of_outline h₁.outline
  have htoken := tokenAt_of_outline level h₁.outline
  rw [length_padPayload, hpeer, hhost, show (c₁.headerTemplate level).token = _ from htoken] at hpacket
  have hroom := hn payload hpayload
  have hdemand := hdemand payload hpayload
  have hleast : 17 ≤ c.demand level := by
    simp only [Conn.demand]
    omega
  simp only [aeadTagLength] at hlarge hle
  push_cast at hle ⊢
  omega

lemma buildPackets_fits (now : ℚ) (ackOnly : Bool) {budget : ℤ} (hbudget : 0 < budget)
    (hpeer : c.peerCid.length ≤ maxCidLength) (hhost : c.hostCid.length = 8)
    (hsize : 1200 ≤ c.config.maxDatagramSize) (hfits : c.InitialFits) :
    Ensures (buildPackets now ackOnly budget Level.all []) c
      fun payload _ => payload.length ≤ c.config.maxDatagramSize := by
  have hrest : ∀ c₁ : Conn env, c₁.outline = c.outline →
      Ensures (buildPackets now ackOnly budget [Level.handshake, Level.oneRtt] []) c₁
        fun payload _ => payload.length ≤ c.config.maxDatagramSize := by
    intro c₁ houtline
    obtain ⟨hconfig₁, hpeer₁, hhost₁⟩ := Conn.of_outline houtline
    apply (buildPackets_rest .new now ackOnly budget [Level.handshake, Level.oneRtt] [] (by decide)).imp_true
    rintro payload _ ⟨-, hlength⟩
    rw [hconfig₁, hpeer₁, hhost₁] at hlength
    simpa using hlength hpeer hhost
  rw [Level.all, buildPackets]
  simp only [ensures_flow, if_pos]
  refine ⟨fun _ => hrest c rfl, fun hkeys => ?_⟩
  rw [not_or] at hkeys
  have hroom := hfits.resolve_left (by simpa using hkeys.1) |>.resolve_left (by simpa using hkeys.2)
  have hdiscarded : (c.spaces .initial).discarded = false := by simpa using hkeys.2
  apply ((buildPacket_sends .new now _ ackOnly hdiscarded (by simp)).and
    (buildPacket_demand (by decide) _ now _ ackOnly)).imp_true
  rintro packet c₁ ⟨⟨h₁, -⟩, hpacket⟩
  cases packet with
  | none => exact hrest c₁ h₁.outline
  | some packet =>
    have hpacket := hpacket packet rfl
    simp only [ensures_flow]
    refine ⟨fun h => absurd h.2 (by decide), fun _ => ⟨fun _ => ?_, fun h => absurd (by omega) h⟩⟩
    simp only [List.length_nil, List.nil_append] at hpacket ⊢
    push_cast at hpacket
    omega

theorem datagram_within_limit (h : Begins c) (ops : List (Op env)) (now : ℚ) (ackOnly : Bool)
    {datagram : OutgoingDatagram env} {c' : Conn env}
    (hsize : 1200 ≤ ((Session.start c).run ops).conn.config.maxDatagramSize)
    (hfits : ((Session.start c).run ops).conn.InitialFits)
    (hbuild : buildDatagram now ackOnly ((Session.start c).run ops).conn = .ok (some datagram) c') :
    datagram.data.length ≤ ((Session.start c).run ops).conn.config.maxDatagramSize := by
  obtain ⟨hhost, hpeer⟩ := Session.length_cids h ops
  have hbound : Ensures (buildDatagram now ackOnly) ((Session.start c).run ops).conn fun datagram _ => ∀ d,
      datagram = some d → d.data.length ≤ ((Session.start c).run ops).conn.config.maxDatagramSize := by
    simp only [buildDatagram, ensures_flow]
    refine ⟨fun _ _ hd => (by cases hd), fun hbudget => ?_⟩
    apply (buildPackets_fits now ackOnly (not_le.1 hbudget) hpeer hhost hsize hfits).imp
    rintro payload _ hlength
    refine ⟨fun _ _ hd => (by cases hd), ?_⟩
    rintro _ _ ⟨⟩
    exact hlength
  exact hbound.of_ok hbuild datagram rfl

end Limit

def datagramLength {env : Env} (c : Conn env) : ℕ :=
  match buildDatagram 0 false c with
  | .ok (some datagram) _ => datagram.data.length
  | _ => 0

lemma exists_of_datagramLength {env : Env} {c : Conn env} (h : 0 < datagramLength c) :
    ∃ datagram c', buildDatagram 0 false c = .ok (some datagram) c' ∧ datagram.data.length = datagramLength c := by
  unfold datagramLength at h ⊢
  split at h
  · next datagram c' hbuild => exact ⟨datagram, c', hbuild, rfl⟩
  · exact absurd h (lt_irrefl 0)

def plainHello (token : Bytes) : Conn .plain := plainClient { Config.default with token := token } none

lemma begins_plainHello (token : Bytes) : Begins (plainHello token) := begins_plainClient _ none

theorem datagram_within_limit_hello : ∃ datagram c',
    buildDatagram 0 false ((Session.start (plainHello [])).run []).conn = .ok (some datagram) c' ∧
      datagram.data.length = 1200 ∧
      datagram.data.length ≤ ((Session.start (plainHello [])).run []).conn.config.maxDatagramSize := by
  have hlength : datagramLength ((Session.start (plainHello [])).run []).conn = 1200 := by decide +kernel
  obtain ⟨datagram, c', hbuild, hdatagram⟩ := exists_of_datagramLength
    (c := ((Session.start (plainHello [])).run []).conn) (by rw [hlength]; decide)
  refine ⟨datagram, c', hbuild, hdatagram.trans hlength, ?_⟩
  exact datagram_within_limit (begins_plainHello []) [] 0 false (by decide +kernel) (by decide +kernel) hbuild

theorem token_overflows : ∃ datagram c',
    buildDatagram 0 false (plainHello (List.replicate 1200 0)) = .ok (some datagram) c' ∧
      (plainHello (List.replicate 1200 0)).config.maxDatagramSize < datagram.data.length := by
  have hlength : (plainHello (List.replicate 1200 0)).config.maxDatagramSize <
      datagramLength (plainHello (List.replicate 1200 0)) := by decide +kernel
  obtain ⟨datagram, c', hbuild, hdatagram⟩ := exists_of_datagramLength ((Nat.zero_le _).trans_lt hlength)
  rw [← hdatagram] at hlength
  exact ⟨datagram, c', hbuild, hlength⟩

end Dsquic.Connection
