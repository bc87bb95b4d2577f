import Dsquic.Connection.Backlog
import Dsquic.Connection.DatagramSize
import Dsquic.Connection.EarlyData
import Dsquic.Connection.Lifecycle
import Dsquic.Connection.Observed
import Dsquic.Connection.Plain
import Dsquic.Recovery.Completeness

/-!
What the first packet carries that answers a probe timeout. The timer puts the frames of the two oldest packets
back if nothing waits, and what waits may be held by flow control or be too long to go beside an acknowledgement.
-/

namespace Dsquic.Connection

open Lib Wire Streams Recovery

variable {env : Env} {n : ℕ}

def bearsData (frame : Frame) : Bool := isAckEliciting frame && frame ≠ .ping

section Acknowledgement

lemma takes_varintSub (value minus : ℕ) {parts : List (Except Raised Bytes)} (h : Takes parts n) :
    Takes (encodeVarintSub value minus :: parts) (8 + n) := by
  refine Takes.cons (fun data hdata => ?_) h
  unfold encodeVarintSub at hdata
  split_ifs at hdata
  exact (length_encodeVarint hdata).trans_le (varintLength_le _)

lemma takes_ackRanges (previousLow : ℕ) (ranges : List (ℕ × ℕ)) :
    Takes (encodeAckRanges previousLow ranges) (16 * ranges.length) := by
  induction ranges generalizing previousLow with
  | nil => exact takes_nil
  | cons range ranges ih =>
    obtain ⟨low, high⟩ := range
    refine (takes_varintSub _ _ (takes_varintSub _ _ (ih low))).mono ?_
    rw [List.length_cons]
    omega

lemma takes_ecn (ecn : Option EcnCounts) : Takes (encodeEcn ecn) 24 := by
  cases ecn with
  | none => exact takes_nil.mono (Nat.zero_le _)
  | some counts => exact takes_varint _ (takes_varint _ (takes_varint _ takes_nil))

lemma length_encode_ack {ack : Ack} {data : Bytes} (h : ack.encode = .ok data) :
    data.length ≤ 48 + 16 * ack.ranges.length := by
  unfold Ack.encode at h
  cases hranges : ack.ranges with
  | nil => simp [hranges] at h
  | cons range ranges =>
    simp only [hranges] at h
    by_cases hlargest : range.2 ≠ ack.largest
    · rw [if_pos hlargest] at h
      cases h
    · rw [if_neg hlargest] at h
      have hhead : Takes [encodeVarint (if ack.ecn.isSome then 0x03 else 0x02), encodeVarint ack.largest,
          encodeVarint ack.delay, encodeVarint ranges.length, encodeVarintSub range.2 range.1] 40 :=
        takes_varint _ (takes_varint _ (takes_varint _ (takes_varint _ (takes_varintSub _ _ takes_nil))))
      have hlength := ((hhead.append (takes_ackRanges _ _)).append (takes_ecn _)) data h
      rw [List.length_cons]
      omega

lemma ackLength_le (space : Space PacketKeys Bytes) : space.ackLength ≤ 560 := by
  unfold Space.ackLength
  cases hack : space.buildAck with
  | none => exact Nat.zero_le _
  | some ack =>
    have hranges : ack.ranges.length ≤ 32 := by
      simp only [Space.buildAck] at hack
      split_ifs at hack
      all_goals
        cases hack
        simp only [List.length_map, List.length_reverse, List.length_drop]
        omega
    dsimp only
    cases hencode : ack.encode with
    | error e => exact Nat.zero_le _
    | ok data =>
      have hlength := length_encode_ack hencode
      change data.length ≤ 560
      omega

end Acknowledgement

namespace Conn

def roomAt (c : Conn env) (level : Level) : ℤ := c.config.maxDatagramSize - 80 - (c.spaces level).ackLength

def Recopies (c : Conn env) (level : Level) : Prop :=
  ∃ crypto ∈ cryptoFrames (c.recovery.unacked level), ∀ encoded, crypto.encode = .ok encoded →
    (encoded.length : ℤ) ≤ c.roomAt level

def Controls (c : Conn env) (room : ℤ) : Prop :=
  ∃ frame ∈ c.controlFrames.head?, ∀ encoded, frame.encode = .ok encoded → (encoded.length : ℤ) ≤ room

def Gives (c : Conn env) (room : ℤ) : Prop :=
  ∃ m, c.streams = some m ∧ ∃ i ∈ m.writableStreams, ∃ send, m.send? i = some send ∧
    (send.nextFrame (room - 24) ((m.maxData : ℤ) - m.dataSent)).1.isSome

def Offers (c : Conn env) (level : Level) : Prop :=
  (c.spaces level).cryptoRetransmit ≠ [] ∨ (c.spaces level).cryptoPending ≠ [] ∨
    level = .oneRtt ∧ (c.handshakeDonePending = true ∨ c.Controls (c.roomAt .oneRtt) ∨ c.Gives (c.roomAt .oneRtt))

end Conn

variable {m : StreamManager} {send : SendStream} {i : ℕ}

section Offers

variable {c c' : Conn env} {level : Level} {room : ℤ}

lemma chooseAck_offers (hroom : (c.spaces level).ackLength ≤ room) :
    Ensures (chooseAck level room) c fun ack c' => ack.1.any isAckEliciting = false ∧
      ack.2 = (c.spaces level).ackLength ∧ c'.recovery = c.recovery ∧ c'.probesPending = c.probesPending ∧
      c'.controlFrames = c.controlFrames ∧ c'.handshakeDonePending = c.handshakeDonePending ∧
        c'.streams = c.streams ∧
      (c'.spaces level).cryptoRetransmit = (c.spaces level).cryptoRetransmit ∧
      (c'.spaces level).cryptoPending = (c.spaces level).cryptoPending ∧ (ack.1 = [] → c' = c) := by
  simp only [chooseAck, ensures_state]
  cases hack : (c.spaces level).buildAck with
  | none =>
    have hlength : (c.spaces level).ackLength = 0 := by simp [Space.ackLength, hack]
    exact ⟨rfl, hlength.symm, rfl, rfl, rfl, rfl, rfl, rfl, rfl, fun _ => rfl⟩
  | some ack =>
    simp only [ensures_flow]
    refine ⟨fun encoded hencoded => ?_, fun _ _ => trivial⟩
    have hlength : (c.spaces level).ackLength = encoded.length := by
      simp [Space.ackLength, hack, hencoded, Except.toOption]
    rw [hlength] at hroom
    refine ⟨fun _ => ⟨rfl, hlength.symm, rfl, rfl, rfl, rfl, rfl, ?_, ?_,
      fun hnone => absurd hnone (List.cons_ne_nil _ _)⟩, fun hlarge => absurd hroom hlarge⟩
    · simp [Conn.onSpace, Conn.setSpace]
    · simp [Conn.onSpace, Conn.setSpace]

lemma chooseCrypto_offers (hroom : 16 < room) :
    Ensures (chooseCrypto level room) c fun crypto c' => (∀ frame ∈ crypto.1, bearsData frame = true) ∧
      ((crypto.1 = [] ∧ crypto.2 = 0 ∧ c' = c ∧ (c.spaces level).cryptoRetransmit = [] ∧
        (c.spaces level).cryptoPending = []) ∨
        crypto.1 ≠ []) := by
  have hpos : 0 < (room - 16).toNat := by omega
  simp only [chooseCrypto, ensures_state]
  rcases nextCrypto_cases (c.spaces level) (room - 16).toNat with hnone | ⟨lost, rest, -, -, hlost⟩ | ⟨-, hnew⟩
  · have hsame : c.setSpace level (c.spaces level) = c := by simp [Conn.setSpace]
    simp only [hnone, hsame, ensures_pure]
    refine ⟨List.forall_mem_nil _, .inl ⟨trivial, trivial, trivial, ?_⟩⟩
    obtain ⟨available, havailable⟩ := Nat.exists_eq_succ_of_ne_zero hpos.ne'
    rw [havailable] at hnone
    simp only [Space.nextCrypto] at hnone
    cases hretransmit : (c.spaces level).cryptoRetransmit with
    | cons lost rest => simp [hretransmit] at hnone
    | nil =>
      refine ⟨rfl, ?_⟩
      cases hpending : (c.spaces level).cryptoPending with
      | nil => rfl
      | cons byte bytes => simp [hretransmit, hpending] at hnone
  · simp only [hlost, ensures_flow]
    exact ⟨fun _ _ => ⟨by simp [bearsData, isAckEliciting], .inr (List.cons_ne_nil _ _)⟩, fun _ _ => trivial⟩
  · simp only [hnew, ensures_flow]
    exact ⟨fun _ _ => ⟨by simp [bearsData, isAckEliciting], .inr (List.cons_ne_nil _ _)⟩, fun _ _ => trivial⟩

lemma takeControl_offers (frames : List Frame) (used : ℕ) (h : ∀ frame ∈ frames, bearsData frame = true) :
    Ensures (takeControl room frames used) c fun control c' => (∀ frame ∈ control.1, bearsData frame = true) ∧
      c'.streams = c.streams ∧ c'.recovery = c.recovery ∧ c'.probesPending = c.probesPending ∧
      (control.1 = [] → control.2 = used) := by
  induction frames generalizing used c with
  | nil => exact ⟨List.forall_mem_nil _, rfl, rfl, rfl, fun _ => rfl⟩
  | cons frame rest ih =>
    obtain ⟨hframe, hrest⟩ := List.forall_mem_cons.1 h
    simp only [takeControl, ensures_flow]
    refine ⟨fun _ =>
      ⟨fun encoded _ => ⟨fun _ => ⟨List.forall_mem_nil _, trivial, trivial, trivial, fun _ => trivial⟩,
      fun _ => ?_⟩,
      fun _ _ => trivial⟩, fun _ => ⟨List.forall_mem_nil _, trivial, trivial, trivial, fun _ => trivial⟩⟩
    refine (ih (used + encoded.length) hrest).imp fun control c' htaken => ?_
    obtain ⟨hbears, hstreams, hrecovery, hprobes, -⟩ := htaken
    exact ⟨List.forall_mem_cons.2 ⟨hframe, hbears⟩, hstreams, hrecovery, hprobes,
      fun hnone => absurd hnone (List.cons_ne_nil _ _)⟩

lemma takeControl_controls (hroom : 0 < room) (h : c.Controls room) :
    Ensures (takeControl room c.controlFrames 0) c fun control _ => control.1 ≠ [] := by
  obtain ⟨frame, hframe, hfits⟩ := h
  obtain ⟨rest, hcontrol⟩ := List.head?_eq_some_iff.1 hframe
  rw [hcontrol]
  simp only [takeControl, ensures_flow, Nat.cast_zero, sub_zero]
  refine ⟨fun _ =>
    ⟨fun encoded hencoded => ⟨fun hlarge => absurd (hfits encoded hencoded) (not_le.2 hlarge), fun _ => ?_⟩,
    fun _ _ => trivial⟩, fun hnone => absurd hroom hnone⟩
  exact (ensures_self _ _).imp_true fun _ _ _ => List.cons_ne_nil _ _

lemma takeStreams_bears (streamIds : List ℕ) (used : ℕ) :
    Ensures (takeStreams room streamIds used) c fun streams c' => (∀ frame ∈ streams.1, bearsData frame = true) ∧
      c'.recovery = c.recovery ∧ c'.probesPending = c.probesPending ∧ (streams.1 = [] → streams.2 = used) := by
  induction streamIds generalizing used c with
  | nil => exact ⟨List.forall_mem_nil _, rfl, rfl, fun _ => rfl⟩
  | cons streamId streamIds ih =>
    simp only [takeStreams, ensures_state]
    cases c.streams with
    | none => exact ⟨List.forall_mem_nil _, rfl, rfl, fun _ => rfl⟩
    | some streams =>
      simp only [ensures_flow, onStreams]
      refine ⟨fun _ => ⟨List.forall_mem_nil _, trivial, trivial, fun _ => trivial⟩,
        fun _ => (ensures_self _ _).imp_true (fun frame m _ => ?_)⟩
      cases frame with
      | none => exact ih used
      | some frame =>
        simp only [ensures_flow]
        refine ⟨fun encoded _ => (ih _).imp (fun taken c' htaken => ?_), fun _ _ => trivial⟩
        obtain ⟨hbears, hrecovery, hprobes, -⟩ := htaken
        exact ⟨List.forall_mem_cons.2 ⟨rfl, hbears⟩, hrecovery, hprobes,
          fun hnone => absurd hnone (List.cons_ne_nil _ _)⟩

lemma takeStreams_offers (hm : c.streams = some m) (streamIds : List ℕ) (used : ℕ)
    (hroom : 0 < room - used - 24) (hi : i ∈ streamIds) (hsend : m.send? i = some send)
    (hgives : (send.nextFrame (room - used - 24) ((m.maxData : ℤ) - m.dataSent)).1.isSome) :
    Ensures (takeStreams room streamIds used) c fun streams _ => streams.1 ≠ [] := by
  induction streamIds generalizing c m with
  | nil => exact absurd hi List.not_mem_nil
  | cons streamId streamIds ih =>
    simp only [takeStreams, ensures_state, hm]
    rw [if_neg (not_le.2 hroom), ensures_bind, onStreams, ensures_zoom]
    refine (m.nextFrame_spec streamId (room - used - 24)).imp_true fun frame m' hframe => ?_
    obtain ⟨first, hfirst, rfl, hm'⟩ := hframe
    cases hnext : (first.nextFrame (room - used - 24) ((m.maxData : ℤ) - m.dataSent)).1 with
    | some frame =>
      simp only [ensures_flow]
      refine ⟨fun encoded _ => (ensures_self _ _).imp_true (fun _ _ _ => List.cons_ne_nil _ _), fun _ _ => trivial⟩
    | none =>
      rw [hnext] at hm'
      have hother : i ≠ streamId := by
        rintro rfl
        rw [hfirst] at hsend
        cases hsend
        rw [hnext] at hgives
        cases hgives
      have hkept : m'.send? i = some send := by
        rw [hm']
        exact ((m.send?_setSend _ _ _).trans (if_neg hother)).trans hsend
      have hcredit : ((m'.maxData : ℤ) - m'.dataSent) = m.maxData - m.dataSent := by rw [hm']; rfl
      refine ih rfl ((List.mem_cons.1 hi).resolve_left hother) hkept ?_
      rw [hcredit]
      exact hgives

lemma applicationFramesAt_offers (hcontrol : level = .oneRtt → ∀ frame ∈ c.controlFrames, bearsData frame = true) :
    Ensures (applicationFramesAt level room) c fun application c' =>
      (∀ frame ∈ application.1, bearsData frame = true) ∧ c'.recovery = c.recovery ∧
      c'.probesPending = c.probesPending ∧ (application.1 = [] → application.2 = 0) ∧
      (level = .oneRtt → c.handshakeDonePending = true ∨ 24 < room ∧ (c.Controls room ∨ c.Gives room) →
        application.1 ≠ []) := by
  rw [applicationFramesAt, ensures_ite]
  refine ⟨fun hlevel => ?_,
    fun hlevel => ⟨List.forall_mem_nil _, rfl, rfl, fun _ => rfl, fun hlevel' => absurd hlevel' hlevel⟩⟩
  have hcontrol := hcontrol hlevel
  simp only [applicationFrames, chooseHandshakeDone, ensures_flow]
  constructor
  · intro _
    refine (takeControl_offers _ 1 hcontrol).imp fun control c₂ h₂ => ?_
    obtain ⟨hcontrols, -, hrecovery₂, hprobes₂, -⟩ := h₂
    refine (takeStreams_bears _ _).imp fun streams c₃ h₃ => ?_
    obtain ⟨hstreams, hrecovery₃, hprobes₃, -⟩ := h₃
    refine ⟨?_, hrecovery₃.trans hrecovery₂, hprobes₃.trans hprobes₂,
      fun hnone => absurd hnone (List.cons_ne_nil _ _), fun _ _ => List.cons_ne_nil _ _⟩
    simp only [List.forall_mem_append]
    exact ⟨⟨by simp [bearsData, isAckEliciting], hcontrols⟩, hstreams⟩
  · intro hdone
    have hcontrols : Ensures (takeControl room c.controlFrames 0) c
        fun control _ => 24 < room → c.Controls room → control.1 ≠ [] := by
      by_cases hfits : 24 < room ∧ c.Controls room
      · exact (takeControl_controls (by omega) hfits.2).imp fun _ _ h _ _ => h
      · exact (ensures_self _ _).imp_true fun _ _ _ hroom hnext => absurd ⟨hroom, hnext⟩ hfits
    refine ((takeControl_offers _ 0 hcontrol).and hcontrols).mono (fun control c₂ h₂ => ?_) fun _ _ h => h.1
    obtain ⟨⟨hbears, hstreams, hrecovery₂, hprobes₂, hunused⟩, hcontrols⟩ := h₂
    have hgiven : Ensures (takeStreams room ((c₂.streams.map (·.writableStreams)).getD []) control.2) c₂
        fun streams _ => control.1 = [] → 24 < room ∧ c.Gives room → streams.1 ≠ [] := by
      by_cases hoffer : control.1 = [] ∧ 24 < room ∧ c.Gives room
      · obtain ⟨hnone, hroom, m, hm, i, hi, send, hsend, hgives⟩ := hoffer
        have hused := hunused hnone
        have hm₂ : c₂.streams = some m := hstreams.trans hm
        refine (takeStreams_offers hm₂ _ control.2 ?_ (i := i) ?_ hsend ?_).imp fun _ _ h _ _ => h
        · rw [hused]
          push_cast
          omega
        · simpa [hm₂] using hi
        · rw [hused, Nat.cast_zero, sub_zero]
          exact hgives
      · exact (ensures_self _ _).imp_true fun _ _ _ hnone hgives => absurd ⟨hnone, hgives⟩ hoffer
    refine ((takeStreams_bears _ _).and hgiven).mono (fun streams c₃ h₃ => ?_) fun _ _ h => h.1
    obtain ⟨⟨htaken, hrecovery₃, hprobes₃, hunused₃⟩, hgives⟩ := h₃
    refine ⟨?_, hrecovery₃.trans hrecovery₂, hprobes₃.trans hprobes₂, fun hempty => ?_, fun _ hoffers hempty => ?_⟩
    · simp only [List.nil_append, List.forall_mem_append]
      exact ⟨hbears, htaken⟩
    · obtain ⟨hnone, hnothing⟩ := List.append_eq_nil_iff.1 hempty
      exact (hunused₃ hnothing).trans (hunused hnone)
    · obtain ⟨hnone, hnothing⟩ := List.append_eq_nil_iff.1 hempty
      obtain ⟨hroom, hnext⟩ := hoffers.resolve_left (by simpa using hdone)
      exact hgives hnone ⟨hroom, hnext.resolve_left fun hfits => hcontrols hroom hfits hnone⟩ hnothing

lemma firstFitting_offers {frames : List Crypto} {crypto : Crypto} (hcrypto : crypto ∈ frames)
    (hfits : ∀ encoded, crypto.encode = .ok encoded → (encoded.length : ℤ) ≤ room) {filler : Frame}
    (h : firstFitting room frames = .ok filler) : bearsData filler = true := by
  induction frames with
  | nil => exact absurd hcrypto List.not_mem_nil
  | cons frame frames ih =>
    obtain ⟨encoded, hencoded, h⟩ := bind_eq_ok.1 h
    split_ifs at h with hroom
    · cases h
      rfl
    · rcases List.mem_cons.1 hcrypto with rfl | hcrypto
      · exact absurd (hfits encoded hencoded) hroom
      · exact ih hcrypto h

lemma pendingFrames_offers (hsize : 1200 ≤ c.config.maxDatagramSize) (howed : c.probesPending level ≠ 0)
    (hcontrol : level = .oneRtt → ∀ frame ∈ c.controlFrames, bearsData frame = true)
    (h : c.Offers level ∨ c.Recopies level)
    (hroom : room = c.config.maxDatagramSize - 80) :
    Ensures (pendingFrames level room false) c fun frames _ => frames.any bearsData = true := by
  have hack := ackLength_le (c.spaces level)
  have hrest : room - (c.spaces level).ackLength = c.roomAt level := by rw [hroom, Conn.roomAt]
  simp only [pendingFrames, ensures_state, Bool.false_eq_true, if_false]
  refine (chooseAck_offers (by omega)).imp fun ack c₁ h₁ => ?_
  obtain ⟨hquiet, hused, hrecovery, hprobes, hcontrol₁, hdone, hstreams, hretransmit, hpending, -⟩ := h₁
  rw [hused, hrest]
  refine (chooseCrypto_offers (by rw [Conn.roomAt]; omega)).imp fun crypto c₂ h₂ => ?_
  obtain ⟨hbears, ⟨hnone, hzero, rfl, hlost, hwaiting⟩ | hsome⟩ := h₂
  · -- no CRYPTO data waits, so the rest of the room is left
    rw [hnone, hzero, Nat.add_zero, hrest]
    refine (applicationFramesAt_offers (by rw [hcontrol₁]; exact hcontrol)).imp fun application c₃ h₃ => ?_
    obtain ⟨happlication, hrecovery₃, hprobes₃, hunused, hgives⟩ := h₃
    by_cases hempty : application.1 = []
    · have hrecopies : c.Recopies level := by
        refine h.resolve_left ?_
        rintro (hretransmit' | hpending' | ⟨rfl, hoffers⟩)
        · exact hretransmit' (hretransmit.symm.trans hlost)
        · exact hpending' (hpending.symm.trans hwaiting)
        · refine hgives rfl ?_ hempty
          rw [hdone, Conn.Controls, Conn.Gives, hcontrol₁, hstreams]
          exact hoffers.imp_right fun hgives => ⟨by rw [Conn.roomAt]; omega, hgives⟩
      obtain ⟨fitting, hfitting, hfits⟩ := hrecopies
      have howed₃ : c₃.probesPending level ≠ 0 := by rwa [hprobes₃, hprobes]
      simp only [chooseProbe, ensures_flow, hempty, hunused hempty, hrest, Nat.add_zero, List.append_nil, hquiet,
        hrecovery₃, hrecovery]
      refine ⟨fun hpaid => absurd hpaid howed₃, fun _ => ⟨fun hsome => absurd hsome Bool.false_ne_true,
        fun _ => ⟨fun filler hfiller => ?_, fun _ _ => trivial⟩⟩⟩
      refine ⟨fun _ _ => ?_, fun _ _ => trivial⟩
      exact List.any_eq_true.2 ⟨filler, by simp, firstFitting_offers hfitting hfits hfiller⟩
    · obtain ⟨frame, hframe⟩ := List.exists_mem_of_ne_nil _ hempty
      refine (ensures_self _ _).imp_true fun filler c₄ _ => ?_
      exact List.any_eq_true.2 ⟨frame, by simp [hframe], happlication frame hframe⟩
  · obtain ⟨frame, hframe⟩ := List.exists_mem_of_ne_nil _ hsome
    refine (ensures_self _ _).imp_true fun application c₃ _ => ?_
    refine (ensures_self _ _).imp_true fun filler c₄ _ => ?_
    exact List.any_eq_true.2 ⟨frame, by simp [hframe], hbears frame hframe⟩

end Offers

def sealedAt (level : Level) (trace : List Note) : List (List Frame) :=
  trace.filterMap fun
    | .sealed other _ _ frames => if other = level then some frames else none
    | _ => none

def Conn.sealedSince (c c' : Conn env) (level : Level) : List (List Frame) :=
  sealedAt level (c'.trace.take (c'.trace.length - c.trace.length))

def Stamps (level : Level) (packets : List (List Frame)) (c c' : Conn env) : Prop :=
  ∃ notes, c'.trace = notes ++ c.trace ∧ sealedAt level notes = packets

structure Spares (level : Level) (c c' : Conn env) : Prop where
  config : c'.config = c.config
  space : c'.spaces level = c.spaces level
  probes : c'.probesPending level = c.probesPending level
  sent : c'.recovery.spaces level = c.recovery.spaces level
  handshake : (c.spaces .handshake).discarded = true → (c'.spaces .handshake).discarded = true
  application : level = .oneRtt → c'.controlFrames = c.controlFrames ∧
    c'.handshakeDonePending = c.handshakeDonePending ∧ c'.streams = c.streams

structure Conn.Ready (c : Conn env) (level : Level) : Prop where
  size : 1200 ≤ c.config.maxDatagramSize
  owed : c.probesPending level ≠ 0
  controls : level = .oneRtt → ∀ frame ∈ c.controlFrames, bearsData frame = true
  alone : level = .oneRtt → (c.spaces .handshake).discarded = true
  offers : c.Offers level ∨ c.Recopies level

section Turns

variable {c c' c'' : Conn env} {level other : Level} {packets packets' : List (List Frame)} {now : ℚ}
  {ackOnly : Bool}

lemma Stamps.since (h : Stamps level packets c c') : c.sealedSince c' level = packets := by
  obtain ⟨notes, htrace, rfl⟩ := h
  rw [Conn.sealedSince, htrace, List.length_append, Nat.add_sub_cancel, List.take_left]

lemma Stamps.of_trace (h : c'.trace = c.trace) : Stamps level [] c c' := ⟨[], h, rfl⟩

lemma Stamps.trans (h : Stamps level packets c c') (h' : Stamps level packets' c' c'') :
    Stamps level (packets' ++ packets) c c'' := by
  obtain ⟨notes, htrace, rfl⟩ := h
  obtain ⟨notes', htrace', rfl⟩ := h'
  refine ⟨notes' ++ notes, by rw [htrace', htrace, List.append_assoc], ?_⟩
  exact List.filterMap_append

lemma Spares.refl (c : Conn env) : Spares level c c := ⟨rfl, rfl, rfl, rfl, id, fun _ => ⟨rfl, rfl, rfl⟩⟩

lemma Spares.trans (h : Spares level c c') (h' : Spares level c' c'') : Spares level c c'' where
  config := h'.config.trans h.config
  space := h'.space.trans h.space
  probes := h'.probes.trans h.probes
  sent := h'.sent.trans h.sent
  handshake hdiscarded := h'.handshake (h.handshake hdiscarded)
  application hlevel := by
    obtain ⟨hcontrol, hdone, hstreams⟩ := h.application hlevel
    obtain ⟨hcontrol', hdone', hstreams'⟩ := h'.application hlevel
    exact ⟨hcontrol'.trans hcontrol, hdone'.trans hdone, hstreams'.trans hstreams⟩

lemma Spares.roomAt (h : Spares level c c') : c'.roomAt level = c.roomAt level := by
  rw [Conn.roomAt, Conn.roomAt, h.config, h.space]

lemma Spares.offers (h : Spares level c c') : c'.Offers level ∨ c'.Recopies level ↔ c.Offers level ∨
    c.Recopies level := by
  have hunacked : c'.recovery.unacked level = c.recovery.unacked level := by
    rw [LossDetection.unacked, LossDetection.unacked, h.sent]
  refine or_congr ?_ ?_
  · simp only [Conn.Offers, h.space]
    refine or_congr Iff.rfl (or_congr Iff.rfl (and_congr_right ?_))
    rintro rfl
    obtain ⟨hcontrol, hdone, hstreams⟩ := h.application rfl
    rw [hdone, Conn.Controls, Conn.Controls, Conn.Gives, Conn.Gives, hcontrol, hstreams, h.roomAt]
  · rw [Conn.Recopies, Conn.Recopies, hunacked, h.roomAt]

lemma Conn.Ready.spared (hready : c.Ready level) (h : Spares level c c') : c'.Ready level where
  size := by rw [h.config]; exact hready.size
  owed := by rw [h.probes]; exact hready.owed
  controls hlevel := by rw [(h.application hlevel).1]; exact hready.controls hlevel
  alone hlevel := h.handshake (hready.alone hlevel)
  offers := h.offers.2 hready.offers

lemma buildPacket_spares (hother : other ≠ level) (room : ℤ) (padTo : ℕ) (ackOnly : Bool) :
    Ensures (buildPacket other room now padTo ackOnly) c fun _ c' => Spares level c c' ∧ Stamps level [] c c' := by
  have hframes (room : ℤ) : Ensures (pendingFrames other room ackOnly) c fun _ c₁ =>
      Spares level c c₁ ∧ c₁.trace = c.trace := by
    apply ((pendingFrames_sends .new [] ackOnly).and ((pendingFrames_pays ackOnly).and
      (pendingFrames_touches ackOnly))).imp_true
    rintro frames c₁ ⟨hsends, hpays, htouches⟩
    have hrecovery : c₁.recovery = c.recovery := congrArg Timing.recovery hpays.timing
    refine ⟨⟨congrArg Outline.config hsends.outline, htouches.spaces level hother.symm,
      htouches.probes level hother.symm, by rw [hrecovery], fun h => ?_, fun hlevel => ?_⟩, htouches.trace⟩
    · rwa [hsends.discarded]
    · exact htouches.application fun h => hother (h.trans hlevel.symm)
  apply ensures_buildPacket ⟨.refl c, .of_trace rfl⟩ (fun _ => hframes _) fun _ h => ⟨h.1, .of_trace h.2⟩
  rintro keys frames c₁ payload - ⟨hspares, htrace⟩ - -
  apply (sealPacket_spec keys _ padTo (padPayload payload) _ frames).imp_true
  rintro packet c₂ rfl
  have hsealed : Stamps level [] c₁ ((c₁.takeNumber other).note (.sealed other keys
      (c₁.spaces other).nextPacketNumber frames)) := by
    refine ⟨[.sealed other keys (c₁.spaces other).nextPacketNumber frames], rfl, ?_⟩
    simp [sealedAt, hother]
  refine ⟨hspares.trans ⟨rfl, ?_, rfl, ?_, fun h => ?_, fun _ => ⟨rfl, rfl, rfl⟩⟩,
    (Stamps.of_trace htrace).trans hsealed⟩
  · exact Function.update_of_ne hother.symm _ _
  · exact (LossDetection.spaces_setSpace _ _ _ _).trans (if_neg hother.symm)
  · exact (congrArg Rim.discarded (Conn.rim_setSpace (by rfl) .handshake)).trans h

lemma buildPacket_ready (h : c.Ready level) (padTo : ℕ) (ackOnly : Bool) :
    Ensures (buildPacket level c.config.maxDatagramSize now padTo ackOnly) c fun packet c' =>
      (packet = none ∧ c' = c) ∨ ∃ frames, packet.isSome ∧ Stamps level [frames] c c' ∧
        (ackOnly = false → frames.any bearsData = true) := by
  have hack := ackLength_le (c.spaces level)
  have hsize := h.size
  have hframes : Ensures (pendingFrames level (c.config.maxDatagramSize - 64 - (aeadTagLength : ℕ)) ackOnly) c
      fun frames c' => (frames = [] → c' = c) ∧ (ackOnly = false → frames.any bearsData = true) := by
    cases ackOnly with
    | true =>
      simp only [pendingFrames, ensures_bind, if_true, ensures_pure]
      refine (chooseAck_offers (by rw [aeadTagLength]; omega)).imp fun ack c₁ h₁ => ?_
      obtain ⟨-, -, -, -, -, -, -, -, -, hsame⟩ := h₁
      exact ⟨hsame, fun hfalse => absurd hfalse (by decide)⟩
    | false =>
      refine (pendingFrames_offers h.size h.owed h.controls h.offers ?_).imp fun frames _ hbears => ?_
      · rw [aeadTagLength]
        omega
      · refine ⟨fun hnone => ?_, fun _ => hbears⟩
        rw [hnone] at hbears
        cases hbears
  apply ensures_buildPacket (.inl ⟨rfl, rfl⟩)
    (fun _ => ((pendingFrames_touches ackOnly).and hframes).imp_true fun _ _ => id)
    fun _ h => .inl ⟨rfl, h.2.1 rfl⟩
  rintro keys frames c₁ payload - ⟨htouches, -, hbears⟩ - -
  apply (sealPacket_spec keys _ padTo (padPayload payload) _ frames).imp_true
  rintro packet c₂ rfl
  have hsealed : Stamps level [frames] c₁ ((c₁.takeNumber level).note (.sealed level keys
      (c₁.spaces level).nextPacketNumber frames)) := by
    refine ⟨[.sealed level keys (c₁.spaces level).nextPacketNumber frames], rfl, ?_⟩
    simp [sealedAt]
  exact .inr ⟨frames, rfl, (Stamps.of_trace htouches.trace).trans hsealed, hbears⟩

structure Lapses (level : Level) (c c' : Conn env) : Prop where
  stamps : Stamps level [] c c'
  spares : Spares level c c' ∨ (c'.spaces level).discarded = true

lemma Lapses.refl (c : Conn env) : Lapses level c c := ⟨.of_trace rfl, .inl (.refl c)⟩

lemma Lapses.trans (h : Lapses level c c') (h' : Lapses level c' c'') : Lapses level c c'' := by
  refine ⟨h.stamps.trans h'.stamps, ?_⟩
  rcases h'.spares with hspares' | hdiscarded
  · refine h.spares.imp (fun hspares => hspares.trans hspares') fun hdiscarded => ?_
    rw [hspares'.space]
    exact hdiscarded
  · exact .inr hdiscarded

lemma discardSpace_lapses (c : Conn env) : Lapses level c (c.discardSpace .initial) := by
  rw [Conn.discardSpace]
  split_ifs
  · exact .refl c
  · refine ⟨⟨[.discarded .initial (c.probesPending .initial)], rfl, rfl⟩, ?_⟩
    by_cases hlevel : level = .initial
    · subst hlevel
      exact .inr (by simp [Conn.onSpace, Conn.setSpace])
    · refine .inl ⟨rfl, ?_, rfl, ?_, fun h => h, fun _ => ⟨rfl, rfl, rfl⟩⟩
      · exact Function.update_of_ne hlevel _ _
      · exact (LossDetection.spaces_setSpace _ _ _ _).trans (if_neg hlevel)

lemma Lapses.discarded (h : Lapses level c c') (hdiscarded : (c.spaces level).discarded = true) :
    (c'.spaces level).discarded = true := by
  refine h.spares.elim (fun hspares => ?_) id
  rw [hspares.space]
  exact hdiscarded

lemma buildPackets_lapses (ackOnly : Bool) (budget : ℤ) (levels : List Level) (payload : Bytes)
    (hlevel : level ∉ levels ∨ (c.spaces level).discarded = true) :
    Ensures (buildPackets now ackOnly budget levels payload) c fun _ => Lapses level c := by
  induction levels generalizing payload c with
  | nil => exact .refl c
  | cons first levels ih =>
    have hlevels : level ∉ levels ∨ (c.spaces level).discarded = true :=
      hlevel.imp_left fun hmem => mt (List.mem_cons_of_mem first) hmem
    have hrest : ∀ (payload₁ : Bytes) (c₁ : Conn env), Lapses level c c₁ →
        Ensures (buildPackets now ackOnly budget levels payload₁) c₁ fun _ => Lapses level c :=
      fun payload₁ c₁ h₁ => (ih payload₁ (hlevels.imp_right h₁.discarded)).imp (fun _ _ h₂ => h₁.trans h₂)
    simp only [buildPackets, ensures_flow]
    refine ⟨fun _ => ih payload hlevels, fun hkeys => ?_⟩
    have hfirst : first ≠ level := by
      rintro rfl
      rcases hlevel with hmem | hdiscarded
      · exact hmem List.mem_cons_self
      · exact hkeys (.inr hdiscarded)
    refine (buildPacket_spares hfirst _ _ ackOnly).imp fun packet c₁ h₁ => ?_
    have h₁ : Lapses level c c₁ := ⟨h₁.2, .inl h₁.1⟩
    cases packet with
    | none => exact hrest payload c₁ h₁
    | some packet =>
      simp only [ensures_flow]
      have hgiven := h₁.trans (discardSpace_lapses c₁)
      exact ⟨fun _ => ⟨fun _ => hgiven, fun _ => hrest _ _ hgiven⟩, fun _ => ⟨fun _ => h₁, fun _ => hrest _ c₁ h₁⟩⟩

def Answers (level : Level) (ackOnly : Bool) (c c' : Conn env) : Prop :=
  Lapses level c c' ∨ ∃ frames, Stamps level [frames] c c' ∧ (ackOnly = false → frames.any bearsData = true)

lemma Answers.lapses (h' : Answers level ackOnly c' c'') (h : Lapses level c c') :
    Answers level ackOnly c c'' := by
  rcases h' with h' | ⟨frames, hstamps, hbears⟩
  · exact .inl (h.trans h')
  · exact .inr ⟨frames, by simpa using h.stamps.trans hstamps, hbears⟩

lemma Answers.lapsed (h : Answers level ackOnly c c') (h' : Lapses level c' c'') :
    Answers level ackOnly c c'' := by
  rcases h with h | ⟨frames, hstamps, hbears⟩
  · exact .inl (h.trans h')
  · exact .inr ⟨frames, by simpa using hstamps.trans h'.stamps, hbears⟩

def Ordered (levels : List Level) : Prop := levels.Pairwise fun a b => a ≠ .oneRtt ∧ b ≠ .initial ∧ a ≠ b

lemma buildPackets_answers (ackOnly : Bool) {budget : ℤ} (hbudget : 0 < budget) (levels : List Level)
    (hlevels : Ordered levels) (h : c.Ready level) :
    Ensures (buildPackets now ackOnly budget levels []) c fun _ => Answers level ackOnly c := by
  induction levels generalizing c with
  | nil => exact .inl (.refl c)
  | cons first levels ih =>
    obtain ⟨hafter, hlevels⟩ := List.pairwise_cons.1 hlevels
    simp only [buildPackets, ensures_flow, List.length_nil, Nat.cast_zero, sub_zero, List.nil_append]
    refine ⟨fun _ => ih hlevels h, fun hkeys => ?_⟩
    by_cases hfirst : first = level
    · subst hfirst
      have hgone : first ∉ levels := fun hmem => (hafter first hmem).2.2 rfl
      refine (buildPacket_ready h _ ackOnly).imp fun packet c₁ h₁ => ?_
      rcases h₁ with ⟨rfl, rfl⟩ | ⟨frames, hsome, hstamps, hbears⟩
      · exact (buildPackets_lapses ackOnly budget levels [] (.inl hgone)).imp fun _ _ h => .inl h
      · obtain ⟨packet, rfl⟩ := Option.isSome_iff_exists.1 hsome
        have hanswers : Answers first ackOnly c c₁ := .inr ⟨frames, hstamps, hbears⟩
        have hgiven := hanswers.lapsed (discardSpace_lapses c₁)
        have hrest : ∀ c₂ : Conn env, Answers first ackOnly c c₂ →
          Ensures (buildPackets now ackOnly budget levels packet)
            c₂ fun _ => Answers first ackOnly c :=
          fun c₂ h₂ => (buildPackets_lapses ackOnly budget levels packet (.inl hgone)).mono
            (fun _ _ h₃ => h₂.lapsed h₃) fun _ _ h => h
        simp only [ensures_flow]
        exact ⟨fun _ => ⟨fun _ => hgiven, fun _ => hrest _ hgiven⟩,
          fun _ => ⟨fun _ => hanswers, fun _ => hrest c₁ hanswers⟩⟩
    · refine (buildPacket_spares hfirst _ _ ackOnly).imp fun packet c₁ h₁ => ?_
      obtain ⟨hspares, hstamps⟩ := h₁
      have h₁ : Lapses level c c₁ := ⟨hstamps, .inl hspares⟩
      cases packet with
      | none => exact (ih hlevels (h.spared hspares)).imp (fun _ _ h₂ => h₂.lapses h₁)
      | some packet =>
        simp only [ensures_flow]
        by_cases hinitial : first = .initial
        · subst hinitial
          refine ⟨fun hgives => absurd hgives.2 (by decide), fun _ => ⟨fun _ => .inl h₁, fun hpad => ?_⟩⟩
          refine absurd ?_ hpad
          rw [if_pos rfl]
          omega
        · -- a Handshake packet leaves the datagram to no other level that owes a probe
          have hgone : level ∉ levels := by
            intro hmem
            obtain ⟨hlast, hlevel, -⟩ := hafter level hmem
            have hhandshake : first = .handshake := by cases first <;> simp_all
            have honeRtt : level = .oneRtt := by cases level <;> simp_all
            subst hhandshake
            exact hkeys (.inr (h.alone honeRtt))
          have hrest : ∀ c₂ : Conn env, Lapses level c c₂ →
            Ensures (buildPackets now ackOnly budget levels packet) c₂
              fun _ => Answers level ackOnly c :=
            fun c₂ h₂ => (buildPackets_lapses ackOnly budget levels packet (.inl hgone)).mono
              (fun _ _ h₃ => .inl (h₂.trans h₃)) fun _ _ h => h
          have hgiven := h₁.trans (discardSpace_lapses c₁)
          exact ⟨fun _ => ⟨fun _ => .inl hgiven, fun _ => hrest _ hgiven⟩,
            fun _ => ⟨fun _ => .inl h₁, fun _ => hrest c₁ h₁⟩⟩

def Conn.Prepared (c : Conn env) (level : Level) : Prop := c.Ready level ∨ (c.spaces level).discarded = true

lemma Conn.Prepared.lapses (hprepared : c.Prepared level) (h : Lapses level c c') : c'.Prepared level := by
  rcases hprepared with hready | hdiscarded
  · exact h.spares.imp_left hready.spared
  · exact .inr (h.discarded hdiscarded)

lemma countSent_lapses (c : Conn env) (length : ℕ) : Lapses level c (c.countSent length) :=
  ⟨⟨[.built c.unvalidated c.allowance], rfl, rfl⟩, .inl ⟨rfl, rfl, rfl, rfl, id, fun _ => ⟨rfl, rfl, rfl⟩⟩⟩

lemma pacingBlocked_lapses (level : Level) (now : ℚ) :
    Ensures (pacingBlocked now) c fun _ => Lapses level c := by
  have hpaced : ∀ (c : Conn env) credit updated deadline, Lapses level c { c with
      pacingCredit := credit, pacingUpdated := updated, pacingDeadline := deadline } :=
    fun _ _ _ _ => ⟨.of_trace rfl, .inl ⟨rfl, rfl, rfl, rfl, id, fun _ => ⟨rfl, rfl, rfl⟩⟩⟩
  have hallowance : Ensures (pacingAllowance now) c (fun _ => Lapses level c) fun _ _ => False := by
    simp only [pacingAllowance, ensures_state]
    cases c.recovery.controller.pacingRate c.recovery.rtt.smoothed with
    | none => exact .refl c
    | some rate => exact hpaced c _ _ c.pacingDeadline
  exact (ensures_pacingBlocked hallowance (fun _ h => h) fun c₁ _ _ h => h.trans (hpaced c₁ _ _ _)).imp_true
    fun _ _ => id

lemma buildDatagram_answers (ackOnly : Bool) (h : c.Prepared level) :
    Ensures (buildDatagram now ackOnly) c fun _ => Answers level ackOnly c := by
  simp only [buildDatagram, ensures_flow]
  refine ⟨fun _ => .inl (.refl c), fun hbudget => ?_⟩
  have hanswers : Ensures (buildPackets now ackOnly (c.sendBudget ackOnly) Level.all []) c
      fun _ => Answers level ackOnly c := by
    rcases h with hready | hdiscarded
    · exact buildPackets_answers ackOnly (not_le.1 hbudget) Level.all (by simp [Ordered, Level.all]) hready
    · exact (buildPackets_lapses ackOnly _ Level.all [] (.inr hdiscarded)).imp fun _ _ h => .inl h
  exact hanswers.imp fun _ c₁ h₁ => ⟨fun _ => h₁, fun _ => h₁.lapsed (countSent_lapses c₁ _)⟩

lemma maybeUpdateKeys_prepared (h : c.Prepared level) :
    Ensures (maybeUpdateKeys now) c fun _ c' => c'.Prepared level := by
  have hsame : ∀ note retention space, (c.spaces .oneRtt).rotateKeys env.nextGeneration now retention = .ok space →
      ((c.note note).setSpace .oneRtt space).Prepared level := by
    intro note retention space hspace
    obtain ⟨hlost, hwaiting, hack, hgone⟩ : space.cryptoRetransmit = (c.spaces .oneRtt).cryptoRetransmit ∧
        space.cryptoPending = (c.spaces .oneRtt).cryptoPending ∧ space.ackLength = (c.spaces .oneRtt).ackLength ∧
        space.discarded = (c.spaces .oneRtt).discarded := by
      simp only [Space.rotateKeys] at hspace
      split at hspace
      · cases hspace
        exact ⟨rfl, rfl, rfl, rfl⟩
      · cases hspace
    by_cases hlevel : level = .oneRtt
    · subst hlevel
      have hspaces : ((c.note note).setSpace .oneRtt space).spaces .oneRtt = space := by simp [Conn.setSpace]
      have hroom : ((c.note note).setSpace .oneRtt space).roomAt .oneRtt = c.roomAt .oneRtt := by
        rw [Conn.roomAt, Conn.roomAt, hspaces, hack]
        rfl
      refine h.imp (fun hready => ⟨hready.size, hready.owed, hready.controls, hready.alone, ?_⟩) fun hdiscarded =>
        ?_
      · refine hready.offers.imp (fun hoffers => ?_) fun hrecopies => ?_
        · rw [Conn.Offers, hspaces, hlost, hwaiting, hroom]
          exact hoffers
        · rw [Conn.Recopies, hroom]
          exact hrecopies
      · rw [hspaces, hgone]
        exact hdiscarded
    · have hspaces : ((c.note note).setSpace .oneRtt space).spaces level = c.spaces level :=
        Function.update_of_ne hlevel _ _
      refine h.imp (fun hready => hready.spared ?_) fun hdiscarded => by rwa [hspaces]
      exact ⟨rfl, hspaces, rfl, rfl, id, fun _ => ⟨rfl, rfl, rfl⟩⟩
  simp only [maybeUpdateKeys, ensures_state]
  cases c.config.keyUpdateInterval with
  | none => exact h
  | some interval =>
    simp only [ensures_flow, initiateKeyUpdate, rotateKeys]
    exact ⟨fun _ => ⟨fun _ => ⟨fun space hspace => hsame _ _ space hspace, fun _ _ => trivial⟩, fun _ => h⟩,
      fun _ => h⟩

def packetsToSend (level : Level) (now : ℚ) (rounds : ℕ) :
    M env (List (OutgoingDatagram env × Bool × List (List Frame))) :=
  observeToSend (fun pacedOut c c' => (pacedOut, c.sealedSince c' level)) (false, []) now rounds

def firstProbe (observed : List (OutgoingDatagram env × Bool × List (List Frame))) :
    Option (Bool × List (List Frame)) :=
  (observed.map Prod.snd).find? fun seen => !seen.2.isEmpty

/-- Unless the pacer holds it back, the first datagram with a packet of the level has one, which carries data. -/
def Probes (observed : List (OutgoingDatagram env × Bool × List (List Frame))) : Prop :=
  ∀ packets, firstProbe observed = some (false, packets) → ∃ frames, packets = [frames] ∧
    frames.any bearsData = true

lemma firstProbe_append (datagrams : List (OutgoingDatagram env))
    (observed : List (OutgoingDatagram env × Bool × List (List Frame))) :
    firstProbe (datagrams.map (·, false, []) ++ observed) = firstProbe observed := by
  induction datagrams with
  | nil => rfl
  | cons datagram datagrams ih => exact ih

lemma observeDatagrams_probes (rounds : ℕ) (h : c.Prepared level) :
    Ensures (observeDatagrams (fun pacedOut c c' => (pacedOut, c.sealedSince c' level)) now rounds) c
      fun observed _ => Probes observed := by
  induction rounds generalizing c with
  | zero => trivial
  | succ rounds ih =>
    simp only [observeDatagrams, ensures_state]
    refine (pacingBlocked_lapses level now).imp fun pacedOut c₁ h₁ => ?_
    have hprepared := h.lapses h₁
    refine (buildDatagram_answers pacedOut hprepared).imp fun datagram c₂ h₂ => ?_
    cases datagram with
    | none => exact fun _ hnone => absurd hnone (Option.some_ne_none _).symm
    | some datagram =>
      simp only [ensures_state]
      rcases h₂ with hlapses | ⟨frames, hstamps, hbears⟩
      · -- the datagram has no packet of the level, so the next one is looked at
        have hkept : Conn.Prepared { c₂ with pacingCredit := c₂.pacingCredit -
            (c₂.recovery.controller.bytesInFlight - c₁.recovery.controller.bytesInFlight : ℤ) } level :=
          (hprepared.lapses hlapses).lapses
            ⟨.of_trace rfl, .inl ⟨rfl, rfl, rfl, rfl, id, fun _ => ⟨rfl, rfl, rfl⟩⟩⟩
        refine (ih hkept).imp fun observed c₃ hprobes => ?_
        rw [Probes, firstProbe, hlapses.stamps.since]
        exact hprobes
      · refine (ensures_self _ _).imp_true fun observed c₃ _ packets hfirst => ?_
        rw [firstProbe, hstamps.since, List.map_cons, List.find?_cons_of_pos rfl] at hfirst
        cases hfirst
        exact ⟨frames, rfl, hbears rfl⟩

lemma packetsToSend_probes (rounds : ℕ) (h : c.Prepared level) :
    Ensures (packetsToSend level now rounds) c fun observed _ => Probes observed := by
  have hclosing : ∀ datagrams : List (OutgoingDatagram env), Probes (datagrams.map (·, false, [])) := by
    intro datagrams
    have hnone := firstProbe_append datagrams []
    rw [List.append_nil] at hnone
    rw [Probes, hnone]
    exact fun _ hnone => absurd hnone (Option.some_ne_none _).symm
  simp only [packetsToSend, observeToSend, ensures_flow, ensures_map]
  refine ⟨fun _ _ hnone => absurd hnone (Option.some_ne_none _).symm, fun _ => ⟨fun _ => ?_, fun _ => ?_⟩⟩
  · exact (ensures_self (buildCloseDatagram now) c).imp_true fun datagrams _ _ => hclosing datagrams
  · refine (maybeUpdateKeys_prepared h).imp fun _ c₁ h₁ => ?_
    have hkept : Conn.Prepared { c₁ with pacingDeadline := none } level :=
      h₁.lapses ⟨.of_trace rfl, .inl ⟨rfl, rfl, rfl, rfl, id, fun _ => ⟨rfl, rfl, rfl⟩⟩⟩
    refine (observeDatagrams_probes rounds hkept).imp fun observed c₂ hprobes => ?_
    rw [Probes, firstProbe_append]
    exact hprobes

end Turns

section Timer

variable {c c' c'' : Conn env} {level : Level} {frames frames' : List Frame} {lost frame : Frame}

namespace Conn

/-- The room that the control frame takes which is queued for a lost one. -/
def renewal (c : Conn env) : Frame → Option ℕ
  | .newToken token => some (9 + token.length)
  | .pathChallenge data => some (1 + data.length)
  | .maxData _ | .maxStreams _ _ => if c.streams.isSome then some 9 else none
  | .maxStreamData _ _ => if c.streams.isSome then some 17 else none
  | _ => none

structure Renewed (frames : List Frame) (c c' : Conn env) : Prop where
  streams : c'.streams.isSome = c.streams.isSome
  fits : ∀ frame ∈ c'.controlFrames, frame ∈ c.controlFrames ∨ ∃ lost ∈ frames, ∃ n, c.renewal lost = some n ∧
    ∀ encoded, frame.encode = .ok encoded → encoded.length ≤ n
  queued : c.controlFrames ≠ [] ∨ (∃ lost ∈ frames, (c.renewal lost).isSome) → c'.controlFrames ≠ []

lemma renewal_eq (h : c'.streams.isSome = c.streams.isSome) : c'.renewal = c.renewal := by
  funext frame
  cases frame <;> simp only [renewal, h]

lemma Renewed.quiet {frames : List Frame} (hnone : ∀ lost ∈ frames, c.renewal lost = none)
    (hcontrol : c'.controlFrames = c.controlFrames) (hstreams : c'.streams.isSome = c.streams.isSome) :
    Renewed frames c c' where
  streams := hstreams
  fits frame hframe := .inl (hcontrol ▸ hframe)
  queued h := by
    rw [hcontrol]
    refine h.resolve_right ?_
    rintro ⟨lost, hlost, hsome⟩
    rw [hnone lost hlost] at hsome
    cases hsome

lemma Renewed.trans (h : Renewed frames c c') (h' : Renewed frames' c' c'') :
    Renewed (frames ++ frames') c c'' where
  streams := h'.streams.trans h.streams
  fits frame hframe := by
    rcases h'.fits frame hframe with hframe | ⟨lost, hlost, hfits⟩
    · rcases h.fits frame hframe with hframe | ⟨lost, hlost, hfits⟩
      · exact .inl hframe
      · exact .inr ⟨lost, List.mem_append_left _ hlost, hfits⟩
    · rw [renewal_eq h.streams] at hfits
      exact .inr ⟨lost, List.mem_append_right _ hlost, hfits⟩
  queued hany := by
    refine h'.queued ?_
    rcases hany with hany | ⟨lost, hlost, hsome⟩
    · exact .inl (h.queued (.inl hany))
    · rcases List.mem_append.1 hlost with hlost | hlost
      · exact .inl (h.queued (.inr ⟨lost, hlost, hsome⟩))
      · exact .inr ⟨lost, hlost, by rwa [renewal_eq h.streams]⟩

lemma renewed_queueControl (hlost : c.renewal lost = some n)
    (hfits : ∀ encoded, frame.encode = .ok encoded → encoded.length ≤ n) :
    Renewed [lost] c (c.queueControl frame) where
  streams := rfl
  fits other hother := by
    refine (List.mem_append.1 hother).imp_right fun hother => ⟨lost, List.mem_cons_self, n, hlost, ?_⟩
    rw [List.mem_singleton.1 hother]
    exact hfits
  queued _ := by simp [queueControl]

end Conn

structure Restores (level : Level) (frames : List Frame) (c c' : Conn env) : Prop extends c.Renewed frames c' where
  config : c'.config = c.config
  probes : c'.probesPending = c.probesPending
  others : ∀ other, other ≠ level → c'.spaces other = c.spaces other
  ack : (c'.spaces level).ackLength = (c.spaces level).ackLength
  discarded : (c'.spaces level).discarded = (c.spaces level).discarded
  crypto : ∀ crypto, crypto ∈ (c.spaces level).cryptoRetransmit ∨ .crypto crypto ∈ frames →
    crypto ∈ (c'.spaces level).cryptoRetransmit
  done : c.handshakeDonePending = true ∨ .handshakeDone ∈ frames → c'.handshakeDonePending = true
  origin : ∀ m' i send', c'.streams = some m' → m'.send? i = some send' → ∀ frame ∈ send'.retransmit,
    (∃ m send, c.streams = some m ∧ m.send? i = some send ∧ frame ∈ send.retransmit) ∨ .stream frame ∈ frames

lemma Restores.of_control {controlFrames : List Frame}
    (h : c.Renewed frames { c with controlFrames := controlFrames })
    (hcrypto : ∀ crypto, .crypto crypto ∉ frames) (hdone : .handshakeDone ∉ frames) :
    Restores level frames c { c with controlFrames := controlFrames } where
  toRenewed := h
  config := rfl
  probes := rfl
  others _ _ := rfl
  ack := rfl
  discarded := rfl
  crypto crypto h := h.resolve_right (hcrypto crypto)
  done h := h.resolve_right hdone
  origin m _ send hm hsend _ hframe := .inl ⟨m, send, hm, hsend, hframe⟩

lemma Restores.quiet (hnone : ∀ lost ∈ frames, c.renewal lost = none) (hcrypto : ∀ crypto, .crypto crypto ∉ frames)
    (hdone : .handshakeDone ∉ frames) : Restores level frames c c := by
  have hkept : c.Renewed frames { c with controlFrames := c.controlFrames } := .quiet hnone rfl rfl
  exact of_control hkept hcrypto hdone

lemma Restores.refl (c : Conn env) : Restores level [] c c := quiet (by simp) (by simp) (by simp)

lemma Restores.trans (h : Restores level frames c c') (h' : Restores level frames' c' c'') :
    Restores level (frames ++ frames') c c'' where
  toRenewed := h.toRenewed.trans h'.toRenewed
  config := h'.config.trans h.config
  probes := h'.probes.trans h.probes
  others other hother := (h'.others other hother).trans (h.others other hother)
  ack := h'.ack.trans h.ack
  discarded := h'.discarded.trans h.discarded
  crypto crypto hcrypto := by
    rw [List.mem_append, ← or_assoc] at hcrypto
    exact h'.crypto crypto (hcrypto.imp_left (h.crypto crypto))
  done hdone := by
    rw [List.mem_append, ← or_assoc] at hdone
    exact h'.done (hdone.imp_left h.done)
  origin m' i send' hm' hsend' frame hframe := by
    rw [List.mem_append, ← or_assoc]
    refine (h'.origin m' i send' hm' hsend' frame hframe).imp_left ?_
    rintro ⟨m, send, hm, hsend, hlost⟩
    exact h.origin m i send hm hsend frame hlost

lemma restores_crypto (crypto : Crypto) (c : Conn env) :
    Restores level [.crypto crypto] c
      (c.onSpace level fun space => { space with cryptoRetransmit := space.cryptoRetransmit ++ [crypto] }) := by
  have hspace : (c.onSpace level fun space => { space with
      cryptoRetransmit := space.cryptoRetransmit ++ [crypto] }).spaces level =
      { c.spaces level with cryptoRetransmit := (c.spaces level).cryptoRetransmit ++ [crypto] } := by
    simp [Conn.onSpace, Conn.setSpace]
  refine ⟨.quiet (by simp [Conn.renewal]) rfl rfl, rfl, rfl,
    fun other hother => Function.update_of_ne hother _ _, ?_, ?_,
    fun again hagain => ?_, by simp [Conn.onSpace, Conn.setSpace],
    fun m _ send hm hsend _ hframe => .inl ⟨m, send, hm, hsend, hframe⟩⟩
  · rw [hspace]
    rfl
  · rw [hspace]
  · rw [hspace, List.mem_append, List.mem_singleton]
    exact hagain.imp_right fun hmem => Frame.crypto.inj (List.mem_singleton.1 hmem)

lemma restores_stream {frame : Stream} (hm : c.streams = some m) (hsend : m.send? frame.streamId = some send) :
    Restores level [.stream frame] c (c.setStreams (m.setSend frame.streamId (send.requeue frame))) := by
  refine ⟨.quiet (by simp [Conn.renewal]) rfl (by rw [hm]; rfl), rfl, rfl, fun _ _ => rfl, rfl, rfl,
    by simp [Conn.setStreams], by simp [Conn.setStreams], ?_⟩
  rintro m' i send' hm' hsend' lost hlost
  cases hm'
  rw [m.send?_setSend] at hsend'
  split_ifs at hsend' with hi
  · subst hi
    cases hsend'
    simp only [SendStream.requeue] at hlost
    split_ifs at hlost
    · rcases List.mem_append.1 hlost with hlost | hlost
      · exact .inl ⟨m, send, hm, hsend, hlost⟩
      · exact .inr (List.mem_singleton.2 (congrArg Frame.stream (List.mem_singleton.1 hlost)))
    · exact .inl ⟨m, send, hm, hsend, hlost⟩
  · exact .inl ⟨m, send', hm, hsend', hlost⟩

lemma restores_queueControl (hlost : c.renewal lost = some n)
    (hfits : ∀ encoded, frame.encode = .ok encoded → encoded.length ≤ n) :
    Restores level [lost] c (c.queueControl frame) := by
  refine .of_control (Conn.renewed_queueControl hlost hfits) (fun crypto hmem => ?_) fun hmem => ?_
  · cases List.mem_singleton.1 hmem
    cases hlost
  · cases List.mem_singleton.1 hmem
    cases hlost

lemma requeueFrame_restores (frame : Frame) (c : Conn env) :
    Ensures (requeueFrame level frame) c fun _ => Restores level [frame] c := by
  simp only [requeueFrame, ensures_state]
  cases frame with
  | crypto crypto => exact restores_crypto crypto c
  | handshakeDone =>
    refine ⟨.quiet (by simp [Conn.renewal]) rfl rfl, rfl, rfl, fun _ _ => rfl, rfl, rfl, by simp, fun _ => rfl, ?_⟩
    exact fun m _ send hm hsend _ hframe => .inl ⟨m, send, hm, hsend, hframe⟩
  | newToken token =>
    exact restores_queueControl rfl ((takes_type (by decide) (takes_varint _ (takes_data token))).mono (by omega))
  | pathChallenge data => exact restores_queueControl rfl (takes_type (by decide) (takes_data data))
  | stream stream =>
    cases hstreams : c.streams with
    | none => exact .quiet (by simp [Conn.renewal]) (by simp) (by simp)
    | some streams =>
      simp only [onStreams, ensures_zoom]
      refine (StreamManager.withSend_spec streams stream.streamId _).imp_true ?_
      rintro _ m' ⟨send, send', hsend, hsend', rfl⟩
      cases hsend'
      exact restores_stream hstreams hsend
  | maxStreamData streamId maximum =>
    cases hstreams : c.streams with
    | none => exact .quiet (by simp [Conn.renewal, hstreams]) (by simp) (by simp)
    | some streams =>
      simp only [ensures_flow]
      refine ⟨fun recv _ => restores_queueControl (n := 17) (by simp [Conn.renewal, hstreams]) ?_,
        fun _ _ => trivial⟩
      exact (takes_type (by decide) (takes_varint _ (takes_varint _ takes_nil))).mono (by omega)
  | maxData maximum =>
    cases hstreams : c.streams with
    | none => exact .quiet (by simp [Conn.renewal, hstreams]) (by simp) (by simp)
    | some streams =>
      exact restores_queueControl (n := 9) (by simp [Conn.renewal, hstreams])
        (takes_type (by decide) (takes_varint _ takes_nil))
  | maxStreams maximum bidirectional =>
    cases hstreams : c.streams with
    | none => exact .quiet (by simp [Conn.renewal, hstreams]) (by simp) (by simp)
    | some streams =>
      refine restores_queueControl (n := 9) (by simp [Conn.renewal, hstreams]) ?_
      cases bidirectional
      all_goals exact takes_type (by decide) (takes_varint _ takes_nil)
  | _ => exact .quiet (by simp [Conn.renewal]) (by simp) (by simp)

lemma each_restores {packets : List SentPacket} (hlevel : ∀ packet ∈ packets, packet.level = level)
    (c : Conn env) :
    Ensures (each requeueLost packets) c fun _ => Restores level (packets.flatMap (·.frames)) c := by
  refine ensures_each_flatMap Restores.refl Restores.trans packets (fun packet hpacket c₁ => ?_) c
  have h := ensures_each_flatMap (R := fun frames (c c' : Conn env) => Restores level frames c c') Restores.refl
    Restores.trans packet.frames (fun frame _ => requeueFrame_restores frame) c₁
  rw [List.flatMap_singleton'] at h
  rwa [requeueLost, hlevel packet hpacket]

namespace Conn

def oldest (c : Conn env) (level : Level) : List Frame := ((c.recovery.unacked level).take 2).flatMap (·.frames)

def Renews (c : Conn env) (level : Level) : Prop :=
  (∃ crypto, .crypto crypto ∈ c.oldest level) ∨ level = .oneRtt ∧ (.handshakeDone ∈ c.oldest level ∨
    ((∃ frame ∈ c.oldest level, (c.renewal frame).isSome) ∧
      ∀ frame ∈ c.oldest level, ∀ n, c.renewal frame = some n → (n : ℤ) ≤ c.roomAt level) ∨
    (∃ stream, .stream stream ∈ c.oldest level) ∧
      ∀ stream, .stream stream ∈ c.oldest level → (stream.data.length : ℤ) + 24 ≤ c.roomAt level)

/-- A probe finds data: a copy of a CRYPTO frame that fits, what waits if anything does, or else what is put
back. -/
def Probeable (c : Conn env) (level : Level) : Prop :=
  c.Recopies level ∨ if c.hasPendingData level then c.Offers level else c.Renews level

end Conn

lemma Spares.hasPendingData (h : Spares level c c') : c'.hasPendingData level = c.hasPendingData level := by
  simp only [Conn.hasPendingData, h.space]
  by_cases hlevel : level = .oneRtt
  · obtain ⟨hcontrol, hdone, hstreams⟩ := h.application hlevel
    rw [hcontrol, hdone, hstreams]
  · simp only [if_pos (show level ≠ .oneRtt from hlevel)]

lemma Spares.probeable (h : Spares level c c') (hprobeable : c.Probeable level) : c'.Probeable level := by
  have hunacked : c'.recovery.unacked level = c.recovery.unacked level := by
    rw [LossDetection.unacked, LossDetection.unacked, h.sent]
  have holdest : c'.oldest level = c.oldest level := by rw [Conn.oldest, Conn.oldest, hunacked]
  rw [Conn.Probeable, h.hasPendingData]
  refine hprobeable.elim (fun hrecopies => .inl ?_) fun hnext => ?_
  · rwa [Conn.Recopies, hunacked, h.roomAt]
  · split_ifs at hnext ⊢ with hpending
    · exact (h.offers.2 (.inl hnext)).symm
    · rw [Conn.Renews, holdest, h.roomAt]
      refine .inr (hnext.imp_right fun hrest => ⟨hrest.1, ?_⟩)
      rw [Conn.renewal_eq (congrArg Option.isSome (h.application hrest.1).2.2)]
      exact hrest.2

lemma retransmit_eq_nil (h : c.hasPendingData .oneRtt = false) (hm : c.streams = some m)
    (hsend : m.send? i = some send) : send.retransmit = [] := by
  by_contra hlost
  have hwritable := StreamManager.mem_writableStreams hsend (by simp [SendStream.hasPending, hlost])
  have hnone : m.writableStreams = [] := by
    simp only [Conn.hasPendingData, hm, ne_eq, not_true_eq_false, if_false] at h
    split_ifs at h
    simpa using h
  rw [hnone] at hwritable
  cases hwritable

lemma Restores.offers (h : Restores level (c.oldest level) c c') (hrequeues : Conn.Requeues (c.oldest level) c c')
    (hnothing : c.hasPendingData level = false) (hrenews : c.Renews level)
    (hstreams : level = .oneRtt → ∀ stream, .stream stream ∈ c.oldest level → Weighty stream ∧ c.streams.isSome) :
    c'.Offers level := by
  have hroom : c'.roomAt level = c.roomAt level := by rw [Conn.roomAt, Conn.roomAt, h.config, h.ack]
  rcases hrenews with ⟨crypto, hcrypto⟩ | ⟨rfl, hdone | ⟨hcontrol, hfits⟩ | ⟨⟨stream, hstream⟩, hfits⟩⟩
  · exact .inl (List.ne_nil_of_mem (h.crypto crypto (.inr hcrypto)))
  · exact .inr (.inr ⟨rfl, .inl (h.done (.inr hdone))⟩)
  · obtain ⟨frame, rest, hframe⟩ := List.exists_cons_of_ne_nil (h.queued (.inr hcontrol))
    have hempty : c.controlFrames = [] := by
      simp only [Conn.hasPendingData, ne_eq, not_true_eq_false, if_false] at hnothing
      split_ifs at hnothing with _ hpending
      by_contra hsome
      exact hpending (.inl hsome)
    refine .inr (.inr ⟨rfl, .inr (.inl ⟨frame, by simp [hframe], fun encoded hencoded => ?_⟩)⟩)
    rcases h.fits frame (by simp [hframe]) with hold | ⟨lost, hlost, n, hn, hlength⟩
    · rw [hempty] at hold
      cases hold
    · rw [hroom]
      exact (Int.ofNat_le.2 (hlength encoded hencoded)).trans (hfits lost hlost n hn)
  · obtain ⟨hweighty, hsome⟩ := hstreams rfl stream hstream
    obtain ⟨m', send', hm', hsend', hlost⟩ := hrequeues.added hsome stream hstream hweighty
    obtain ⟨first, rest, hfirst⟩ := List.exists_cons_of_ne_nil (List.ne_nil_of_mem hlost)
    have hput : .stream first ∈ c.oldest .oneRtt := by
      refine (h.origin m' _ send' hm' hsend' first (by simp [hfirst])).resolve_left ?_
      rintro ⟨m, send, hm, hsend, hmem⟩
      rw [retransmit_eq_nil hnothing hm hsend] at hmem
      cases hmem
    have hshort : (first.data.length : ℤ) ≤ c'.roomAt .oneRtt - 24 := by
      rw [hroom]
      have hfits := hfits first hput
      omega
    refine .inr (.inr ⟨rfl, .inr (.inr ⟨m', hm', stream.streamId, ?_, send', hsend', ?_⟩)⟩)
    · exact StreamManager.mem_writableStreams hsend' (by simp [SendStream.hasPending, hfirst])
    · simp [SendStream.nextFrame, hfirst, hshort]

lemma bearsData_of_queueable {s : Core} {frame : Frame} (h : s.Queueable frame) : bearsData frame = true := by
  cases frame with
  | ack | padding | connectionClose | ping => exact absurd h id
  | _ => rfl

lemma resendEarlyApplicationData_spares
    (hlevels : ∀ packet ∈ (c.recovery.spaces .oneRtt).sent.values, packet.level = .oneRtt) :
    Ensures resendEarlyApplicationData c fun _ => Spares .handshake c := by
  simp only [resendEarlyApplicationData, ensures_flow]
  refine ⟨fun _ => .refl c, fun _ => ?_⟩
  refine ((each_restores (fun packet hpacket => hlevels packet (mem_take_unacked hpacket)) c).and
    (each_requeues _ c)).mono
    (fun _ c' h => ?_) fun _ _ h => h.1
  obtain ⟨hrestores, hrequeues⟩ := h
  have hsame := hrestores.others .handshake (by decide)
  exact ⟨hrestores.config, hsame, by rw [hrestores.probes], by rw [hrequeues.recovery], fun h => by rwa [hsame],
    fun hlevel => absurd hlevel (by decide)⟩

lemma prepareProbe_offers
    (hlevels : ∀ level, ∀ packet ∈ (c.recovery.spaces level).sent.values, packet.level = level)
    (hstreams : ∀ stream, .stream stream ∈ c.oldest level → Weighty stream ∧ c.streams.isSome)
    (h : c.Probeable level) :
    Ensures (prepareProbe level) c fun _ c' => c'.config = c.config ∧
      c'.probesPending level = c.probesPending level ∧
      ((c.spaces .handshake).discarded = true → (c'.spaces .handshake).discarded = true) ∧
      (c'.Offers level ∨ c'.Recopies level) := by
  have hspares : Ensures (doIf (level = .handshake ∧ ¬c.recovery.handshakeConfirmed) resendEarlyApplicationData) c
      fun _ c' => Spares level c c' ∧ (level = .oneRtt → c' = c) := by
    rw [ensures_doIf]
    refine ⟨?_, fun _ => ⟨.refl c, fun _ => rfl⟩⟩
    rintro ⟨rfl, -⟩
    exact (resendEarlyApplicationData_spares (hlevels .oneRtt)).imp fun _ _ h =>
      ⟨h, fun hlevel => absurd hlevel (by decide)⟩
  simp only [prepareProbe, ensures_state]
  refine hspares.imp fun _ c₁ h₁ => ?_
  obtain ⟨hspares, hsame⟩ := h₁
  have hprobeable := hspares.probeable h
  have hkept : c₁.recovery.unacked level = c.recovery.unacked level := by
    rw [LossDetection.unacked, LossDetection.unacked, hspares.sent]
  simp only [ensures_flow]
  refine ⟨fun hpending => ?_, fun hnothing => ?_⟩
  · rw [Conn.Probeable, if_pos hpending] at hprobeable
    exact ⟨hspares.config, hspares.probes, hspares.handshake, hprobeable.symm⟩
  · have hlevel : ∀ packet ∈ (c₁.recovery.unacked level).take 2, packet.level = level := by
      rw [hkept]
      exact fun packet hpacket => hlevels level packet (mem_take_unacked hpacket)
    refine ((each_restores hlevel c₁).and (each_requeues _ c₁)).mono (fun _ c₂ h₂ => ?_) fun _ _ h => h.1
    obtain ⟨hrestores, hrequeues⟩ := h₂
    refine ⟨hrestores.config.trans hspares.config, (congrFun hrestores.probes level).trans hspares.probes,
      fun hgone => ?_, ?_⟩
    · have hgone := hspares.handshake hgone
      by_cases hhandshake : level = .handshake
      · subst hhandshake
        rw [hrestores.discarded, hgone]
      · rw [hrestores.others .handshake (Ne.symm hhandshake), hgone]
    · rw [Conn.Probeable, if_neg hnothing] at hprobeable
      refine hprobeable.elim (fun hrecopies => .inr ?_) fun hrenews => .inl ?_
      · rw [Conn.Recopies, hrequeues.recovery, Conn.roomAt, hrestores.config, hrestores.ack]
        exact hrecopies
      · refine hrestores.offers hrequeues (by simpa using hnothing) hrenews fun honeRtt => ?_
        rw [hsame honeRtt]
        exact hstreams

def Conn.FiresProbe (c : Conn env) (now : ℚ) (level : Level) : Prop :=
  Conn.due c.closingDeadline now = false ∧ ¬(c.state = .closing ∨ c.state = .draining) ∧
    Conn.due c.idleDeadline now = false ∧ Conn.due c.recovery.lossDetectionTimeout now = true ∧
    (c.recovery.onLossDetectionTimeout now).1.probeLevel = some level

instance (c : Conn env) (now : ℚ) (level : Level) : Decidable (c.FiresProbe now level) :=
  inferInstanceAs (Decidable (_ ∧ _ ∧ _ ∧ _ ∧ _))

lemma handleTimer_offers {now : ℚ} (hfires : c.FiresProbe now level)
    (hlevels : ∀ level, ∀ packet ∈ (c.recovery.spaces level).sent.values, packet.level = level)
    (hstreams : ∀ stream, .stream stream ∈ c.oldest level → Weighty stream ∧ c.streams.isSome)
    (h : c.Probeable level) :
    Ensures (handleTimer now) c fun _ c' => c'.config = c.config ∧ c'.probesPending level ≠ 0 ∧
      ((c.spaces .handshake).discarded = true → (c'.spaces .handshake).discarded = true) ∧
      (c'.Offers level ∨ c'.Recopies level) := by
  obtain ⟨hclosing, hlive, hidle, hdue, hprobe⟩ := hfires
  have hloss : c.recovery.earliestLossTime = none := by
    cases hloss : c.recovery.earliestLossTime with
    | none => rfl
    | some loss =>
      rw [LossDetection.onLossDetectionTimeout_loss now hloss] at hprobe
      cases hprobe
  obtain ⟨first, hfired⟩ := LossDetection.onLossDetectionTimeout_probe now hloss
  rw [hfired] at hprobe
  cases hprobe
  simp only [handleTimer, onTimeout, ensures_state, hclosing, Bool.false_eq_true, if_false, if_neg hlive, hidle,
    hdue, if_true, hfired, each]
  refine (prepareProbe_offers ?_ ?_ ?_).imp fun _ c' h' => ?_
  · exact hlevels
  · exact hstreams
  · exact h
  · obtain ⟨hconfig, hprobes, hgone, hoffers⟩ := h'
    refine ⟨hconfig, ?_, hgone, hoffers⟩
    rw [hprobes]
    simp [Conn.oweProbes]

end Timer

/-- The first packet that answers a probe timeout carries data, wherever the timer finds some that the packet
takes. -/
theorem probe_bears_data {c : Conn env} (h : Begins c) (ops : List (Op env)) (level : Level) (now later : ℚ)
    (rounds : ℕ) (hfires : ((Session.start c).run ops).conn.FiresProbe now level)
    (hsize : 1200 ≤ ((Session.start c).run ops).conn.config.maxDatagramSize)
    (halone : level = .oneRtt → (((Session.start c).run ops).conn.spaces .handshake).discarded = true)
    (hprobeable : ((Session.start c).run ops).conn.Probeable level)
    {observed : List (OutgoingDatagram env × Bool × List (List Frame))} {c' : Conn env}
    (hsend : packetsToSend level later rounds ((Session.start c).run (ops ++ [.handleTimer now])).conn =
    .ok observed c') :
    datagramsToSend later rounds ((Session.start c).run (ops ++ [.handleTimer now])).conn =
        .ok (observed.map Prod.fst) c' ∧ Probes observed := by
  have hreached := Session.reached_conn h ops
  have hreached' := Session.reached_conn h (ops ++ [.handleTimer now])
  rw [Session.run_append] at hsend hreached' ⊢
  generalize ((Session.start c).run ops) = s at *
  obtain ⟨_, _, _, _, caller, hpath⟩ := id hreached
  obtain ⟨_, _, _, _, caller', hpath'⟩ := hreached'
  have hsound := (Core.sound_initial env.toPrimitives _ _ _ _).path hpath
  have hsound' := (Core.sound_initial env.toPrimitives _ _ _ _).path hpath'
  have hstreams : ∀ stream, .stream stream ∈ s.conn.oldest level → Weighty stream ∧ s.conn.streams.isSome := by
    intro stream hstream
    obtain ⟨packet, hpacket, hframe⟩ := List.mem_flatMap.1 hstream
    refine ⟨hreached.weighty (mem_take_unacked hpacket) hframe, ?_⟩
    have hsends : ((s.conn.core caller []).send? stream.streamId).isSome = true :=
      hsound.sends level packet (mem_take_unacked hpacket) _ hframe
    cases hstreams : s.conn.streams with
    | some m => rfl
    | none => simp [Core.send?, Conn.core, hstreams] at hsends
  have htimer := (((handleTimer_offers hfires hsound.levels hstreams hprobeable).and
    (handleTimer_path now hsound)).mono (fun _ _ h => h.1) fun _ _ h => h.2.elim).final
  obtain ⟨hconfig, howed, hgone, hoffers⟩ := htimer
  refine ⟨datagramsToSend_of_observe hsend,
    (packetsToSend_probes rounds (.inl ⟨?_, howed, fun _ => ?_, ?_, hoffers⟩)).of_ok hsend⟩
  · rw [hconfig]
    exact hsize
  · exact fun frame hframe => bearsData_of_queueable (hsound'.controls frame hframe)
  · exact fun hlevel => hgone (halone hlevel)

def streamOps (length : ℕ) : List (Op .plain) :=
  [.datagramReceived (plainInitial 0
      [.crypto ⟨0, [3, 4, 6]⟩, .padding 400]) 0 none 0,
    .openStream, .sendStreamData 1 (List.replicate length 65) false, .datagramsToSend 0 5]

theorem probe_bears_data_stream : ∃ observed c',
    packetsToSend .oneRtt 3 5
      ((Session.start (plainServer .default)).run (streamOps 16 ++ [.handleTimer 3])).conn =
        .ok observed c' ∧
      firstProbe observed = some (false, [[.handshakeDone, .stream ⟨1, 0, List.replicate 16 65, false⟩]]) ∧
      Probes observed := by
  have hseen : (observations (fun pacedOut c c' => (pacedOut, c.sealedSince c' .oneRtt)) (false, []) 3 5
      ((Session.start (plainServer .default)).run (streamOps 16 ++ [.handleTimer 3])).conn).find?
        (fun seen => !seen.2.isEmpty) =
      some (false, [[.handshakeDone, .stream ⟨1, 0, List.replicate 16 65, false⟩]]) := by
    decide +kernel
  obtain ⟨observed, c', hsend, hobserved⟩ := exists_of_observations
    (fun hnone => by rw [hnone] at hseen; cases hseen)
  rw [← hobserved] at hseen
  have holdest : ((Session.start (plainServer .default)).run (streamOps 16)).conn.oldest .oneRtt =
      [.handshakeDone, .stream ⟨1, 0, List.replicate 16 65, false⟩] := by
    decide +kernel
  refine ⟨observed, c', hsend, hseen, ?_⟩
  refine (probe_bears_data (begins_plainServer .default) (streamOps 16) .oneRtt 3 3 5 (by decide +kernel)
    (by decide +kernel) (fun _ => by decide +kernel) (.inr ?_) hsend).2
  rw [if_neg (by decide +kernel), Conn.Renews, holdest]
  exact .inr ⟨rfl, .inl List.mem_cons_self⟩

theorem probe_only_pings : ∃ observed c',
    packetsToSend .oneRtt 3 5
      ((Session.start (plainServer .default)).run (streamOps 17 ++ [.handleTimer 3])).conn =
        .ok observed c' ∧
      ((Session.start (plainServer .default)).run (streamOps 17)).conn.FiresProbe 3 .oneRtt ∧
      ((Session.start (plainServer .default)).run (streamOps 17)).conn.oldest .oneRtt =
        [.handshakeDone, .stream ⟨1, 0, List.replicate 16 65, false⟩] ∧
      firstProbe observed = some (false, [[.ping]]) := by
  have hseen : (observations (fun pacedOut c c' => (pacedOut, c.sealedSince c' .oneRtt)) (false, []) 3 5
      ((Session.start (plainServer .default)).run (streamOps 17 ++ [.handleTimer 3])).conn).find?
        (fun seen => !seen.2.isEmpty) = some (false, [[.ping]]) := by
    decide +kernel
  obtain ⟨observed, c', hsend, hobserved⟩ := exists_of_observations
    (fun hnone => by rw [hnone] at hseen; cases hseen)
  rw [← hobserved] at hseen
  exact ⟨observed, c', hsend, by decide +kernel, by decide +kernel, hseen⟩

end Dsquic.Connection
