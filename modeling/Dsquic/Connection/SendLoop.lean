import Dsquic.Connection.Plain
import Dsquic.Connection.Timers

/-!
A call to send returns. What it calls never runs on, every datagram it builds shortens the backlog, and so
its loop makes at most as many turns as there were frames to give.
-/

namespace Dsquic.Wire

variable {α β : Type}

def Finishes (x : Except Raised α) : Prop := x ≠ .error .diverges

lemma finishes_ok (a : α) : Finishes (.ok a : Except Raised α) := by
  rintro ⟨⟩

lemma Finishes.bind {x : Except Raised α} {f : α → Except Raised β} (h : Finishes x) (hf : ∀ a, Finishes (f a)) :
    Finishes (x >>= f) := by
  cases x with
  | ok a => exact hf a
  | error e =>
    intro heq
    cases heq
    exact h rfl

lemma finishes_encodeVarint (value : ℕ) : Finishes (encodeVarint value) := by
  unfold encodeVarint
  split_ifs <;> rintro ⟨⟩

lemma finishes_encodeVarintSub (value minus : ℕ) : Finishes (encodeVarintSub value minus) := by
  unfold encodeVarintSub
  split_ifs
  · rintro ⟨⟩
  · exact finishes_encodeVarint _

lemma finishes_intToBytes (value length : ℕ) : Finishes (intToBytes value length) := by
  unfold intToBytes
  split_ifs <;> rintro ⟨⟩

lemma finishes_singleByte (value : ℕ) : Finishes (singleByte value) := by
  unfold singleByte
  split_ifs <;> rintro ⟨⟩

lemma finishes_concatEncoded {parts : List (Except Raised Bytes)} (h : ∀ part ∈ parts, Finishes part) :
    Finishes (concatEncoded parts) := by
  induction parts with
  | nil => exact finishes_ok []
  | cons part parts ih =>
    obtain ⟨hpart, hparts⟩ := List.forall_mem_cons.1 h
    exact hpart.bind fun data => (ih hparts).bind fun rest => finishes_ok _

lemma finishes_encodeAckRanges (previousLow : ℕ) (ranges : List (ℕ × ℕ)) :
    ∀ part ∈ encodeAckRanges previousLow ranges, Finishes part := by
  induction ranges generalizing previousLow with
  | nil => exact List.forall_mem_nil _
  | cons range ranges ih =>
    obtain ⟨low, high⟩ := range
    simp only [encodeAckRanges, List.forall_mem_cons]
    exact ⟨finishes_encodeVarintSub _ _, finishes_encodeVarintSub _ _, ih low⟩

lemma finishes_encodeAck (frame : Ack) : Finishes frame.encode := by
  unfold Ack.encode
  cases frame.ranges with
  | nil => rintro ⟨⟩
  | cons range ranges =>
    dsimp only
    by_cases hlargest : range.2 ≠ frame.largest
    · rw [if_pos hlargest]
      rintro ⟨⟩
    · rw [if_neg hlargest]
      apply finishes_concatEncoded
      simp only [List.forall_mem_append]
      refine ⟨⟨?_, finishes_encodeAckRanges _ _⟩, ?_⟩
      · simp [finishes_encodeVarint, finishes_encodeVarintSub]
      · cases frame.ecn <;> simp [encodeEcn, finishes_encodeVarint]

lemma finishes_encodeFrame (frame : Frame) : Finishes frame.encode := by
  cases frame with
  | ack frame => exact finishes_encodeAck frame
  | padding length | ping => exact finishes_ok _
  | handshakeDone => exact finishes_encodeVarint _
  | stream frame =>
    apply finishes_concatEncoded
    split_ifs <;> simp [finishes_encodeVarint, finishes_ok]
  | connectionClose frame =>
    apply finishes_concatEncoded
    cases frame.frameType <;> simp [finishes_encodeVarint, finishes_ok]
  | newConnectionId sequence retirePriorTo connectionId resetToken =>
    apply finishes_concatEncoded
    have hlength : Finishes (if connectionId.length < 256 then .ok [UInt8.ofNat connectionId.length]
        else .error (.value "bytes must be in range(0, 256)")) := finishes_singleByte _
    simp [finishes_encodeVarint, finishes_ok, hlength]
  | _ =>
    apply finishes_concatEncoded
    simp [finishes_encodeVarint, finishes_ok]

lemma finishes_encodePacketNumber (fullPn : ℕ) (largestAcked : Option ℕ) :
    Finishes (encodePacketNumber fullPn largestAcked) :=
  (finishes_intToBytes _ _).bind fun _ => finishes_ok _

lemma finishes_buildLongHeader (template : LongHeaderTemplate)
    (payloadLength packetNumber packetNumberLength : ℕ) :
    Finishes (buildLongHeader template payloadLength packetNumber packetNumberLength) := by
  have htoken : Finishes (encodeToken template) := by
    unfold encodeToken
    split_ifs
    · exact (finishes_encodeVarint _).bind fun _ => finishes_ok _
    · exact finishes_ok _
  refine (finishes_intToBytes _ _).bind fun version => (finishes_singleByte _).bind fun destination =>
    (finishes_singleByte _).bind fun source => htoken.bind fun token =>
      (finishes_encodeVarint _).bind fun length => ?_
  exact (finishes_intToBytes _ _).bind fun number => finishes_ok _

lemma finishes_protect (prims : Primitives) (keys : PacketKeys) (header payload : Bytes) (packetNumber : ℕ) :
    Finishes (prims.protect keys header payload packetNumber) :=
  ((finishes_intToBytes _ _).bind fun _ => finishes_ok _).bind fun _ => finishes_ok _

end Dsquic.Wire

namespace Dsquic.Connection

open Lib Wire Streams Recovery

variable {env : Env} {α : Type}

def FinishesAt (m : M env α) (c : Conn env) : Prop := Ensures m c (fun _ _ => True) fun e _ => e ≠ .diverges

section Choice

variable {c : Conn env} {level : Level} {room : ℤ}

lemma ensures_lift_finishes {x : Except Raised α} {Q : α → Conn env → Prop} (h : Finishes x)
    (hok : ∀ a, x = .ok a → Q a c) : Ensures (lift x : M env α) c Q fun e _ => e ≠ .diverges := by
  rw [ensures_lift]
  exact ⟨hok, fun e he hdiverges => h (hdiverges ▸ he)⟩

lemma chooseAck_finishes : FinishesAt (chooseAck level room) c := by
  simp only [FinishesAt, chooseAck, ensures_state]
  cases (c.spaces level).buildAck with
  | none => trivial
  | some ack =>
    simp only [ensures_bind]
    refine ensures_lift_finishes (finishes_encodeFrame (.ack ack)) fun encoded _ => ?_
    simp only [ensures_flow]
    exact ⟨fun _ => trivial, fun _ => trivial⟩

lemma chooseCrypto_finishes : FinishesAt (chooseCrypto level room) c := by
  simp only [FinishesAt, chooseCrypto, ensures_state]
  cases ((c.spaces level).nextCrypto (room - 16).toNat).1 with
  | none => trivial
  | some frame =>
    simp only [ensures_bind]
    exact ensures_lift_finishes (finishes_encodeFrame (.crypto frame)) fun encoded _ => trivial

lemma takeControl_finishes (frames : List Frame) (used : ℕ) : FinishesAt (takeControl room frames used) c := by
  induction frames generalizing used c with
  | nil => trivial
  | cons control rest ih =>
    simp only [FinishesAt, takeControl, ensures_ite, ensures_bind, ensures_pure]
    refine ⟨fun _ => ensures_lift_finishes (finishes_encodeFrame control) fun encoded _ => ?_, fun _ => trivial⟩
    simp only [ensures_modify]
    exact ⟨fun _ => trivial, fun _ => ih _⟩

lemma sendStream_finishes (streams : StreamManager) (streamId : ℕ) : Finishes (streams.sendStream streamId) := by
  unfold StreamManager.sendStream
  split
  · rintro ⟨⟩
  · split <;> rintro ⟨⟩

lemma takeStreams_finishes (streamIds : List ℕ) (used : ℕ) : FinishesAt (takeStreams room streamIds used) c := by
  induction streamIds generalizing used c with
  | nil => trivial
  | cons streamId streamIds ih =>
    simp only [FinishesAt, takeStreams, ensures_state]
    cases c.streams with
    | none => trivial
    | some streams =>
      simp only [ensures_flow, onStreams, StreamManager.nextFrame]
      refine ⟨fun _ => trivial, fun _ => ⟨fun send _ => ?_, fun e he hdiverges => ?_⟩⟩
      · cases (send.nextFrame (room - used - 24) ((streams.maxData : ℤ) - streams.dataSent)).1 with
        | none => exact ih used
        | some frame =>
          simp only [ensures_bind]
          exact ensures_lift_finishes (finishes_encodeFrame (.stream frame)) fun encoded _ => ih _
      · exact sendStream_finishes streams streamId (hdiverges ▸ he)

lemma applicationFramesAt_finishes : FinishesAt (applicationFramesAt level room) c := by
  simp only [FinishesAt, applicationFramesAt, applicationFrames, chooseHandshakeDone, ensures_flow]
  have hrest : ∀ (c₁ : Conn env) (used : ℕ), Ensures (takeControl room c₁.controlFrames used) c₁
      (fun r c₂ => Ensures (takeStreams room ((c₂.streams.map (·.writableStreams)).getD []) r.2) c₂
        (fun _ _ => True) fun e _ => e ≠ .diverges) fun e _ => e ≠ .diverges :=
    fun c₁ used => (takeControl_finishes _ used).imp (fun _ _ _ => takeStreams_finishes _ _)
  exact ⟨fun _ => ⟨fun _ => hrest { c with handshakeDonePending := false } 1, fun _ => hrest c 0⟩,
    fun _ => trivial⟩

lemma finishes_firstFitting (room : ℤ) (frames : List Crypto) : Finishes (firstFitting room frames) := by
  induction frames with
  | nil => exact finishes_ok _
  | cons frame frames ih =>
    refine (finishes_encodeFrame (.crypto frame)).bind fun encoded => ?_
    split_ifs
    · exact finishes_ok _
    · exact ih

lemma chooseProbe_finishes (chosen : List Frame) : FinishesAt (chooseProbe level room chosen) c := by
  simp only [FinishesAt, chooseProbe, ensures_state, ensures_ite]
  refine ⟨fun _ => trivial, fun _ => ⟨fun _ => trivial, fun _ => ?_⟩⟩
  refine ensures_lift_finishes (finishes_firstFitting _ _) fun filler _ => ?_
  exact ensures_lift_finishes (finishes_encodeFrame filler) fun _ _ => trivial

lemma pendingFrames_finishes (ackOnly : Bool) : FinishesAt (pendingFrames level room ackOnly) c := by
  simp only [FinishesAt, pendingFrames, ensures_flow]
  refine chooseAck_finishes.imp fun ack c₁ _ => ⟨fun _ => trivial, fun _ => ?_⟩
  refine chooseCrypto_finishes.imp fun crypto c₂ _ => ?_
  refine applicationFramesAt_finishes.imp fun application c₃ _ => ?_
  exact chooseProbe_finishes _

end Choice

section Packets

variable {c : Conn env} {now : ℚ} {level : Level} {room : ℤ} {rounds : ℕ}

lemma frameUp_finishes (c : Conn env) (level : Level) (short : Bool) (padTo : ℕ) (payload : Bytes)
    (packetNumber : ℕ) (pnBytes : Bytes) :
    Finishes (c.frameUp level short padTo payload packetNumber pnBytes) := by
  have hexpand : ∀ template pnLength, Finishes (expandPayload template padTo payload packetNumber pnLength) := by
    intro template pnLength
    unfold expandPayload
    split_ifs
    · exact finishes_ok _
    · exact (finishes_buildLongHeader _ _ _ _).bind fun _ => finishes_ok _
  unfold Conn.frameUp
  split_ifs
  · exact finishes_ok _
  · exact (hexpand _ _).bind fun _ => (finishes_buildLongHeader _ _ _ _).bind fun _ => finishes_ok _

lemma sealPacket_finishes (keys : PacketKeys) (short : Bool) (padTo : ℕ) (payload : Bytes) (packetNumber : ℕ)
    (frames : List Frame) : FinishesAt (sealPacket level keys short padTo payload packetNumber frames) c := by
  simp only [FinishesAt, sealPacket, ensures_state]
  refine ensures_lift_finishes (finishes_encodePacketNumber _ _) fun pnBytes _ => ?_
  refine ensures_lift_finishes (frameUp_finishes _ _ _ _ _ _ _) fun framed _ => ?_
  exact ensures_lift_finishes (finishes_protect _ _ _ _ _) fun _ _ => trivial

lemma buildPacket_finishes (padTo : ℕ) (ackOnly : Bool) :
    FinishesAt (buildPacket level room now padTo ackOnly) c := by
  simp only [FinishesAt, buildPacket, ensures_bind, ensures_get]
  cases (c.spaces level).sendingKeys level with
  | none => rintro ⟨⟩
  | some keys =>
    simp only [ensures_ite, ensures_state]
    refine ⟨fun _ => trivial, fun _ => (pendingFrames_finishes ackOnly).imp (fun frames c₁ _ => ?_)⟩
    refine ⟨fun _ => trivial, fun _ => ?_⟩
    refine ensures_lift_finishes (finishes_concatEncoded ?_) fun payload _ => ?_
    · simp only [List.forall_mem_map]
      exact fun frame _ => finishes_encodeFrame frame
    · simp only [ensures_flow]
      exact ⟨fun _ => by rintro ⟨⟩, fun _ => sealPacket_finishes keys _ padTo _ _ frames⟩

lemma buildPackets_finishes (ackOnly : Bool) (budget : ℤ) (levels : List Level) (payload : Bytes) :
    FinishesAt (buildPackets now ackOnly budget levels payload) c := by
  induction levels generalizing payload c with
  | nil => trivial
  | cons level levels ih =>
    simp only [FinishesAt, buildPackets, ensures_flow]
    refine ⟨fun _ => ih payload, fun _ => (buildPacket_finishes _ ackOnly).imp (fun packet c₁ _ => ?_)⟩
    cases packet with
    | none => exact ih payload
    | some packet =>
      simp only [ensures_flow]
      exact ⟨fun _ => ⟨fun _ => trivial, fun _ => ih _⟩, fun _ => ⟨fun _ => trivial, fun _ => ih _⟩⟩

lemma buildDatagram_finishes (ackOnly : Bool) : FinishesAt (buildDatagram now ackOnly) c := by
  simp only [FinishesAt, buildDatagram, ensures_flow]
  refine ⟨fun _ => trivial, fun _ => (buildPackets_finishes ackOnly _ Level.all []).imp ?_⟩
  exact fun _ _ _ => ⟨fun _ => trivial, fun _ => trivial⟩

lemma buildCloseDatagram_finishes : FinishesAt (buildCloseDatagram now) c := by
  simp only [FinishesAt, buildCloseDatagram, ensures_bind, ensures_get]
  cases c.closeFrame with
  | none => trivial
  | some frame =>
    cases c.closeLevel with
    | none => trivial
    | some chosen =>
      simp only [ensures_ite, ensures_state]
      refine ⟨fun _ => trivial, fun _ => ?_⟩
      refine ensures_lift_finishes (finishes_encodeFrame (.connectionClose frame)) fun payload _ => ?_
      exact sealPacket_finishes chosen.2 _ 0 _ _ _

lemma buildDatagrams_finishes (h : c.backlog < rounds) : FinishesAt (buildDatagrams now rounds) c := by
  induction rounds generalizing c with
  | zero => omega
  | succ rounds ih =>
    simp only [FinishesAt, buildDatagrams, ensures_state]
    refine pacingBlocked_endures.mono (fun pacedOut c₁ hpaced => ?_) fun _ _ h => h.elim
    have hbacklog₁ := hpaced.2
    refine ((buildDatagram_endures pacedOut).and (buildDatagram_finishes pacedOut)).mono ?_ fun _ _ h => h.2
    rintro datagram c₂ ⟨⟨-, hbacklog₂⟩, -⟩
    cases datagram with
    | none => trivial
    | some datagram =>
      simp only [ensures_state]
      rw [Option.toList_some, List.length_singleton] at hbacklog₂
      have hless : c₂.backlog < rounds := by omega
      exact ih hless

lemma datagramsToSend_finishes (h : c.backlog < rounds) :
    FinishesAt (datagramsToSend now rounds) c := by
  simp only [FinishesAt, datagramsToSend, ensures_flow]
  refine ⟨fun _ => trivial, fun _ => ⟨fun _ => buildCloseDatagram_finishes, fun _ => ?_⟩⟩
  apply maybeUpdateKeys_backlog.mono
  · intro _ c₁ hbacklog
    have hless : ({ c₁ with pacingDeadline := none } : Conn env).backlog < rounds := hbacklog.trans_lt h
    exact buildDatagrams_finishes hless
  · rintro e c₁ rfl
    rintro ⟨⟩

def Turn (now : ℚ) (c c' : Conn env) : Prop :=
  ∃ pacedOut c₁ datagram c₂, pacingBlocked now c = .ok pacedOut c₁ ∧
    buildDatagram now pacedOut c₁ = .ok (some datagram) c₂ ∧
    c' = { c₂ with pacingCredit := c₂.pacingCredit -
      (c₂.recovery.controller.bytesInFlight - c₁.recovery.controller.bytesInFlight : ℤ) }

lemma backlog_turn {c' : Conn env} (h : Turn now c c') : c'.backlog < c.backlog := by
  obtain ⟨pacedOut, c₁, datagram, c₂, hpaced, hbuilt, rfl⟩ := h
  have hbacklog₁ : c₁.backlog = c.backlog := (pacingBlocked_endures.of_ok hpaced).2
  have hbacklog₂ := ((buildDatagram_endures pacedOut).of_ok hbuilt).2
  rw [Option.toList_some, List.length_singleton, hbacklog₁] at hbacklog₂
  exact hbacklog₂

end Packets

/-- From any state and at any time every turn of the loop shortens the backlog. So a call to send returns or
raises: it does not meet a bound on its turns beyond the backlog, and any such bound gives the same result. -/
theorem send_loop_terminates (c : Conn env) (now : ℚ) :
    (∀ c', Turn now c c' → c'.backlog < c.backlog) ∧
      ∀ rounds, c.backlog < rounds → (∀ c', datagramsToSend now rounds c ≠ .error .diverges c') ∧
        ∀ more, rounds ≤ more → datagramsToSend now more c = datagramsToSend now rounds c := by
  refine ⟨fun c' => backlog_turn, fun rounds hrounds => ⟨fun c' hdiverges => ?_, fun more hmore => ?_⟩⟩
  · exact (datagramsToSend_finishes hrounds).of_error hdiverges rfl
  · exact datagramsToSend_ends hrounds hmore

theorem send_loop_terminates_earlyData :
    let c := ((Session.start (plainClient .default (some plainParameters))).run
      [.openStream, .sendStreamData 0 [65] true]).conn
    c.backlog = 3 ∧ datagramsToSend 0 100 c = datagramsToSend 0 4 c := by
  refine ⟨by decide +kernel, ?_⟩
  exact ((send_loop_terminates _ 0).2 4 (by decide +kernel)).2 100 (by decide)

end Dsquic.Connection
