import Dsquic.Connection.Size

/-!
The send loop ends: every frame that goes into a packet is taken from a backlog, and nothing that sends
adds to it. Choosing frames leaves alone what the timers read.
-/

namespace Dsquic.Streams

open Lib Wire

def SendStream.backlog (s : SendStream) : ℕ := s.retransmit.length + s.pending.length + (!s.finSent).toNat

lemma SendStream.backlog_nextFrame (s : SendStream) (maxBytes connectionCredit : ℤ) :
    (s.nextFrame maxBytes connectionCredit).2.backlog + (s.nextFrame maxBytes connectionCredit).1.toList.length ≤
      s.backlog := by
  have hnew : (s.newFrame maxBytes connectionCredit).2.backlog +
      (s.newFrame maxBytes connectionCredit).1.toList.length ≤ s.backlog := by
    have hbudget := s.budget_le_pending maxBytes connectionCredit
    simp only [newFrame]
    split_ifs with hnone
    · exact le_refl _
    · rw [not_and_or, Bool.not_eq_false] at hnone
      simp only [backlog, emit, List.length_drop, Option.toList_some, List.length_singleton, Bool.not_or]
      rcases hnone with hchunk | hfin
      · have hpos := List.length_pos_of_ne_nil hchunk
        rw [List.length_take] at hpos
        have hflag : ∀ fin : Bool, (!s.finSent && fin).toNat ≤ (!s.finSent).toNat := by
          cases s.finSent <;> decide
        have hflag :=
          hflag (!(s.finQueued && !s.finSent && s.budget maxBytes connectionCredit == s.pending.length))
        omega
      · have hopen : s.finSent = false := by simpa using (Bool.and_eq_true_iff.1 (Bool.and_eq_true_iff.1 hfin).1).2
        rw [hfin, hopen]
        simp only [Bool.not_true, Bool.and_false, Bool.toNat_false, Bool.not_false, Bool.toNat_true]
        omega
  simp only [nextFrame]
  split
  · next frame frames hlost =>
    split_ifs
    · simp only [backlog, hlost, List.length_cons, Option.toList_some, List.length_nil]
      omega
    · exact hnew
  · exact hnew

def Half.backlog (half : Half) : ℕ := half.send.elim 0 SendStream.backlog

def StreamManager.backlog (m : StreamManager) : ℕ := m.streams.total fun _ => Half.backlog

lemma StreamManager.backlog_setSend {m : StreamManager} {i : ℕ} {send : SendStream} (send' : SendStream)
    (h : m.send? i = some send) : (m.setSend i send').backlog + send.backlog = m.backlog + send'.backlog := by
  obtain ⟨half, hget, hsend⟩ := Option.bind_eq_some_iff.1 h
  have htotal := Dict.total_set_of_get (⟨some send', m.recv? i⟩ : Half) (fun _ => Half.backlog) hget
  simp only [Half.backlog, hsend, Option.elim_some] at htotal
  exact htotal

end Dsquic.Streams

namespace Dsquic.Connection

open Lib Wire Streams Recovery

variable {env : Env}

structure Clock where
  state : ConnectionState
  closeFrame : Option ConnectionClose
  closingDeadline : Option ℚ
  idleStarted : Option ℚ
  localParameters : TransportParameters
  peerParameters : Option TransportParameters
  updatable : Bool

structure Timing where
  clock : Clock
  pacingDeadline : Option ℚ
  recovery : LossDetection
  initialDiscarded : Bool
  nextPacketNumber : Level → ℕ
  unvalidated : Bool
  allowance : ℤ

def Space.updatable (space : Space PacketKeys Bytes) : Bool := space.keysSend.isSome || space.keysRecvNext.isNone

def Space.marks (space : Space PacketKeys Bytes) : Bool × Bool × ℕ :=
  (space.discarded, space.updatable, space.nextPacketNumber)

namespace Conn

def clock (c : Conn env) : Clock where
  state := c.state
  closeFrame := c.closeFrame
  closingDeadline := c.closingDeadline
  idleStarted := c.idleStarted
  localParameters := c.localParameters
  peerParameters := c.peerParameters
  updatable := (c.spaces .oneRtt).updatable

def timing (c : Conn env) : Timing where
  clock := c.clock
  pacingDeadline := c.pacingDeadline
  recovery := c.recovery
  initialDiscarded := (c.spaces .initial).discarded
  nextPacketNumber level := (c.spaces level).nextPacketNumber
  unvalidated := c.unvalidated
  allowance := c.allowance

end Conn

def Space.backlog (space : Space PacketKeys Bytes) : ℕ :=
  space.ackElicitingPending.toNat + (space.cryptoRetransmit.map fun lost => lost.data.length + 1).sum +
    space.cryptoPending.length

def Conn.backlog (c : Conn env) : ℕ :=
  (Level.all.map fun level => (c.spaces level).backlog + c.probesPending level).sum +
    c.handshakeDonePending.toNat + c.controlFrames.length + c.streams.elim 0 StreamManager.backlog

structure Pays (n : ℕ) (c c' : Conn env) : Prop where
  timing : c'.timing = c.timing
  backlog : c'.backlog + n ≤ c.backlog

section Pays

variable {c c' c'' : Conn env} {level : Level} {m n : ℕ} {space : Space PacketKeys Bytes}

lemma Pays.refl (c : Conn env) : Pays 0 c c := ⟨rfl, le_refl _⟩

lemma Pays.trans (h : Pays m c c') (h' : Pays n c' c'') : Pays (m + n) c c'' := by
  refine ⟨h'.timing.trans h.timing, ?_⟩
  have hfirst := h.backlog
  have hsecond := h'.backlog
  omega

lemma Conn.timing_setSpace (h : space.marks = (c.spaces level).marks) :
    (c.setSpace level space).timing = c.timing := by
  have hmarks : ∀ other, ((c.setSpace level space).spaces other).marks = (c.spaces other).marks := by
    intro other
    simp only [setSpace, Function.update_apply]
    split_ifs with hother
    · rw [h, hother]
    · rfl
  simp only [Space.marks, Prod.mk.injEq] at hmarks
  simp only [timing, clock, hmarks]
  rfl

lemma Conn.backlog_setSpace (c : Conn env) (level : Level) (space : Space PacketKeys Bytes) :
    (c.setSpace level space).backlog + (c.spaces level).backlog = c.backlog + space.backlog := by
  cases level <;> simp [backlog, setSpace, Level.all] <;> omega

lemma Conn.backlog_payProbe (h : c.probesPending level ≠ 0) :
    ({ c with probesPending := Function.update c.probesPending level (c.probesPending level - 1) } : Conn
      env).backlog +
      1 = c.backlog := by
  cases level <;> simp [backlog, Level.all] <;> omega

lemma pays_setSpace (hmarks : space.marks = (c.spaces level).marks)
    (h : space.backlog + n ≤ (c.spaces level).backlog) : Pays n c (c.setSpace level space) := by
  refine ⟨Conn.timing_setSpace hmarks, ?_⟩
  have hset := c.backlog_setSpace level space
  omega

end Pays

section Choice

variable {c : Conn env} {level : Level} {room : ℤ}

abbrev Spends (m : M env (List Frame × ℕ)) (c : Conn env) : Prop :=
  Ensures m c (fun r => Pays r.1.length c) fun _ c' => c'.timing = c.timing

lemma chooseAck_pays :
    Spends (chooseAck level room) c := by
  simp only [chooseAck, ensures_state]
  cases hack : (c.spaces level).buildAck with
  | none => exact .refl c
  | some ack =>
    simp only [ensures_flow]
    refine ⟨fun _ _ => ⟨fun _ => ?_, fun _ => .refl c⟩, fun _ _ => trivial⟩
    have hpending : (c.spaces level).ackElicitingPending = true := by
      by_contra hnone
      simp [Space.buildAck, hnone] at hack
    refine pays_setSpace rfl ?_
    simp only [Space.backlog, hpending, Bool.toNat_true, Bool.toNat_false, List.length_singleton]
    omega

lemma backlog_nextCrypto {space space' : Space PacketKeys Bytes} {available : ℕ} {crypto : Option Crypto}
    (h : space.nextCrypto available = (crypto, space')) :
    space'.marks = space.marks ∧ space'.backlog + crypto.toList.length ≤ space.backlog := by
  have hfresh : ∀ chunk, chunk = space.cryptoPending.take available →
      (if chunk = [] then (none, space) else (some (⟨space.cryptoOffsetSent, chunk⟩ : Crypto),
        { space with
          cryptoPending := space.cryptoPending.drop available
          cryptoOffsetSent := space.cryptoOffsetSent + chunk.length })) = (crypto, space') →
      space'.marks = space.marks ∧ space'.backlog + crypto.toList.length ≤ space.backlog := by
    intro chunk hchunk h
    split_ifs at h with hnone
    · cases h
      exact ⟨rfl, le_refl _⟩
    · cases h
      refine ⟨rfl, ?_⟩
      have hpos := List.length_pos_of_ne_nil hnone
      rw [hchunk, List.length_take] at hpos
      simp only [Space.backlog, List.length_drop, Option.toList_some, List.length_singleton]
      omega
  simp only [Space.nextCrypto] at h
  split at h
  · next lost rest available hlost =>
    cases h
    refine ⟨rfl, ?_⟩
    simp only [Space.backlog, hlost, Option.toList_some, List.length_singleton, List.map_cons, List.sum_cons]
    split_ifs with hleft
    · omega
    · have hpos := List.length_pos_of_ne_nil hleft
      simp only [List.map_cons, List.sum_cons, List.length_drop] at hpos ⊢
      omega
  · exact hfresh _ rfl h

lemma chooseCrypto_pays :
    Spends (chooseCrypto level room) c := by
  simp only [chooseCrypto, ensures_state]
  cases hnext : (c.spaces level).nextCrypto (room - 16).toNat with
  | mk crypto space =>
    obtain ⟨hmarks, hbacklog⟩ := backlog_nextCrypto hnext
    have hpays := pays_setSpace hmarks hbacklog
    cases crypto with
    | none => exact hpays
    | some frame =>
      simp only [ensures_flow]
      exact ⟨fun _ _ => hpays, fun _ _ => hpays.timing⟩

lemma chooseHandshakeDone_pays :
    Spends chooseHandshakeDone c := by
  simp only [chooseHandshakeDone, ensures_flow]
  refine ⟨fun hpending => ⟨rfl, ?_⟩, fun _ => .refl c⟩
  simp only [Conn.backlog, hpending, Bool.toNat_true, Bool.toNat_false, List.length_singleton]
  omega

lemma takeControl_pays (frames : List Frame) (used : ℕ) (h : c.controlFrames = frames) :
    Spends (takeControl room frames used) c := by
  induction frames generalizing used c with
  | nil => exact .refl c
  | cons control rest ih =>
    simp only [takeControl, ensures_flow]
    refine ⟨fun _ => ⟨fun encoded _ => ⟨fun _ => .refl c, fun _ => ?_⟩, fun _ _ => trivial⟩, fun _ => .refl c⟩
    have htake : Pays 1 c { c with controlFrames := rest } := by
      refine ⟨rfl, ?_⟩
      simp only [Conn.backlog, h, List.length_cons]
      omega
    apply (ih (used + encoded.length) rfl).mono
    · intro r c' hr
      have hall := htake.trans hr
      rwa [Nat.add_comm] at hall
    · exact fun _ _ hr => hr

lemma takeStreams_pays (streamIds : List ℕ) (used : ℕ) :
    Spends (takeStreams room streamIds used) c := by
  induction streamIds generalizing used c with
  | nil => exact .refl c
  | cons streamId streamIds ih =>
    simp only [takeStreams, ensures_state]
    cases hstreams : c.streams with
    | none => exact .refl c
    | some streams =>
      simp only [ensures_flow, onStreams]
      refine ⟨fun _ => .refl c, fun _ => ?_⟩
      apply (streams.nextFrame_spec streamId (room - used - 24)).mono
      · rintro frame m' ⟨send, hsend, hframe, hm'⟩
        have hpays : Pays frame.toList.length c (c.setStreams m') := by
          refine ⟨rfl, ?_⟩
          have hsent := send.backlog_nextFrame (room - used - 24) ((streams.maxData : ℤ) - streams.dataSent)
          have hset := StreamManager.backlog_setSend (send.nextFrame (room - used - 24)
            ((streams.maxData : ℤ) - streams.dataSent)).2 hsend
          have hbacklog : m'.backlog = (streams.setSend streamId (send.nextFrame (room - used - 24)
            ((streams.maxData : ℤ) - streams.dataSent)).2).backlog := by rw [hm']; rfl
          rw [← hframe] at hsent
          simp only [Conn.backlog, Conn.setStreams, hstreams, Option.elim_some, hbacklog]
          omega
        cases frame with
        | none =>
          apply (ih used).mono
          · intro r c' hr
            have hall := hpays.trans hr
            rwa [Option.toList_none, List.length_nil, Nat.zero_add] at hall
          · exact fun _ _ hr => hr
        | some frame =>
          simp only [ensures_flow]
          refine ⟨fun encoded _ => ?_, fun _ _ => hpays.timing⟩
          apply (ih (used + encoded.length)).mono
          · intro r c' hr
            have hall := hpays.trans hr
            rwa [Option.toList_some, List.length_singleton, Nat.add_comm] at hall
          · exact fun _ _ hr => hr
      · rintro e m' -
        rfl

lemma applicationFrames_pays :
    Spends (applicationFrames room) c := by
  simp only [applicationFrames, ensures_state, List.length_append]
  apply chooseHandshakeDone_pays.imp
  intro done c₁ h₁
  apply (takeControl_pays c₁.controlFrames done.2 rfl).mono
  · intro control c₂ h₂
    apply (takeStreams_pays _ control.2).mono
    · exact fun streams c₃ h₃ => (h₁.trans h₂).trans h₃
    · exact fun _ _ h₃ => h₃.trans (h₁.trans h₂).timing
  · exact fun _ _ h₂ => h₂.trans h₁.timing

lemma applicationFramesAt_pays :
    Spends (applicationFramesAt level room) c := by
  simp only [applicationFramesAt, ensures_ite]
  exact ⟨fun _ => applicationFrames_pays, fun _ => .refl c⟩

lemma chooseProbe_pays (chosen : List Frame) :
    Ensures (chooseProbe level room chosen) c (fun frames c' => Pays frames.length c c')
      fun _ c' => c'.timing = c.timing := by
  simp only [chooseProbe, ensures_flow]
  refine ⟨fun _ => .refl c, fun howed => ?_⟩
  have hpay : Pays 1 c { c with
      probesPending := Function.update c.probesPending level (c.probesPending level - 1) } :=
    ⟨rfl, (Conn.backlog_payProbe howed).le⟩
  exact ⟨fun _ => ⟨rfl, (Nat.le_add_right _ 1).trans hpay.backlog⟩,
    fun _ => ⟨fun _ _ => ⟨fun _ _ => hpay, fun _ _ => trivial⟩, fun _ _ => trivial⟩⟩

lemma pendingFrames_pays (ackOnly : Bool) :
    Ensures (pendingFrames level room ackOnly) c (fun frames c' => Pays frames.length c c')
      fun _ c' => c'.timing = c.timing := by
  simp only [pendingFrames, ensures_flow, List.length_append]
  apply chooseAck_pays.imp
  intro ack c₁ h₁
  refine ⟨fun _ => h₁, fun _ => ?_⟩
  apply chooseCrypto_pays.mono
  · intro crypto c₂ h₂
    apply applicationFramesAt_pays.mono
    · intro application c₃ h₃
      have hchosen := (h₁.trans h₂).trans h₃
      apply (chooseProbe_pays _).mono
      · exact fun filler c₄ h₄ => hchosen.trans h₄
      · exact fun _ _ h₄ => h₄.trans hchosen.timing
    · exact fun _ _ h₃ => h₃.trans (h₁.trans h₂).timing
  · exact fun _ _ h₂ => h₂.trans h₁.timing

end Choice

end Dsquic.Connection
