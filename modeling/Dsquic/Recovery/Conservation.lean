import Dsquic.Recovery.LossDetection
import Mathlib.Algebra.Order.Group.Multiset

/-!
Bytes in flight are the bytes of the packets held, and a packet sent is acknowledged, lost or dropped once.
-/

namespace Dsquic.Recovery

open Lib Wire

namespace LossDetection

def held (l : LossDetection) : List SentPacket := Level.all.flatMap fun level => (l.spaces level).sent.values

lemma coe_held (l : LossDetection) : (l.held : Multiset SentPacket) =
    ((l.spaces .initial).sent.values : Multiset SentPacket) + ((l.spaces .handshake).sent.values :
      Multiset SentPacket) + ((l.spaces .oneRtt).sent.values : Multiset SentPacket) := by
  simp [held, Level.all]

lemma held_perm {l l' : LossDetection} {level : Level} {gone : List SentPacket}
    (hothers : ∀ other, other ≠ level → l'.spaces other = l.spaces other)
    (h : (gone ++ (l'.spaces level).sent.values).Perm (l.spaces level).sent.values) :
    (gone ++ l'.held).Perm l.held := by
  rw [← Multiset.coe_eq_coe, ← Multiset.coe_add] at h ⊢
  rw [coe_held, coe_held]
  cases level with
  | initial =>
    rw [← h, hothers .handshake (by decide), hothers .oneRtt (by decide)]
    abel
  | handshake =>
    rw [← h, hothers .initial (by decide), hothers .oneRtt (by decide)]
    abel
  | oneRtt =>
    rw [← h, hothers .initial (by decide), hothers .handshake (by decide)]
    abel

inductive Op
  | onPacketSent (packet : SentPacket)
  | onAckReceived (level : Level) (ack : Ack) (ackDelay now : ℚ)
  | onLossDetectionTimeout (now : ℚ)
  | restartSpace (level : Level)
  | discardSpace (level : Level)

def Op.packet? : Op → Option SentPacket
  | .onPacketSent packet => some packet
  | _ => none

def packetKey (packet : SentPacket) : Level × ℕ := (packet.level, packet.packetNumber)

def Fresh (ops : List Op) : Prop := ((ops.filterMap Op.packet?).map packetKey).Nodup

instance (ops : List Op) : Decidable (Fresh ops) := List.nodupDecidable _

end LossDetection

structure Ledger where
  detection : LossDetection
  sent : List SentPacket
  acked : List SentPacket
  lost : List SentPacket
  dropped : List SentPacket

namespace Ledger

open LossDetection

def new (maxDatagramSize : ℕ) (isClient : Bool) : Ledger :=
  ⟨.new (.new maxDatagramSize) isClient, [], [], [], []⟩

/-- One operation. The ACK of a packet never sent is refused, and the caller goes on. -/
def step (ledger : Ledger) : Op → Except Raised Ledger
  | .onPacketSent packet => .ok { ledger with
      detection := ledger.detection.onPacketSent packet
      sent := ledger.sent ++ [packet] }
  | .onAckReceived level ack ackDelay now =>
    match LossDetection.onAckReceived level ack ackDelay now ledger.detection with
    | .ok outcome detection => .ok { ledger with
        detection := detection
        acked := ledger.acked ++ outcome.acked
        lost := ledger.lost ++ outcome.lost }
    | .error (.ackOfUnsent _) detection => .ok { ledger with detection := detection }
    | .error e _ => .error e
  | .onLossDetectionTimeout now =>
    let (outcome, detection) := ledger.detection.onLossDetectionTimeout now
    .ok { ledger with detection := detection, lost := ledger.lost ++ outcome.lost }
  | .restartSpace level =>
    let (packets, detection) := ledger.detection.restartSpace level
    .ok { ledger with detection := detection, dropped := ledger.dropped ++ packets }
  | .discardSpace level => .ok { ledger with
      detection := ledger.detection.discardSpace level
      dropped := ledger.dropped ++ (ledger.detection.spaces level).sent.values }

def run (ledger : Ledger) (ops : List Op) : Except Raised Ledger := ops.foldlM step ledger

structure Conserved (ledger : Ledger) : Prop where
  inFlight : ledger.detection.controller.bytesInFlight = flight ledger.detection.held
  accounted : (ledger.detection.held ++ ledger.acked ++ ledger.lost ++ ledger.dropped).Perm ledger.sent
  keyed : ∀ level n p, (ledger.detection.spaces level).sent.get? n = some p → packetKey p = (level, n)
  isOpen : ledger.detection.controller.Open

section Steps

variable {ledger : Ledger} {detection : LossDetection} {packet : SentPacket}

lemma conserved_new (maxDatagramSize : ℕ) (isClient : Bool) : (new maxDatagramSize isClient).Conserved := by
  refine ⟨rfl, .nil, fun level n p h => ?_, NewReno.open_new maxDatagramSize⟩
  simp [new, LossDetection.new, SentSpace.new] at h

lemma Conserved.fresh (h : ledger.Conserved) (hnew : packetKey packet ∉ ledger.sent.map packetKey) :
    (ledger.detection.spaces packet.level).sent.get? packet.packetNumber = none := by
  rw [Option.eq_none_iff_forall_ne_some]
  intro p hp
  apply hnew
  have hheld : p ∈ ledger.detection.held := by
    refine List.mem_flatMap.2 ⟨packet.level, ?_, Dict.mem_values.2 ⟨_, Dict.get?_eq_some_iff.1 hp⟩⟩
    cases packet.level <;> simp [Level.all]
  have hsent : p ∈ ledger.sent := h.accounted.subset (by simp [hheld])
  exact List.mem_map.2 ⟨p, hsent, h.keyed _ _ _ hp⟩

lemma Conserved.onPacketSent (h : ledger.Conserved) (hnew : packetKey packet ∉ ledger.sent.map packetKey) :
    ({ ledger with
      detection := ledger.detection.onPacketSent packet
      sent := ledger.sent ++ [packet] } : Ledger).Conserved := by
  have hvalues : ((ledger.detection.onPacketSent packet).spaces packet.level).sent.values =
      (ledger.detection.spaces packet.level).sent.values ++ [packet] := by
    simp [LossDetection.onPacketSent, LossDetection.setSpace, Dict.values_set_fresh packet (h.fresh hnew)]
  have hothers : ∀ other, other ≠ packet.level → ledger.detection.spaces other =
      (ledger.detection.onPacketSent packet).spaces other :=
    fun other hne => ((spaces_setSpace _ _ _ _).trans (if_neg hne)).symm
  have hheld : ([packet] ++ ledger.detection.held).Perm (ledger.detection.onPacketSent packet).held := by
    apply held_perm hothers
    rw [hvalues]
    exact List.perm_append_comm
  refine ⟨?_, ?_, fun level n p hp => ?_, ?_⟩
  · have hsum := flight_perm hheld
    rw [flight_append] at hsum
    refine (NewReno.bytesInFlight_onPacketSent _ packet).trans ?_
    rw [h.inFlight, ← hsum, add_comm]
  · simp only [List.append_assoc] at hheld ⊢
    refine (hheld.symm.append_right _).trans ?_
    simp only [List.singleton_append]
    have hrest := h.accounted
    simp only [List.append_assoc] at hrest
    exact (hrest.cons packet).trans (List.perm_append_singleton packet _).symm
  · simp only [LossDetection.onPacketSent, spaces_setSpace] at hp
    split_ifs at hp with hlevel
    · rw [Dict.get?_set] at hp
      split_ifs at hp with hn
      · cases hp
        rw [packetKey, hlevel, hn]
      · rw [hlevel]
        exact h.keyed _ _ _ hp
    · exact h.keyed _ _ _ hp
  · exact (NewReno.keeps_onPacketSent _ packet).isOpen h.isOpen

lemma Conserved.report (h : ledger.Conserved) {level : Level} (acked lost dropped : List SentPacket)
    (hothers : ∀ other, other ≠ level → detection.spaces other = ledger.detection.spaces other)
    (hkept : ∀ n p, (detection.spaces level).sent.get? n = some p →
      (ledger.detection.spaces level).sent.get? n = some p)
    (hperm : (acked ++ lost ++ dropped ++ (detection.spaces level).sent.values).Perm
      (ledger.detection.spaces level).sent.values)
    (hkeeps : ledger.detection.controller.Keeps detection.controller)
    (hbytes : detection.controller.bytesInFlight =
      ledger.detection.controller.bytesInFlight - flight (acked ++ lost ++ dropped)) :
    ({ ledger with
      detection := detection
      acked := ledger.acked ++ acked
      lost := ledger.lost ++ lost
      dropped := ledger.dropped ++ dropped } : Ledger).Conserved := by
  have hheld := held_perm hothers hperm
  refine ⟨?_, ?_, fun other n p hp => ?_, hkeeps.isOpen h.isOpen⟩
  · have hsum := flight_perm hheld
    rw [flight_append] at hsum
    simp only [hbytes, h.inFlight, ← hsum]
    ring
  · have haccounted := h.accounted
    rw [← Multiset.coe_eq_coe] at hheld haccounted ⊢
    simp only [← Multiset.coe_add] at hheld haccounted ⊢
    rw [← haccounted, ← hheld]
    abel
  · by_cases hother : other = level
    · subst hother
      exact h.keyed _ _ _ (hkept n p hp)
    · rw [hothers other hother] at hp
      exact h.keyed _ _ _ hp

lemma Conserved.settles (h : ledger.Conserved) {level : Level}
    {acked lost : List SentPacket} (hs : Settles ledger.detection level acked lost detection) :
    ({ ledger with
      detection := detection
      acked := ledger.acked ++ acked
      lost := ledger.lost ++ lost } : Ledger).Conserved := by
  have hreport := h.report acked lost [] hs.others hs.kept (by simpa using hs.permuted) hs.keeps
    (by simpa using hs.accounts)
  simpa using hreport

lemma Conserved.emptied (h : ledger.Conserved) (level : Level) (discarded : Bool) :
    ({ ledger with
      detection := ledger.detection.emptied level discarded
      dropped := ledger.dropped ++ (ledger.detection.spaces level).sent.values } : Ledger).Conserved := by
  obtain ⟨hkeeps, hbytes⟩ := ledger.detection.controller.releases
    ((ledger.detection.spaces level).sent.values.filter (·.inFlight))
  rw [flight_filter] at hbytes
  have hothers : ∀ other, other ≠ level →
      (ledger.detection.emptied level discarded).spaces other = ledger.detection.spaces other :=
    fun other hne => (spaces_setSpace _ _ _ _).trans (if_neg hne)
  have hempty : ((ledger.detection.emptied level discarded).spaces level).sent = .empty := by
    simp [LossDetection.emptied]
  have hreport := h.report [] [] (ledger.detection.spaces level).sent.values hothers
    (fun n p hp => by simp [hempty] at hp) (by simp [hempty]) hkeeps hbytes
  simpa using hreport

lemma Conserved.step (h : ledger.Conserved) (op : Op)
    (hnew : ∀ packet, op.packet? = some packet → packetKey packet ∉ ledger.sent.map packetKey) :
    match ledger.step op with
    | .ok ledger' => ledger'.Conserved ∧ ledger'.sent = ledger.sent ++ op.packet?.toList ∧
        ledger'.detection.controller.maxDatagramSize = ledger.detection.controller.maxDatagramSize
    | .error e => e = .zeroDivision ∧ ledger.detection.controller.maxDatagramSize = 0 := by
  cases op with
  | onPacketSent packet =>
    exact ⟨h.onPacketSent (hnew packet rfl), rfl, (NewReno.keeps_onPacketSent _ packet).size⟩
  | onAckReceived level ack ackDelay now =>
    have hspec := onAckReceived_spec ledger.detection level ack ackDelay now
    cases hack : LossDetection.onAckReceived level ack ackDelay now ledger.detection with
    | ok outcome detection =>
      obtain ⟨-, hsettles, -⟩ := hspec.of_ok hack
      simp only [Ledger.step, hack, Op.packet?, Option.toList_none, List.append_nil]
      exact ⟨h.settles hsettles, trivial, hsettles.keeps.size⟩
    | error e detection =>
      rcases hspec.of_error hack with ⟨⟨reason, rfl, -⟩, rfl⟩ | ⟨-, rfl, -, hclosed⟩
      · simp only [Ledger.step, hack, Op.packet?, Option.toList_none, List.append_nil]
        exact ⟨{ h with }, trivial, trivial⟩
      · simp only [Ledger.step, hack]
        exact ⟨trivial, hclosed h.isOpen⟩
  | onLossDetectionTimeout now =>
    obtain ⟨level, hsettles⟩ := onLossDetectionTimeout_settles ledger.detection now
    have hconserved := h.settles hsettles
    simp only [Ledger.step, Op.packet?, Option.toList_none, List.append_nil] at hconserved ⊢
    exact ⟨hconserved, trivial, hsettles.keeps.size⟩
  | restartSpace level =>
    simp only [Ledger.step, Op.packet?, Option.toList_none, List.append_nil]
    exact ⟨h.emptied level _, trivial, (NewReno.releases _ _).1.size⟩
  | discardSpace level =>
    simp only [Ledger.step, Op.packet?, Option.toList_none, List.append_nil]
    exact ⟨h.emptied level true, trivial, (NewReno.releases _ _).1.size⟩

lemma Conserved.run (h : ledger.Conserved) (ops : List Op)
    (hfresh : (ledger.sent.map packetKey ++ (ops.filterMap Op.packet?).map packetKey).Nodup) :
    match ledger.run ops with
    | .ok ledger' => ledger'.Conserved ∧ ledger'.sent = ledger.sent ++ ops.filterMap Op.packet?
    | .error e => e = .zeroDivision ∧ ledger.detection.controller.maxDatagramSize = 0 := by
  induction ops generalizing ledger with
  | nil => exact ⟨h, by simp⟩
  | cons op ops ih =>
    have hsplit : (op :: ops).filterMap Op.packet? = op.packet?.toList ++ ops.filterMap Op.packet? := by
      cases hop : op.packet? <;> simp [hop]
    rw [hsplit, List.map_append] at hfresh
    have hnew : ∀ packet, op.packet? = some packet → packetKey packet ∉ ledger.sent.map packetKey := by
      intro packet hpacket hmem
      exact (List.nodup_append.1 hfresh).2.2 _ hmem _ (by simp [hpacket]) rfl
    have hstep := h.step op hnew
    rw [Ledger.run, List.foldlM_cons]
    cases hop : ledger.step op with
    | error e =>
      simp only [hop] at hstep
      exact hstep
    | ok ledger' =>
      simp only [hop] at hstep
      obtain ⟨hconserved, hsent, hsize⟩ := hstep
      have hrest := ih hconserved (by simpa [hsent] using hfresh)
      rw [hsplit]
      cases hrun : ledger'.run ops with
      | ok final =>
        rw [hrun] at hrest
        rw [Ledger.run] at hrun
        simp only [bind, Except.bind, hrun]
        exact ⟨hrest.1, by rw [hrest.2, hsent, List.append_assoc]⟩
      | error e =>
        rw [hrun] at hrest
        rw [Ledger.run] at hrun
        simp only [bind, Except.bind, hrun]
        exact ⟨hrest.1, hsize ▸ hrest.2⟩

end Steps

/-- The division by a closed congestion window, which ends a run, needs datagrams of no size. -/
theorem in_flight_conserved (maxDatagramSize : ℕ) (isClient : Bool) (ops : List Op) (h : Fresh ops) :
    match (new maxDatagramSize isClient).run ops with
    | .ok ledger =>
      ledger.detection.controller.bytesInFlight = flight ledger.detection.held ∧
      0 ≤ ledger.detection.controller.bytesInFlight ∧
      ledger.sent = ops.filterMap Op.packet? ∧
      ledger.sent.Nodup ∧
      (ledger.detection.held ++ ledger.acked ++ ledger.lost ++ ledger.dropped).Perm ledger.sent
    | .error e => e = .zeroDivision ∧ maxDatagramSize = 0 := by
  have hrun := (conserved_new maxDatagramSize isClient).run ops h
  cases hledger : (new maxDatagramSize isClient).run ops with
  | error e =>
    rw [hledger] at hrun
    exact hrun
  | ok ledger =>
    rw [hledger] at hrun
    obtain ⟨hconserved, hsent⟩ := hrun
    have hsent : ledger.sent = ops.filterMap Op.packet? := by simpa [new] using hsent
    refine ⟨hconserved.inFlight, ?_, hsent, ?_, hconserved.accounted⟩
    · rw [hconserved.inFlight]
      exact flight_nonneg _
    · rw [hsent]
      exact List.Nodup.of_map packetKey h

def lossyOps : List Op :=
  (List.range 5).map (fun n => .onPacketSent ⟨.initial, n, 4, true, true, 1200, []⟩) ++
    [.onAckReceived .initial ⟨4, 0, [(4, 4)], none⟩ 0 5, .restartSpace .initial]

theorem in_flight_conserved_lossyOps :
    Fresh lossyOps ∧
    match (new 1200 true).run lossyOps with
    | .ok ledger =>
      ledger.detection.controller.bytesInFlight = flight ledger.detection.held ∧
      0 ≤ ledger.detection.controller.bytesInFlight ∧
      ledger.sent = lossyOps.filterMap Op.packet? ∧
      ledger.sent.Nodup ∧
      (ledger.detection.held ++ ledger.acked ++ ledger.lost ++ ledger.dropped).Perm ledger.sent
    | .error e => e = .zeroDivision ∧ 1200 = 0 :=
  ⟨by decide, in_flight_conserved 1200 true lossyOps (by decide)⟩


end Ledger

end Dsquic.Recovery
