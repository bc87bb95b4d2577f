import Dsquic.Connection.AckTruth

/-!
No packet number of a space is processed twice, and a packet that comes again does nothing but what
its decryption does to the keys.
-/

namespace Dsquic.Connection

open Lib Wire Streams Recovery

def Space.sansKeys {κ ς : Type} (space : Space κ ς) : Space κ ς :=
  { space with
    keysSend := none
    keysRecv := none
    secretSend := none
    secretRecvNext := none
    keysRecvNext := none
    keysRecvPrevious := none
    keysRecvPreviousExpiry := 0
    keyPhase := false
    keyPhaseFirst := none
    keyPhaseSendFirst := 0 }

def Conn.sansKeys {env : Env} (c : Conn env) : Conn env :=
  { c with spaces := fun level => (c.spaces level).sansKeys, trace := [] }

section Decrypt

variable {env : Env} {c : Conn env} {level : Level} {now : ℚ}

lemma Conn.sansKeys_setSpace {space : Space PacketKeys Bytes} (h : space.sansKeys = (c.spaces level).sansKeys) :
    (c.setSpace level space).sansKeys = c.sansKeys := by
  have hspaces : (fun other => ((c.setSpace level space).spaces other).sansKeys) =
      fun other => (c.spaces other).sansKeys := by
    funext other
    by_cases hother : other = level
    · subst hother
      simpa [Conn.setSpace] using h
    · simp [Conn.setSpace, hother]
  rw [Conn.sansKeys, hspaces]
  rfl

lemma rotateKeys_sansKeys :
    Ensures (rotateKeys level now) c
      fun _ c' => c'.sansKeys = c.sansKeys ∧ ∀ other, processedAt other c'.trace = processedAt other c.trace := by
  simp only [rotateKeys, ensures_flow]
  refine ⟨fun space hspace => ⟨Conn.sansKeys_setSpace (c := c.note _) ?_, fun _ => rfl⟩, fun _ _ => trivial⟩
  simp only [Space.rotateKeys] at hspace
  split at hspace
  · cases hspace
    rfl
  · cases hspace

lemma decrypt_sansKeys (packet : Bytes) (pnOffset : ℕ) (zeroRtt : Bool) :
    Ensures (decrypt level packet pnOffset now zeroRtt) c
      fun _ c' => c'.sansKeys = c.sansKeys ∧ ∀ other, processedAt other c'.trace = processedAt other c.trace := by
  have hphase : ∀ (c₁ : Conn env) (revealed : Space.Revealed),
      (c₁.onSpace level (·.noteKeyPhase revealed)).sansKeys = c₁.sansKeys := by
    intro c₁ revealed
    apply Conn.sansKeys_setSpace
    simp only [Space.noteKeyPhase]
    split_ifs <;> rfl
  simp only [decrypt, ensures_state]
  split
  · exact ⟨rfl, fun _ => rfl⟩
  · exact ⟨rfl, fun _ => rfl⟩
  · trivial
  · next revealed payload updating _ =>
    simp only [ensures_flow]
    refine ⟨fun _ => rotateKeys_sansKeys.imp (fun _ c₁ h₁ => ⟨fun _ => ?_, fun _ => h₁⟩),
      fun _ => ⟨fun _ => ⟨hphase c revealed, fun _ => rfl⟩, fun _ => ⟨rfl, fun _ => rfl⟩⟩⟩
    exact ⟨(hphase c₁ revealed).trans h₁.1, h₁.2⟩

end Decrypt

lemma covers_single {numbers : RangeSet ℕ} {n : ℕ} : numbers.covers n (n + 1) = true ↔ n ∈ numbers := by
  rw [RangeSet.covers_iff]
  refine ⟨fun h => h n le_rfl n.lt_succ_self, fun h x hle hlt => ?_⟩
  obtain rfl : x = n := by omega
  exact h

namespace Core

variable {s s' : Core}

structure Once (s : Core) : Prop where
  records : s.Records
  nodup : ∀ level, ((processedAt level s.trace).map Prod.fst).Nodup

lemma Once.process (h : s.Once) {level : Level} {packetNumber : ℕ} (ecn : ℕ) (payload : Bytes)
    (hnew : (s.inboxes level).receipts.received.covers packetNumber (packetNumber + 1) = false) (other : Level) :
    ((processedAt other (.processed level packetNumber ecn payload :: s.trace)).map Prod.fst).Nodup := by
  by_cases hother : level = other
  · subst hother
    have hcons : processedAt level (.processed level packetNumber ecn payload :: s.trace) =
        (packetNumber, ecn) :: processedAt level s.trace := List.filterMap_cons_some (if_pos rfl)
    rw [hcons, List.map_cons, List.nodup_cons]
    refine ⟨fun hmem => Bool.false_ne_true (hnew.symm.trans ?_), h.nodup level⟩
    rw [h.records level, covers_single]
    exact Receipts.mem_ofPackets.2 hmem
  · have hsame : processedAt other (.processed level packetNumber ecn payload :: s.trace) =
      processedAt other s.trace :=
      List.filterMap_cons_none (if_neg hother)
    rw [hsame]
    exact h.nodup other

lemma Once.effect (h : s.Once) (heffect : Effect s s') : s'.Once where
  records := h.records.effect heffect
  nodup := by
    cases heffect with
    | process level packetNumber ecn payload hnew => exact h.process ecn payload hnew
    | processClose level packetNumber ecn payload frame reason hnew => exact h.process ecn payload hnew
    | close frame =>
      simp only [close]
      split_ifs <;> exact h.nodup
    | abort frame =>
      simp only [close]
      split_ifs <;> exact h.nodup
    | _ => exact h.nodup

end Core

theorem replays_ignored {env : Env} {c : Conn env} (h : c.Reached) (level : Level) :
    ((processedAt level c.trace).map Prod.fst).Nodup ∧
    ∀ (located : Located) (zeroRtt : Bool) (now : ℚ) (ecn n : ℕ) (payload : Bytes) (c' : Conn env),
      located.level = level → decrypt level located.packet located.pnOffset now zeroRtt c =
        .ok (some (n, payload)) c' →
      n ∈ (processedAt level c.trace).map Prod.fst →
      openPacket located zeroRtt now ecn c = .ok located.packetEnd c' ∧ c'.sansKeys = c.sansKeys ∧
        processedAt level c'.trace = processedAt level c.trace := by
  obtain ⟨isClient, config, hostCid, peerCid, caller, hpath⟩ := h
  have honce : (c.core caller []).Once := hpath.invariant (fun _ _ heffect hs => hs.effect heffect)
    ⟨fun _ => rfl, fun _ => List.nodup_nil⟩
  refine ⟨honce.nodup level, ?_⟩
  rintro located zeroRtt now ecn n payload c' rfl hdecrypt hmem
  obtain ⟨hsame, hprocessed⟩ := (decrypt_sansKeys located.packet located.pnOffset zeroRtt).of_ok hdecrypt
  refine ⟨?_, hsame, hprocessed _⟩
  have hreceived : (c'.spaces located.level).received = (c.spaces located.level).received :=
    show (c'.sansKeys.spaces located.level).received = (c.sansKeys.spaces located.level).received by rw [hsame]
  have hrecord :
    (c.spaces located.level).received = (Receipts.ofPackets (processedAt located.level c.trace)).received :=
    congrArg Receipts.received (honce.records located.level)
  have hcovers : (c'.spaces located.level).received.covers n (n + 1) = true := by
    rw [hreceived, hrecord, covers_single]
    exact Receipts.mem_ofPackets.2 hmem
  change EStateM.bind _ _ c = _
  rw [EStateM.bind, hdecrypt]
  change (if _ then _ else _ : M env ℕ) c' = _
  rw [if_pos hcovers]
  rfl

def repeatedServer : Session .plain := greetedServer.run [.datagramReceived plainGreeting 2 none 0]

lemma decrypt_greeting : Ensures (decrypt .initial plainGreeting 26 2 false) greetedServer.conn
    (fun out _ => out.map Prod.fst = some 0) fun _ _ => False := by
  decide +kernel

theorem replays_ignored_repeatedServer :
    ((processedAt .initial repeatedServer.conn.trace).map Prod.fst).Nodup ∧
      ∃ c', openPacket ⟨.initial, 26, plainGreeting, 1200⟩ false 2 0 greetedServer.conn = .ok 1200 c' ∧
        c'.sansKeys = greetedServer.conn.sansKeys ∧ processedAt .initial c'.trace = [(2, 0), (0, 0)] := by
  have hserver := begins_plainServer .default
  have hgreeted : greetedServer.conn.Reached := Session.reached_conn hserver _
  have hrepeated : repeatedServer.conn.Reached := Session.reached_conn hserver
    [.datagramReceived plainGreeting 0 none 0,
      .datagramReceived ((sentAt 1 3 waitingClient.conn).getD 1 []) 1 none 0,
      .datagramReceived plainGreeting 2 none 0]
  refine ⟨(replays_ignored hrepeated .initial).1, ?_⟩
  have hnumbers := greetedServer_facts.2
  obtain ⟨out, c', hdecrypt, hnumber⟩ := exists_of_ensures decrypt_greeting
  obtain ⟨⟨_, payload⟩, rfl, rfl⟩ := Option.map_eq_some_iff.1 hnumber
  obtain ⟨hopen, hsame, hprocessed⟩ :=
    (replays_ignored hgreeted .initial).2 ⟨.initial, 26, plainGreeting, 1200⟩ false 2 0
    0 payload c' rfl hdecrypt (by rw [hnumbers]; decide)
  exact ⟨c', hopen, hsame, hprocessed.trans hnumbers⟩

end Dsquic.Connection
