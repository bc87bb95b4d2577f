import Dsquic.Connection.Plain
import Dsquic.Connection.Run

/-!
Packet numbers are used once, and so are nonces.
-/

namespace Dsquic.Connection

open Lib Wire Streams Recovery

structure Sealing where
  level : Level
  keys : PacketKeys
  packetNumber : ℕ

def Note.sealing : Note → Option Sealing
  | .sealed level keys packetNumber _ => some ⟨level, keys, packetNumber⟩
  | _ => none

def sealings (trace : List Note) : List Sealing := (trace.filterMap Note.sealing).reverse

section Nonce

lemma toBytes_injective {length a b : ℕ} (ha : a < 256 ^ length) (hb : b < 256 ^ length)
    (h : toBytes length a = toBytes length b) : a = b := by
  have heq := congrArg fromBytes h
  rw [fromBytes_toBytes, fromBytes_toBytes, Nat.mod_eq_of_lt ha, Nat.mod_eq_of_lt hb] at heq
  exact heq

lemma zipWith_xor_injective {iv left right : Bytes} (hleft : left.length = iv.length)
    (hright : right.length = iv.length) (h : List.zipWith (· ^^^ ·) iv left = List.zipWith (· ^^^ ·) iv right) :
    left = right := by
  induction iv generalizing left right with
  | nil => rw [List.eq_nil_of_length_eq_zero hleft, List.eq_nil_of_length_eq_zero hright]
  | cons byte iv ih =>
    obtain ⟨x, left, rfl⟩ := List.exists_cons_of_length_eq_add_one hleft
    obtain ⟨y, right, rfl⟩ := List.exists_cons_of_length_eq_add_one hright
    simp only [List.zipWith_cons_cons, List.cons.injEq] at h
    have htail := ih (Nat.succ.inj hleft) (Nat.succ.inj hright) h.2
    have hhead : x = y := by
      have hxor := congrArg (byte ^^^ ·) h.1
      simpa [← UInt8.xor_assoc] using hxor
    rw [hhead, htail]

lemma nonce_injective {iv nonce : Bytes} {a b : ℕ} (ha : Primitives.nonce iv a = .ok nonce)
    (hb : Primitives.nonce iv b = .ok nonce) : a = b := by
  obtain ⟨left, hleft, ha⟩ := bind_eq_ok.1 ha
  obtain ⟨right, hright, hb⟩ := bind_eq_ok.1 hb
  have heq := zipWith_xor_injective (length_intToBytes hleft) (length_intToBytes hright)
    (Except.ok.inj (ha.trans hb.symm))
  simp only [intToBytes] at hleft hright
  split_ifs at hleft hright with hltA hltB
  cases hleft
  cases hright
  exact toBytes_injective hltA hltB heq

end Nonce

namespace Core

variable {s s' : Core}

structure Counts (s : Core) : Prop where
  below : ∀ sealing ∈ s.trace.filterMap Note.sealing,
    sealing.packetNumber < (s.queues sealing.level).nextPacketNumber
  ordered : (s.trace.filterMap Note.sealing).Pairwise fun newer older =>
    newer.level = older.level → older.packetNumber < newer.packetNumber

lemma Counts.of_eq (h : s.Counts) (htrace : s'.trace.filterMap Note.sealing = s.trace.filterMap Note.sealing)
    (hqueues : ∀ level, (s.queues level).nextPacketNumber ≤ (s'.queues level).nextPacketNumber) : s'.Counts where
  below := by
    rw [htrace]
    exact fun sealing hmem => (h.below sealing hmem).trans_le (hqueues sealing.level)
  ordered := by
    rw [htrace]
    exact h.ordered

lemma Counts.sealed (h : s.Counts) (level : Level) (keys : PacketKeys) (frames : List Frame) :
    ((s.note (.sealed level keys (s.queues level).nextPacketNumber frames)).onQueue level fun queue =>
      { queue with nextPacketNumber := queue.nextPacketNumber + 1 }).Counts := by
  refine ⟨fun sealing hmem => ?_, List.pairwise_cons.2 ⟨fun older hmem hlevel => ?_, h.ordered⟩⟩
  · rcases List.mem_cons.1 hmem with rfl | hmem
    · simp [onQueue, note]
    · exact (h.below sealing hmem).trans_le (nextPacketNumber_update (Nat.le_succ _) sealing.level)
  · have hbelow := h.below older hmem
    rw [← hlevel] at hbelow
    exact hbelow

lemma Counts.close (h : s.Counts) (frame : ConnectionClose) : (s.close frame).Counts := by
  simp only [Core.close]
  split_ifs
  · exact h
  · exact h.of_eq rfl fun _ => le_refl _

lemma Counts.effect (h : s.Counts) (heffect : Effect s s') : s'.Counts := by
  cases heffect with
  | close frame => exact h.close frame
  | abort frame errorCode reason =>
    have hnote : (s.note (.aborted s.state)).Counts := h.of_eq rfl fun _ => le_refl _
    exact { hnote.close frame with }
  | protect level keys frames hdiscarded hframes => exact h.sealed level keys frames
  | send keys packet hdiscarded hnumber hheld hsize =>
    rw [hnumber]
    exact { h.sealed packet.level keys packet.frames with }
  | takeNumber level => exact h.of_eq rfl (nextPacketNumber_update (Nat.le_succ _))
  | discard | confirm | emit | requeueCrypto | resendCrypto | sendCrypto | sync | sendKey | rotate | adopt
  | install | retry =>
    exact h.of_eq rfl (nextPacketNumber_update (le_refl _))
  | _ => exact h.of_eq rfl fun _ => le_refl _

end Core

section Nonces

variable {env : Env} {c : Conn env}

theorem nonces_distinct (h : Begins c) (ops : List (Op env)) :
    (sealings ((Session.start c).run ops).conn.trace).Pairwise (fun a b => a.level = b.level →
      a.packetNumber < b.packetNumber ∧ (a.keys = b.keys →
        ∀ nonce, Primitives.nonce a.keys.iv a.packetNumber = .ok nonce →
          Primitives.nonce b.keys.iv b.packetNumber ≠ .ok nonce)) ∧
    ((∀ a ∈ sealings ((Session.start c).run ops).conn.trace, ∀ b ∈ sealings ((Session.start c).run ops).conn.trace,
        a.keys = b.keys → a.level = b.level) →
      (sealings ((Session.start c).run ops).conn.trace).Pairwise fun a b => a.keys = b.keys →
        a.packetNumber ≠ b.packetNumber ∧
        ∀ nonce, Primitives.nonce a.keys.iv a.packetNumber = .ok nonce →
          Primitives.nonce b.keys.iv b.packetNumber ≠ .ok nonce) := by
  obtain ⟨_, _, _, _, intact, -, -, hpath, -⟩ := Session.reached h ops
  have hcounts := hpath.invariant (P := Core.Counts) (fun _ _ heffect hs => hs.effect heffect)
    ⟨fun _ hmem => absurd hmem List.not_mem_nil, List.Pairwise.nil⟩
  have hnonce : ∀ a b : Sealing, a.packetNumber < b.packetNumber → a.keys = b.keys →
      ∀ nonce, Primitives.nonce a.keys.iv a.packetNumber = .ok nonce →
        Primitives.nonce b.keys.iv b.packetNumber ≠ .ok nonce := by
    intro a b hlt heq nonce hnonce hnonce'
    rw [heq] at hnonce
    exact hlt.ne (nonce_injective hnonce hnonce')
  have hordered : (sealings ((Session.start c).run ops).conn.trace).Pairwise fun a b =>
      a.level = b.level → a.packetNumber < b.packetNumber := by
    rw [sealings, List.pairwise_reverse]
    exact hcounts.ordered.imp fun hlt hlevel => hlt hlevel.symm
  refine ⟨hordered.imp fun hlt hlevel => ⟨hlt hlevel, hnonce _ _ (hlt hlevel)⟩, fun hkeys =>
    hordered.imp_of_mem fun ha hb hlt heq => ?_⟩
  have hlt := hlt (hkeys _ ha _ hb heq)
  exact ⟨hlt.ne, hnonce _ _ hlt heq⟩

def plainPing (packetNumber : ℕ) : Bytes :=
  plainInitial packetNumber [.ping]

theorem nonces_distinct_two_acks :
    (sealings ((Session.start (plainServer .default)).run
      [.datagramReceived (plainPing 0) 0 none 0, .datagramsToSend 0 9, .datagramReceived (plainPing 1) 1 none 0,
        .datagramsToSend 1 9]).conn.trace).Pairwise fun a b => a.keys = b.keys →
      a.packetNumber ≠ b.packetNumber ∧
      ∀ nonce, Primitives.nonce a.keys.iv a.packetNumber = .ok nonce →
        Primitives.nonce b.keys.iv b.packetNumber ≠ .ok nonce :=
  (nonces_distinct (begins_plainServer .default)
    [.datagramReceived (plainPing 0) 0 none 0, .datagramsToSend 0 9, .datagramReceived (plainPing 1) 1 none 0,
      .datagramsToSend 1 9]).2 (by decide +kernel)

end Nonces

end Dsquic.Connection
