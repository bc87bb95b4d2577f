import Dsquic.Connection.Custody
import Dsquic.Connection.Discard

/-!
The handshake bytes of a level are a stream: every CRYPTO frame is a part of it at the offset it says, and
every byte of it is kept until a packet with it is acknowledged.
-/

namespace Dsquic.Connection

open Lib Wire Streams Recovery

def cryptoStream (level : Level) : List Note → Bytes
  | [] => []
  | .emitted other data :: trace => cryptoStream level trace ++ if other = level then data else []
  | _ :: trace => cryptoStream level trace

def Note.isAcked : Note → Bool
  | .acked _ => true
  | _ => false

structure Holds (stream : Bytes) (crypto : Crypto) (i : ℕ) : Prop where
  slice : IsSlice stream crypto.offset crypto.data
  lower : crypto.offset ≤ i
  upper : i < crypto.offset + crypto.data.length

structure Queue.Labels (queue : Queue) (stream : Bytes) : Prop where
  offset : queue.cryptoOffsetSent ≤ stream.length
  pending : stream.drop queue.cryptoOffsetSent = queue.cryptoPending
  retransmit : ∀ crypto ∈ queue.cryptoRetransmit, IsSlice stream crypto.offset crypto.data

variable {queue : Queue}

section Slices

variable {stream : Bytes} {lost : Crypto} {i : ℕ}

lemma Holds.split (h : Holds stream lost i) (available : ℕ) :
    Holds stream ⟨lost.offset, lost.data.take available⟩ i ∨
      (lost.data.drop available ≠ [] ∧
        Holds stream ⟨lost.offset + (lost.data.take available).length, lost.data.drop available⟩ i) := by
  have hupper := h.upper
  have hlength : (lost.data.take available).length + (lost.data.drop available).length = lost.data.length := by
    rw [← List.length_append, List.take_append_drop]
  by_cases hi : i < lost.offset + (lost.data.take available).length
  · exact .inl ⟨h.slice.take available, h.lower, hi⟩
  · refine .inr ⟨?_, h.slice.drop available, by simpa using hi, ?_⟩
    · rw [← List.length_pos_iff_ne_nil]
      omega
    · show i < lost.offset + (lost.data.take available).length + (lost.data.drop available).length
      omega

lemma Holds.append (h : Holds stream lost i) (more : Bytes) : Holds (stream ++ more) lost i :=
  ⟨h.slice.append more, h.lower, h.upper⟩

lemma Queue.Labels.resend (h : queue.Labels stream) {rest : List Crypto}
    (hlost : queue.cryptoRetransmit = lost :: rest) (available : ℕ) :
    ({ queue with
      cryptoRetransmit := if lost.data.drop available = [] then rest
        else ⟨lost.offset + (lost.data.take available).length, lost.data.drop available⟩ :: rest } :
      Queue).Labels stream := by
  have hrest : ∀ crypto ∈ rest, IsSlice stream crypto.offset crypto.data := fun crypto hcrypto =>
    h.retransmit crypto (by simp [hlost, hcrypto])
  refine { h with retransmit := fun crypto hcrypto => ?_ }
  simp only at hcrypto
  split_ifs at hcrypto
  · exact hrest crypto hcrypto
  · rcases List.mem_cons.1 hcrypto with rfl | hcrypto
    · exact (h.retransmit lost (by simp [hlost])).drop available
    · exact hrest crypto hcrypto

lemma Queue.Labels.send (h : queue.Labels stream) (available : ℕ) : ({ queue with
      cryptoPending := queue.cryptoPending.drop available
      cryptoOffsetSent := queue.cryptoOffsetSent + (queue.cryptoPending.take available).length } :
      Queue).Labels stream := by
  have hlength := congrArg List.length h.pending
  rw [List.length_drop] at hlength
  have hoffset := h.offset
  refine { h with offset := ?_, pending := ?_ }
  · simp only [List.length_take]
    omega
  · simp only [← List.drop_drop, h.pending, List.length_take]
    by_cases hle : available ≤ queue.cryptoPending.length
    · rw [Nat.min_eq_left hle]
    · rw [Nat.min_eq_right (Nat.le_of_not_le hle), List.drop_length, List.drop_of_length_le (Nat.le_of_not_le hle)]

end Slices

namespace Core

variable {s s' : Core} {level : Level} {queues : Level → Queue} {other : Level}

structure Labelled (s : Core) : Prop where
  queues : ∀ level, (s.queues level).discarded = false → (s.queues level).Labels (cryptoStream level s.trace)
  carried : ∀ level crypto, (s.queues level).discarded = false → s.Carried level (.crypto crypto) →
    IsSlice (cryptoStream level s.trace) crypto.offset crypto.data
  sealed : ∀ level keys packetNumber frames crypto, .sealed level keys packetNumber frames ∈ s.trace →
    .crypto crypto ∈ frames → IsSlice (cryptoStream level s.trace) crypto.offset crypto.data

lemma discarded_before (heffect : Effect s s') (h : (s'.queues level).discarded = false) :
    (s.queues level).discarded = false := by
  cases hgone : (s.queues level).discarded with
  | false => rfl
  | true =>
    rw [discarded_effect heffect level hgone] at h
    cases h

lemma cryptoStream_effect (heffect : Effect s s') (level : Level) :
    ∃ more, cryptoStream level s'.trace = cryptoStream level s.trace ++ more := by
  have hsame : cryptoStream level s.trace = cryptoStream level s.trace ++ [] := (List.append_nil _).symm
  cases heffect with
  | emit other data => exact ⟨_, rfl⟩
  | close frame =>
    simp only [close]
    split_ifs <;> exact ⟨[], hsame⟩
  | abort frame errorCode reason =>
    simp only [close]
    split_ifs <;> exact ⟨[], hsame⟩
  | _ => exact ⟨[], hsame⟩

lemma labels_update {stream : Level → Bytes}
    (h : ∀ level, (queues level).discarded = false → (queues level).Labels (stream level))
    (hqueue : queue.discarded = false → queue.Labels (stream other)) (level : Level)
    (hlevel : (Function.update queues other queue level).discarded = false) :
    (Function.update queues other queue level).Labels (stream level) := by
  by_cases hother : level = other
  · subst hother
    simp only [Function.update_self] at hlevel ⊢
    exact hqueue hlevel
  · simp only [Function.update_of_ne hother] at hlevel ⊢
    exact h level hlevel

lemma Labelled.emit (h : s.Labelled) (other : Level) (data : Bytes) (level : Level)
    (hlevel : (Function.update s.queues other { s.queues other with
      cryptoPending := (s.queues other).cryptoPending ++ data } level).discarded = false) :
    (Function.update s.queues other { s.queues other with
      cryptoPending := (s.queues other).cryptoPending ++ data } level).Labels
      (cryptoStream level s.trace ++ if other = level then data else []) := by
  by_cases hother : level = other
  · subst hother
    simp only [Function.update_self, if_true] at hlevel ⊢
    have hlabels := h.queues level hlevel
    refine ⟨?_, ?_, fun crypto hcrypto => (hlabels.retransmit crypto hcrypto).append data⟩
    · exact hlabels.offset.trans (by simp)
    · show List.drop (s.queues level).cryptoOffsetSent (cryptoStream level s.trace ++ data) =
        (s.queues level).cryptoPending ++ data
      rw [List.drop_append_of_le_length hlabels.offset, hlabels.pending]
  · simp only [Function.update_of_ne hother, if_neg (Ne.symm hother), List.append_nil] at hlevel ⊢
    exact h.queues level hlevel

lemma Labelled.queues_effect (h : s.Labelled) (heffect : Effect s s') (level : Level)
    (hlevel : (s'.queues level).discarded = false) : (s'.queues level).Labels (cryptoStream level s'.trace) := by
  cases heffect with
  | discard other hother hdiscarded => exact labels_update h.queues (fun hopen => by cases hopen) level hlevel
  | emit other data => exact h.emit other data level hlevel
  | requeueCrypto other crypto rest hheld =>
    refine labels_update h.queues (fun hopen => ?_) level hlevel
    have hcarried : s.Carried other (.crypto crypto) := .inl (by simp [hheld])
    refine { h.queues other hopen with retransmit := fun f hf => ?_ }
    rcases List.mem_append.1 hf with hf | hf
    · exact (h.queues other hopen).retransmit f hf
    · rw [List.mem_singleton.1 hf]
      exact h.carried other crypto hopen hcarried
  | resendCrypto other lost rest available hlost =>
    refine labels_update h.queues ?_ level hlevel
    exact fun hopen => (h.queues other hopen).resend hlost available
  | sendCrypto other available =>
    refine labels_update h.queues ?_ level hlevel
    exact fun hopen => (h.queues other hopen).send available
  | confirm | takeNumber | protect | send | sync | sendKey | rotate | adopt | install | retry =>
    refine labels_update h.queues ?_ level hlevel
    exact fun hopen => { h.queues _ hopen with }
  | close frame =>
    simp only [close] at hlevel ⊢
    split_ifs at hlevel ⊢ <;> exact h.queues level hlevel
  | abort frame errorCode reason =>
    simp only [close] at hlevel ⊢
    split_ifs at hlevel ⊢ <;> exact h.queues level hlevel
  | _ => exact h.queues level hlevel

theorem Labelled.effect (h : s.Labelled) (hs : s.Sound) (heffect : Effect s s') : s'.Labelled where
  queues := h.queues_effect heffect
  carried level crypto hlevel hcarried := by
    have hopen := discarded_before heffect hlevel
    obtain ⟨more, hmore⟩ := cryptoStream_effect heffect level
    rw [hmore]
    apply IsSlice.append
    rcases hcarried.origin hs heffect with hcarried | htaken
    · exact h.carried level crypto hopen hcarried
    · have hlabels := h.queues level hopen
      cases htaken with
      | control _ hcontrol => exact absurd (hs.controls _ hcontrol) id
      | plain _ hplain => cases hplain
      | resent lost available hlost => exact (hlabels.retransmit lost hlost).take available
      | sent available =>
        rw [← hlabels.pending]
        exact IsSlice.take_drop hlabels.offset available
  sealed level keys packetNumber frames crypto hsealed hcrypto := by
    obtain ⟨more, hmore⟩ := cryptoStream_effect heffect level
    rw [hmore]
    apply IsSlice.append
    rcases sealed_effect heffect hsealed with hsealed | ⟨hopen, ⟨close, rfl⟩ | hcarried⟩
    · exact h.sealed level keys packetNumber frames crypto hsealed hcrypto
    · cases List.mem_singleton.1 hcrypto
    · exact h.carried level crypto hopen (hcarried _ hcrypto)

def CryptoKept (s : Core) (level : Level) (crypto : Crypto) : Prop :=
  crypto ∈ (s.queues level).cryptoRetransmit ∨ s.Carried level (.crypto crypto) ∨ s.Spent level (.crypto crypto)

def Retains (s : Core) : Prop := ∀ level i, (s.queues level).discarded = false →
  i < (s.queues level).cryptoOffsetSent → ∃ crypto, Holds (cryptoStream level s.trace) crypto i ∧
    s.CryptoKept level crypto

lemma Spent.effect {frame : Crypto} (h : s.Spent level (.crypto frame)) (heffect : Effect s s') :
    s'.Spent level (.crypto frame) := by
  obtain ⟨packet, hacked, hpacket⟩ := h
  exact ⟨packet, heffect.trace_subset hacked, hpacket⟩

variable {crypto : Crypto} {stream : Bytes} {i : ℕ}

lemma mem_retransmit_update (h : crypto ∈ (queues level).cryptoRetransmit)
    (hqueue : ∀ crypto ∈ (queues other).cryptoRetransmit, crypto ∈ queue.cryptoRetransmit) :
    crypto ∈ (Function.update queues other queue level).cryptoRetransmit := by
  by_cases hother : level = other
  · subst hother
    simpa using hqueue crypto h
  · simpa [hother] using h

lemma retransmit_effect (heffect : Effect s s') (hopen : (s'.queues level).discarded = false)
    (hholds : Holds stream crypto i) (h : crypto ∈ (s.queues level).cryptoRetransmit) :
    ∃ crypto', Holds stream crypto' i ∧ s'.CryptoKept level crypto' := by
  cases heffect with
  | discard other hother hdiscarded =>
    refine ⟨crypto, hholds, .inl ?_⟩
    by_cases hlevel : level = other
    · simp [onQueue, onInbox, Core.note, hlevel] at hopen
    · simpa [onQueue, onInbox, Core.note, hlevel] using h
  | requeueCrypto other lost rest hheld =>
    exact ⟨crypto, hholds, .inl (mem_retransmit_update h fun _ hmem => List.mem_append_left _ hmem)⟩
  | resendCrypto other lost rest available hlost =>
    by_cases hlevel : level = other
    · subst hlevel
      rw [hlost] at h
      rcases List.mem_cons.1 h with rfl | h
      · rcases hholds.split available with hholds | ⟨hrest, hholds⟩
        · exact ⟨_, hholds, .inr (.inl (.inl (by simp [hold])))⟩
        · exact ⟨_, hholds, .inl (by simp [hold, onQueue, hrest])⟩
      · refine ⟨crypto, hholds, .inl ?_⟩
        simp only [hold, onQueue, Function.update_self]
        split_ifs
        · exact h
        · exact List.mem_cons_of_mem _ h
    · exact ⟨crypto, hholds, .inl (by simpa [hold, onQueue, hlevel] using h)⟩
  | confirm | emit | sendCrypto | takeNumber | protect | send | sync | sendKey | rotate | adopt | install
  | retry =>
    exact ⟨crypto, hholds, .inl (mem_retransmit_update h fun _ => id)⟩
  | close frame =>
    simp only [close]
    split_ifs <;> exact ⟨crypto, hholds, .inl h⟩
  | abort frame errorCode reason =>
    simp only [close]
    split_ifs <;> exact ⟨crypto, hholds, .inl h⟩
  | _ => exact ⟨crypto, hholds, .inl h⟩

lemma CryptoKept.effect (h : s.CryptoKept level crypto)
    (hholds : Holds stream crypto i) (hs : s.Sound) (hfresh : s.Fresh) (heffect : Effect s s')
    (hopen : (s'.queues level).discarded = false) (hintact : s'.caller.intact = true) :
    ∃ crypto', Holds stream crypto' i ∧ s'.CryptoKept level crypto' := by
  rcases h with hlost | hcarried | hspent
  · exact retransmit_effect heffect hopen hholds hlost
  · refine ⟨crypto, hholds, ?_⟩
    rcases hcarried.effect hs hfresh heffect with hcarried | hreleased
    · exact .inr (.inl hcarried)
    · cases hreleased with
      | lost _ hlost =>
        rw [hintact] at hlost
        cases hlost
      | discarded _ hgone =>
        rw [hopen] at hgone
        cases hgone
      | requeuedCrypto _ hmem => exact .inl hmem
      | spent _ hspent => exact .inr (.inr (hspent.effect heffect))
  · exact ⟨crypto, hholds, .inr (.inr (hspent.effect heffect))⟩

lemma offsetSent_effect (heffect : Effect s s') (hi : i < (s'.queues level).cryptoOffsetSent) :
    i < (s.queues level).cryptoOffsetSent ∨ ∃ available, (s.queues level).cryptoOffsetSent ≤ i ∧
      i < (s.queues level).cryptoOffsetSent + ((s.queues level).cryptoPending.take available).length ∧
      s'.Carried level
        (.crypto ⟨(s.queues level).cryptoOffsetSent, (s.queues level).cryptoPending.take available⟩) := by
  have hupdate : ∀ (other : Level) (queue : Queue),
      queue.cryptoOffsetSent = (s.queues other).cryptoOffsetSent →
      i < (Function.update s.queues other queue level).cryptoOffsetSent →
        i < (s.queues level).cryptoOffsetSent := by
    intro other queue hqueue hi
    by_cases hother : level = other
    · subst hother
      simpa [hqueue] using hi
    · simpa [hother] using hi
  cases heffect with
  | sendCrypto other available =>
    by_cases hother : level = other
    · subst hother
      by_cases hold : i < (s.queues level).cryptoOffsetSent
      · exact .inl hold
      · exact .inr ⟨available, Nat.le_of_not_lt hold, by simpa [Core.hold, onQueue] using hi,
          .inl (by simp [Core.hold])⟩
    · exact .inl (by simpa [hold, onQueue, hother] using hi)
  | discard | confirm | emit | requeueCrypto | resendCrypto | takeNumber | protect | send | sync | sendKey | rotate
  | adopt | install | retry => exact .inl (hupdate _ _ (by rfl) hi)
  | close frame =>
    simp only [close] at hi
    split_ifs at hi <;> exact .inl hi
  | abort frame errorCode reason =>
    simp only [close] at hi
    split_ifs at hi <;> exact .inl hi
  | _ => exact .inl hi

lemma Retains.effect (h : s.Retains) (hs : s.Sound) (hfresh : s.Fresh) (hlabelled : s.Labelled)
    (heffect : Effect s s') (hintact : s'.caller.intact = true) : s'.Retains := by
  intro level i hlevel hi
  have hopen := discarded_before heffect hlevel
  obtain ⟨more, hmore⟩ := cryptoStream_effect heffect level
  rw [hmore]
  rcases offsetSent_effect heffect hi with hi | ⟨available, hlower, hupper, hcarried⟩
  · obtain ⟨crypto, hholds, hkept⟩ := h level i hopen hi
    exact hkept.effect (hholds.append more) hs hfresh heffect hlevel hintact
  · have hlabels := hlabelled.queues level hopen
    have hslice := IsSlice.take_drop hlabels.offset available
    rw [hlabels.pending] at hslice
    exact ⟨_, ⟨hslice.append more, hlower, hupper⟩, .inr (.inl hcarried)⟩

structure Handshakes (s : Core) : Prop where
  sound : s.Sound
  fresh : s.Fresh
  labelled : s.Labelled
  retains : s.caller.intact = true → s.Retains

lemma Handshakes.effect (h : s.Handshakes) (heffect : Effect s s') : s'.Handshakes where
  sound := h.sound.effect heffect
  fresh := h.fresh.effect heffect
  labelled := h.labelled.effect h.sound heffect
  retains hintact :=
    (h.retains (heffect.intact hintact)).effect h.sound h.fresh h.labelled heffect hintact

lemma handshakes_initial (prims : Primitives) (isClient : Bool) (config : Config) (hostCid peerCid : Bytes) :
    (Core.initial prims isClient config hostCid peerCid).Handshakes where
  sound := sound_initial prims isClient config hostCid peerCid
  fresh := fresh_initial prims isClient config hostCid peerCid
  labelled := {
    queues := fun _ _ => ⟨le_refl _, rfl, fun _ hmem => absurd hmem List.not_mem_nil⟩
    carried := fun _ _ _ hcarried => absurd hcarried (not_carried_initial prims isClient config hostCid peerCid)
    sealed := fun _ _ _ _ _ hmem => absurd hmem List.not_mem_nil }
  retains _ _ _ _ hi := absurd hi (Nat.not_lt_zero _)

end Core

variable {env : Env} {c : Conn env}

theorem crypto_streams_kept (h : Begins c) (ops : List (Op env)) (level : Level)
    (hopen : (((Session.start c).run ops).conn.spaces level).discarded = false) :
    (∀ keys packetNumber frames crypto,
      .sealed level keys packetNumber frames ∈ ((Session.start c).run ops).conn.trace → .crypto crypto ∈ frames →
      IsSlice (cryptoStream level ((Session.start c).run ops).conn.trace) crypto.offset crypto.data) ∧
    (cryptoStream level ((Session.start c).run ops).conn.trace).drop
        (((Session.start c).run ops).conn.spaces level).cryptoOffsetSent =
      (((Session.start c).run ops).conn.spaces level).cryptoPending ∧
    ((Session.start c).sendsReturn ops = true →
      ∀ i < (((Session.start c).run ops).conn.spaces level).cryptoOffsetSent,
      ∃ crypto, Holds (cryptoStream level ((Session.start c).run ops).conn.trace) crypto i ∧
        (crypto ∈ (((Session.start c).run ops).conn.spaces level).cryptoRetransmit ∨
        (∃ packet ∈ (((Session.start c).run ops).conn.recovery.spaces level).sent.values,
          .crypto crypto ∈ packet.frames) ∨
        ∃ packet, .acked packet ∈ ((Session.start c).run ops).conn.trace ∧ packet.level = level ∧
          .crypto crypto ∈ packet.frames)) := by
  obtain ⟨_, _, _, _, intact, -, -, hpath, hintact⟩ := Session.reached h ops
  have hall := hpath.invariant (fun _ _ heffect hs => Core.Handshakes.effect hs heffect)
    (Core.handshakes_initial _ _ _ _ _)
  refine ⟨hall.labelled.sealed level, (hall.labelled.queues level hopen).pending, fun hreturns i hi => ?_⟩
  obtain ⟨crypto, hholds, hlost | hcarried | hspent⟩ := hall.retains (hintact hreturns) level i hopen hi
  · exact ⟨crypto, hholds, .inl hlost⟩
  · exact ⟨crypto, hholds, .inr (.inl (hcarried.resolve_left List.not_mem_nil))⟩
  · exact ⟨crypto, hholds, .inr (.inr hspent)⟩

theorem crypto_streams_kept_handshake :
    (Session.start (plainServer .default)).sendsReturn plainFlight = true ∧
    0 < (((Session.start (plainServer .default)).run plainFlight).conn.spaces .handshake).cryptoOffsetSent ∧
    ∃ crypto, Holds (cryptoStream .handshake ((Session.start (plainServer .default)).run plainFlight).conn.trace)
      crypto 0 ∧
      (crypto ∈
        (((Session.start (plainServer .default)).run plainFlight).conn.spaces .handshake).cryptoRetransmit ∨
      (∃ packet ∈ (((Session.start (plainServer .default)).run plainFlight).conn.recovery.spaces
        .handshake).sent.values, .crypto crypto ∈ packet.frames) ∨
      ∃ packet, .acked packet ∈ ((Session.start (plainServer .default)).run plainFlight).conn.trace ∧
        packet.level = .handshake ∧ .crypto crypto ∈ packet.frames) :=
  ⟨by decide +kernel, by decide +kernel, (crypto_streams_kept (begins_plainServer .default) plainFlight .handshake
    (by decide +kernel)).2.2 (by decide +kernel) 0 (by decide +kernel)⟩

def plainUnsendable : Config := { Config.default with version := 2 ^ 32 }

theorem crypto_byte_dropped :
    cryptoStream .initial
      ((Session.start (plainClient plainUnsendable none)).run [.datagramsToSend 0 1]).conn.trace =
      [1] ∧
    (((Session.start (plainClient plainUnsendable none)).run [.datagramsToSend 0 1]).conn.spaces
      .initial).discarded = false ∧
    (((Session.start (plainClient plainUnsendable none)).run [.datagramsToSend 0 1]).conn.spaces
      .initial).cryptoPending = [] ∧
    (((Session.start (plainClient plainUnsendable none)).run [.datagramsToSend 0 1]).conn.spaces
      .initial).cryptoRetransmit = [] ∧
    (((Session.start (plainClient plainUnsendable none)).run [.datagramsToSend 0 1]).conn.recovery.spaces
      .initial).sent.values = [] ∧
    ((Session.start (plainClient plainUnsendable none)).run [.datagramsToSend 0 1]).conn.trace.all
      (fun note => !note.isAcked) = true := by
  decide +kernel

end Dsquic.Connection
