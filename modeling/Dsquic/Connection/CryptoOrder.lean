import Dsquic.Connection.Plain
import Dsquic.Connection.Run
import Dsquic.Tls.Handshake

/-!
The CRYPTO bytes of a level: TLS is passed them in order, in whatever order their frames arrive, and makes the same
of them however they are divided.
-/

namespace Dsquic.Connection

open Lib Wire Streams Recovery

def Note.crypto? (level : Level) : Note → Option (Crypto × Bytes)
  | .reassembled other frame passed => if other = level then some (frame, passed) else none
  | _ => none

def cryptoNotes (level : Level) (trace : List Note) : List (Crypto × Bytes) := trace.filterMap (Note.crypto? level)

def arrivedCrypto (level : Level) (trace : List Note) : List Crypto := (cryptoNotes level trace).map (·.1)

def passedCrypto (level : Level) (trace : List Note) : Bytes :=
  ((cryptoNotes level trace).reverse.map (·.2)).flatten

def CryptoCovers (frames : List Crypto) (i : ℕ) : Prop :=
  ∃ frame ∈ frames, frame.offset ≤ i ∧ i < frame.offset + frame.data.length

section Steps

variable {level : Level} {s s' : Core}

inductive Core.Places (level : Level) (s s' : Core) : Prop
  | quiet (htrace : cryptoNotes level s'.trace = cryptoNotes level s.trace)
      (hreassembly : (s'.inboxes level).reassembly = (s.inboxes level).reassembly)
  | placed (frame : Crypto)
      (htrace : cryptoNotes level s'.trace =
        (frame, ((s.inboxes level).reassembly.accept frame).1) :: cryptoNotes level s.trace)
      (hreassembly : (s'.inboxes level).reassembly = ((s.inboxes level).reassembly.accept frame).2)

lemma reassembly_update {b : Level → Inbox} {f : Inbox} {l : Level} (h : f.reassembly = (b l).reassembly)
    (other : Level) : (Function.update b l f other).reassembly = (b other).reassembly := by
  by_cases hother : other = l
  · subst hother
    simpa using h
  · simp [hother]

lemma cryptoNotes_close (level : Level) (s : Core) (frame : ConnectionClose) :
    cryptoNotes level (s.close frame).trace = cryptoNotes level s.trace ∧ (s.close frame).inboxes = s.inboxes := by
  simp only [Core.close]
  split_ifs <;> exact ⟨rfl, rfl⟩

lemma Core.places (heffect : Effect s s') : s.Places level s' := by
  cases heffect with
  | reassemble other frame =>
    by_cases hlevel : other = level
    · subst hlevel
      refine .placed frame ?_ ?_
      · simp [cryptoNotes, Core.onInbox, Core.note, Note.crypto?]
      · simp [Core.onInbox, Core.note]
    · refine .quiet ?_ ?_
      · simp [cryptoNotes, Core.onInbox, Core.note, Note.crypto?, hlevel]
      · simp [Core.onInbox, Core.note, Ne.symm hlevel]
  | close frame =>
    obtain ⟨htrace, hinboxes⟩ := cryptoNotes_close level s frame
    exact .quiet htrace (by rw [hinboxes])
  | abort frame errorCode reason =>
    obtain ⟨htrace, hinboxes⟩ := cryptoNotes_close level (s.note (.aborted s.state)) frame
    refine .quiet htrace ?_
    simp only [Core.report, hinboxes]
    rfl
  | process | processClose | rekey | secret | rotate | beginPhase | arm | discard | install | adopt | retry =>
    exact .quiet rfl (reassembly_update (by rfl) level)
  | _ => exact .quiet rfl rfl

structure Core.InOrder (s : Core) (level : Level) (stream : Bytes) : Prop where
  received : ∀ i, i ∈ (s.inboxes level).reassembly.received ↔ CryptoCovers (arrivedCrypto level s.trace) i
  placed : Placed (s.inboxes level).reassembly.received (s.inboxes level).reassembly.buffer stream
  read : ∀ i < (s.inboxes level).reassembly.readOffset, i ∈ (s.inboxes level).reassembly.received
  unread : (s.inboxes level).reassembly.readOffset ∉ (s.inboxes level).reassembly.received
  passed : passedCrypto level s.trace = stream.take (s.inboxes level).reassembly.readOffset

variable {stream : Bytes}

lemma Core.inOrder_initial (prims : Primitives) (isClient : Bool) (config : Config) (hostCid peerCid : Bytes)
    (level : Level) (stream : Bytes) :
    (Core.initial prims isClient config hostCid peerCid).InOrder level stream where
  received i := by simp [Core.initial, Inbox.new, Reassembly.new, CryptoCovers, arrivedCrypto, cryptoNotes]
  placed i hi := absurd hi (RangeSet.not_mem_empty i)
  read i hi := absurd hi (Nat.not_lt_zero i)
  unread := RangeSet.not_mem_empty 0
  passed := rfl

lemma Core.InOrder.effect (h : s.InOrder level stream) (heffect : Effect s s')
    (hslices : ∀ frame ∈ arrivedCrypto level s'.trace, IsSlice stream frame.offset frame.data) :
    s'.InOrder level stream := by
  have hplaces : s.Places level s' := Core.places heffect
  rcases hplaces with ⟨htrace, hsame⟩ | ⟨frame, htrace, hplaced⟩
  · constructor
    · simpa only [arrivedCrypto, htrace, hsame] using h.received
    · simpa only [hsame] using h.placed
    · simpa only [hsame] using h.read
    · simpa only [hsame] using h.unread
    · simpa only [passedCrypto, htrace, hsame] using h.passed
  · have hslice : IsSlice stream frame.offset frame.data := hslices frame (by simp [arrivedCrypto, htrace])
    have hstored := h.placed.add 0 hslice
    constructor
    · intro i
      simp only [hplaced, Reassembly.accept, RangeSet.mem_add, h.received, arrivedCrypto, htrace, List.map_cons,
        CryptoCovers, List.mem_cons, exists_eq_or_imp]
      exact or_comm
    · rw [hplaced]
      exact hstored
    · rw [hplaced]
      intro i hi
      by_cases hlo : (s.inboxes level).reassembly.readOffset ≤ i
      · exact RangeSet.mem_of_lt_contiguousFrom hlo hi
      · exact RangeSet.mem_add.2 (.inl (h.read i (not_le.1 hlo)))
    · rw [hplaced]
      exact RangeSet.contiguousFrom_not_mem _ _
    · rw [hplaced, passedCrypto, htrace, List.reverse_cons, List.map_append, List.flatten_append]
      have hpassed : ((cryptoNotes level s.trace).reverse.map (·.2)).flatten = _ := h.passed
      rw [hpassed, List.map_singleton, List.flatten_singleton]
      exact hstored.take_append_read _

lemma Core.InOrder.path (h : s.InOrder level stream) (hpath : Path s s')
    (hslices : ∀ frame ∈ arrivedCrypto level s'.trace, IsSlice stream frame.offset frame.data) :
    s'.InOrder level stream := by
  induction hpath with
  | refl => exact h
  | tail _ heffect ih =>
    refine (ih fun frame hframe => hslices frame ?_).effect heffect hslices
    exact ((heffect.trace_suffix.sublist.filterMap _).map _).subset hframe

end Steps

section Run

variable {env : Env} {c : Conn env}

/-- TLS is passed the longest part of a stream, from its beginning, that the frames which arrived cover. Bytes that
TLS receives in several parts are handled as they are at once; should that raise, the parts behind are not in the
buffer. -/
theorem crypto_order_irrelevant (h : Begins c) (ops : List (Op env)) (level : Level) (stream : Bytes)
    (hslices : ∀ frame ∈ arrivedCrypto level ((Session.start c).run ops).conn.trace,
      IsSlice stream frame.offset frame.data) :
    (∃ n ≤ stream.length, passedCrypto level ((Session.start c).run ops).conn.trace = stream.take n ∧
      (∀ i < n, CryptoCovers (arrivedCrypto level ((Session.start c).run ops).conn.trace) i) ∧
      ¬CryptoCovers (arrivedCrypto level ((Session.start c).run ops).conn.trace) n) ∧
    ∀ (σ : Type) (handle : ℚ → Level → Tls.HandshakeMessage → Bytes → EStateM Raised σ PUnit)
      (state : Tls.Handshake σ) (now : ℚ) (parts : List Bytes), parts ≠ [] →
      Ensures (each (Tls.Handshake.receive handle level · now) parts) state
        (fun _ final => Tls.Handshake.receive handle level parts.flatten now state = .ok ⟨⟩ final)
        fun e final => ∃ front part back, parts = front ++ part :: back ∧
          Tls.Handshake.receive handle level parts.flatten now state =
            .error e (final.extend level back.flatten) := by
  refine ⟨?_, fun σ handle state now parts hparts => Tls.Handshake.receive_flatten hparts⟩
  obtain ⟨isClient, config, hostCid, peerCid, intact, -, -, hpath, -⟩ := Session.reached h ops
  have hordered := (Core.inOrder_initial _ isClient config hostCid peerCid level stream).path hpath hslices
  refine ⟨_, ?_, hordered.passed, fun i hi => (hordered.received i).1 (hordered.read i hi),
    fun hcovers => hordered.unread ((hordered.received _).2 hcovers)⟩
  -- a byte past the end of the stream is in no part of it
  by_contra hlt
  obtain ⟨frame, hframe, -, hstop⟩ := (hordered.received _).1 (hordered.read stream.length (not_le.1 hlt))
  have hend := (hslices frame hframe).stop_le
  omega

end Run

def reorderedOps : List (Op .plain) :=
  [.datagramReceived (plainInitial 0 [.crypto ⟨1, [4, 1]⟩]) 0 none 0,
    .datagramReceived (plainInitial 1 [.crypto ⟨0, [3, 4]⟩]) 0 none 0]

theorem crypto_order_irrelevant_reordered :
    arrivedCrypto .initial ((Session.start (plainServer .default)).run reorderedOps).conn.trace =
      [⟨0, [3, 4]⟩, ⟨1, [4, 1]⟩] ∧
    ∃ n ≤ 3, passedCrypto .initial ((Session.start (plainServer .default)).run reorderedOps).conn.trace =
      [3, 4, 1].take n ∧ (∀ i < n, CryptoCovers [⟨0, [3, 4]⟩, ⟨1, [4, 1]⟩] i) ∧
      ¬CryptoCovers [⟨0, [3, 4]⟩, ⟨1, [4, 1]⟩] n := by
  have harrived : arrivedCrypto .initial ((Session.start (plainServer .default)).run reorderedOps).conn.trace =
      [⟨0, [3, 4]⟩, ⟨1, [4, 1]⟩] := by
    decide +kernel
  have hordered := (crypto_order_irrelevant (begins_plainServer .default) reorderedOps .initial [3, 4, 1] (by
    rw [harrived]
    intro frame hframe
    rcases List.mem_pair.1 hframe with rfl | rfl
    · exact ⟨[], [1], rfl, rfl⟩
    · exact ⟨[3], [], rfl, rfl⟩)).1
  rw [harrived] at hordered
  exact ⟨harrived, hordered⟩

/-- A message of no known type, with a byte behind it: the byte is left in the buffer if it came along. -/
theorem receive_parts_leave_less : ∃ e h₁ h₂,
    each (Tls.Handshake.receive (fun _ _ _ _ => pure ⟨⟩) .initial · 0) [[0, 0, 0, 0], [7]]
      (Tls.Handshake.new PUnit.unit) = .error e h₁ ∧
    Tls.Handshake.receive (fun _ _ _ _ => pure ⟨⟩) .initial [0, 0, 0, 0, 7] 0 (Tls.Handshake.new PUnit.unit) =
      .error e h₂ ∧
    h₁.buffers .initial = [] ∧ h₂.buffers .initial = [7] :=
  ⟨_, _, _, rfl, rfl, rfl, rfl⟩

end Dsquic.Connection
