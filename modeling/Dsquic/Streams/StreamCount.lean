import Dsquic.Streams.Intake
import Mathlib.Logic.Relation

/-!
The credit that a manager gives for streams the peer may open, in each direction.
-/

namespace Dsquic.Streams

open Lib Wire

namespace StreamManager

def streamLimit (m : StreamManager) (bidirectional : Bool) : ℕ :=
  if bidirectional then m.localMaxStreamsBidi else m.localMaxStreamsUni

def streamsWindow (m : StreamManager) (bidirectional : Bool) : ℕ :=
  if bidirectional then m.streamsWindowBidi else m.streamsWindowUni

def closedCount (m : StreamManager) (bidirectional : Bool) : ℕ :=
  ((m.peerOpened bidirectional).filter Half.isClosed).length

def countOpened (isClient bidirectional : Bool) (i : ℕ) (_ : Option RecvStream) : ℕ :=
  if isClientInitiated i != isClient && isBidirectional i == bidirectional then 1 else 0

def countClosed (isClient bidirectional : Bool) (i : ℕ) (recv : Option RecvStream) : ℕ :=
  if (recv.map (·.isFullyRead)).getD false then countOpened isClient bidirectional i recv else 0

section Counts

variable (m : StreamManager) (bidirectional : Bool)

lemma closedCount_eq : m.closedCount bidirectional = m.tally (countClosed m.isClient bidirectional) := by
  rw [closedCount, peerOpened, tally, Dict.total]
  induction m.streams.items with
  | nil => rfl
  | cons item items ih =>
    have hclosed : item.2.isClosed = (item.2.recv.map (·.isFullyRead)).getD false := by
      rw [Half.isClosed]
      cases item.2.recv <;> rfl
    rw [List.filter_cons, List.map_cons, List.sum_cons, ← ih, countClosed, countOpened, ← hclosed]
    split_ifs with hpeer hread
    · rw [List.map_cons, List.filter_cons_of_pos hread, List.length_cons, Nat.add_comm]
    · rw [List.map_cons, List.filter_cons_of_neg hread, Nat.zero_add]
    · rw [Nat.zero_add]
    · rw [Nat.zero_add]

lemma eq_of_sequence {i j : ℕ} (hclient : isClientInitiated i = isClientInitiated j)
    (hbidi : isBidirectional i = isBidirectional j) (hsequence : i / 4 = j / 4) : i = j := by
  have hlow : i % 2 = j % 2 := by
    simp only [isClientInitiated, beq_eq_beq] at hclient
    omega
  have hhigh : i / 2 % 2 = j / 2 % 2 := by
    simp only [isBidirectional, beq_eq_beq] at hbidi
    omega
  omega

lemma length_peerOpened_le {bound : ℕ} (h : ∀ i, m.streams.get? i ≠ none → isClientInitiated i ≠ m.isClient →
    isBidirectional i = bidirectional → i / 4 < bound) : (m.peerOpened bidirectional).length ≤ bound := by
  have hnodup : ((m.streams.items.filter fun item =>
      isClientInitiated item.1 != m.isClient && isBidirectional item.1 == bidirectional).map Prod.fst).Nodup :=
    m.streams.nodup.sublist (List.filter_sublist.map _)
  have hmem : ∀ i ∈ (m.streams.items.filter fun item =>
      isClientInitiated item.1 != m.isClient && isBidirectional item.1 == bidirectional).map Prod.fst,
      m.streams.get? i ≠ none ∧ isClientInitiated i ≠ m.isClient ∧ isBidirectional i = bidirectional := by
    intro i hi
    simp only [List.mem_map, List.mem_filter, Bool.and_eq_true, bne_iff_ne, beq_iff_eq] at hi
    obtain ⟨⟨_, half⟩, ⟨hitem, hclient, hbidi⟩, rfl⟩ := hi
    exact ⟨Option.ne_none_iff_exists'.2 ⟨half, Dict.get?_eq_some_iff.2 hitem⟩, hclient, hbidi⟩
  have hsequences := hnodup.map_on (f := (· / 4)) fun i hi j hj hsequence => by
    obtain ⟨-, hclient, hbidi⟩ := hmem i hi
    obtain ⟨-, hclient', hbidi'⟩ := hmem j hj
    exact eq_of_sequence ((Bool.eq_not.2 hclient).trans (Bool.eq_not.2 hclient').symm)
      (hbidi.trans hbidi'.symm) hsequence
  have hsub : List.Subperm _ (List.range bound) := hsequences.subperm fun n hn => by
    obtain ⟨i, hi, rfl⟩ := List.mem_map.1 hn
    obtain ⟨hget, hclient, hbidi⟩ := hmem i hi
    exact List.mem_range.2 (h i hget hclient hbidi)
  simpa [peerOpened] using hsub.length_le

lemma closedCount_add_open : m.closedCount bidirectional +
    ((m.peerOpened bidirectional).filter fun half => !half.isClosed).length =
      (m.peerOpened bidirectional).length := by
  have hsplit := (List.filter_append_perm Half.isClosed (m.peerOpened bidirectional)).length_eq
  rwa [List.length_append] at hsplit

end Counts

structure CountTerms where
  isClient : Bool
  localLimits : FlowControlLimits
  limit : Bool → ℕ
  window : Bool → ℕ

def countTerms (m : StreamManager) : CountTerms := ⟨m.isClient, m.localLimits, m.streamLimit, m.streamsWindow⟩

structure Advances (m m' : StreamManager) : Prop where
  terms : m'.countTerms = m.countTerms
  closed : ∀ b, m.closedCount b ≤ m'.closedCount b
  ids : ∀ i, m'.streams.get? i ≠ none → isClientInitiated i ≠ m.isClient →
    m.streams.get? i ≠ none ∨ i / 4 < m.streamLimit (isBidirectional i)
  numbered : m.Numbered → m'.Numbered

variable {frame : Stream}

namespace Advances

variable {m m' m'' : StreamManager}

lemma refl (m : StreamManager) : m.Advances m := ⟨rfl, fun _ => le_rfl, fun _ h _ => .inl h, id⟩

lemma trans (h : m.Advances m') (h' : m'.Advances m'') : m.Advances m'' where
  terms := h'.terms.trans h.terms
  closed b := (h.closed b).trans (h'.closed b)
  ids i hi hclient := by
    have hsame : m'.isClient = m.isClient := congrArg CountTerms.isClient h.terms
    have hlimit : m'.streamLimit = m.streamLimit := congrArg CountTerms.limit h.terms
    rcases h'.ids i hi (hsame ▸ hclient) with hi | hi
    · exact h.ids i hi hclient
    · exact .inr (hlimit ▸ hi)
  numbered hm := h'.numbered (h.numbered hm)

lemma of_streams_eq (hterms : m'.countTerms = m.countTerms) (hstreams : m'.streams = m.streams)
    (hsequence : m'.nextBidiSequence = m.nextBidiSequence) : m.Advances m' where
  terms := hterms
  closed b := by
    have hsame : m'.isClient = m.isClient := congrArg CountTerms.isClient hterms
    rw [closedCount_eq, closedCount_eq, tally, tally, hstreams, hsame]
  ids i hi _ := .inl (hstreams ▸ hi)
  numbered hm := hm.of_streams_eq hstreams (congrArg CountTerms.isClient hterms) hsequence

lemma of_quiet (h : m.Quiet m') : m.Advances m' where
  terms := by
    have hledger := h.ledger
    simp only [ledger, Ledger.mk.injEq] at hledger
    obtain ⟨hclient, hlimits, -, -, -, hbidi, huni, hwindow, hwindow'⟩ := hledger
    simp only [countTerms, hclient, hlimits, CountTerms.mk.injEq, true_and]
    constructor <;> funext b <;> simp only [streamLimit, streamsWindow, *]
  closed b := by
    have hsame : m'.isClient = m.isClient := congrArg Ledger.isClient h.ledger
    rw [closedCount_eq, closedCount_eq, hsame, h.tally]
    intro i limit hclient
    rfl
  ids i hi hclient := .inl ((h.ids i hi).resolve_right hclient)
  numbered _ := h.numbered

lemma setRecv {i : ℕ} {old : RecvStream} (hold : m.recv? i = some old) (recv : RecvStream)
    (hread : old.isFullyRead = true → recv.isFullyRead = true) : m.Advances (m.setRecv i recv) where
  terms := rfl
  closed b := by
    have hsum := tally_setRecv (countClosed m.isClient b) hold recv
    have hle : countClosed m.isClient b i (some old) ≤ countClosed m.isClient b i (some recv) := by
      simp only [countClosed, Option.map_some, Option.getD_some]
      split_ifs with hfull hfull'
      · exact le_rfl
      · exact absurd (hread hfull) hfull'
      · exact Nat.zero_le _
      · exact le_rfl
    have hcount := closedCount_eq m b
    have hcount' := closedCount_eq (m.setRecv i recv) b
    change _ = (m.setRecv i recv).tally (countClosed m.isClient b) at hcount'
    omega
  ids j hj _ := by
    by_cases hji : j = i
    · exact .inl (hji ▸ get?_ne_none_of_recv? hold)
    · exact .inl (by simpa [StreamManager.setRecv, setHalf, hji] using hj)
  numbered hm := hm.setRecv hold recv

lemma routed (m : StreamManager) (i : ℕ) : m.Advances (m.routed i) := by
  have hnumbered : m.Numbered → (m.routed i).Numbered := fun h => h.routed i
  rw [StreamManager.routed] at hnumbered ⊢
  split at hnumbered
  · next half hnone hcreate =>
    refine ⟨rfl, fun b => ?_, fun j hj hclient => ?_, hnumbered⟩
    · have hsum := tally_setHalf (countClosed m.isClient b) hnone half
      rw [closedCount_eq, closedCount_eq]
      exact hsum ▸ Nat.le_add_right _ _
    · by_cases hji : j = i
      · -- the stream is created only below the limit
        subst hji
        rw [createPeerInitiated, if_neg hclient] at hcreate
        rw [streamLimit]
        split_ifs at hcreate ⊢ with hbidi hlimit hlimit
        · exact .inr (Nat.lt_of_not_le hlimit)
        · exact .inr (Nat.lt_of_not_le hlimit)
      · exact .inl (by simpa [setHalf, hji] using hj)
  · exact refl m

variable {recv : RecvStream}

lemma isFullyRead_accept (h : recv.isFullyRead = true) : (recv.accept frame).isFullyRead = true := by
  have hstate : recv.state = .dataRead := of_decide_eq_true h
  simp only [RecvStream.isFullyRead, RecvStream.accept, RecvStream.receivedState, hstate, if_true]
  split <;> rfl

lemma isFullyRead_creditUpdate (h : recv.isFullyRead = true) :
    recv.creditUpdate.2.isFullyRead = true := by
  rw [RecvStream.creditUpdate]
  split_ifs <;> exact h

lemma accepted (hrecv : m.recv? frame.streamId = some recv) :
    m.Advances (m.accepted frame recv) :=
  (setRecv hrecv _ isFullyRead_accept).trans (of_streams_eq rfl rfl rfl)

lemma read (m : StreamManager) (i : ℕ) : m.Advances (read i m).2 := by
  rw [StreamManager.read]
  cases hrecv : m.recv? i with
  | none => exact refl m
  | some recv => exact setRecv hrecv _ RecvStream.isFullyRead_read

lemma creditUpdate (m : StreamManager) (i : ℕ) : m.Advances (creditUpdate i m).2 := by
  rw [StreamManager.creditUpdate]
  cases hrecv : m.recv? i with
  | none => exact refl m
  | some recv => exact setRecv hrecv _ isFullyRead_creditUpdate

lemma maxDataUpdate (m : StreamManager) : m.Advances m.maxDataUpdate.2 := by
  rw [StreamManager.maxDataUpdate]
  split_ifs
  · exact refl m
  · exact of_streams_eq rfl rfl rfl

lemma refused (h : m.Refused frame m') : m.Advances m' := by
  rcases h with rfl | rfl | ⟨recv, hrecv, rfl | ⟨-, rfl⟩ | ⟨-, rfl⟩⟩
  · exact refl m'
  · exact routed m _
  · exact (routed m _).trans (setRecv hrecv _ id)
  · exact (routed m _).trans (setRecv hrecv _ id)
  · exact (routed m _).trans (accepted hrecv)

lemma onStreamFrame (m : StreamManager) (frame : Stream) : m.Advances (finalState (onStreamFrame frame) m) := by
  apply Ensures.final
  apply (onStreamFrame_spec m frame).mono
  · rintro _ _ ⟨recv, hrecv, -, rfl, -⟩
    exact (routed m _).trans (accepted hrecv)
  · exact fun _ _ h => refused h.2

end Advances

inductive Moves (m : StreamManager) : StreamManager → Prop
  | transmit {m' : StreamManager} (h : m.Transmits m') : Moves m m'
  | receive (frame : Stream) : Moves m (finalState (onStreamFrame frame) m)
  | read (i : ℕ) : Moves m (read i m).2
  | creditUpdate (i : ℕ) : Moves m (creditUpdate i m).2
  | maxDataUpdate : Moves m m.maxDataUpdate.2
  | maxStreamsUpdate (bidirectional : Bool) : Moves m (m.maxStreamsUpdate bidirectional).2
  | handle (frame : Stream) : Moves m (finalState (handleStream frame) m)

structure Counted (m : StreamManager) : Prop where
  numbered : m.Numbered
  paid : ∀ b, m.streamLimit b ≤ m.streamsWindow b + m.closedCount b
  within : ∀ i, m.streams.get? i ≠ none → isClientInitiated i ≠ m.isClient →
    i / 4 < m.streamLimit (isBidirectional i)
  window : ∀ b, m.streamsWindow b = if b then m.localLimits.maxStreamsBidi else m.localLimits.maxStreamsUni

lemma counted_new (isClient : Bool) (localLimits peerLimits : FlowControlLimits) :
    (new isClient localLimits peerLimits).Counted where
  numbered := numbered_new _ _ _
  paid _ := Nat.le_add_right _ _
  within _ hi := absurd rfl hi
  window _ := rfl

section Counting

variable {m m' : StreamManager} {event : Option StreamDataReceived}

lemma Counted.advance (h : m.Counted) (hstep : m.Advances m') : m'.Counted := by
  have hclient : m'.isClient = m.isClient := congrArg CountTerms.isClient hstep.terms
  have hlimits : m'.localLimits = m.localLimits := congrArg CountTerms.localLimits hstep.terms
  have hlimit : m'.streamLimit = m.streamLimit := congrArg CountTerms.limit hstep.terms
  have hwindow : m'.streamsWindow = m.streamsWindow := congrArg CountTerms.window hstep.terms
  refine ⟨hstep.numbered h.numbered, fun b => ?_, fun i hi hpeer => ?_, fun b => ?_⟩
  · rw [hlimit, hwindow]
    exact (h.paid b).trans (Nat.add_le_add_left (hstep.closed b) _)
  · rw [hlimit]
    rw [hclient] at hpeer
    exact (hstep.ids i hi hpeer).elim (h.within i · hpeer) id
  · rw [hwindow, hlimits]
    exact h.window b

lemma maxStreamsUpdate_spec (m : StreamManager) (bidirectional : Bool) :
    (m.maxStreamsUpdate bidirectional).2 = m ∨
      m.streamLimit bidirectional < m.closedCount bidirectional + m.streamsWindow bidirectional ∧
      (m.maxStreamsUpdate bidirectional).2.streamLimit =
        Function.update m.streamLimit bidirectional (m.closedCount bidirectional + m.streamsWindow bidirectional) ∧
      (m.maxStreamsUpdate bidirectional).2.streamsWindow = m.streamsWindow ∧
      (m.maxStreamsUpdate bidirectional).2.closedCount = m.closedCount ∧
      (m.maxStreamsUpdate bidirectional).2.isClient = m.isClient ∧
      (m.maxStreamsUpdate bidirectional).2.localLimits = m.localLimits := by
  cases bidirectional with
  | true =>
    simp only [maxStreamsUpdate, if_true]
    split_ifs with hhalf hfull
    · exact .inl rfl
    · exact .inl rfl
    · refine .inr ⟨Nat.lt_of_not_le hfull, ?_, rfl, rfl, rfl, rfl⟩
      funext b
      cases b <;> rfl
  | false =>
    simp only [maxStreamsUpdate, Bool.false_eq_true, if_false]
    split_ifs with hhalf hfull
    · exact .inl rfl
    · exact .inl rfl
    · refine .inr ⟨Nat.lt_of_not_le hfull, ?_, rfl, rfl, rfl, rfl⟩
      funext b
      cases b <;> rfl

lemma streamLimit_maxStreamsUpdate (m : StreamManager) (bidirectional b : Bool) :
    m.streamLimit b ≤ (m.maxStreamsUpdate bidirectional).2.streamLimit b := by
  rcases maxStreamsUpdate_spec m bidirectional with hsame | ⟨hlt, hlimit, -⟩
  · rw [hsame]
  · rw [hlimit, Function.update_apply]
    split_ifs with hb
    · rw [hb]
      exact hlt.le
    · exact le_rfl

lemma Counted.maxStreamsUpdate (h : m.Counted) (bidirectional : Bool) :
    (m.maxStreamsUpdate bidirectional).2.Counted := by
  have hraised := streamLimit_maxStreamsUpdate m bidirectional
  have hnumbered := h.numbered.maxStreamsUpdate bidirectional
  rcases maxStreamsUpdate_spec m bidirectional with hsame | ⟨-, hlimit, hwindow, hclosed, hclient, hlimits⟩
  · rw [hsame]
    exact h
  · refine ⟨hnumbered, fun b => ?_, fun i hi hpeer => ?_, fun b => ?_⟩
    · rw [hlimit, hwindow, hclosed, Function.update_apply]
      split_ifs with hb
      · rw [hb, Nat.add_comm]
      · exact h.paid b
    · rw [streams_maxStreamsUpdate] at hi
      rw [hclient] at hpeer
      exact (h.within i hi hpeer).trans_le (hraised _)
    · rw [hwindow, hlimits]
      exact h.window b

lemma lasting_maxStreamsUpdate (m : StreamManager) (bidirectional : Bool)
    (hread : ∀ half ∈ m.peerOpened bidirectional, half.isClosed = true) :
    (m.streamsWindow bidirectional : ℤ) ≤
      2 * (((m.maxStreamsUpdate bidirectional).2.streamLimit bidirectional : ℤ) - (m.peerOpened
        bidirectional).length) := by
  have hclosed : m.closedCount bidirectional = (m.peerOpened bidirectional).length := by
    rw [closedCount, List.filter_eq_self.2 hread]
  cases bidirectional with
  | true =>
    simp only [closedCount] at hclosed
    simp only [maxStreamsUpdate, if_true, hclosed, streamsWindow]
    split_ifs with hhalf hfull
    · exact hhalf
    · simp only [streamLimit, if_true]
      omega
    · simp only [streamLimit, if_true]
      omega
  | false =>
    simp only [closedCount] at hclosed
    simp only [maxStreamsUpdate, Bool.false_eq_true, if_false, hclosed, streamsWindow]
    split_ifs with hhalf hfull
    · exact hhalf
    · simp only [streamLimit, Bool.false_eq_true, if_false]
      omega
    · simp only [streamLimit, Bool.false_eq_true, if_false]
      omega

lemma extended_eq (m : StreamManager) (i : ℕ) : ∃ m₁ : StreamManager, m.Advances m₁ ∧
    m.extended i = ((m₁.maxStreamsUpdate true).2.maxStreamsUpdate false).2 :=
  ⟨_, (Advances.creditUpdate m i).trans (.maxDataUpdate _), rfl⟩

lemma handled_eq (h : m.Handled frame event m') :
    ∃ m₁ : StreamManager, m.Advances m₁ ∧ m' = ((m₁.maxStreamsUpdate true).2.maxStreamsUpdate false).2 := by
  obtain ⟨recv, hrecv, -, -, hm'⟩ := h
  rw [hm']
  obtain ⟨m₁, hadvance, heq⟩ := extended_eq (((m.routed frame.streamId).accepted frame recv).setRecv frame.streamId
    (recv.accept frame).read.2) frame.streamId
  have haccepted := (Advances.routed m frame.streamId).trans (.accepted hrecv)
  exact ⟨m₁, (haccepted.trans (.setRecv (recv?_accepted_self _ _ _) _ RecvStream.isFullyRead_read)).trans hadvance,
    heq⟩

lemma Counted.move (h : m.Counted) (hmove : m.Moves m') : m'.Counted ∧
    ∀ b, m.streamLimit b ≤ m'.streamLimit b := by
  have hadvance : ∀ {m'}, m.Advances m' → m'.Counted ∧ ∀ b, m.streamLimit b ≤ m'.streamLimit b := fun hstep =>
    ⟨h.advance hstep, fun b => (congrFun (congrArg CountTerms.limit hstep.terms) b).ge⟩
  cases hmove with
  | transmit htransmit => exact hadvance (.of_quiet (htransmit.quiet h.numbered))
  | receive frame => exact hadvance (.onStreamFrame m frame)
  | read i => exact hadvance (.read m i)
  | creditUpdate i => exact hadvance (.creditUpdate m i)
  | maxDataUpdate => exact hadvance (.maxDataUpdate m)
  | maxStreamsUpdate bidirectional =>
    exact ⟨h.maxStreamsUpdate bidirectional, streamLimit_maxStreamsUpdate m bidirectional⟩
  | handle frame =>
    refine Ensures.final (P := fun m' : StreamManager => m'.Counted ∧ ∀ b, m.streamLimit b ≤ m'.streamLimit b) ?_
    apply (handleStream_spec m frame).mono
    · intro out m' hhandled
      obtain ⟨m₁, hstep, rfl⟩ := handled_eq hhandled
      obtain ⟨hcounted, hle⟩ := hadvance hstep
      refine ⟨(hcounted.maxStreamsUpdate true).maxStreamsUpdate false, fun b => ?_⟩
      exact ((hle b).trans (streamLimit_maxStreamsUpdate m₁ true b)).trans (streamLimit_maxStreamsUpdate _ false b)
    · exact fun _ _ hrefused => hadvance (.refused hrefused.2)

lemma Counted.run (h : m.Counted) (hrun : Relation.ReflTransGen Moves m m') :
    m'.Counted ∧ ∀ b, m.streamLimit b ≤ m'.streamLimit b := by
  induction hrun with
  | refl => exact ⟨h, fun _ => le_rfl⟩
  | tail _ hmove ih =>
    obtain ⟨hcounted, hle⟩ := ih.1.move hmove
    exact ⟨hcounted, fun b => (ih.2 b).trans (hle b)⟩

lemma peerOpened_maxStreamsUpdate (m : StreamManager) (bidirectional b : Bool) :
    (m.maxStreamsUpdate bidirectional).2.peerOpened b = m.peerOpened b := by
  simp only [maxStreamsUpdate]
  split_ifs <;> rfl

lemma streamsWindow_maxStreamsUpdate (m : StreamManager) (bidirectional b : Bool) :
    (m.maxStreamsUpdate bidirectional).2.streamsWindow b = m.streamsWindow b := by
  simp only [maxStreamsUpdate]
  split_ifs <;> rfl

lemma lasting_handled (h : m.Handled frame event m') (b : Bool)
    (hread : ∀ half ∈ m'.peerOpened b, half.isClosed = true) :
    (m'.streamsWindow b : ℤ) ≤ 2 * ((m'.streamLimit b : ℤ) - (m'.peerOpened b).length) := by
  obtain ⟨m₁, -, rfl⟩ := handled_eq h
  simp only [peerOpened_maxStreamsUpdate, streamsWindow_maxStreamsUpdate] at hread ⊢
  cases b with
  | true =>
    have hlast := lasting_maxStreamsUpdate m₁ true hread
    have hle := streamLimit_maxStreamsUpdate (m₁.maxStreamsUpdate true).2 false true
    omega
  | false =>
    have hlast := lasting_maxStreamsUpdate (m₁.maxStreamsUpdate true).2 false
    simp only [peerOpened_maxStreamsUpdate, streamsWindow_maxStreamsUpdate] at hlast
    exact hlast hread

end Counting

theorem stream_credit_sound (isClient : Bool) (localLimits peerLimits : FlowControlLimits) {m : StreamManager}
    (hrun : Relation.ReflTransGen Moves (new isClient localLimits peerLimits) m) (b : Bool) :
    m.streamsWindow b = (if b then m.localLimits.maxStreamsBidi else m.localLimits.maxStreamsUni) ∧
    (∀ m', Relation.ReflTransGen Moves m m' → m.streamLimit b ≤ m'.streamLimit b) ∧
    m.streamLimit b ≤ m.streamsWindow b + ((m.peerOpened b).filter (·.isClosed)).length ∧
    ((m.peerOpened b).filter fun half => !half.isClosed).length ≤ m.streamsWindow b ∧
    ∀ frame out m', handleStream frame m = .ok out m' → (∀ half ∈ m'.peerOpened b, half.isClosed = true) →
      (m'.streamsWindow b : ℤ) ≤ 2 * ((m'.streamLimit b : ℤ) - (m'.peerOpened b).length) := by
  obtain ⟨hcounted, -⟩ := (counted_new isClient localLimits peerLimits).run hrun
  refine ⟨hcounted.window b, fun m' hrun' => (hcounted.run hrun').2 b, hcounted.paid b, ?_,
    fun frame out m' hhandle hread =>
    lasting_handled ((handleStream_spec m frame).of_ok hhandle) b hread⟩
  -- the streams opened are within the limit, and those read have paid for it
  have hopened : (m.peerOpened b).length ≤ m.streamLimit b :=
    length_peerOpened_le m b fun i hi hpeer hbidi => hbidi ▸ hcounted.within i hi hpeer
  have hpaid := hcounted.paid b
  have hsplit := closedCount_add_open m b
  omega

def secondEnded : StreamManager :=
  finalState (handleStream ⟨4, 0, [], true⟩) (new false ⟨9, 9, 9, 9, 2, 2⟩ ⟨9, 9, 9, 9, 2, 2⟩)

theorem stream_credit_sound_secondEnded : secondEnded.streamLimit true = 2 ∧
    (secondEnded.peerOpened true).length = 1 ∧
    secondEnded.streamLimit true ≤
      secondEnded.streamsWindow true + ((secondEnded.peerOpened true).filter (·.isClosed)).length := by
  have hsound :=
    stream_credit_sound false ⟨9, 9, 9, 9, 2, 2⟩ ⟨9, 9, 9, 9, 2, 2⟩ (.single (.handle ⟨4, 0, [], true⟩)) true
  exact ⟨by decide, by decide, hsound.2.2.1⟩

end StreamManager

end Dsquic.Streams
