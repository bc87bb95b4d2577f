import Dsquic.Connection.Custody
import Dsquic.Connection.CryptoStreams

/-!
What a stream is given to send is kept until it is acknowledged.
-/

namespace Dsquic.Connection

open Lib Wire Streams Recovery

inductive Piece
  | byte (offset : ℕ)
  | fin

variable {maxBytes credit : ℤ}

namespace Piece

def In (frame : Stream) : Piece → Prop
  | .byte offset => frame.offset ≤ offset ∧ offset < frame.offset + frame.data.length
  | .fin => frame.fin = true

def Sent (send : SendStream) : Piece → Prop
  | .byte offset => offset < send.baseOffset
  | .fin => send.finSent = true

def Acked (send : SendStream) : Piece → Prop
  | .byte offset => offset ∈ send.acked
  | .fin => send.finAcked = true

def Pending (send : SendStream) : Piece → Prop
  | .byte offset => send.baseOffset ≤ offset ∧ offset < send.baseOffset + send.pending.length
  | .fin => send.finQueued = true ∧ send.finSent = false

def Written (written : ℕ → ℕ) (finished : ℕ → Bool) (i : ℕ) : Piece → Prop
  | .byte offset => offset < written i
  | .fin => finished i = true

variable {piece : Piece} {send send' : SendStream} {frame : Stream}

lemma acked_onFrameAcked (h : piece.Acked send ∨ piece.In frame) : piece.Acked (send.onFrameAcked frame) := by
  cases piece with
  | byte offset =>
    simp only [Acked, SendStream.onFrameAcked, RangeSet.mem_add]
    exact h
  | fin =>
    simp only [Acked, SendStream.onFrameAcked, Bool.or_eq_true]
    exact h

lemma mem_requeue (h : piece.In frame) : frame ∈ (send.requeue frame).retransmit := by
  have hsome : frame.data ≠ [] ∨ frame.fin = true := by
    cases piece with
    | byte offset =>
      left
      rw [← List.length_pos_iff_ne_nil]
      have hlower := h.1
      have hupper := h.2
      omega
    | fin => exact .inr h
  simp [SendStream.requeue, hsome]

lemma sent_nextFrame (hnext : send.nextFrame maxBytes credit = (some frame, send'))
    (h : piece.Sent send') : piece.Sent send ∨ piece.In frame := by
  rcases send.nextFrame_cases maxBytes credit with hnone | ⟨lost, rest, hlost, heq⟩ | ⟨size, fin, hsize, -, -, heq⟩
  · rw [hnone] at hnext
    cases hnext
  · rw [heq] at hnext
    cases hnext
    cases piece with
    | byte offset => exact .inl h
    | fin => exact .inl h
  · rw [heq] at hnext
    cases hnext
    cases piece with
    | byte offset =>
      have hle := send.budget_le_pending maxBytes credit
      simp only [Sent, In, SendStream.emit, List.length_take] at h ⊢
      omega
    | fin => simpa [Sent, In, SendStream.emit] using h

lemma acked_nextFrame (hnext : send.nextFrame maxBytes credit = (some frame, send'))
    (h : piece.Acked send) : piece.Acked send' := by
  have hsame : send'.acked = send.acked ∧ send'.finAcked = send.finAcked := by
    rcases send.nextFrame_cases maxBytes credit with hnone | ⟨lost, rest, hlost, heq⟩ | ⟨size, fin, -, -, -, heq⟩
    · rw [hnone] at hnext
      cases hnext
    · rw [heq] at hnext
      cases hnext
      exact ⟨rfl, rfl⟩
    · rw [heq] at hnext
      cases hnext
      exact ⟨rfl, rfl⟩
  cases piece with
  | byte offset =>
    rw [Acked, hsame.1]
    exact h
  | fin =>
    rw [Acked, hsame.2]
    exact h

lemma mem_retransmit_nextFrame {lost : Stream}
    (hnext : send.nextFrame maxBytes credit = (some frame, send')) (h : lost ∈ send.retransmit) :
    lost ∈ send'.retransmit ∨ lost = frame := by
  rcases send.nextFrame_cases maxBytes credit with hnone | ⟨first, rest, hfirst, heq⟩ | ⟨size, fin, -, -, -, heq⟩
  · rw [hnone] at hnext
    cases hnext
  · rw [heq] at hnext
    cases hnext
    rw [hfirst] at h
    exact (List.mem_cons.1 h).symm
  · rw [heq] at hnext
    cases hnext
    exact .inl h

end Piece

namespace Core

variable {s s' : Core} {i : ℕ} {m : StreamManager}

def SameBooks (s s' : Core) (i : ℕ) : Prop :=
  s'.caller.written i = s.caller.written i ∧ s'.caller.finished i = s.caller.finished i

inductive Turns (s s' : Core) (i : ℕ) : Option SendStream → Option SendStream → Prop
  | same (half : Option SendStream) (hbooks : s.SameBooks s' i) : Turns s s' i half half
  | opened (limit : ℕ) (hbooks : s.SameBooks s' i) : Turns s s' i none (some (.new i limit))
  | limit (send : SendStream) (limit : ℕ) (hbooks : s.SameBooks s' i) :
      Turns s s' i (some send) (some { send with maxStreamData := limit })
  | requeued (send : SendStream) (frame : Stream) (hbooks : s.SameBooks s' i) :
      Turns s s' i (some send) (some (send.requeue frame))
  | acked (send : SendStream) (frame : Stream) (hbooks : s.SameBooks s' i) :
      Turns s s' i (some send) (some (send.onFrameAcked frame))
  | taken (send send' : SendStream) (frame : Stream) (maxBytes credit : ℤ) (hbooks : s.SameBooks s' i)
      (hid : frame.streamId = i) (hcarried : s'.Carried .oneRtt (.stream frame))
      (hnext : send.nextFrame maxBytes credit = (some frame, send')) : Turns s s' i (some send) (some send')
  | written (send send' : SendStream) (data : Bytes) (fin : Bool) (hwrite : send.write data fin = .ok send')
      (hwritten : s'.caller.written i = s.caller.written i + data.length)
      (hfinished : s'.caller.finished i = (s.caller.finished i || fin)) : Turns s s' i (some send) (some send')

lemma send?_eq (hm : s.streams = some m) : s.send? i = m.send? i := by
  simp only [send?, hm, Option.bind_some]

variable {send send' : SendStream} {frame : Stream}

lemma turns_set {j : ℕ} (hm : s.streams = some m)
    (hsend : m.send? j = some send) (hsend' : ∀ i, s'.send? i = if i = j then some send' else m.send? i)
    (hsame : i ≠ j → s.SameBooks s' i) (h : i = j → Turns s s' i (some send) (some send')) :
    Turns s s' i (s.send? i) (s'.send? i) := by
  rw [hsend', send?_eq hm]
  by_cases hi : i = j
  · rw [if_pos hi, hi, hsend, ← hi]
    exact h hi
  · rw [if_neg hi]
    exact .same _ (hsame hi)

theorem turns_effect (hs : s.Sound) (heffect : Effect s s') (i : ℕ) : Turns s s' i (s.send? i) (s'.send? i) := by
  cases heffect with
  | requeueStream level m send frame rest hheld hm hsend =>
    refine turns_set hm hsend (fun i => m.send?_setSend _ i _) (fun _ => ⟨rfl, rfl⟩) ?_
    exact fun _ => .requeued send frame ⟨rfl, rfl⟩
  | ackStream level m send frame rest hheld hm hsend =>
    refine turns_set hm hsend (fun i => m.send?_setSend _ i _) (fun _ => ⟨rfl, rfl⟩) ?_
    exact fun _ => .acked send frame ⟨rfl, rfl⟩
  | takeStream m j send send' frame maxBytes credit dataSent hm hsend hnext =>
    have hids := nextFrame_ids (hs.half hm hsend) hnext
    refine turns_set hm hsend (fun i => m.send?_setSend _ i _) (fun _ => ⟨rfl, rfl⟩) fun hi => ?_
    exact .taken send send' frame maxBytes credit ⟨rfl, rfl⟩ (hids.1.trans hi.symm) (.inl (by simp [hold])) hnext
  | write m j send send' data fin hm hsend hwrite =>
    refine turns_set hm hsend (fun i => m.send?_setSend _ i _) (fun hi => ?_) ?_
    · exact ⟨Function.update_of_ne hi _ _, Function.update_of_ne hi _ _⟩
    · rintro rfl
      exact .written send send' data fin hwrite (Function.update_self _ _ _) (Function.update_self _ _ _)
  | manage m m' hm hp | extend m m' _ _ _ hm hp =>
    rw [send?_eq hm, send?_eq (m := m') rfl]
    cases hsend : m.send? i with
    | some send =>
      obtain ⟨limit, hlimit⟩ := hp.sends i send hsend
      rw [hlimit]
      exact .limit send limit ⟨rfl, rfl⟩
    | none =>
      cases hopened : m'.send? i with
      | none => exact .same none ⟨rfl, rfl⟩
      | some send' =>
        obtain ⟨limit, rfl⟩ := hp.opened i send' hopened hsend
        exact .opened limit ⟨rfl, rfl⟩
  | create isClient localLimits peerLimits hnone =>
    have hsend : s.send? i = none := by simp [send?, hnone]
    rw [hsend]
    exact .same none ⟨rfl, rfl⟩
  | close frame =>
    simp only [close]
    split_ifs <;> exact .same _ ⟨rfl, rfl⟩
  | abort frame errorCode reason =>
    simp only [close]
    split_ifs <;> exact .same _ ⟨rfl, rfl⟩
  | _ => exact .same _ ⟨rfl, rfl⟩

def Booked (s : Core) (i : ℕ) : Option SendStream → Prop
  | some send =>
    s.caller.written i = send.baseOffset + send.pending.length ∧ s.caller.finished i = send.finQueued
  | none => s.caller.written i = 0 ∧ s.caller.finished i = false

lemma books_nextFrame (hnext : send.nextFrame maxBytes credit = (some frame, send')) :
    send'.baseOffset + send'.pending.length = send.baseOffset + send.pending.length ∧
      send'.finQueued = send.finQueued := by
  rcases send.nextFrame_cases maxBytes credit with hnone | ⟨lost, rest, hlost, heq⟩ | ⟨size, fin, hsize, -, -, heq⟩
  · rw [hnone] at hnext
    cases hnext
  · rw [heq] at hnext
    cases hnext
    exact ⟨rfl, rfl⟩
  · rw [heq] at hnext
    cases hnext
    have hle := send.budget_le_pending maxBytes credit
    simp only [SendStream.emit, List.length_drop, and_true]
    omega

lemma Booked.turns {half half' : Option SendStream} (h : s.Booked i half) (hturns : Turns s s' i half half') :
    s'.Booked i half' := by
  have hsame : ∀ {half : Option SendStream}, s.SameBooks s' i → s.Booked i half → s'.Booked i half := by
    intro half hbooks h
    cases half with
    | none => exact ⟨hbooks.1.trans h.1, hbooks.2.trans h.2⟩
    | some send => exact ⟨hbooks.1.trans h.1, hbooks.2.trans h.2⟩
  cases hturns with
  | same half hbooks => exact hsame hbooks h
  | opened limit hbooks => exact ⟨hbooks.1.trans h.1, hbooks.2.trans h.2⟩
  | limit send limit hbooks => exact ⟨hbooks.1.trans h.1, hbooks.2.trans h.2⟩
  | requeued send frame hbooks =>
    have h := hsame hbooks h
    simp only [SendStream.requeue]
    split_ifs
    · exact h
    · exact h
  | acked send frame hbooks => exact ⟨hbooks.1.trans h.1, hbooks.2.trans h.2⟩
  | taken send send' frame maxBytes credit hbooks hid hcarried hnext =>
    obtain ⟨hlength, hqueued⟩ := books_nextFrame hnext
    exact ⟨(hbooks.1.trans h.1).trans hlength.symm, (hbooks.2.trans h.2).trans hqueued.symm⟩
  | written send send' data fin hwrite hwritten hfinished =>
    have hsize := h.1
    have hqueued := h.2
    simp only [SendStream.write] at hwrite
    split_ifs at hwrite with hfin hlast
    · cases hwrite
      simp only [Booked, hwritten, hsize, List.length_append, hfinished, hlast, Bool.or_true, and_true]
      omega
    · cases hwrite
      simp only [Booked, hwritten, hsize, List.length_append, hfinished, hqueued]
      refine ⟨by omega, ?_⟩
      simp [hlast]

def PieceKept (s : Core) (i : ℕ) (send : SendStream) (piece : Piece) : Prop :=
  piece.Acked send ∨ ∃ frame, frame.streamId = i ∧ piece.In frame ∧
    (frame ∈ send.retransmit ∨ s.Carried .oneRtt (.stream frame))

lemma PieceKept.carried {send' : SendStream} {piece : Piece} (hs : s.Sound) (hfresh : s.Fresh)
    (heffect : Effect s s') (hintact : s'.caller.intact = true) (hid : frame.streamId = i) (hin : piece.In frame)
    (hopen : (s.send? i).isSome) (hsend' : s'.send? i = some send') (h : s.Carried .oneRtt (.stream frame)) :
    s'.PieceKept i send' piece := by
  rcases h.effect hs hfresh heffect with hcarried | hreleased
  · exact .inr ⟨frame, hid, hin, .inr hcarried⟩
  · cases hreleased with
    | lost _ hlost =>
      rw [hintact] at hlost
      cases hlost
    | discarded _ _ hlevel => exact absurd rfl hlevel
    | requeuedStream _ send hsend =>
      rw [hid, hsend'] at hsend
      cases hsend
      exact .inr ⟨frame, hid, hin, .inl (Piece.mem_requeue hin)⟩
    | ackedStream _ send hsend =>
      rw [hid, hsend'] at hsend
      cases hsend
      exact .inl (Piece.acked_onFrameAcked (.inr hin))
    | spent _ hspent =>
      rcases hspent with hlevel | hnone
      · exact absurd rfl hlevel
      · simp [send?, hnone] at hopen

lemma Turns.piece (piece : Piece) (h : Turns s s' i (some send) (some send')) :
    (piece.Sent send' → piece.Sent send ∨ s'.PieceKept i send' piece) ∧ (piece.Acked send → piece.Acked send') ∧
      ∀ frame ∈ send.retransmit, frame ∈ send'.retransmit ∨ s'.Carried .oneRtt (.stream frame) := by
  cases h with
  | same | limit => cases piece <;> exact ⟨.inl, id, fun _ => .inl⟩
  | requeued send frame hbooks =>
    simp only [SendStream.requeue]
    split_ifs
    · cases piece <;> exact ⟨.inl, id, fun _ hmem => .inl (List.mem_append_left _ hmem)⟩
    · cases piece <;> exact ⟨.inl, id, fun _ => .inl⟩
  | acked send frame hbooks =>
    refine ⟨fun hsent => .inl ?_, fun hacked => Piece.acked_onFrameAcked (.inl hacked), fun _ => .inl⟩
    cases piece <;> exact hsent
  | taken send send' frame maxBytes credit hbooks hid hcarried hnext =>
    refine ⟨fun hsent => ?_, Piece.acked_nextFrame hnext, fun lost hlost => ?_⟩
    · rcases Piece.sent_nextFrame hnext hsent with hsent | hin
      · exact .inl hsent
      · exact .inr (.inr ⟨frame, hid, hin, .inr hcarried⟩)
    · rcases Piece.mem_retransmit_nextFrame hnext hlost with hstays | rfl
      · exact .inl hstays
      · exact .inr hcarried
  | written send send' data fin hwrite hwritten hfinished =>
    simp only [SendStream.write] at hwrite
    split_ifs at hwrite
    · cases hwrite
      cases piece <;> exact ⟨.inl, id, fun _ => .inl⟩
    · cases hwrite
      cases piece <;> exact ⟨.inl, id, fun _ => .inl⟩

structure Streamed (s : Core) : Prop where
  sound : s.Sound
  fresh : s.Fresh
  booked : ∀ i, s.Booked i (s.send? i)
  kept : s.caller.intact = true → ∀ i send piece, s.send? i = some send → piece.Sent send →
    s.PieceKept i send piece

lemma not_sent_new (i limit : ℕ) (piece : Piece) : ¬ piece.Sent (.new i limit) := by
  cases piece with
  | byte offset => exact Nat.not_lt_zero offset
  | fin => exact Bool.noConfusion

lemma Streamed.kept_effect (h : s.Streamed) (heffect : Effect s s') (hintact : s'.caller.intact = true) (i : ℕ)
    (send' : SendStream) (piece : Piece) (hsend' : s'.send? i = some send') (hsent : piece.Sent send') :
    s'.PieceKept i send' piece := by
  have hturns := turns_effect h.sound heffect i
  rw [hsend'] at hturns
  cases hsend : s.send? i with
  | none =>
    rw [hsend] at hturns
    cases hturns with
    | opened limit hbooks => exact absurd hsent (not_sent_new i limit piece)
  | some send =>
    rw [hsend] at hturns
    obtain ⟨hsends, hacks, hstays⟩ := hturns.piece piece
    rcases hsends hsent with hsent | hkept
    · rcases h.kept (heffect.intact hintact) i send piece hsend hsent with hacked | ⟨frame, hid, hin,
        hlost | hcarried⟩
      · exact .inl (hacks hacked)
      · exact .inr ⟨frame, hid, hin, hstays frame hlost⟩
      · have hopen : (s.send? i).isSome := by simp [hsend]
        exact PieceKept.carried h.sound h.fresh heffect hintact hid hin hopen hsend' hcarried
    · exact hkept

lemma Streamed.effect (h : s.Streamed) (heffect : Effect s s') : s'.Streamed where
  sound := h.sound.effect heffect
  fresh := h.fresh.effect heffect
  booked i := (h.booked i).turns (turns_effect h.sound heffect i)
  kept := h.kept_effect heffect

lemma streamed_initial (prims : Primitives) (isClient : Bool) (config : Config) (hostCid peerCid : Bytes) :
    (Core.initial prims isClient config hostCid peerCid).Streamed where
  sound := sound_initial prims isClient config hostCid peerCid
  fresh := fresh_initial prims isClient config hostCid peerCid
  booked _ := ⟨rfl, rfl⟩
  kept _ _ _ _ hsend := by cases hsend

end Core

variable {env : Env} {c : Conn env}

def Conn.send? (c : Conn env) (i : ℕ) : Option SendStream := c.streams.bind (·.send? i)

theorem stream_bytes_kept (h : Begins c) (ops : List (Op env))
    (hreturns : (Session.start c).sendsReturn ops = true)
    (i : ℕ) (piece : Piece)
    (hwritten : piece.Written ((Session.start c).run ops).written ((Session.start c).run ops).finished i) :
    ∃ send, ((Session.start c).run ops).conn.send? i = some send ∧
      (piece.Pending send ∨ (∃ frame ∈ send.retransmit, piece.In frame) ∨
      (∃ packet ∈ (((Session.start c).run ops).conn.recovery.spaces .oneRtt).sent.values,
        ∃ frame, .stream frame ∈ packet.frames ∧ frame.streamId = i ∧ piece.In frame) ∨
      piece.Acked send) := by
  obtain ⟨_, _, _, _, intact, -, -, hpath, hintact⟩ := Session.reached h ops
  have hall := hpath.invariant (fun _ _ heffect hs => Core.Streamed.effect hs heffect)
    (Core.streamed_initial _ _ _ _ _)
  have hbooked := hall.booked i
  cases hsend : (((Session.start c).run ops).core intact).send? i with
  | none =>
    rw [hsend] at hbooked
    have hzero : ((Session.start c).run ops).written i = 0 := hbooked.1
    have hfinished : ((Session.start c).run ops).finished i = false := hbooked.2
    cases piece with
    | byte offset =>
      rw [Piece.Written, hzero] at hwritten
      exact absurd hwritten (Nat.not_lt_zero offset)
    | fin =>
      rw [Piece.Written, hfinished] at hwritten
      cases hwritten
  | some send =>
    rw [hsend] at hbooked
    refine ⟨send, hsend, ?_⟩
    have hkept := hall.kept (hintact hreturns) i send piece hsend
    by_cases hsent : piece.Sent send
    · rcases hkept hsent with hacked | ⟨frame, hid, hin, hlost | hcarried⟩
      · exact .inr (.inr (.inr hacked))
      · exact .inr (.inl ⟨frame, hlost, hin⟩)
      · obtain ⟨packet, hpacket, hframe⟩ := hcarried.resolve_left List.not_mem_nil
        exact .inr (.inr (.inl ⟨packet, hpacket, frame, hframe, hid, hin⟩))
    · cases piece with
      | byte offset =>
        exact .inl ⟨Nat.le_of_not_lt hsent, hbooked.1 ▸ hwritten⟩
      | fin => exact .inl ⟨hbooked.2 ▸ hwritten, by simpa [Piece.Sent] using hsent⟩

def plainAnswer : List (Op .plain) :=
  [.datagramReceived (plainInitial 0 [.crypto ⟨0, [3]⟩]) 0 none 0,
    .datagramReceived (plainPacket .handshake (List.replicate 8 1) (List.replicate 8 9) 0 [.crypto ⟨0, [4, 6]⟩]) 0
      none 0,
    .openStream, .sendStreamData 1 [7] true, .datagramsToSend 0 2]

theorem stream_bytes_kept_answer :
    ∃ send, ((Session.start (plainServer .default)).run plainAnswer).conn.send? 1 = some send ∧
      ((Piece.byte 0).Pending send ∨ (∃ frame ∈ send.retransmit, (Piece.byte 0).In frame) ∨
      (∃ packet ∈
          (((Session.start (plainServer .default)).run plainAnswer).conn.recovery.spaces .oneRtt).sent.values,
        ∃ frame, .stream frame ∈ packet.frames ∧ frame.streamId = 1 ∧ (Piece.byte 0).In frame) ∨
      (Piece.byte 0).Acked send) :=
  stream_bytes_kept (begins_plainServer .default) plainAnswer (by decide +kernel) 1 (.byte 0)
    (show 0 < ((Session.start (plainServer .default)).run plainAnswer).written 1 by decide +kernel)

def plainRaising : List (Op .plain) :=
  [.openStream, .sendStreamData 0 [7] true, .datagramsToSend 0 1, .datagramsToSend 0 1]

theorem stream_byte_dropped :
    ((Session.start (plainClient plainUnsendable (some plainParameters))).run plainRaising).written 0 = 1 ∧
    (((Session.start (plainClient plainUnsendable (some plainParameters))).run plainRaising).conn.send? 0).any
      (fun send => send.pending.isEmpty && send.baseOffset == 1 && send.retransmit.isEmpty && send.finSent &&
        send.acked.ranges.isEmpty && !send.finAcked) = true ∧
    (((Session.start (plainClient plainUnsendable (some plainParameters))).run plainRaising).conn.recovery.spaces
      .oneRtt).sent.values = [] ∧
    ((Session.start (plainClient plainUnsendable (some plainParameters))).run plainRaising).conn.state =
      .handshaking := by
  decide +kernel

end Dsquic.Connection
