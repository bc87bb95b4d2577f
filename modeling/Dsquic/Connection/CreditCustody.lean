import Dsquic.Connection.Custody

/-!
A limit that was raised, and the word that the handshake is done, wait to be sent, are in flight, or have
arrived.
-/

namespace Dsquic.Connection

open Lib Wire Streams Recovery

def Note.isCompleted : Note → Bool
  | .completed _ => true
  | _ => false

namespace Core

variable {s s' : Core} {frame : Frame}

def Waits (s : Core) (frame : Frame) : Prop :=
  frame ≠ .handshakeDone ∧ frame ∈ s.controlFrames ∨ frame = .handshakeDone ∧ s.donePending = true

def Kept (s : Core) (frame : Frame) : Prop :=
  s.Waits frame ∨ s.Carried .oneRtt frame ∨ s.Acked .oneRtt frame

def Advertises (s : Core) (frame : Frame) : Prop := ∃ m, s.streams = some m ∧ m.Advertises frame

lemma Advertises.ne_handshakeDone (h : s.Advertises frame) : frame ≠ .handshakeDone := by
  rintro rfl
  obtain ⟨m, -, hadvertises⟩ := h
  cases hadvertises

lemma Acked.effect {level : Level} (h : s.Acked level frame) (heffect : Effect s s') : s'.Acked level frame := by
  obtain ⟨packet, hmem, hpacket⟩ := h
  exact ⟨packet, heffect.trace_subset hmem, hpacket⟩

lemma Waits.effect (h : s.Waits frame) (heffect : Effect s s') : s'.Waits frame ∨ s'.Carried .oneRtt frame := by
  cases heffect with
  | queue other hqueueable => exact .inl (h.imp_left fun hwaits => ⟨hwaits.1, List.mem_append_left _ hwaits.2⟩)
  | extend m m' stream event frames =>
    exact .inl (h.imp_left fun hwaits => ⟨hwaits.1, List.mem_append_left _ hwaits.2⟩)
  | takeControl other rest hcontrol =>
    rcases h with ⟨hne, h⟩ | h
    · rw [hcontrol, List.mem_cons] at h
      rcases h with rfl | h
      · exact .inr (.inl (List.mem_append_right _ (List.mem_singleton_self _)))
      · exact .inl (.inl ⟨hne, h⟩)
    · exact .inl (.inr h)
  | takeDone hpending =>
    rcases h with h | ⟨rfl, -⟩
    · exact .inl (.inl h)
    · exact .inr (.inl (List.mem_append_right _ (List.mem_singleton_self _)))
  | pend => exact .inl (h.imp_right fun hdone => ⟨hdone.1, rfl⟩)
  | close other =>
    simp only [close]
    split_ifs <;> exact .inl h
  | abort other errorCode reason =>
    simp only [close]
    split_ifs <;> exact .inl h
  | _ => exact .inl h

lemma waits_or_acked_of_spent (hspent : s.Spent .oneRtt frame)
    (hlasting : frame = .handshakeDone ∨ s.Advertises frame) : s.Waits frame ∨ s.Acked .oneRtt frame := by
  rcases hlasting with rfl | ⟨m, hm, hadvertises⟩
  · exact (hspent.resolve_left (· rfl)).imp_left fun hpending => .inr ⟨rfl, hpending⟩
  · have hannounced : s.Announced .oneRtt frame := by
      cases frame with
      | maxData | maxStreamData | maxStreams => exact hspent
      | _ => cases hadvertises
    exact (hannounced.resolve_left (· rfl)).imp_left fun hwaits =>
      .inl ⟨Advertises.ne_handshakeDone ⟨m, hm, hadvertises⟩, hwaits m hm hadvertises⟩

lemma Kept.effect (h : s.Kept frame) (hs : s.Sound) (heffect : Effect s s')
    (hintact : s'.caller.intact = true) (hlasting : frame = .handshakeDone ∨ s.Advertises frame) :
    s'.Kept frame := by
  -- What is put down was carried; so it is enough that what waits, or has arrived, stays kept.
  have hrest : s.Waits frame ∨ s.Acked .oneRtt frame → s'.Kept frame := fun hrest =>
    hrest.elim (fun hwaits => (hwaits.effect heffect).imp_right .inl) fun hacked =>
      .inr (.inr (hacked.effect heffect))
  rcases h with hwaits | hcarried | hacked
  · exact hrest (.inl hwaits)
  · rcases hcarried.effect hs hs.fresh heffect with hcarried | hreleased
    · exact .inr (.inl hcarried)
    · cases hreleased with
      | lost _ hlost => exact absurd (hlost.symm.trans hintact) Bool.false_ne_true
      | discarded _ _ hlevel => exact absurd rfl hlevel
      | requeuedCrypto | requeuedStream | ackedStream =>
        rcases hlasting with heq | ⟨m, -, hadvertises⟩
        · cases heq
        · cases hadvertises
      | spent _ hspent => exact hrest (waits_or_acked_of_spent hspent hlasting)
  · exact hrest (.inr hacked)

lemma advertises_effect (heffect : Effect s s') (h : s'.Advertises frame) :
    s.Advertises frame ∨ frame ∈ s'.controlFrames := by
  obtain ⟨m', hm', hadvertises⟩ := h
  cases heffect with
  | manage m _ hm hpreserves hcredits =>
    cases hm'
    exact .inl ⟨m, hm, (hcredits frame hadvertises).resolve_right List.not_mem_nil⟩
  | extend m _ stream event frames hm hpreserves hhandled hcredits =>
    cases hm'
    rcases hcredits frame hadvertises with hadvertises | hmem
    · exact .inl ⟨m, hm, hadvertises⟩
    · exact .inr (List.mem_append_right _ hmem)
  | create isClient localLimits peerLimits hnone =>
    cases hm'
    cases frame with
    | maxData | maxStreams _ bidirectional =>
      obtain ⟨rfl, hlt⟩ := hadvertises
      exact absurd hlt (by simp [StreamManager.new])
    | maxStreamData i limit =>
      obtain ⟨recv, hrecv, -⟩ := hadvertises
      cases hrecv
    | _ => cases hadvertises
  | requeueStream _ m _ _ _ _ hm | ackStream _ m _ _ _ _ hm | takeStream m _ _ _ _ _ _ _ hm
  | write m _ _ _ _ _ hm =>
    cases hm'
    exact .inl ⟨m, hm, (StreamManager.Credits.setSend m _ _ _ frame hadvertises).resolve_right List.not_mem_nil⟩
  | close other =>
    simp only [close] at hm'
    split_ifs at hm' <;> exact .inl ⟨m', hm', hadvertises⟩
  | abort other errorCode reason =>
    simp only [close] at hm'
    split_ifs at hm' <;> exact .inl ⟨m', hm', hadvertises⟩
  | _ => exact .inl ⟨m', hm', hadvertises⟩

lemma completed_effect (heffect : Effect s s') (h : s'.trace.any Note.isCompleted = true) :
    s.trace.any Note.isCompleted = true ∨ (s'.isClient = false → s'.donePending = true) := by
  cases heffect with
  | complete alpn hlive hdone => exact .inr hdone
  | close other =>
    simp only [close] at h
    split_ifs at h <;> exact .inl h
  | abort other errorCode reason =>
    simp only [close] at h
    split_ifs at h <;> exact .inl h
  | _ => exact .inl h

structure Credited (s : Core) : Prop where
  sound : s.Sound
  limits : s.caller.intact = true → ∀ frame, s.Advertises frame → s.Kept frame
  done : s.caller.intact = true → s.isClient = false → s.trace.any Note.isCompleted = true → s.Kept .handshakeDone

lemma Credited.effect (h : s.Credited) (heffect : Effect s s') : s'.Credited where
  sound := h.sound.effect heffect
  limits hintact frame hadvertises := by
    rcases advertises_effect heffect hadvertises with hbefore | hmem
    · exact (h.limits (heffect.intact hintact) frame hbefore).effect h.sound heffect hintact (.inr hbefore)
    · exact .inl (.inl ⟨hadvertises.ne_handshakeDone, hmem⟩)
  done hintact hserver hcompleted := by
    rcases completed_effect heffect hcompleted with hbefore | hpending
    · exact (h.done (heffect.intact hintact) (heffect.same.isClient ▸ hserver) hbefore).effect h.sound heffect
        hintact (.inl rfl)
    · exact .inl (.inr ⟨rfl, hpending hserver⟩)

lemma credited_initial (prims : Primitives) (isClient : Bool) (config : Config) (hostCid peerCid : Bytes) :
    (Core.initial prims isClient config hostCid peerCid).Credited where
  sound := sound_initial prims isClient config hostCid peerCid
  limits _ _ hadvertises := by
    obtain ⟨m, hm, -⟩ := hadvertises
    cases hm
  done _ _ hcompleted := absurd hcompleted Bool.false_ne_true

end Core

variable {env : Env} {c : Conn env}

def Conn.Conveys (c : Conn env) (frame : Frame) : Prop :=
  (∃ packet ∈ (c.recovery.spaces .oneRtt).sent.values, frame ∈ packet.frames) ∨
    ∃ packet, .acked packet ∈ c.trace ∧ packet.level = .oneRtt ∧ frame ∈ packet.frames

/-- While the calls that send return, a raised limit is not lost before the peer has it, and neither is the
word of a server that the handshake is done. -/
theorem credit_kept (h : Begins c) (ops : List (Op env)) (hreturns : (Session.start c).sendsReturn ops = true) :
    (∀ m, ((Session.start c).run ops).conn.streams = some m → ∀ frame, m.Advertises frame →
      frame ∈ ((Session.start c).run ops).conn.controlFrames ∨ ((Session.start c).run ops).conn.Conveys frame) ∧
    (((Session.start c).run ops).conn.isClient = false →
      ((Session.start c).run ops).conn.trace.any Note.isCompleted = true →
      ((Session.start c).run ops).conn.handshakeDonePending = true ∨
        ((Session.start c).run ops).conn.Conveys .handshakeDone) := by
  obtain ⟨_, _, _, _, intact, -, -, hpath, hintact⟩ := Session.reached h ops
  have hall := hpath.invariant (fun _ _ heffect hs => Core.Credited.effect hs heffect)
    (Core.credited_initial _ _ _ _ _)
  constructor
  · intro m hm frame hadvertises
    rcases hall.limits (hintact hreturns) frame
      ⟨m, hm, hadvertises⟩ with (⟨-, hmem⟩ | ⟨rfl, -⟩) | hcarried | hacked
    · exact .inl hmem
    · cases hadvertises
    · exact .inr (.inl (hcarried.resolve_left List.not_mem_nil))
    · exact .inr (.inr hacked)
  · intro hserver hcompleted
    rcases hall.done (hintact hreturns) hserver hcompleted with (⟨hne, -⟩ | ⟨-, hpending⟩) | hcarried | hacked
    · exact absurd rfl hne
    · exact .inl hpending
    · exact .inr (.inl (hcarried.resolve_left List.not_mem_nil))
    · exact .inr (.inr hacked)

def narrowServer : Conn .plain :=
  plainServer { Config.default with transportParameters := {
    initialMaxData := 4, initialMaxStreamDataBidiRemote := 9, initialMaxStreamsBidi := 2 } }

def earlyRequest : List (Op .plain) :=
  [.datagramReceived (plainInitial 0 [.crypto ⟨0, [2, 3, 4]⟩])
      0 none 0,
    .datagramReceived (plainPacket .zeroRtt (List.replicate 8 7) (List.replicate 8 9) 0
      [.stream ⟨0, 0, [1, 2, 3], true⟩]) 0 none 0,
    .datagramReceived (plainPacket .handshake (List.replicate 8 1) (List.replicate 8 9) 0 [.crypto ⟨0, [1]⟩])
      0 none 0,
    .datagramsToSend 0 4]

theorem credit_kept_earlyRequest :
    (Session.start narrowServer).sendsReturn earlyRequest = true ∧
    ((Session.start narrowServer).run earlyRequest).conn.streams.map (·.localMaxData) = some 7 ∧
    (.maxData 7 ∈ ((Session.start narrowServer).run earlyRequest).conn.controlFrames ∨
      ((Session.start narrowServer).run earlyRequest).conn.Conveys (.maxData 7)) ∧
    (((Session.start narrowServer).run earlyRequest).conn.handshakeDonePending = true ∨
      ((Session.start narrowServer).run earlyRequest).conn.Conveys .handshakeDone) := by
  have hreturns : (Session.start narrowServer).sendsReturn earlyRequest = true := by decide +kernel
  have hkept := credit_kept (show Begins narrowServer from begins_plainServer _) earlyRequest hreturns
  have hlimits : ((Session.start narrowServer).run earlyRequest).conn.streams.map
      (fun m => (m.localMaxData, m.localLimits.maxData)) = some (7, 4) := by decide +kernel
  obtain ⟨m, hm, hfields⟩ := Option.map_eq_some_iff.1 hlimits
  obtain ⟨hraised, hstart⟩ := Prod.mk.inj hfields
  refine ⟨hreturns, by decide +kernel, hkept.1 m hm _ ⟨hraised.symm, ?_⟩,
    hkept.2 (by decide +kernel) (by decide +kernel)⟩
  rw [hstart]
  decide

end Dsquic.Connection
