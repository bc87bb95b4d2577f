import Dsquic.Connection.Sound

/-!
What the receive path does is a path of effects.
-/

namespace Dsquic.Connection

open Lib Wire Streams Recovery

variable {space : Space PacketKeys Bytes}

section Core

@[simp] lemma Conn.isClient_note {env : Env} (c : Conn env) (note : Note) :
    (c.note note).isClient = c.isClient := rfl

@[simp] lemma Conn.state_note {env : Env} (c : Conn env) (note : Note) : (c.note note).state = c.state := rfl

@[simp] lemma Conn.spaces_note {env : Env} (c : Conn env) (note : Note) : (c.note note).spaces = c.spaces := rfl

@[simp] lemma Conn.streams_note {env : Env} (c : Conn env) (note : Note) : (c.note note).streams = c.streams := rfl

variable {env : Env} {c : Conn env} {w : Caller} {held : List (Level × Frame)} {level : Level}

variable {g : Queue → Queue} {f : Inbox → Inbox} {s : Core}

lemma Conn.core_setSpace_both
    (h : space.queue = g (c.spaces level).queue) (hinbox : space.inbox = f (c.spaces level).inbox) :
    (c.setSpace level space).core w held = ((c.core w held).onQueue level g).onInbox level f := by
  simp only [Conn.core, Conn.setSpace, Core.onQueue, Core.onInbox, Core.mk.injEq, true_and, and_true]
  refine ⟨?_, ?_⟩
  · funext other
    by_cases hother : other = level
    · subst hother
      simp [h]
    · simp [hother]
  · funext other
    by_cases hother : other = level
    · subst hother
      simp [hinbox]
    · simp [hother]

lemma Core.onQueue_eq_self (h : g (s.queues level) = s.queues level) :
    s.onQueue level g = s := by
  simp [Core.onQueue, h]

lemma Core.onInbox_eq_self (h : f (s.inboxes level) = s.inboxes level) :
    s.onInbox level f = s := by
  simp [Core.onInbox, h]

lemma Conn.core_setSpace
    (h : space.queue = g (c.spaces level).queue) (hinbox : space.inbox = (c.spaces level).inbox) :
    (c.setSpace level space).core w held = (c.core w held).onQueue level g :=
  (core_setSpace_both (f := id) h hinbox).trans (Core.onInbox_eq_self rfl)

lemma Conn.core_setSpace_inbox {g : Inbox → Inbox}
    (h : space.queue = (c.spaces level).queue) (hinbox : space.inbox = g (c.spaces level).inbox) :
    (c.setSpace level space).core w held = (c.core w held).onInbox level g := by
  rw [core_setSpace_both (g := id) h hinbox, Core.onQueue_eq_self rfl]

lemma Conn.core_setSpace_of_eq (h : space.queue = (c.spaces level).queue)
    (hinbox : space.inbox = (c.spaces level).inbox) : (c.setSpace level space).core w held = c.core w held :=
  (core_setSpace (g := id) h hinbox).trans (Core.onQueue_eq_self rfl)

variable {f : Space PacketKeys Bytes → Space PacketKeys Bytes}

lemma Conn.core_onSpace (h : (f (c.spaces level)).queue = g (c.spaces level).queue)
    (hinbox : (f (c.spaces level)).inbox = (c.spaces level).inbox) :
    (c.onSpace level f).core w held = (c.core w held).onQueue level g := core_setSpace h hinbox

lemma Conn.core_onSpace_inbox {g : Inbox → Inbox} (h : (f (c.spaces level)).queue = (c.spaces level).queue)
    (hinbox : (f (c.spaces level)).inbox = g (c.spaces level).inbox) :
    (c.onSpace level f).core w held = (c.core w held).onInbox level g := core_setSpace_inbox h hinbox

lemma Conn.core_onSpace_of_eq (h : (f (c.spaces level)).queue = (c.spaces level).queue)
    (hinbox : (f (c.spaces level)).inbox = (c.spaces level).inbox) :
    (c.onSpace level f).core w held = c.core w held := core_setSpace_of_eq h hinbox

end Core

abbrev Leads {env : Env} (w : Caller) (c c' : Conn env) : Prop := Path (c.core w []) (c'.core w [])

structure Goes {env : Env} (w : Caller) (held held' : List (Level × Frame)) (c c' : Conn env) : Prop where
  path : Path (c.core w held) (c'.core w held')
  state : c'.state = c.state ∨ c'.state = .connected

section Goes

variable {env : Env} {c c' c'' : Conn env} {w : Caller} {held held' held'' : List (Level × Frame)}

lemma Goes.of_core_eq (h : c'.core w held' = c.core w held) : Goes w held held' c c' := by
  have hstate : c'.state = c.state := congrArg Core.state h
  exact ⟨h ▸ .refl, .inl hstate⟩

lemma Goes.refl (c : Conn env) : Goes w held held c c := .of_core_eq rfl

lemma Goes.trans (h : Goes w held held' c c') (h' : Goes w held' held'' c' c'') : Goes w held held'' c c'' := by
  refine ⟨h.path.trans h'.path, ?_⟩
  rcases h'.state with hstate | hstate
  · rw [hstate]
    exact h.state
  · exact .inr hstate

lemma Goes.single (h : Effect (c.core w held) (c'.core w held')) (hstate : c'.state = c.state) :
    Goes w held held' c c' := ⟨h.path, .inl hstate⟩

lemma Goes.effect {s' : Core} (h : Effect (c.core w held) s') (hs' : s' = c'.core w held')
    (hstate : c'.state = c.state) : Goes w held held' c c' := .single (hs' ▸ h) hstate

lemma Goes.live (h : Goes w held held' c c') (hlive : (c.core w held).Live) : (c'.core w held').Live := by
  rcases h.state with hstate | hstate
  · rcases hlive with hconnected | ⟨frame, hloud, hhandled⟩
    · exact .inl (hstate.trans hconnected)
    · refine .inr ⟨frame, hloud, h.path.trace_subset ?_⟩
      rw [show (c'.core w held').state = (c.core w held).state from hstate]
      exact hhandled
  · exact .inl hstate

lemma Goes.hasTls (h : Goes w held held' c c') (htls : c.tls.isSome = true) : c'.tls.isSome = true :=
  h.path.hasTls htls

lemma Goes.heard (h : Goes w held held' c c') (hheard : (c.core w held).Heard) : (c'.core w held').Heard :=
  h.path.heard hheard

lemma Goes.sound (h : Goes w held held' c c') (hs : (c.core w held).Sound) : (c'.core w held').Sound :=
  hs.path h.path

end Goes

variable {packet : SentPacket} {frame : Frame}

section Requeue

variable {env : Env} {c : Conn env} {w : Caller} {held rest : List (Level × Frame)} {level : Level}
  {α : Type} {take : α → List (Level × Frame)} {streams : StreamManager} {body : α → M env PUnit}

lemma goes_queueControl {frame frame' : Frame} (hqueue : (c.core w ((level, frame) :: rest)).Queueable frame')
    (hspent : ((c.queueControl frame').core w ((level, frame) :: rest)).Spent level frame) :
    Goes w ((level, frame) :: rest) rest c (c.queueControl frame') := by
  have hwaits : Goes w ((level, frame) :: rest) ((level, frame) :: rest) c (c.queueControl frame') :=
    .single (.queue _ frame' hqueue) rfl
  exact hwaits.trans (.single (.drop _ level frame rest rfl hspent) rfl)

lemma announced_queueControl {frame frame' : Frame} (hstreams : c.streams = some streams)
    (h : streams.Advertises frame → frame = frame') :
    ((c.queueControl frame').core w held).Announced level frame := by
  refine .inr (.inl fun m hm hadvertises => List.mem_append_right _ (List.mem_singleton.2 (h ?_)))
  rwa [show streams = m from Option.some.inj (hstreams.symm.trans hm)]

lemma announced_of_none (hstreams : c.streams = none) : (c.core w held).Announced level frame := by
  refine .inr (.inl fun m hm => ?_)
  rw [show (c.core w held).streams = none from hstreams] at hm
  cases hm

lemma withSend_goes {stream : Stream} {held' : List (Level × Frame)}
    (f : SendStream → SendStream) (hstreams : c.streams = some streams)
    (hsendable : (c.core w held).Sendable (.stream stream))
    (h : ∀ send, streams.send? stream.streamId = some send →
      Goes w held held' c (c.setStreams (streams.setSend stream.streamId (f send)))) :
    Ensures (onStreams streams (StreamManager.withSend stream.streamId fun send => .ok (f send))) c
      (fun _ => Goes w held held' c) fun _ _ => False := by
  have hsend : (streams.send? stream.streamId).isSome := by
    simpa [Core.Sendable, Core.send?, Conn.core, hstreams] using hsendable
  obtain ⟨send, hsend⟩ := Option.isSome_iff_exists.1 hsend
  simp only [onStreams, ensures_zoom]
  apply (StreamManager.withSend_spec streams stream.streamId _).mono
  · rintro _ m' ⟨old, send', hold, hsend', rfl⟩
    cases hsend'
    exact h old hold
  · rintro e m' ⟨-, he | ⟨old, -, he⟩⟩
    · rw [StreamManager.sendStream_eq_ok.2 hsend] at he
      cases he
    · cases he

lemma requeueFrame_goes (hs : (c.core w ((level, frame) :: rest)).Sound) :
    Ensures (requeueFrame level frame) c (fun _ => Goes w ((level, frame) :: rest) rest c)
      fun _ _ => False := by
  have hdrop : (c.core w ((level, frame) :: rest)).Spent level frame → Goes w ((level, frame) :: rest) rest c c :=
    fun hspent => .single (.drop _ level frame rest rfl hspent) rfl
  have hsendable := hs.holds level frame List.mem_cons_self
  simp only [requeueFrame, ensures_state]
  cases frame with
  | crypto crypto =>
    rw [ensures_set]
    exact .effect (.requeueCrypto _ level crypto rest rfl) (Conn.core_onSpace rfl rfl).symm rfl
  | handshakeDone =>
    rw [ensures_set]
    have hpend : Goes w ((level, .handshakeDone) :: rest) ((level, .handshakeDone) :: rest) c
        { c with handshakeDonePending := true } := .single (.pend _) rfl
    exact hpend.trans (.single (.drop _ level _ rest rfl (.inr (.inl rfl))) rfl)
  | newToken token =>
    rw [ensures_set]
    exact goes_queueControl trivial trivial
  | pathChallenge data =>
    rw [ensures_set]
    exact goes_queueControl trivial trivial
  | stream stream =>
    cases hstreams : c.streams with
    | none => exact hdrop (.inr hstreams)
    | some streams =>
      refine withSend_goes _ hstreams hsendable fun send hsend => ?_
      exact .single (.requeueStream _ level streams send stream rest rfl hstreams hsend) rfl
  | maxData maximum =>
    cases hstreams : c.streams with
    | none => exact hdrop (announced_of_none hstreams)
    | some streams =>
      rw [ensures_set]
      exact goes_queueControl trivial (announced_queueControl hstreams fun h => by rw [h.1])
  | maxStreamData streamId maximum =>
    cases hstreams : c.streams with
    | none => exact hdrop (announced_of_none hstreams)
    | some streams =>
      have hrecv : (streams.recv? streamId).isSome := by
        simpa [Core.Sendable, Core.recv?, Conn.core, hstreams] using hsendable
      have hqueue : ∀ held, (c.core w held).recv? streamId = streams.recv? streamId := by
        simp [Core.recv?, Conn.core, hstreams]
      simp only [ensures_flow]
      refine ⟨fun recv hlookup => goes_queueControl ?_ (announced_queueControl hstreams ?_), fun e he => ?_⟩
      · simpa only [Core.Queueable, hqueue] using hrecv
      · rintro ⟨recv', hrecv', rfl, -⟩
        rw [StreamManager.recvStream_eq_ok.1 hlookup] at hrecv'
        cases hrecv'
        rfl
      · obtain ⟨recv, hrecv⟩ := Option.isSome_iff_exists.1 hrecv
        obtain ⟨half, hget, hhalf⟩ := Option.bind_eq_some_iff.1 hrecv
        simp [StreamManager.recvStream, hget, hhalf] at he
  | maxStreams maximum bidirectional =>
    cases hstreams : c.streams with
    | none => exact hdrop (announced_of_none hstreams)
    | some streams =>
      rw [ensures_set]
      exact goes_queueControl trivial (announced_queueControl hstreams fun h => by rw [h.1])
  | _ => exact hdrop trivial

lemma each_goes {P : Conn env → Prop}
    (as : List α) (hbody : ∀ a ∈ as, ∀ rest c, P c → (c.core w (take a ++ rest)).Sound →
      Ensures (body a) c (fun _ => Goes w (take a ++ rest) rest c) fun _ _ => False)
    (hP : ∀ c c' held held', Goes w held held' c c' → P c → P c') (c : Conn env) (hc : P c)
    (hs : (c.core w (as.flatMap take ++ rest)).Sound) :
    Ensures (each body as) c (fun _ => Goes w (as.flatMap take ++ rest) rest c) fun _ _ => False := by
  induction as generalizing c with
  | nil => exact .refl c
  | cons a as ih =>
    rw [List.flatMap_cons, List.append_assoc] at hs ⊢
    rw [each, ensures_bind]
    apply (hbody a List.mem_cons_self _ c hc hs).imp
    intro _ c₁ h₁
    apply (ih (fun b hb => hbody b (List.mem_cons_of_mem _ hb)) c₁ (hP _ _ _ _ h₁ hc) (h₁.sound hs)).imp
    exact fun _ c₂ h₂ => h₁.trans h₂

lemma each_goes_of_sound (as : List α) (hbody : ∀ a ∈ as, ∀ rest c, (c.core w (take a ++ rest)).Sound →
      Ensures (body a) c (fun _ => Goes w (take a ++ rest) rest c) fun _ _ => False)
    (hs : (c.core w (as.flatMap take ++ rest)).Sound) :
    Ensures (each body as) c (fun _ => Goes w (as.flatMap take ++ rest) rest c) fun _ _ => False :=
  each_goes (P := fun _ => True) as (fun a ha rest c _ => hbody a ha rest c) (fun _ _ _ _ _ h => h) c trivial hs

lemma inHand_singleton (packet : SentPacket) :
    inHand [packet] = packet.frames.flatMap fun frame => [(packet.level, frame)] := by
  rw [inHand, List.flatMap_singleton, List.map_eq_flatMap]

lemma inHand_eq_flatMap (packets : List SentPacket) : inHand packets = packets.flatMap fun p => inHand [p] := by
  simp only [inHand, List.flatMap_singleton]

lemma requeueLost_goes (hs : (c.core w (inHand [packet] ++ rest)).Sound) :
    Ensures (requeueLost packet) c (fun _ => Goes w (inHand [packet] ++ rest) rest c) fun _ _ => False := by
  rw [inHand_singleton] at hs ⊢
  exact each_goes_of_sound packet.frames (fun _ _ _ _ hs => requeueFrame_goes hs) hs

lemma requeueAll_goes (packets : List SentPacket) (hs : (c.core w (inHand packets ++ rest)).Sound) :
    Ensures (each requeueLost packets) c (fun _ => Goes w (inHand packets ++ rest) rest c)
      fun _ _ => False := by
  rw [inHand_eq_flatMap] at hs ⊢
  exact each_goes_of_sound packets (fun _ _ _ _ hs => requeueLost_goes hs) hs

lemma resend_goes (hs : (c.core w []).Sound) {packets : List SentPacket}
    (hpackets : ∀ packet ∈ packets, packet ∈ (c.recovery.spaces level).sent.values) :
    Ensures (each requeueLost packets) c (fun _ => Goes w [] [] c) fun _ _ => False := by
  have hcopy : Goes w [] (inHand packets ++ []) c c := by
    refine .effect (.copy _ level packets hpackets) ?_ rfl
    simp [Core.hold, Conn.core]
  apply (requeueAll_goes packets (hcopy.sound hs)).imp
  exact fun _ c' h => hcopy.trans h

lemma mem_take_unacked {l : LossDetection} {level : Level} {n : ℕ}
    (h : packet ∈ (l.unacked level).take n) : packet ∈ (l.spaces level).sent.values :=
  LossDetection.mem_byNumber.1 (List.mem_of_mem_take h)

lemma resendEarlyApplicationData_goes (hs : (c.core w []).Sound) :
    Ensures resendEarlyApplicationData c (fun _ => Goes w [] [] c) fun _ _ => False := by
  simp only [resendEarlyApplicationData, ensures_flow]
  exact ⟨fun _ => .refl c, fun _ => resend_goes hs fun _ => mem_take_unacked⟩

lemma prepareProbe_goes (level : Level) (hs : (c.core w []).Sound) :
    Ensures (prepareProbe level) c (fun _ => Goes w [] [] c) fun _ _ => False := by
  have hprobe : ∀ c₁, Goes w [] [] c c₁ →
      Ensures (if c₁.hasPendingData level then pure ⟨⟩
        else each requeueLost ((c₁.recovery.unacked level).take 2)) c₁ (fun _ => Goes w [] [] c)
        fun _ _ => False := by
    intro c₁ h₁
    rw [ensures_ite]
    refine ⟨fun _ => h₁, fun _ => ?_⟩
    apply (resend_goes (h₁.sound hs) fun _ => mem_take_unacked).imp
    exact fun _ c₂ h₂ => h₁.trans h₂
  simp only [prepareProbe, ensures_bind, ensures_get, ensures_doIf]
  refine ⟨fun _ => ?_, fun _ => hprobe c (.refl c)⟩
  apply (resendEarlyApplicationData_goes hs).imp
  exact fun _ c₁ h₁ => hprobe c₁ h₁

end Requeue

section Acknowledgement

variable {env : Env} {c : Conn env} {w : Caller} {held rest : List (Level × Frame)} {level : Level}

lemma onFrameAcked_goes (hframe : frame ∈ packet.frames)
    (hacked : .acked packet ∈ c.trace) (hs : (c.core w ((packet.level, frame) :: rest)).Sound) :
    Ensures (onFrameAcked frame) c (fun _ => Goes w ((packet.level, frame) :: rest) rest c)
      fun _ _ => False := by
  have hdrop : (c.core w ((packet.level, frame) :: rest)).Spent packet.level frame →
      Goes w ((packet.level, frame) :: rest) rest c c :=
    fun hspent => .single (.drop _ packet.level frame rest rfl hspent) rfl
  have hsendable := hs.holds packet.level frame List.mem_cons_self
  simp only [onFrameAcked, ensures_state]
  have harrived : (c.core w ((packet.level, frame) :: rest)).Acked packet.level frame :=
    ⟨packet, hacked, rfl, hframe⟩
  cases frame with
  | crypto crypto => exact hdrop harrived
  | handshakeDone => exact hdrop (.inr (.inr harrived))
  | maxData limit => exact hdrop (.inr (.inr harrived))
  | maxStreamData i limit => exact hdrop (.inr (.inr harrived))
  | maxStreams limit bidirectional => exact hdrop (.inr (.inr harrived))
  | stream stream =>
    cases hstreams : c.streams with
    | none => exact hdrop (.inr hstreams)
    | some streams =>
      refine withSend_goes _ hstreams hsendable fun send hsend => ?_
      exact .single (.ackStream _ packet.level streams send stream rest rfl hstreams hsend) rfl
  | _ => exact hdrop trivial

lemma onPacketAcked_goes (hs : (c.core w (inHand [packet] ++ rest)).Sound) :
    Ensures (onPacketAcked packet) c (fun _ => Goes w (inHand [packet] ++ rest) rest c)
      fun _ _ => False := by
  have hnote : Goes w (inHand [packet] ++ rest) (inHand [packet] ++ rest) c (c.note (.acked packet)) :=
    .single (.acknowledge _ packet) rfl
  have hs₁ := hnote.sound hs
  rw [onPacketAcked, ensures_bind, ensures_modify]
  rw [inHand_singleton] at hnote hs₁ ⊢
  -- every frame of the packet is covered by the note that the packet was acknowledged
  apply (each_goes (P := fun c => .acked packet ∈ c.trace) packet.frames
    (fun frame hframe _ _ hacked hs => onFrameAcked_goes hframe hacked hs)
    (fun _ _ _ _ h hacked => h.path.trace_subset hacked) _ List.mem_cons_self hs₁).imp
  exact fun _ c' h => hnote.trans h

lemma acknowledgeAll_goes (packets : List SentPacket) (hs : (c.core w (inHand packets ++ rest)).Sound) :
    Ensures (each onPacketAcked packets) c (fun _ => Goes w (inHand packets ++ rest) rest c)
      fun _ _ => False := by
  rw [inHand_eq_flatMap] at hs ⊢
  exact each_goes_of_sound packets (fun _ _ _ _ hs => onPacketAcked_goes hs) hs

lemma validateEcn_goes (level : Level) (ack : Ack) (acked : List SentPacket) (now : ℚ) :
    Goes w held held c (c.validateEcn level ack acked now) := by
  simp only [Conn.validateEcn]
  split
  · exact .refl c
  · cases ack.ecn with
    | none => exact .of_core_eq rfl
    | some counts =>
      have hkeeps : c.recovery.controller.Keeps (if counts.ce > (c.spaces level).ecnAckedCe
          then c.recovery.controller.onEcnCe (NewReno.latestSent acked) now else c.recovery.controller) := by
        split_ifs
        · exact NewReno.keeps_onEcnCe _ _ _
        · exact .refl _
      dsimp only
      split
      · exact .of_core_eq rfl
      · have hspace : Goes w held held c (c.setSpace level { c.spaces level with
            ecnAckedEct0 := counts.ect0
            ecnAckedEct1 := counts.ect1
            ecnAckedCe := counts.ce }) := .of_core_eq (Conn.core_setSpace_of_eq rfl rfl)
        exact hspace.trans (.single (.tune _ _ rfl hkeeps rfl rfl) rfl)

lemma discardSpace_goes (level : Level) (hlevel : level ≠ .oneRtt)
    (hheard : (c.core w held).Heard ∨ (c.spaces .handshake).keysSend.isSome = true) :
    Goes w held held c (c.discardSpace level) := by
  by_cases hdiscarded : (c.spaces level).discarded = true
  · simp only [Conn.discardSpace, hdiscarded, if_true]
    exact .refl c
  · have hspace : ((c.note (.discarded level (c.probesPending level))).onSpace level fun space => { space with
        discarded := true
        keysSend := none
        keysRecv := none
        cryptoPending := []
        cryptoRetransmit := [] }).core w held =
        (((c.core w held).note (.discarded level (c.probesPending level))).onQueue level fun queue => { queue with
          discarded := true
          sendKeys := none
          cryptoPending := []
          cryptoRetransmit := [] }).onInbox level fun inbox =>
            { inbox with phase := { inbox.phase with current := none } } := Conn.core_setSpace_both rfl rfl
    simp only [Conn.discardSpace, hdiscarded]
    refine .effect (.discard _ level hlevel (by simpa [Conn.core, Space.queue] using hdiscarded) hheard) ?_ rfl
    exact congrArg (fun s : Core => { s with recovery := c.recovery.discardSpace level }) hspace.symm

def Conn.ackDelay (c : Conn env) (ack : Ack) : Except Raised ℚ :=
  ackDelaySeconds env.shiftLimit ack.delay ((c.peerParameters.map (·.ackDelayExponent)).getD 3)

lemma handleAck_spec (level : Level) (ack : Ack) (now : ℚ) (hs : (c.core w []).Sound)
    (hheard : (c.core w []).Heard) :
    Ensures (handleAck level ack now) c (fun _ c' => Goes w [] [] c c' ∧ ∃ ackDelay, c.ackDelay ack = .ok ackDelay)
      fun e c' => Goes w [] [] c c' ∧ (c.ackDelay ack = .error e ∨
        (∃ reason, e = .connection protocolViolation reason (some 0)) ∧
          ∃ ackDelay, c.ackDelay ack = .ok ackDelay) := by
  simp only [handleAck, ensures_flow, ensures_tryCatch, ensures_throw]
  refine ⟨fun ackDelay hdelay => ?_, fun _ herror => ⟨.refl c, .inl herror⟩⟩
  apply (LossDetection.onAckReceived_spec c.recovery level ack ackDelay now).mono
  · rintro outcome recovery ⟨-, hsettles, -⟩
    have hsettle : Goes w [] (inHand outcome.acked ++ (inHand outcome.lost ++ [])) c (c.setRecovery recovery) := by
      refine .effect (.settle _ level outcome.acked outcome.lost recovery hsettles (.inl hheard)) ?_ rfl
      simp [Core.hold, Conn.core, Conn.setRecovery, inHand]
    have hecn := hsettle.trans (validateEcn_goes level ack outcome.acked now)
    apply (acknowledgeAll_goes outcome.acked (hecn.sound hs)).mono
    · intro _ c₁ h₁
      have h₁ := hecn.trans h₁
      apply (requeueAll_goes outcome.lost (h₁.sound hs)).mono
      · intro _ c₂ h₂
        have h₂ := h₁.trans h₂
        exact ⟨fun _ => ⟨h₂.trans (discardSpace_goes .initial (by decide) (.inl (h₂.heard hheard))),
          ackDelay, hdelay⟩, fun _ => ⟨h₂, ackDelay, hdelay⟩⟩
      · exact fun _ _ h => h.elim
    · exact fun _ _ h => h.elim
  · rintro e recovery (⟨⟨reason, rfl, -⟩, rfl⟩ | ⟨-, -, hsome, hclosed⟩)
    · exact ⟨.single (.tune _ _ rfl (.refl _) rfl rfl) rfl, .inr ⟨⟨reason, rfl⟩, ackDelay, hdelay⟩⟩
    · -- the window is open whenever packets are in flight
      obtain ⟨packet, hpacket⟩ := List.exists_mem_of_ne_nil _ hsome
      have hpos := hs.idle level packet hpacket
      have hzero := hclosed hs.isOpen
      rw [show c.recovery.controller.maxDatagramSize = c.config.maxDatagramSize from hs.size] at hzero
      exact absurd hzero (Nat.pos_iff_ne_zero.1 hpos)

lemma handleAck_goes (level : Level) (ack : Ack) (now : ℚ) (hs : (c.core w []).Sound)
    (hheard : (c.core w []).Heard) :
    Always (handleAck level ack now) c (Goes w [] [] c) :=
  (handleAck_spec level ack now hs hheard).mono (fun _ _ h => h.1) fun _ _ h => h.1

end Acknowledgement

variable {keys : Option PacketKeys}

section Handshake

variable {env : Env} {c : Conn env} {w : Caller} {held : List (Level × Frame)}

lemma goes_manage {m m' : StreamManager} (hm : c.streams = some m) (hp : m.Preserves m')
    (hcredits : m.Credits m' []) : Goes w held held c (c.setStreams m') :=
  .single (.manage _ m m' hm hp hcredits) rfl

lemma goes_mapStreams {f : StreamManager → StreamManager} (hf : ∀ m : StreamManager, m.Preserves (f m))
    (hcredits : ∀ m : StreamManager, m.Credits (f m) []) :
    Goes w held held c { c with streams := c.streams.map f } := by
  cases hstreams : c.streams with
  | none => exact .of_core_eq (by simp [Conn.core, hstreams])
  | some m => exact goes_manage hstreams (hf m) (hcredits m)

lemma Conn.discarded_discardSpace (c : Conn env) (level other : Level) :
    ((c.discardSpace level).spaces other).discarded = true ↔ other = level ∨
      (c.spaces other).discarded = true := by
  cases hdiscarded : (c.spaces level).discarded with
  | true =>
    simp only [Conn.discardSpace, hdiscarded, if_true]
    exact ⟨.inr, fun h => h.elim (fun heq => heq ▸ hdiscarded) id⟩
  | false =>
    by_cases heq : other = level <;>
      simp [Conn.discardSpace, hdiscarded, Conn.onSpace, Conn.setSpace, Conn.note, heq]

lemma confirmHandshake_goes (hlive : (c.core w held).Live) (hheard : (c.core w held).Heard) :
    Goes w held held c c.confirmHandshake := by
  let w₁ : Caller := { w with confirming := true }
  let c₁ := ((c.note .confirmed).onSpace .oneRtt fun space => { space with keysRecvEarly := none }).setRecovery
    { c.recovery with handshakeConfirmed := true }
  have hqueue :
    ((c.note .confirmed).onSpace .oneRtt fun space => { space with keysRecvEarly := none }).core w₁ held =
      ((c.core w₁ held).note .confirmed).onQueue .oneRtt fun queue => { queue with early := false } :=
    Conn.core_onSpace rfl rfl
  have hconfirm : Effect (c.core w held) (c₁.core w₁ held) := by
    have heq : c₁.core w₁ held = _ :=
      congrArg (fun s : Core => { s with recovery := { c.recovery with handshakeConfirmed := true } }) hqueue
    exact heq ▸ .confirm _
  -- the confirmation is over once the spaces of the handshake are gone
  have hover : ∀ c₂ : Conn env, Goes w₁ held held c₁ c₂ → (c₂.spaces .handshake).discarded = true →
      (c₂.isClient = true → (c₂.spaces .initial).discarded = true) → Goes w held held c c₂ :=
    fun c₂ h₂ hhandshake hinitial =>
      ⟨(hconfirm.path.trans h₂.path).tail (.confirmed _ w.confirming hhandshake hinitial), h₂.state⟩
  have hheard₁ : (c₁.core w₁ held).Heard := hconfirm.path.heard hheard
  have hhandshake : Goes w₁ held held c₁ (c₁.discardSpace .handshake) :=
    discardSpace_goes .handshake (by decide) (.inl hheard₁)
  have hgone : ((c₁.discardSpace .handshake).spaces .handshake).discarded = true :=
    (c₁.discarded_discardSpace _ _).2 (.inl rfl)
  have hdiscard : Goes w held held c (if (c₁.discardSpace .handshake).isClient
      then (c₁.discardSpace .handshake).discardSpace .initial else c₁.discardSpace .handshake) := by
    split_ifs with hclient
    · refine hover _ (hhandshake.trans (discardSpace_goes .initial (by decide) (.inl (hhandshake.heard hheard₁))))
        ?_ fun _ => ?_
      · exact (Conn.discarded_discardSpace _ _ _).2 (.inr hgone)
      · exact (Conn.discarded_discardSpace _ _ _).2 (.inl rfl)
    · exact hover _ hhandshake hgone fun h => absurd h hclient
  exact hdiscard.trans (.single (.report _ _ (hdiscard.live hlive) (by simp) (by simp)) rfl)

lemma goes_arm (h : keys.isSome = true → c.isClient = true) :
    Goes w held held c (c.setSpace .oneRtt { c.spaces .oneRtt with keysSendEarly := keys }) := by
  refine .effect (.arm _ keys.isSome h) ?_ rfl
  rw [Conn.core_setSpace_inbox]
  · rfl
  · rfl

lemma syncEarlyKeys_goes (tls : env.Tls) (htls : c.tls.isSome = true) :
    Always (syncEarlyKeys tls) c (Goes w held held c) := by
  have hkeep : ∀ early : Bool, ((c.spaces .oneRtt).queue.early || early) = (c.spaces .oneRtt).queue.early →
      Goes w held held c (c.note (.synced early c.recovery.handshakeConfirmed)) :=
    fun early hearly => .effect (.sync _ early fun _ => htls)
      (Core.onQueue_eq_self (congrArg (fun b => { (c.spaces .oneRtt).queue with early := b }) hearly)) rfl
  have hsilent := hkeep false (by simp)
  simp only [syncEarlyKeys, ensures_state]
  cases hsecret : env.earlySecret tls with
  | none =>
    simp only [Option.isSome_none, Bool.and_false, ensures_set]
    exact hsilent.trans (goes_arm (by simp))
  | some secret =>
    cases hclient : c.isClient with
    | true =>
      simp only [Conn.isClient_note, hclient, Bool.not_true, Bool.false_and, if_true, ensures_flow]
      exact ⟨fun _ => hsilent.trans (goes_arm fun _ => hclient), fun _ => hsilent⟩
    | false =>
      simp only [Conn.isClient_note, Conn.spaces_note, Conn.streams_note, hclient, Option.isSome_some,
        Bool.not_false, Bool.and_true, Bool.false_eq_true, if_false, ensures_flow]
      refine ⟨fun _ => ?_, fun hsome => hkeep true ?_⟩
      · have hqueue : ((c.note (.synced true c.recovery.handshakeConfirmed)).setSpace .oneRtt
            { c.spaces .oneRtt with
              keysRecvEarly := some (env.derivePacketKeys secret (env.cipherSuite tls)) }).core w held =
            ((c.core w held).note (.synced true c.recovery.handshakeConfirmed)).onQueue .oneRtt fun queue =>
              { queue with early := queue.early || true } :=
          Conn.core_setSpace (by simp [Space.queue]) rfl
        have hkeys : Goes w held held c ((c.note (.synced true c.recovery.handshakeConfirmed)).setSpace .oneRtt
            { c.spaces .oneRtt with
              keysRecvEarly := some (env.derivePacketKeys secret (env.cipherSuite tls)) }) :=
          .effect (.sync _ true fun _ => htls) hqueue.symm rfl
        refine ⟨fun hnone => ⟨fun peer _ => ?_, fun _ _ => hkeys⟩, fun _ => hkeys⟩
        exact hkeys.trans (.single (.create _ false _ _ (Option.isNone_iff_eq_none.1 hnone)) rfl)
      · obtain ⟨keys, hkeys⟩ := Option.ne_none_iff_exists'.1 hsome
        simp [Space.queue, hkeys]

lemma adoptPeerLimits_goes (peer : TransportParameters) :
    Always (adoptPeerLimits peer) c (Goes w held held c) := by
  simp only [adoptPeerLimits, ensures_state]
  cases hstreams : c.streams with
  | none =>
    rw [ensures_set]
    exact .single (.create _ c.isClient _ _ hstreams) rfl
  | some streams =>
    rw [ensures_ite]
    refine ⟨fun _ => ?_, fun _ => .refl c⟩
    cases c.tls with
    | none => exact .refl c
    | some tls =>
      cases c.rememberedParameters with
      | none => exact .refl c
      | some remembered =>
        simp only [ensures_flow]
        exact ⟨fun _ => .refl c, fun _ => goes_manage hstreams (.updatePeerLimits streams _)
          (.updatePeerLimits streams _)⟩

lemma validatePeerParameters_agrees (peer : TransportParameters) :
    Ensures (validatePeerParameters peer) c (fun _ c' => c' = c ∧ (c.core w held).Agrees peer) fun _ c' =>
      c' = c := by
  simp only [validatePeerParameters, ensures_flow]
  refine ⟨fun _ => trivial, fun hsource => ⟨fun _ => trivial, fun horiginal => ⟨fun _ => trivial, fun hretry =>
    ⟨trivial, ?_⟩⟩⟩⟩
  refine ⟨fun hsome => ?_, fun hclient hsome => ?_, fun hclient => ?_⟩
  · exact not_not.1 fun hne => hsource ⟨hsome, hne⟩
  · exact not_not.1 fun hne => horiginal ⟨hclient, hsome, hne⟩
  · exact not_not.1 fun hne => hretry ⟨hclient, hne⟩

lemma restart_goes (level : Level) (h : (c.core w []).Heard ∨ c.retryToken ≠ []) :
    Goes w [] (inHand (c.recovery.restartSpace level).1 ++ []) c
      (c.setRecovery (c.recovery.restartSpace level).2) := by
  refine .effect (.restart _ level h) ?_ rfl
  simp [Core.hold, Conn.core, Conn.setRecovery]

lemma resendRejectedEarlyData_goes (hs : (c.core w []).Sound) (hheard : (c.core w []).Heard) :
    Ensures resendRejectedEarlyData c (fun _ => Goes w [] [] c) fun _ _ => False := by
  simp only [resendRejectedEarlyData, ensures_state]
  cases c.tls with
  | none => exact .refl c
  | some tls =>
    rw [ensures_ite]
    refine ⟨fun _ => ?_, fun _ => .refl c⟩
    have hrestart := restart_goes (c := c) (w := w) .oneRtt (.inl hheard)
    simp only [ensures_state]
    apply (requeueAll_goes _ (hrestart.sound hs)).imp
    exact fun _ c' h => hrestart.trans h

lemma connected_goes (hlive : (c.core w held).Live) (hdone : c.isClient = false → c.handshakeDonePending = true)
    (hagreed : ∃ parameters peer source, .agreed parameters peer source ∈ c.trace) :
    Goes w held held c c.connected :=
  ⟨Effect.path (.complete _ c.alpn hlive hdone hagreed), .inr rfl⟩

lemma onHandshakeComplete_goes (alpn : String) (parameters : Bytes) (now : ℚ) (hs : (c.core w []).Sound)
    (hlive : (c.core w []).Live) (hheard : (c.core w []).Heard) (htls : c.tls.isSome = true) :
    Always (onHandshakeComplete alpn parameters now) c (Goes w [] [] c) := by
  simp only [onHandshakeComplete, ensures_flow]
  refine ⟨fun peer hdecoded => ?_, fun _ _ => .of_core_eq rfl⟩
  have hpeer : Goes w [] [] c { { c with alpn := alpn } with peerParameters := some peer } := .of_core_eq rfl
  have hvalidate :
    Ensures (validatePeerParameters peer) { { c with alpn := alpn } with peerParameters := some peer }
      (fun _ c' => c' = _ ∧ (Conn.core _ w []).Agrees peer) fun _ c' => c' = _ :=
        validatePeerParameters_agrees peer
  apply hvalidate.mono
  · rintro _ _ ⟨rfl, hagrees⟩
    have hagree : Goes w [] [] c ({ { c with alpn := alpn } with peerParameters := some peer }.note
        (.agreed parameters peer c.peerCid)) :=
      hpeer.trans (.single (.agree _ parameters peer (hpeer.heard hheard) hdecoded hagrees htls) rfl)
    apply (adoptPeerLimits_goes peer).mono
    · intro _ c₂ h₂
      have harm : Goes w [] [] c₂ (c₂.onSpace .oneRtt fun space => { space with keysSendEarly := none }) :=
        goes_arm (by simp)
      have hfrom := h₂.trans harm
      have h₂ := hagree.trans hfrom
      apply (resendRejectedEarlyData_goes (h₂.sound hs) (h₂.heard hheard)).mono
      · intro _ c₃ h₃
        have hagreed : ∃ parameters peer source, .agreed parameters peer source ∈ c₃.trace :=
          ⟨parameters, peer, c.peerCid, (hfrom.trans h₃).path.trace_subset List.mem_cons_self⟩
        have h₃ := h₂.trans h₃
        refine ⟨fun _ => ?_, fun hclient => ?_⟩
        · -- HANDSHAKE_DONE waits before the handshake counts as complete
          have hpend : Goes w [] [] c { c₃ with handshakeDonePending := true } := h₃.trans (.single (.pend _) rfl)
          have hconnected := hpend.trans (connected_goes (hpend.live hlive) (fun _ => rfl) hagreed)
          exact (hconnected.trans (confirmHandshake_goes (hconnected.live hlive) (hconnected.heard hheard))).trans
            (.of_core_eq rfl)
        · have hserver : c₃.isClient = false → c₃.handshakeDonePending = true :=
            fun hserver => absurd (by simp [Conn.connected, hserver]) hclient
          exact (h₃.trans (connected_goes (h₃.live hlive) hserver hagreed)).trans (.of_core_eq rfl)
      · exact fun _ _ h => h.elim
    · exact fun _ c₂ h₂ => hagree.trans h₂
  · rintro _ _ rfl
    exact hpeer

lemma onSecret_goes (level : Level) (ofClient : Bool) (secret : Bytes) (cipherSuite : ℕ)
    (hinitial : level ≠ .initial)
    (htls : c.tls.isSome = true) (hheard : (c.core w held).Heard) :
    Goes w held held c (c.onSecret level ofClient secret cipherSuite) := by
  simp only [Conn.onSecret]
  split_ifs with hsend hlevel
  · refine .effect (.sendKey _ level (env.derivePacketKeys secret cipherSuite) hinitial hheard) ?_ rfl
    exact (Conn.core_onSpace (by rfl) (by rfl)).symm
  · subst hlevel
    refine .effect (.secret _ (env.derivePacketKeys secret cipherSuite)
      (env.nextGeneration (some secret) (env.derivePacketKeys secret cipherSuite)).2 htls hheard) ?_ rfl
    rw [Conn.core_onSpace_inbox]
    · rfl
    · rfl
    · rfl
  · refine .effect (.rekey _ level (some (env.derivePacketKeys secret cipherSuite)) hlevel htls) ?_ rfl
    exact (Conn.core_onSpace_inbox (by rfl) (by rfl)).symm

lemma emit_goes (level : Level) (data : Bytes) :
    Goes w held held c ((c.note (.emitted level data)).onSpace level fun space =>
      { space with cryptoPending := space.cryptoPending ++ data }) := by
  have hqueue : ((c.note (.emitted level data)).onSpace level fun space =>
      { space with cryptoPending := space.cryptoPending ++ data }).core w held =
      ((c.core w held).note (.emitted level data)).onQueue level fun queue =>
        { queue with cryptoPending := queue.cryptoPending ++ data } := Conn.core_onSpace rfl rfl
  exact .effect (.emit _ level data) hqueue.symm rfl

lemma onTlsEvent_goes (now : ℚ) (event : TlsEvent) (htls : c.tls.isSome = true) (hs : (c.core w []).Sound)
    (hlive : (c.core w []).Live) (hheard : (c.core w []).Heard) :
    Always (onTlsEvent now event) c (Goes w [] [] c) := by
  cases event with
  | sendData level data => exact emit_goes level data
  | secretAvailable level ofClient secret cipherSuite hlevel =>
    exact onSecret_goes level ofClient secret cipherSuite hlevel htls hheard
  | handshakeComplete alpn parameters => exact onHandshakeComplete_goes alpn parameters now hs hlive hheard htls

lemma drainTlsEvents_goes (now : ℚ) (hs : (c.core w []).Sound) (hlive : (c.core w []).Live)
    (hheard : (c.core w []).Heard) :
    Always (drainTlsEvents now) c (Goes w [] [] c) := by
  simp only [drainTlsEvents, ensures_state]
  cases htls : c.tls with
  | none => exact .refl c
  | some tls =>
    simp only [ensures_state]
    have hread : Goes w [] [] c { c with tls := some (env.takeEvents tls).2 } :=
      .of_core_eq (by simp [Conn.core, htls])
    have hloop := ensures_each (I := fun _ c' => Goes w [] [] c c') (E := fun _ c' => Goes w [] [] c c')
      (fun event _ c₁ h₁ => ((onTlsEvent_goes now event (h₁.hasTls (by simp [htls])) (h₁.sound hs)
        (h₁.live hlive) (h₁.heard hheard)).mono (fun _ _ h₂ => h₁.trans h₂) fun _ _ h₂ => h₁.trans h₂))
      (env.takeEvents tls).1 { c with tls := some (env.takeEvents tls).2 } hread
    apply hloop.imp
    intro _ c₁ h₁
    exact (syncEarlyKeys_goes _ (h₁.hasTls (by simp [htls]))).both fun _ h₂ => h₁.trans h₂

lemma acceptCrypto_goes (level : Level) (frame : Crypto) :
    Goes w held held c ((c.note (.reassembled level frame ((c.spaces level).acceptCrypto frame).1)).setSpace level
      ((c.spaces level).acceptCrypto frame).2) := by
  refine .effect (.reassemble _ level frame) ?_ rfl
  rw [Conn.core_setSpace_inbox]
  · rfl
  · rfl
  · rfl

lemma handleCrypto_goes (level : Level) (frame : Crypto) (now : ℚ) (hs : (c.core w []).Sound)
    (hlive : (c.core w []).Live) (hheard : (c.core w []).Heard) :
    Always (handleCrypto level frame now) c (Goes w [] [] c) := by
  simp only [handleCrypto, ensures_state]
  cases htls : c.tls with
  | none => exact .refl c
  | some tls =>
    simp only [ensures_flow, ensures_tryCatch, ensures_throw]
    refine ⟨fun _ => .refl c, fun _ => ?_⟩
    have haccept : Goes w [] [] c _ := acceptCrypto_goes level frame
    have hread : ∀ tls', Goes w [] [] c { (c.note (.reassembled level frame
        ((c.spaces level).acceptCrypto frame).1)).setSpace level ((c.spaces level).acceptCrypto frame).2 with
          tls := some tls' } :=
      fun tls' => haccept.trans (.of_core_eq (by simp [Conn.core, Conn.setSpace, Conn.note, htls]))
    refine ⟨fun _ => haccept, fun _ => ?_⟩
    apply (ensures_self _ _).mono
    · intro _ tls' _
      exact (drainTlsEvents_goes now ((hread tls').sound hs) ((hread tls').live hlive)
        ((hread tls').heard hheard)).both fun _ h => (hread tls').trans h
    · exact fun _ tls' _ => hread tls'

end Handshake

variable {payload : Bytes} {packetNumber ecn : ℕ} {frames : List Frame}

section Frames

variable {env : Env} {c c' : Conn env} {w : Caller} {held : List (Level × Frame)}

lemma handleStream_goes (frame : Stream) (hlive : (c.core w []).Live) :
    Always (handleStream frame) c (Goes w [] [] c) := by
  simp only [handleStream, ensures_state]
  cases hstreams : c.streams with
  | none => exact .refl c
  | some streams =>
    simp only [ensures_state, ensures_tryCatch, onStreams, ensures_throw]
    apply (((streams.handleStream_spec frame).and (streams.handleStream_control frame)).and
      (streams.handleStream_credits frame)).mono
    · rintro ⟨event, control⟩ m' ⟨⟨hhandled, hcontrol⟩, hcredits⟩
      refine .single
        (.extend _ streams m' frame event control hstreams (.handled hhandled) hhandled hcredits ?_ hlive) rfl
      intro f hf
      rcases hcontrol f hf with ⟨⟨limit, rfl⟩, hrecv⟩ | ⟨limit, rfl⟩ | ⟨limit, b, rfl⟩
      · exact hrecv
      · trivial
      · trivial
    · rintro e m' ⟨⟨⟨-, hrefused⟩, -⟩, -⟩
      exact goes_manage hstreams (.refused hrefused) (.refused hrefused)

lemma handleMaxStreamData_goes (streamId maximum : ℕ) :
    Always (handleMaxStreamData streamId maximum) c (Goes w held held c) := by
  simp only [handleMaxStreamData, ensures_state]
  cases hstreams : c.streams with
  | none => exact .refl c
  | some streams =>
    simp only [onStreams, ensures_zoom]
    apply (StreamManager.withSend_spec streams streamId _).mono
    · rintro _ m' ⟨send, send', hsend, hsend', rfl⟩
      cases hsend'
      exact goes_manage hstreams (.onMaxStreamData hsend maximum) (.setSend streams streamId _ streams.dataSent)
    · rintro e m' ⟨rfl, -⟩
      exact goes_manage hstreams (.refl m') (.refl m')

structure GoesOn (w : Caller) (c c' : Conn env) : Prop where
  path : Leads w c c'
  state : c'.state = c.state ∨ c'.state = .connected ∨ c'.state = .draining

lemma Goes.on (h : Goes w [] [] c c') : GoesOn w c c' := ⟨h.path, h.state.imp_right .inl⟩

lemma ensures_goesOn {m : M env PUnit} (h : Always m c (Goes w [] [] c)) :
    Always m c (GoesOn w c) :=
  h.both fun _ h => h.on

lemma handleFrame_goes (level : Level) (frame : Frame) (now : ℚ) (hs : (c.core w []).Sound)
    (hlive : isLoud frame = true → (c.core w []).Live) (hdelivered : (c.core w []).Delivered level frame) :
    Always (handleFrame level frame now) c (GoesOn w c) := by
  have hquiet : ∀ {c' : Conn env}, c'.core w [] = c.core w [] → GoesOn w c c' := fun h => (Goes.of_core_eq h).on
  simp only [handleFrame, ensures_state]
  cases frame with
  | ack ack => exact ensures_goesOn (handleAck_goes level ack now hs hdelivered.1)
  | crypto crypto => exact ensures_goesOn (handleCrypto_goes level crypto now hs (hlive rfl) hdelivered.1)
  | stream stream => exact ensures_goesOn (handleStream_goes stream (hlive rfl))
  | maxData maximum =>
    exact (goes_mapStreams (f := fun m => m.onMaxData maximum) (fun _ => .of_streams_eq rfl rfl rfl)
      fun _ => .of_recv? rfl fun _ => rfl).on
  | maxStreamData streamId maximum => exact ensures_goesOn (handleMaxStreamData_goes streamId maximum)
  | maxStreams maximum bidirectional =>
    simp only [handleMaxStreams, ensures_flow]
    exact ⟨fun _ => (Goes.refl c).on,
      fun _ => (goes_mapStreams (fun m => .onMaxStreams m _ _) fun m => .onMaxStreams m _ _).on⟩
  | handshakeDone =>
    simp only [ensures_flow]
    exact ⟨fun _ => (Goes.refl c).on, fun _ => (confirmHandshake_goes (hlive rfl) hdelivered.1).on⟩
  | newToken token =>
    simp only [ensures_flow]
    exact ⟨fun _ => (Goes.refl c).on, fun _ => hquiet rfl⟩
  | pathChallenge data =>
    rw [ensures_set]
    exact Goes.on (.single (.queue _ (.pathResponse data) trivial) rfl)
  | pathResponse data =>
    rw [ensures_set]
    split_ifs
    · exact hquiet rfl
    · exact (Goes.refl c).on
  | connectionClose close => exact ⟨Effect.path (.drain _ _ _ (hlive rfl)), .inr (.inr rfl)⟩
  | _ => exact (Goes.refl c).on

lemma handlePacketFrame_path (level : Level) (zeroRtt : Bool) (now : ℚ) (frame : Frame)
    (hs : (c.core w []).Sound) (hstate : c.state ≠ .terminated)
    (hdelivered : (c.core w []).Delivered level frame) :
    Ensures (handlePacketFrame level zeroRtt now frame) c
      (fun _ c' => Path ((c.note (.handled c.state frame)).core w []) (c'.core w []) ∧ c'.state ≠ .terminated)
      fun _ c' => Path ((c.note (.handled c.state frame)).core w []) (c'.core w []) := by
  have hnote : Goes w [] [] c (c.note (.handled c.state frame)) := .single (.handle _ frame hstate) rfl
  have hlive : isLoud frame = true → ((c.note (.handled c.state frame)).core w []).Live :=
    fun hloud => .inr ⟨frame, hloud, List.mem_cons_self⟩
  have hframe : ∀ c₁ : Conn env, Goes w [] [] (c.note (.handled c.state frame)) c₁ → c₁.state = c.state →
      Ensures (handleFrame level frame now) c₁
        (fun _ c' => Path ((c.note (.handled c.state frame)).core w []) (c'.core w []) ∧ c'.state ≠ .terminated)
        fun _ c' => Path ((c.note (.handled c.state frame)).core w []) (c'.core w []) := by
    intro c₁ h₁ hstate₁
    apply (handleFrame_goes level frame now ((hnote.trans h₁).sound hs) (fun hloud => h₁.live (hlive hloud))
      (hdelivered.path (hnote.trans h₁).path)).mono
    · intro _ c₂ h₂
      refine ⟨h₁.path.trans h₂.path, ?_⟩
      rcases h₂.state with h | h | h
      · rwa [h, hstate₁]
      · simp [h]
      · simp [h]
    · exact fun _ c₂ h₂ => h₁.path.trans h₂.path
  simp only [handlePacketFrame, ensures_flow]
  refine ⟨fun _ => .refl, fun _ => ⟨fun _ => hframe _ ?_ rfl, fun _ => hframe _ (.refl _) rfl⟩⟩
  exact .of_core_eq (Conn.core_onSpace_of_eq rfl rfl)

lemma handlePacketFrame_goes (level : Level) (zeroRtt : Bool) (now : ℚ) (frame : Frame)
    (hs : (c.core w []).Sound) (hstate : c.state ≠ .terminated)
    (hdelivered : (c.core w []).Delivered level frame) :
    Ensures (handlePacketFrame level zeroRtt now frame) c
      (fun _ c' => Leads w c c' ∧ c'.state ≠ .terminated)
      fun _ => Leads w c := by
  have hnote : Path (c.core w []) ((c.note (.handled c.state frame)).core w []) :=
    Effect.path (.handle _ frame hstate)
  apply (handlePacketFrame_path level zeroRtt now frame hs hstate hdelivered).mono
  · exact fun _ c' h => ⟨hnote.trans h.1, h.2⟩
  · exact fun _ c' h => hnote.trans h

lemma handleFrames_goes (level : Level) (frames : List Frame) (now : ℚ) (zeroRtt : Bool)
    (hs : (c.core w []).Sound) (hstate : c.state ≠ .terminated)
    (hdelivered : ∀ frame ∈ frames, (c.core w []).Delivered level frame) :
    Ensures (handleFrames level frames now zeroRtt) c
      (fun _ c' => Leads w c c' ∧ c'.state ≠ .terminated)
      fun _ => Leads w c := by
  have hloop := ensures_each (f := (handlePacketFrame level zeroRtt now : Frame → M env PUnit))
    (E := fun _ c' => Leads w c c')
    (I := fun rest (c' : Conn env) => (Leads w c c' ∧ c'.state ≠ .terminated) ∧
      ∀ frame ∈ rest, (c.core w []).Delivered level frame)
  apply (hloop ?_ frames c ⟨⟨.refl, hstate⟩, hdelivered⟩).mono
  · exact fun _ _ h => h.1
  · exact fun _ _ h => h
  · rintro frame rest c₁ ⟨⟨h₁, hstate₁⟩, hrest⟩
    apply (handlePacketFrame_goes level zeroRtt now frame (hs.path h₁) hstate₁
      ((hrest frame List.mem_cons_self).path h₁)).mono
    · exact fun _ c₂ h₂ => ⟨⟨h₁.trans h₂.1, h₂.2⟩, fun f hf => hrest f (List.mem_cons_of_mem _ hf)⟩
    · exact fun _ c₂ h₂ => h₁.trans h₂

lemma parseFrames_of_mapError
    (h : (parseFrames payload).mapError refuseMalformed = .ok frames) : parseFrames payload = .ok frames := by
  cases hparse : parseFrames payload with
  | error e =>
    rw [hparse] at h
    cases h
  | ok parsed =>
    rw [hparse] at h
    exact h

lemma handlePayload_goes (level : Level) (payload : Bytes) (now : ℚ) (zeroRtt : Bool)
    (hs : (c.core w []).Sound) (hstate : c.state ≠ .terminated) (hheard : (c.core w []).Heard)
    (hprocessed : .processed level packetNumber ecn payload ∈ c.trace) :
    Ensures (handlePayload level payload now zeroRtt) c
      (fun _ c' => Leads w c c' ∧ c'.state ≠ .terminated)
      fun _ => Leads w c := by
  rw [handlePayload, ensures_bind, ensures_lift]
  refine ⟨fun frames hframes => handleFrames_goes level frames now zeroRtt hs hstate fun frame hframe => ?_,
    fun _ _ => .refl⟩
  exact ⟨hheard, .inr ⟨packetNumber, ecn, payload, frames, hprocessed, parseFrames_of_mapError hframes, hframe⟩⟩

end Frames

section Packets

variable {env : Env} {c : Conn env} {w : Caller}

variable {level : Level} {revealed : Space.Revealed} {confirmed : Bool} {zeroRtt : Bool} {now : ℚ}

lemma receiveKeys_updating {keys : PacketKeys}
    (h : space.receiveKeys level revealed confirmed now = .ok (keys, true)) :
    level = .oneRtt ∧ revealed.keyPhase ≠ space.keyPhase ∧ space.keysRecvNext = some keys := by
  simp only [Space.receiveKeys] at h
  split at h
  · cases h
  · split at h
    · cases h
    · next hphase =>
      split at h
      · split at h
        · cases h
        · split at h <;> cases h
      · split at h
        · cases h
        · next hnext =>
          split at h
          · cases h
          · cases h
            exact ⟨not_not.1 fun hlevel => hphase (.inl hlevel), fun hsame => hphase (.inr hsame), hnext⟩

lemma receiveKeys_staying {keys : PacketKeys}
    (h : space.receiveKeys level revealed confirmed now = .ok (keys, false)) :
    some keys = space.keysRecv ∨ some keys = space.keysRecvPrevious := by
  simp only [Space.receiveKeys] at h
  split at h
  · cases h
  · next current hcurrent =>
    have hkeep : Except.ok (current, false) = Except.ok (ε := Raised) (keys, false) →
      some keys = space.keysRecv := by
      rintro ⟨⟩
      exact hcurrent.symm
    split at h
    · exact .inl (hkeep h)
    · split at h
      · split at h
        · exact .inl (hkeep h)
        · next previous hprevious =>
          split at h
          · exact .inl (hkeep h)
          · cases h
            exact .inr hprevious.symm
      · split at h
        · exact .inl (hkeep h)
        · split at h
          · exact .inl (hkeep h)
          · cases h

lemma unprotect_keys {packet : Bytes} {pnOffset : ℕ} {updating : Bool}
    (h : c.unprotect level packet pnOffset now zeroRtt = .ok (revealed, payload, updating)) :
    zeroRtt = true ∧ updating = false ∨ ∃ keys, zeroRtt = false ∧
      (c.spaces level).receiveKeys level revealed c.recovery.handshakeConfirmed now = .ok (keys, updating) := by
  cases zeroRtt with
  | true =>
    simp only [Conn.unprotect, if_true] at h
    split at h
    · cases h
    · obtain ⟨unprotected, -, h⟩ := bind_eq_ok.1 h
      obtain ⟨payload, -, h⟩ := bind_eq_ok.1 h
      cases h
      exact .inl ⟨rfl, rfl⟩
  | false =>
    simp only [Conn.unprotect, Bool.false_eq_true, if_false] at h
    split at h
    · cases h
    · obtain ⟨unprotected, -, h⟩ := bind_eq_ok.1 h
      obtain ⟨⟨keys, updates⟩, hkeys, h⟩ := bind_eq_ok.1 h
      obtain ⟨payload, -, h⟩ := bind_eq_ok.1 h
      cases h
      exact .inr ⟨keys, rfl, hkeys⟩

lemma rotateKeys_core (now : ℚ) (held : List (Level × Frame)) :
    Ensures (rotateKeys .oneRtt now) c
      (fun _ c' => ∃ keys next send, (c.spaces .oneRtt).keysRecvNext = some keys ∧
        c'.core w held = (((c.core w held).note (.keyed (some next))).onQueue .oneRtt fun queue =>
          { queue with sendKeys := some send }).onInbox .oneRtt fun inbox =>
            { inbox with phase := ⟨some keys, some next, inbox.phase.current, !inbox.phase.bit, none⟩ })
      fun _ c' => c' = c := by
  simp only [rotateKeys, ensures_flow]
  refine ⟨fun space hspace => ?_, fun _ _ => trivial⟩
  simp only [Space.rotateKeys] at hspace
  split at hspace
  · next recv send hrecv hsend =>
    cases hspace
    refine ⟨recv, (env.nextGeneration (c.spaces .oneRtt).secretRecvNext recv).2,
      (env.nextGeneration (c.spaces .oneRtt).secretSend send).2, hrecv, ?_⟩
    exact Conn.core_setSpace_both (by rfl) (by rfl)
  · cases hspace

lemma rotateKeys_goes (now : ℚ) (held : List (Level × Frame)) :
    Ensures (rotateKeys .oneRtt now) c (fun _ => Goes w held held c) fun _ c' => c' = c := by
  apply (rotateKeys_core now held).imp
  rintro _ c' ⟨keys, next, send, hnext, hcore⟩
  exact .effect (.rotate _ keys next send hnext) hcore.symm (congrArg Core.state hcore)

lemma noteKeyPhase_eq (space : Space PacketKeys Bytes) (revealed : Space.Revealed) :
    ∃ first, space.noteKeyPhase revealed = { space with keyPhaseFirst := first } := by
  simp only [Space.noteKeyPhase]
  split_ifs
  · exact ⟨space.keyPhaseFirst, rfl⟩
  · exact ⟨some revealed.packetNumber, rfl⟩
  · exact ⟨space.keyPhaseFirst, rfl⟩

lemma noteKeyPhase_goes (revealed : Space.Revealed) :
    Goes w [] [] c (c.onSpace .oneRtt (·.noteKeyPhase revealed)) := by
  by_cases hphase : revealed.keyPhase = (c.spaces .oneRtt).keyPhase ∧
      (c.spaces .oneRtt).beforePhase revealed.packetNumber = true
  · have hnote : (c.spaces .oneRtt).noteKeyPhase revealed =
        { c.spaces .oneRtt with keyPhaseFirst := some revealed.packetNumber } := by
      simp [Space.noteKeyPhase, hphase.1, hphase.2]
    refine .effect (.beginPhase _ revealed.packetNumber fun first hfirst => ?_) ?_ rfl
    · have hbefore := hphase.2
      simp only [Space.beforePhase, show (c.spaces .oneRtt).keyPhaseFirst = some first from hfirst] at hbefore
      exact of_decide_eq_true hbefore
    · rw [Conn.onSpace, hnote, Conn.core_setSpace_inbox]
      · rfl
      · rfl
  · have hnote : (c.spaces .oneRtt).noteKeyPhase revealed = c.spaces .oneRtt := by
      simp only [Space.noteKeyPhase]
      split_ifs with hother hbefore
      · rfl
      · exact absurd ⟨not_not.1 hother, hbefore⟩ hphase
      · rfl
    exact .of_core_eq (Conn.core_onSpace_of_eq (congrArg Space.queue hnote) (congrArg Space.inbox hnote))

lemma opens_noteKeyPhase (revealed : Space.Revealed)
    (hkeys : keys = (c.spaces .oneRtt).keysRecv ∨ keys = (c.spaces .oneRtt).keysRecvPrevious) :
    ((c.onSpace .oneRtt (·.noteKeyPhase revealed)).core w []).Opens keys revealed := by
  have hspace : ((c.onSpace .oneRtt (·.noteKeyPhase revealed)).core w []).inboxes .oneRtt =
      ((c.spaces .oneRtt).noteKeyPhase revealed).inbox := by simp [Conn.core, Conn.onSpace, Conn.setSpace]
  obtain ⟨first, hfirst⟩ := noteKeyPhase_eq (c.spaces .oneRtt) revealed
  simp only [Core.Opens, hspace]
  refine ⟨by rw [hfirst]; exact hkeys, fun hphase => ?_⟩
  have hsame : revealed.keyPhase = (c.spaces .oneRtt).keyPhase := by
    rw [hfirst] at hphase
    exact hphase
  simp only [Space.noteKeyPhase, hsame, ne_eq, not_true_eq_false, if_false]
  split_ifs with hbefore
  · exact ⟨revealed.packetNumber, rfl, le_refl _⟩
  · simp only [Space.beforePhase] at hbefore
    split at hbefore
    · exact absurd rfl hbefore
    · next first hfirst => exact ⟨first, hfirst, not_lt.1 fun hlt => hbefore (decide_eq_true hlt)⟩

lemma unveil_goes (packet : Bytes) (pnOffset : ℕ) (hdiscarded : (c.spaces level).discarded = false)
    (hearly : zeroRtt = true → (c.spaces level).keysRecvEarly.isSome = true)
    (hkeys : zeroRtt = false → (c.spaces level).keysRecv.isSome = true)
    (hopens : level = .oneRtt → zeroRtt = false → (c.core w []).Opens keys revealed) :
    Goes w [] [] c
      ((c.note (.unsealed level zeroRtt packet pnOffset keys revealed)).note (.opened level zeroRtt)) := by
  have hunveil : Goes w [] [] c (c.note (.unsealed level zeroRtt packet pnOffset keys revealed)) := by
    refine .single (.unveil _ level zeroRtt packet pnOffset keys revealed ?_ hopens) rfl
    cases zeroRtt with
    | true => exact .inl (hearly rfl)
    | false => exact .inr (hkeys rfl)
  exact hunveil.trans (.single (.opened _ level zeroRtt hdiscarded hearly) rfl)

lemma decrypt_goes (level : Level) (packet : Bytes) (pnOffset : ℕ) (now : ℚ) (zeroRtt : Bool)
    (hdiscarded : (c.spaces level).discarded = false)
    (hearly : zeroRtt = true → (c.spaces level).keysRecvEarly.isSome = true)
    (hkeys : zeroRtt = false → (c.spaces level).keysRecv.isSome = true) :
    Always (decrypt level packet pnOffset now zeroRtt) c (Goes w [] [] c) := by
  -- a 1-RTT packet enters its phase before it is noted
  have hphase : ∀ (c₁ : Conn env) (keys : Option PacketKeys) (revealed : Space.Revealed), Goes w [] [] c c₁ →
      (c₁.spaces .oneRtt).discarded = (c.spaces .oneRtt).discarded → (c₁.spaces .oneRtt).keysRecv.isSome = true →
      (keys = (c₁.spaces .oneRtt).keysRecv ∨ keys = (c₁.spaces .oneRtt).keysRecvPrevious) →
      (c.spaces .oneRtt).discarded = false →
      Goes w [] [] c (((c₁.onSpace .oneRtt (·.noteKeyPhase revealed)).note
        (.unsealed .oneRtt false packet pnOffset keys revealed)).note (.opened .oneRtt false)) := by
    intro c₁ keys revealed h₁ hsame hcurrent hchoice hdiscarded
    obtain ⟨first, hfirst⟩ := noteKeyPhase_eq (c₁.spaces .oneRtt) revealed
    have hspace : (c₁.onSpace .oneRtt (·.noteKeyPhase revealed)).spaces .oneRtt =
        { c₁.spaces .oneRtt with keyPhaseFirst := first } := by simp [Conn.onSpace, Conn.setSpace, hfirst]
    refine (h₁.trans (noteKeyPhase_goes revealed)).trans (unveil_goes packet pnOffset ?_ (by simp) ?_ ?_)
    · rw [hspace]
      exact hsame.trans hdiscarded
    · rw [hspace]
      exact fun _ => hcurrent
    · exact fun _ _ => opens_noteKeyPhase revealed hchoice
  simp only [decrypt, ensures_state]
  cases hopened : c.unprotect level packet pnOffset now zeroRtt with
  | error e => cases e <;> exact .refl c
  | ok opened =>
    obtain ⟨revealed, payload, updating⟩ := opened
    simp only [ensures_flow]
    rcases unprotect_keys hopened with ⟨rfl, rfl⟩ | ⟨keys, rfl, hreceive⟩
    · refine ⟨fun h => absurd h (by decide), fun _ => ⟨fun h => absurd rfl h.2, fun _ => ?_⟩⟩
      exact unveil_goes packet pnOffset hdiscarded hearly hkeys fun _ h => absurd h (by decide)
    · have hkeysOpening : c.openingKeys level revealed now false = some keys := by
        simp [Conn.openingKeys, hreceive, Except.toOption]
      rw [hkeysOpening]
      refine ⟨?_, ?_⟩
      · rintro rfl
        obtain ⟨rfl, -, hnext⟩ := receiveKeys_updating hreceive
        apply ((rotateKeys_goes (w := w) now []).and (rotateKeys_core (w := w) now [])).mono
        · rintro _ c₁ ⟨h₁, recv, next, send, hrecv, hcore⟩
          have hsame : (c₁.spaces .oneRtt).discarded = (c.spaces .oneRtt).discarded :=
            congrArg Queue.discarded (congrFun (congrArg Core.queues hcore) .oneRtt)
          have hinbox := congrFun (congrArg Core.inboxes hcore) .oneRtt
          simp only [Core.onInbox, Function.update_self] at hinbox
          have hcurrent : (c₁.spaces .oneRtt).keysRecv = some recv := congrArg (·.phase.current) hinbox
          rw [hnext] at hrecv
          obtain rfl := Option.some.inj hrecv
          refine ⟨fun _ => ?_, fun h => absurd ⟨rfl, by decide⟩ h⟩
          exact hphase c₁ _ revealed h₁ hsame (by simp [hcurrent]) (.inl hcurrent.symm) hdiscarded
        · rintro _ _ ⟨rfl, -⟩
          exact .refl _
      · intro hstays
        rw [Bool.not_eq_true] at hstays
        subst hstays
        refine ⟨fun h => ?_, fun h => ?_⟩
        · obtain ⟨rfl, -⟩ := h
          exact hphase c _ revealed (.refl c) rfl (hkeys rfl) (receiveKeys_staying hreceive) hdiscarded
        · exact unveil_goes packet pnOffset hdiscarded hearly hkeys fun hlevel _ => absurd ⟨hlevel, by decide⟩ h

lemma handleVersionNegotiation_path (data : Bytes) :
    Always (handleVersionNegotiation data) c (Leads w c) := by
  simp only [handleVersionNegotiation, ensures_flow]
  refine ⟨fun _ => .refl, fun _ => ?_⟩
  cases parseVersionNegotiation data with
  | error e => cases e <;> exact .refl
  | ok packet =>
    simp only [ensures_flow]
    exact ⟨fun _ => .refl, fun _ => Effect.path (.negotiate _ packet.versions)⟩

lemma requeueCrypto_goes {rest : List (Level × Frame)} (hlevel : packet.level = .initial)
    (hs : (c.core w (inHand [packet] ++ rest)).Sound) :
    Ensures (requeueCrypto packet) c (fun _ => Goes w (inHand [packet] ++ rest) rest c)
      fun _ _ => False := by
  rw [inHand_singleton, hlevel] at hs ⊢
  apply each_goes_of_sound packet.frames _ hs
  intro frame _ rest c hs
  cases frame with
  | crypto crypto => exact requeueFrame_goes hs
  | stream _ | maxData _ | maxStreamData _ _ | maxStreams _ _ | handshakeDone =>
    exact .single (.drop _ _ _ rest rfl (.inl (by decide))) rfl
  | _ => exact .single (.drop _ _ _ rest rfl trivial) rfl

lemma Conn.core_installInitialKeys (dcid : Bytes) (held : List (Level × Frame)) :
    (c.installInitialKeys dcid).core w held = (c.core w held).install dcid := by
  refine Conn.core_setSpace_both ?_ ?_
  · cases hclient : c.isClient <;> simp [Space.queue, Conn.core, Primitives.initialKeys, hclient]
  · cases hclient : c.isClient <;> simp [Space.inbox, Conn.core, Primitives.initialKeys, hclient]

def cryptoOf (frames : List Frame) : List Crypto := frames.filterMap fun
  | .crypto crypto => some crypto
  | _ => none

lemma mem_cryptoOf {crypto : Crypto} : crypto ∈ cryptoOf frames ↔ .crypto crypto ∈ frames := by
  simp only [cryptoOf, List.mem_filterMap]
  constructor
  · rintro ⟨frame, hframe, hsome⟩
    cases frame <;> simp at hsome
    exact hsome ▸ hframe
  · exact fun h => ⟨_, h, rfl⟩

def Conn.requeued (c : Conn env) (queued : List Crypto) : Conn env :=
  c.onSpace .initial fun space => { space with cryptoRetransmit := space.cryptoRetransmit ++ queued }

lemma Conn.requeued_nil (c : Conn env) : c.requeued [] = c := by simp [requeued, onSpace, setSpace]

lemma Conn.requeued_requeued (c : Conn env) (first second : List Crypto) :
    (c.requeued first).requeued second = c.requeued (first ++ second) := by
  simp [requeued, onSpace, setSpace]

lemma requeueCrypto_requeues (packet : SentPacket) :
    Ensures (requeueCrypto packet) c (fun _ c' => c' = c.requeued (cryptoOf packet.frames)) fun _ _ => False := by
  rw [requeueCrypto]
  induction packet.frames generalizing c with
  | nil => exact c.requeued_nil.symm
  | cons frame frames ih =>
    rw [each, ensures_bind]
    cases frame with
    | crypto crypto =>
      simp only [requeueFrame, ensures_state]
      apply ih.imp
      rintro _ _ rfl
      exact c.requeued_requeued [crypto] (cryptoOf frames)
    | _ => exact ih

lemma requeueAllCrypto_requeues (packets : List SentPacket) :
    Ensures (each requeueCrypto packets) c
      (fun _ c' => c' = c.requeued (packets.flatMap fun packet => cryptoOf packet.frames)) fun _ _ => False := by
  induction packets generalizing c with
  | nil => exact c.requeued_nil.symm
  | cons packet packets ih =>
    rw [each, ensures_bind]
    apply (requeueCrypto_requeues packet).imp
    rintro _ _ rfl
    apply ih.imp
    rintro _ _ rfl
    exact c.requeued_requeued _ _

lemma acceptRetry_goes {data : Bytes} {packet : Primitives.Retry} (hclient : c.isClient = true)
    (hunheard : c.peerCidConfirmed = false) (hfirst : c.retryToken = []) (htoken : packet.token ≠ [])
    (hparse : env.parseRetry data c.initialDcid = .ok packet) (hs : (c.core w []).Sound) :
    Ensures (acceptRetry data packet) c (fun _ => Goes w [] [] c) fun _ _ => False := by
  have hcid := env.length_sourceCid_of_parseRetry hparse
  have hretry : Effect (c.core w []) ((c.afterRetry packet).core { w with retrying := true } []) := by
    have hinstall := Conn.core_installInitialKeys (w := { w with retrying := true }) (c := { c with
      retryToken := packet.token
      retrySourceCid := some packet.sourceCid
      peerCid := packet.sourceCid }) packet.sourceCid []
    exact hinstall ▸ .retry _ packet hcid hclient hunheard hfirst htoken
  have hs₁ := hs.path hretry.path
  have hrestart :=
    restart_goes (c := c.afterRetry packet) (w := { w with retrying := true }) .initial (.inr htoken)
  have hs₂ := hrestart.sound hs₁
  simp only [acceptRetry, ensures_state]
  rw [inHand_eq_flatMap] at hrestart hs₂
  apply ((each_goes_of_sound _ (fun p hp _ _ hs => requeueCrypto_goes (hs₁.levels .initial p hp) hs) hs₂).and
    (requeueAllCrypto_requeues _)).mono
  · rintro _ _ ⟨h, rfl⟩
    refine ⟨(hretry.path.trans (hrestart.trans h).path).tail (.retried _ data packet w.retrying fun hlax => ?_),
      .inl rfl⟩
    have hquiet : (c.core w []).Unheard := hs.unheard fun hheard => by
      rcases hheard with hlax' | hheard
      · exact absurd (hlax.symm.trans hlax') (by decide)
      · exact absurd (hunheard.symm.trans (hheard hclient)) (by decide)
    refine ⟨hclient, hunheard, hparse, rfl, htoken, rfl, fun crypto hflown => ?_, hquiet.unretried hfirst⟩
    obtain ⟨n, sent, hget, hcrypto⟩ := hquiet.flown hfirst crypto hflown
    refine List.mem_append_right _ (List.mem_flatMap.2 ⟨sent, ?_, mem_cryptoOf.2 hcrypto⟩)
    exact LossDetection.mem_sent_iff.2 ⟨n, hget⟩
  · exact fun _ _ h => h.1

lemma handleRetry_goes (data : Bytes) (hclient : c.isClient = true) (hs : (c.core w []).Sound) :
    Always (handleRetry data) c (Goes w [] [] c) := by
  simp only [handleRetry, ensures_flow]
  refine ⟨fun _ => .refl c, fun hopen => ?_⟩
  obtain ⟨hfirst, hunheard⟩ := not_or.1 hopen
  cases hparse : env.parseRetry data c.initialDcid with
  | error e =>
    simp only [ensures_raiseIf]
    exact ⟨fun _ => .refl c, fun _ => .refl c⟩
  | ok packet =>
    simp only [ensures_flow]
    refine ⟨fun _ => .refl c, fun htoken => ?_⟩
    apply (acceptRetry_goes hclient (by simpa using hunheard) (not_not.1 hfirst) htoken hparse hs).mono
    · exact fun _ _ h => h
    · exact fun _ _ h => h.elim

lemma adoptClientInitial_goes {dcid scid : Bytes} (hscid : scid.length ≤ maxCidLength)
    (hserver : c.isClient = false) :
    Always (adoptClientInitial dcid scid) c (Goes w [] [] c) := by
  simp only [adoptClientInitial, ensures_flow]
  refine ⟨fun hnone => ?_, fun hsome => ?_⟩
  · have htls : (c.core w []).hasTls = false := by simpa [Conn.core] using hnone
    refine ⟨fun encoded _ => ?_, fun _ _ => .single (.aim _ dcid hserver htls) rfl⟩
    have hinstall := Conn.core_installInitialKeys (w := w) (c := { c with
      initialDcid := dcid
      localParameters := c.parametersFor dcid
      tls := some (env.newServer encoded) }) dcid []
    have hadopt := Effect.adopt (c.core w []) dcid scid hscid hserver htls
    split_ifs with hnew
    · refine .effect hadopt ?_ rfl
      rw [if_pos (show (c.core w []).peerCid = [] from hnew)]
      exact congrArg (fun s : Core => { s.note (.adopted dcid scid) with peerCid := scid }) hinstall.symm
    · refine .effect hadopt ?_ rfl
      rw [if_neg (show ¬(c.core w []).peerCid = [] from hnew)]
      exact congrArg (fun s : Core => s.note (.adopted dcid scid)) hinstall.symm
  · split_ifs with hnew
    · have htls : c.tls.isSome = true := Option.isSome_iff_ne_none.2 (by simpa using hsome)
      exact .single (.learn _ scid hscid hserver htls hnew) rfl
    · exact .refl c

lemma noteLongHeader_heard (header : LongHeader) (level : Level) (hclient : c.isClient = true) :
    Ensures (noteLongHeader header level) c (fun _ c' => c'.peerCidConfirmed = true) fun _ _ => False := by
  simp only [noteLongHeader, ensures_flow]
  exact ⟨fun h => absurd hclient h.1,
    fun _ => ⟨fun _ => trivial, fun h => not_not.1 fun hunheard => h ⟨hclient, hunheard⟩⟩⟩

lemma noteLongHeader_goes {header : LongHeader} (level : Level) (hcid : header.sourceCid.length ≤ maxCidLength) :
    Always (noteLongHeader header level) c (Goes w [] [] c) := by
  simp only [noteLongHeader, ensures_flow]
  refine ⟨fun hserver => adoptClientInitial_goes hcid (by simpa using hserver.1),
    fun _ => ⟨fun hclient => ?_, fun _ => .refl c⟩⟩
  have hunheard : c.peerCidConfirmed = false := by simpa using hclient.2
  exact .single (.address _ header.sourceCid hcid hclient.1 hunheard) rfl

lemma locateLong_goes (data : Bytes) :
    Ensures (locateLong data) c
      (fun located c' => Goes w [] [] c c' ∧ (located.isSome = true → (c'.core w []).Heard))
      fun _ c' => Goes w [] [] c c' := by
  simp only [locateLong, ensures_flow]
  refine ⟨fun header hheader => ?_, fun _ _ => .refl c⟩
  cases levelOf header.packetType with
  | none => exact ⟨.refl c, by simp⟩
  | some level =>
    simp only [ensures_flow]
    refine ⟨fun _ => ⟨.refl c, by simp⟩, fun _ => ?_⟩
    have hgoes := noteLongHeader_goes (c := c) (w := w) level (length_cids_of_parseLongHeader hheader).2
    cases hclient : c.isClient with
    | true =>
      apply (hgoes.and (noteLongHeader_heard header level hclient)).mono
      · exact fun _ _ h => ⟨h.1, fun _ => .inr fun _ => h.2⟩
      · exact fun _ _ h => h.1
    | false =>
      apply hgoes.imp
      exact fun _ _ h =>
        ⟨h, fun _ => h.heard (.inr fun hserver => absurd (hserver.symm.trans hclient) (by decide))⟩

lemma Goes.state_ne_terminated {held held' : List (Level × Frame)} {c' : Conn env} (h : Goes w held held' c c')
    (hstate : c.state ≠ .terminated) : c'.state ≠ .terminated := by
  rcases h.state with h | h
  · rwa [h]
  · simp [h]

lemma locatePacket_path (data : Bytes) (hs : (c.core w []).Sound) (hstate : c.state ≠ .terminated) :
    Ensures (locatePacket data) c
      (fun found c' => Leads w c c' ∧ ∀ located, found = some located → c'.state ≠ .terminated ∧
        ((c'.core w []).Heard ∨ located.level = .oneRtt ∧ isLong (located.packet.headD 0) = false))
      fun _ => Leads w c := by
  simp only [locatePacket, ensures_flow]
  refine ⟨fun hshort => ⟨fun _ _ => ⟨.refl, ?_⟩, fun _ _ => .refl⟩, fun _ => ⟨fun _ => ?_, fun _ =>
    ⟨fun hretry => ?_, fun _ => ?_⟩⟩⟩
  · rintro _ ⟨⟩
    exact ⟨hstate, .inr ⟨rfl, by simpa using hshort⟩⟩
  · apply (handleVersionNegotiation_path data).imp
    exact fun _ _ h => ⟨h, by simp⟩
  · apply (handleRetry_goes data hretry.1 hs).mono
    · exact fun _ _ h => ⟨h.path, by simp⟩
    · exact fun _ _ h => h.path
  · apply (locateLong_goes data).mono
    · rintro _ c' ⟨h, hheard⟩
      refine ⟨h.path, ?_⟩
      rintro located rfl
      exact ⟨h.state_ne_terminated hstate, .inl (hheard rfl)⟩
    · exact fun _ _ h => h.path

lemma noteReceived_core (level : Level) (packetNumber : ℕ) (now : ℚ) (ecn : ℕ) :
    ∃ c₁ : Conn env, Goes w [] [] c c₁ ∧ (c₁.spaces level).inbox = (c.spaces level).inbox ∧
      (c.noteReceived level packetNumber now ecn).core w [] = (c₁.core w []).onInbox level fun inbox =>
        { inbox with receipts := inbox.receipts.add packetNumber ecn } := by
  have hspace : (c.onSpace level (·.noteReceived packetNumber ecn)).core w [] = _ :=
    Conn.core_onSpace_inbox (g := fun inbox => { inbox with receipts := inbox.receipts.add packetNumber ecn }) rfl
      rfl
  by_cases hvalidates : ¬c.isClient ∧ level = .handshake
  · refine ⟨{ c.discardSpace .initial with addressValidated := true },
      (discardSpace_goes .initial (by decide) (.inl (.inr fun hclient => absurd hclient hvalidates.1))).trans
        (.single (.validate _) rfl), ?_, ?_⟩
    · obtain ⟨-, rfl⟩ := hvalidates
      simp only [Conn.discardSpace]
      split_ifs <;> rfl
    · obtain ⟨hserver, rfl⟩ := hvalidates
      -- the two spaces are different ones, so the order of the two changes is free
      have hdiscard : ∀ times, (({ c.onSpace .handshake (·.noteReceived packetNumber ecn) with
          largestTimeReceived := times } : Conn env).discardSpace .initial).core w [] =
          ((c.discardSpace .initial).core w []).onInbox .handshake fun inbox =>
            { inbox with receipts := inbox.receipts.add packetNumber ecn } := by
        intro times
        simp only [Conn.discardSpace]
        split_ifs with hdiscarded hdiscarded' hdiscarded'
        · exact hspace
        · exact absurd hdiscarded hdiscarded'
        · exact absurd hdiscarded' hdiscarded
        · simp only [Conn.core, Conn.onSpace, Conn.setSpace, Conn.note, Core.onInbox, Core.mk.injEq,
            true_and, and_true]
          refine ⟨?_, ?_⟩ <;> funext level <;> cases level <;> rfl
      simp only [Conn.noteReceived]
      split_ifs with hlargest hclient hclient
      · exact congrArg (fun s : Core => { s with addressValidated := true }) (hdiscard _)
      · exact absurd ⟨hserver, trivial⟩ hclient
      · exact congrArg (fun s : Core => { s with addressValidated := true }) (hdiscard c.largestTimeReceived)
      · exact absurd ⟨hserver, trivial⟩ hclient
  · refine ⟨c, .refl c, rfl, ?_⟩
    simp only [Conn.noteReceived]
    split_ifs with hlargest hclient hclient
    · exact absurd hclient hvalidates
    · exact hspace
    · exact absurd hclient hvalidates
    · exact hspace

lemma handleProcessed_path {c₁ : Conn env}
    (hprocessed : c₁.core w [] = (c.core w []).process level packetNumber ecn payload) (zeroRtt : Bool) (now : ℚ)
    (hnew : (c.spaces level).received.covers packetNumber (packetNumber + 1) = false) (hs : (c.core w []).Sound)
    (hstate : c.state ≠ .terminated) (hheard : (c.core w []).Heard) :
    Ensures (handlePayload level payload now zeroRtt) c₁
      (fun _ c' => Leads w c c' ∧ c'.state ≠ .terminated)
      fun _ => Leads w c := by
  have hsame : c₁.state = c.state := congrArg Core.state hprocessed
  have hnoted : .processed level packetNumber ecn payload ∈ c₁.trace := by
    rw [show c₁.trace = _ from congrArg Core.trace hprocessed]
    exact List.mem_cons_self
  by_cases hcloses : ∃ close, ClosesFirst payload close
  · -- CONNECTION_CLOSE is handled together with the packet that it opens
    obtain ⟨close, rest, hparse⟩ := hcloses
    have hdrain :
      Path (c.core w []) (((c₁.note (.handled c₁.state (.connectionClose close))).onConnectionClose close
        now).core w []) := by
      have heffect := Effect.processClose (c.core w []) level packetNumber ecn payload close
        (env.decodeUtf8 close.reason) hnew ⟨rest, hparse⟩ hstate
      have hcore : ((c₁.note (.handled c₁.state (.connectionClose close))).onConnectionClose close now).core w [] =
          (((c.core w []).process level packetNumber ecn payload).note
            (.handled (c.core w []).state (.connectionClose close))).drain close.errorCode
              (env.decodeUtf8 close.reason) := by
        rw [← hprocessed, show (c.core w []).state = c₁.state from hsame.symm]
        rfl
      rw [hcore]
      exact heffect.path
    simp only [handlePayload, hparse, Except.mapError, ensures_flow]
    refine ⟨?_, fun _ h => by cases h⟩
    rintro _ ⟨⟩
    rw [handleFrames, each, ensures_bind]
    simp only [handlePacketFrame, ensures_flow, handleFrame]
    refine ⟨fun h => absurd h.2 (by simp [barredFromZeroRtt]),
      fun _ => ⟨fun h => absurd h (by simp [isAckEliciting]), fun _ => ?_⟩⟩
    apply (handleFrames_goes level rest now zeroRtt (hs.path hdrain) (by simp [Conn.onConnectionClose])
      fun frame hframe =>
      ⟨hdrain.heard hheard, .inr ⟨packetNumber, ecn, payload, _,
        List.mem_cons_of_mem _ (List.mem_cons_of_mem _ hnoted), hparse, List.mem_cons_of_mem _ hframe⟩⟩).mono
    · exact fun _ c₂ h₂ => ⟨hdrain.trans h₂.1, h₂.2⟩
    · exact fun _ c₂ h₂ => hdrain.trans h₂
  · have htaken : Path (c.core w []) (c₁.core w []) := by
      rw [hprocessed]
      exact Effect.path (.process _ level packetNumber ecn payload hnew (not_exists.1 hcloses))
    apply (handlePayload_goes level payload now zeroRtt (hs.path htaken) (by rwa [hsame])
      (htaken.heard hheard) hnoted).mono
    · exact fun _ c₂ h₂ => ⟨htaken.trans h₂.1, h₂.2⟩
    · exact fun _ c₂ h₂ => htaken.trans h₂

lemma handleReceived_path (level : Level) (packetNumber : ℕ) (payload : Bytes) (zeroRtt : Bool) (now : ℚ) (ecn : ℕ)
    (hnew : (c.spaces level).received.covers packetNumber (packetNumber + 1) = false) (hs : (c.core w []).Sound)
    (hstate : c.state ≠ .terminated) (hheard : (c.core w []).Heard) :
    Ensures (handlePayload level payload now zeroRtt)
      ((c.noteReceived level packetNumber now ecn).note (.processed level packetNumber ecn payload))
      (fun _ c' => Leads w c c' ∧ c'.state ≠ .terminated)
      fun _ => Leads w c := by
  obtain ⟨c₁, h₁, hinbox, hcore⟩ := noteReceived_core (c := c) (w := w) level packetNumber now ecn
  have hnew₁ : (c₁.spaces level).received.covers packetNumber (packetNumber + 1) = false := by
    rw [show (c₁.spaces level).received = (c.spaces level).received from congrArg (·.receipts.received) hinbox]
    exact hnew
  have hprocessed :
    ((c.noteReceived level packetNumber now ecn).note (.processed level packetNumber ecn payload)).core
      w [] = (c₁.core w []).process level packetNumber ecn payload :=
    congrArg (fun s : Core => s.note (.processed level packetNumber ecn payload)) hcore
  apply (handleProcessed_path hprocessed zeroRtt now hnew₁ (h₁.sound hs) (h₁.state_ne_terminated hstate)
    (h₁.heard hheard)).mono
  · exact fun _ c₂ h₂ => ⟨h₁.path.trans h₂.1, h₂.2⟩
  · exact fun _ c₂ h₂ => h₁.path.trans h₂

lemma openPacket_path (located : Located) (zeroRtt : Bool) (now : ℚ) (ecn : ℕ)
    (hadmits : admits c located.level zeroRtt = true) (hs : (c.core w []).Sound) (hstate : c.state ≠ .terminated)
    (hlocated : (c.core w []).Heard ∨ located.level = .oneRtt ∧ zeroRtt = false) :
    Ensures (openPacket located zeroRtt now ecn) c
      (fun _ c' => Leads w c c' ∧ c'.state ≠ .terminated)
      fun _ => Leads w c := by
  simp only [admits, Bool.and_eq_true, Bool.not_eq_true'] at hadmits
  obtain ⟨⟨hkeys, hdiscarded⟩, -⟩ := hadmits
  have hearly : zeroRtt = true → (c.spaces located.level).keysRecvEarly.isSome = true := by
    intro h
    simpa [h] using hkeys
  have hcurrent : zeroRtt = false → (c.spaces located.level).keysRecv.isSome = true := by
    intro h
    simpa [h] using hkeys
  -- a client has 1-RTT keys only after it heard from the server
  have hheard : (c.core w []).Heard := by
    rcases hlocated with hheard | ⟨hlevel, hshort⟩
    · exact hheard
    · by_contra hunheard
      have hnone := (hs.unheard hunheard).current
      have hsome := hcurrent hshort
      rw [hlevel, show (c.spaces .oneRtt).keysRecv = none from hnone] at hsome
      cases hsome
  simp only [openPacket, ensures_bind]
  apply (decrypt_goes (w := w) located.level located.packet located.pnOffset now zeroRtt hdiscarded hearly
    hcurrent).mono
  · intro decrypted c₁ h₁
    have hstate₁ := h₁.state_ne_terminated hstate
    cases decrypted with
    | none => exact ⟨h₁.path, hstate₁⟩
    | some opened =>
      simp only [ensures_flow]
      refine ⟨fun _ => ⟨h₁.path, hstate₁⟩, fun hnew => ?_⟩
      apply (handleReceived_path located.level opened.1 opened.2 zeroRtt now ecn
        (by simpa using hnew) (h₁.sound hs)
        hstate₁ (h₁.heard hheard)).mono
      · exact fun _ c₃ h₃ => ⟨h₁.path.trans h₃.1, h₃.2⟩
      · exact fun _ c₃ h₃ => h₁.path.trans h₃
  · exact fun _ _ h => h.path

lemma processPacket_path (data : Bytes) (now : ℚ) (ecn : ℕ) (hs : (c.core w []).Sound)
    (hstate : c.state ≠ .terminated) :
    Ensures (processPacket data now ecn) c
      (fun consumed c' => Leads w c c' ∧ (consumed ≠ 0 → c'.state ≠ .terminated))
      fun _ => Leads w c := by
  simp only [processPacket, ensures_bind, ensures_tryCatch]
  apply (locatePacket_path data hs hstate).mono
  · rintro located c₁ ⟨h₁, hfound⟩
    cases located with
    | none => exact ⟨h₁, fun h => absurd rfl h⟩
    | some located =>
      obtain ⟨hstate₁, hlocated⟩ := hfound located rfl
      simp only [ensures_flow]
      refine ⟨fun hadmits => ?_, fun _ => ⟨h₁, fun _ => hstate₁⟩⟩
      apply (openPacket_path located _ now ecn hadmits (hs.path h₁) hstate₁
        (hlocated.imp_right fun h => ⟨h.1, by rw [h.2, Bool.and_false]⟩)).mono
      · exact fun _ c₂ h₂ => ⟨h₁.trans h₂.1, fun _ => h₂.2⟩
      · exact fun _ c₂ h₂ => h₁.trans h₂
  · intro e c₁ h₁
    simp only [ensures_flow, ensures_throw]
    exact ⟨fun _ => ⟨h₁, fun h => absurd rfl h⟩, fun _ => h₁⟩

lemma processPackets_path (now : ℚ) (ecn rounds : ℕ) (data : Bytes) (hs : (c.core w []).Sound)
    (hstate : c.state ≠ .terminated) :
    Always (processPackets now ecn rounds data) c (Leads w c) := by
  induction rounds generalizing c data with
  | zero => exact .refl
  | succ rounds ih =>
    simp only [processPackets, ensures_flow]
    refine ⟨fun _ => .refl, fun _ => ?_⟩
    apply (processPacket_path data now ecn hs hstate).imp
    rintro consumed c₁ ⟨h₁, hstate₁⟩
    refine ⟨fun _ => h₁, fun hconsumed => ?_⟩
    exact (ih (data.drop consumed) (hs.path h₁) (hstate₁ hconsumed)).both fun _ h₂ => h₁.trans h₂

lemma receiveDatagram_path (data : Bytes) (now : ℚ) (source : Option env.Destination) (ecn : ℕ)
    (hpassed : c.bytesReceived + data.length ≤ w.passed) (hs : (c.core w []).Sound) :
    Always (receiveDatagram data now source ecn) c (Leads w c) := by
  simp only [receiveDatagram, ensures_flow]
  refine ⟨fun _ => .refl, fun hstate => ?_⟩
  have hcount : Goes w [] [] c { c with
      bytesReceived := c.bytesReceived + data.length
      destination := c.destination <|> source } := .single (.receive _ data.length hpassed) rfl
  exact (processPackets_path now ecn data.length data (hcount.sound hs) fun h => hstate (.inl h)).both fun _ h =>
    hcount.path.trans h

lemma Conn.core_close (errorCode : ℕ) (reason : String) (frameType : Option ℕ) (held : List (Level × Frame)) :
    (c.close errorCode reason frameType).core w held =
      (c.core w held).close ⟨errorCode, reason.toUTF8.data.toList, frameType⟩ := by
  simp only [Conn.close, Core.close]
  by_cases h : c.state = .closing ∨ c.state = .draining
  · simp [h, Conn.core]
  · simp [h, Conn.core, Conn.note, Core.note]

theorem datagramReceived_path (data : Bytes) (now : ℚ) (source : Option env.Destination) (ecn : ℕ)
    (hpassed : c.bytesReceived + data.length ≤ w.passed) (hs : (c.core w []).Sound) :
    Always (datagramReceived data now source ecn) c (Leads w c) := by
  simp only [datagramReceived, ensures_tryCatch]
  apply (receiveDatagram_path data now source ecn hpassed hs).mono
  · exact fun _ _ h => h
  · intro e c₁ h₁
    cases e with
    | connection errorCode reason frameType =>
      rw [closeOnError, ensures_modify]
      have hclose := Conn.core_close (c := c₁.note (.aborted c₁.state)) (w := w) errorCode reason frameType []
      have habort := Effect.abort (c₁.core w []) ⟨errorCode, reason.toUTF8.data.toList, frameType⟩ errorCode reason
      refine h₁.trans (Effect.path ?_)
      have hcore : (({ (c₁.note (.aborted c₁.state)).close errorCode reason frameType with
          events := ((c₁.note (.aborted c₁.state)).close errorCode reason frameType).events ++
            [.connectionTerminated errorCode reason] } : Conn env).core w []) =
          ((((c₁.note (.aborted c₁.state)).close errorCode reason frameType).core w []).report
            (.connectionTerminated errorCode reason)) := rfl
      rw [hcore, hclose]
      exact habort
    | _ => exact h₁

end Packets

end Dsquic.Connection
