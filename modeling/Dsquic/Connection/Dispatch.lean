import Dsquic.Connection.Plain
import Dsquic.Connection.Run

/-!
Frames as the dispatcher treats them: which of them make it raise what nothing catches, and which of them
it refuses where they may not appear.
-/

namespace Dsquic.Connection

open Lib Wire Streams Recovery

def isConnectionError : Raised → Bool
  | .connection _ _ _ => true
  | _ => false

variable {env : Env} {c : Conn env} {w : Caller}

def Conn.ackDelayExponent (c : Conn env) : ℕ := (c.peerParameters.map (·.ackDelayExponent)).getD 3

/-- A frame whose handler raises something else: an ACK when the peer's exponent is past every shift, or with a
delay past every float, and a limit for a stream that cannot send. -/
def Conn.Chokes (c : Conn env) (zeroRtt : Bool) : Frame → Prop
  | .ack ack => zeroRtt = false ∧ (env.shiftLimit < c.ackDelayExponent ∨
      1000000 * floatLimit ≤ ack.delay * 2 ^ c.ackDelayExponent)
  | .maxStreamData streamId _ => ∃ streams, c.streams = some streams ∧ streams.send? streamId = none
  | _ => False

section Escape

lemma ackDelay_eq_ok {ack : Ack} {ackDelay : ℚ} (h : c.ackDelay ack = .ok ackDelay) :
    ¬ c.Chokes false (.ack ack) := by
  simp only [Conn.ackDelay, ackDelaySeconds] at h
  split_ifs at h with hlong hlarge
  exact fun hchokes => hchokes.2.elim hlong hlarge

lemma ackDelay_eq_error {ack : Ack} {e : Raised} (h : c.ackDelay ack = .error e) :
    isConnectionError e = false ∧ c.Chokes false (.ack ack) := by
  simp only [Conn.ackDelay, ackDelaySeconds] at h
  split_ifs at h with hlong hlarge <;> cases h
  · exact ⟨rfl, rfl, .inl hlong⟩
  · exact ⟨rfl, rfl, .inr hlarge⟩

def Escapes (m : M env PUnit) (c : Conn env) (chokes : Prop) : Prop :=
  Ensures m c (fun _ _ => ¬ chokes) fun e _ => isConnectionError e = false ↔ chokes

lemma handleAck_escapes (level : Level) (ack : Ack) (now : ℚ) (hs : (c.core w []).Sound) :
    Escapes (handleAck level ack now) c (c.Chokes false (.ack ack)) := by
  have hlax : (c.core { w with lax := true } []).Sound := hs.lax
  apply (handleAck_spec level ack now hlax (.inl rfl)).mono
  · rintro _ _ ⟨-, ackDelay, hdelay⟩
    exact ackDelay_eq_ok hdelay
  · rintro e _ ⟨-, herror | ⟨⟨reason, rfl⟩, ackDelay, hdelay⟩⟩
    · obtain ⟨hescapes, hchokes⟩ := ackDelay_eq_error herror
      exact ⟨fun _ => hchokes, fun _ => hescapes⟩
    · exact ⟨Bool.noConfusion, fun hchokes => absurd hchokes (ackDelay_eq_ok hdelay)⟩

lemma handleStream_escapes (frame : Stream) : Escapes (handleStream frame) c False := by
  simp only [Escapes, handleStream, ensures_state]
  cases c.streams with
  | none => exact ⟨Bool.noConfusion, False.elim⟩
  | some streams =>
    simp only [ensures_state, ensures_tryCatch, onStreams, ensures_throw]
    apply (streams.handleStream_spec frame).mono
    · exact fun _ _ _ => id
    · rintro e _ ⟨⟨code, reason, rfl, -⟩, -⟩
      exact ⟨Bool.noConfusion, False.elim⟩

lemma sendStream_eq_error {m : StreamManager} {streamId : ℕ} {e : Raised} (h : m.sendStream streamId = .error e) :
    isConnectionError e = false ∧ m.send? streamId = none := by
  have hnone : m.send? streamId = none := by
    cases hsend : m.send? streamId with
    | none => rfl
    | some send =>
      rw [StreamManager.sendStream_eq_ok.2 hsend] at h
      cases h
  simp only [StreamManager.sendStream] at h
  split at h
  · cases h
    exact ⟨rfl, hnone⟩
  · split at h
    · cases h
      exact ⟨rfl, hnone⟩
    · cases h

lemma handleMaxStreamData_raises (streamId maximum : ℕ) (zeroRtt : Bool) :
    Ensures (handleMaxStreamData streamId maximum) c
      (fun _ _ => ¬ c.Chokes zeroRtt (.maxStreamData streamId maximum))
      fun e _ => isConnectionError e = false ∧ c.Chokes zeroRtt (.maxStreamData streamId maximum) := by
  simp only [handleMaxStreamData, ensures_state, Conn.Chokes]
  cases hstreams : c.streams with
  | none =>
    rintro ⟨streams, hsome, -⟩
    cases hsome
  | some streams =>
    simp only [onStreams, ensures_zoom]
    apply (StreamManager.withSend_spec streams streamId _).mono
    · rintro _ _ ⟨send, -, hsend, -⟩ ⟨_, hsome, hnone⟩
      cases hsome
      rw [hsend] at hnone
      cases hnone
    · rintro e _ ⟨-, herror | ⟨send, -, hok⟩⟩
      · obtain ⟨hescapes, hnone⟩ := sendStream_eq_error herror
        exact ⟨hescapes, streams, rfl, hnone⟩
      · cases hok

lemma handleFrame_escapes (level : Level) (frame : Frame) (now : ℚ) (hcrypto : ∀ crypto, frame ≠ .crypto crypto)
    (hs : (c.core w []).Sound) : Escapes (handleFrame level frame now) c (c.Chokes false frame) := by
  have hquiet : ∀ {e : Raised}, isConnectionError e = true → (isConnectionError e = false ↔ False) := by
    intro e he
    simp [he]
  simp only [Escapes, handleFrame, ensures_state]
  cases frame with
  | ack ack => exact handleAck_escapes level ack now hs
  | crypto crypto => exact absurd rfl (hcrypto crypto)
  | stream stream => exact handleStream_escapes stream
  | maxStreamData streamId maximum =>
    exact (handleMaxStreamData_raises streamId maximum false).mono (fun _ _ => id) fun _ _ h =>
      ⟨fun _ => h.2, fun _ => h.1⟩
  | maxStreams maximum bidirectional =>
    simp only [handleMaxStreams, ensures_flow]
    exact ⟨fun _ => hquiet rfl, fun _ => id⟩
  | handshakeDone | newToken token =>
    simp only [ensures_flow]
    exact ⟨fun _ => hquiet rfl, fun _ => id⟩
  | _ => exact id

lemma handlePacketFrame_escapes (level : Level) (zeroRtt : Bool) (now : ℚ) (frame : Frame)
    (hcrypto : ∀ crypto, frame ≠ .crypto crypto) (hs : (c.core w []).Sound) (hstate : c.state ≠ .terminated) :
    Escapes (handlePacketFrame level zeroRtt now frame) c (c.Chokes zeroRtt frame) := by
  have hnote : Goes w [] [] c (c.note (.handled c.state frame)) := .single (.handle _ frame hstate) rfl
  have hframe : ∀ c₁ : Conn env, Goes w [] [] (c.note (.handled c.state frame)) c₁ →
      c₁.streams = c.streams → c₁.peerParameters = c.peerParameters →
        ¬ (zeroRtt = true ∧ barredFromZeroRtt frame = true) →
      Escapes (handleFrame level frame now) c₁ (c.Chokes zeroRtt frame) := by
    intro c₁ h₁ hstreams hparameters hallowed
    have hchokes : c₁.Chokes false frame ↔ c.Chokes zeroRtt frame := by
      cases frame with
      | ack ack =>
        have hzero : zeroRtt = false := by simpa [barredFromZeroRtt] using hallowed
        simp [Conn.Chokes, Conn.ackDelayExponent, hparameters, hzero]
      | maxStreamData streamId maximum => simp [Conn.Chokes, hstreams]
      | _ => exact Iff.rfl
    have hescapes := handleFrame_escapes (w := w) level frame now hcrypto ((hnote.trans h₁).sound hs)
    rwa [hchokes] at hescapes
  simp only [Escapes, handlePacketFrame, ensures_flow]
  refine ⟨fun hbarred => ?_,
    fun hallowed => ⟨fun _ => hframe _ ?_ rfl rfl hallowed, fun _ => hframe _ (.refl _) rfl rfl hallowed⟩⟩
  · refine ⟨Bool.noConfusion, fun hchokes => ?_⟩
    cases frame with
    | ack ack => exact absurd hchokes.1 (by simp [hbarred.1])
    | maxStreamData streamId maximum => simp [barredFromZeroRtt] at hbarred
    | _ => exact hchokes.elim
  · exact .of_core_eq (Conn.core_onSpace_of_eq rfl rfl)

lemma handleFrames_escapes (level : Level) (frames : List Frame) (now : ℚ) (zeroRtt : Bool)
    (hcrypto : ∀ crypto, .crypto crypto ∉ frames) (hs : (c.core w []).Sound) (hstate : c.state ≠ .terminated)
    (hlax : w.lax = true) :
    (∀ e c', handleFrames level frames now zeroRtt c = .error e c' → isConnectionError e = true) ↔
      ∀ pre frame post c', frames = pre ++ frame :: post → handleFrames level pre now zeroRtt c = .ok ⟨⟩ c' →
        ¬ c'.Chokes zeroRtt frame := by
  induction frames generalizing c with
  | nil =>
    refine ⟨fun _ pre frame post _ h => ?_, fun _ e c' h => ?_⟩
    · simp at h
    · cases h
  | cons frame frames ih =>
    have hescapes := handlePacketFrame_escapes level zeroRtt now frame (c := c) (w := w)
      (fun crypto heq => hcrypto crypto (by simp [heq])) hs hstate
    have hgoes := handlePacketFrame_goes level zeroRtt now frame hs hstate ⟨.inl hlax, .inl hlax⟩
    cases hstep : handlePacketFrame level zeroRtt now frame c with
    | ok _ c₁ =>
      obtain ⟨hpath, hstate₁⟩ := hgoes.of_ok hstep
      have hfirst := hescapes.of_ok hstep
      have hrest := ih (fun crypto hmem => hcrypto crypto (List.mem_cons_of_mem _ hmem)) (hs.path hpath) hstate₁
      rw [handleFrames, each_cons_of_ok hstep, ← handleFrames, hrest]
      refine ⟨fun h pre f post c' heq hpre => ?_, fun h pre f post c' heq hpre => ?_⟩
      · cases pre with
        | nil =>
          cases hpre
          cases heq
          exact hfirst
        | cons g pre =>
          cases heq
          rw [handleFrames, each_cons_of_ok hstep] at hpre
          exact h pre f post c' rfl hpre
      · refine h (frame :: pre) f post c' (by rw [heq]; rfl) ?_
        rw [handleFrames, each_cons_of_ok hstep]
        exact hpre
    | error e c₁ =>
      have hfirst := hescapes.of_error hstep
      rw [handleFrames, each_cons_of_error hstep]
      refine ⟨fun h pre f post c' heq hpre hchokes => ?_, fun h e' c' heq => ?_⟩
      · cases pre with
        | nil =>
          cases hpre
          cases heq
          have hcaught := h e c₁ rfl
          rw [hfirst.2 hchokes] at hcaught
          cases hcaught
        | cons g pre =>
          cases heq
          rw [handleFrames, each_cons_of_error hstep] at hpre
          cases hpre
      · cases heq
        by_contra hother
        have hchokes := hfirst.1 (by simpa using hother)
        exact h [] frame frames c rfl rfl hchokes

end Escape

theorem payload_raises_iff (h : Begins c) (ops : List (Op env))
    (hstate : ((Session.start c).run ops).conn.state ≠ .terminated) (level : Level) (zeroRtt : Bool) (now : ℚ)
    (payload : Bytes) (frames : List Frame) (hparse : parseFrames payload = .ok frames)
    (hcrypto : ∀ crypto, .crypto crypto ∉ frames) :
    (∀ e c', handlePayload level payload now zeroRtt ((Session.start c).run ops).conn = .error e c' →
      isConnectionError e = true) ↔
    ∀ pre frame post c', frames = pre ++ frame :: post →
      handleFrames level pre now zeroRtt ((Session.start c).run ops).conn = .ok ⟨⟩ c' →
      ¬ c'.Chokes zeroRtt frame := by
  obtain ⟨_, _, _, _, intact, -, -, hpath, -⟩ := Session.reached h ops
  have hs : (Conn.core _ { Session.caller _ intact with lax := true } []).Sound :=
    ((Core.sound_initial _ _ _ _ _).path hpath).lax
  have heq : handlePayload level payload now zeroRtt ((Session.start c).run ops).conn =
      handleFrames level frames now zeroRtt ((Session.start c).run ops).conn := by
    rw [handlePayload, hparse]
    rfl
  rw [heq]
  exact handleFrames_escapes level frames now zeroRtt hcrypto hs hstate rfl

theorem payload_raises_ping :
    parseFrames [0x01, 0x10, 0x14] = .ok [.ping, .maxData 20] ∧
      ∀ e c', handlePayload .initial [0x01, 0x10, 0x14] 0 false
        ((Session.start (plainServer .default)).run [.datagramReceived plainHandshake 0 none 0]).conn =
          .error e c' →
      isConnectionError e = true := by
  have hparse : parseFrames [0x01, 0x10, 0x14] = .ok [.ping, .maxData 20] := by decide +kernel
  refine ⟨hparse, ?_⟩
  refine (payload_raises_iff (begins_plainServer .default) [.datagramReceived plainHandshake 0 none 0]
    (by decide +kernel) .initial false 0 _ _ hparse (by simp)).2 fun pre frame post c' heq _ => ?_
  have hmem : frame ∈ [Frame.ping, .maxData 20] := by simp [heq]
  rcases List.mem_cons.1 hmem with rfl | hmem
  · exact id
  · rw [List.mem_singleton.1 hmem]
    exact id

def escaped (c : Conn env) (data : Bytes) : Option Raised :=
  match datagramReceived data 0 none 0 c with
  | .ok _ _ => none
  | .error e _ => some e

theorem max_stream_data_escapes :
    escaped ((Session.start (plainServer .default)).run [.datagramReceived plainHandshake 0 none 0]).conn
      (plainPacket .initial (List.replicate 8 7) (List.replicate 8 9) 1 [.maxStreamData 0 20]) =
        some (.key 0) := by
  decide +kernel

section Permission

/-- The packet types in which RFC 9000 §12.4 (Table 3) lets a frame appear. -/
def permitted (level : Level) (zeroRtt : Bool) : Frame → Bool
  | .padding _ | .ping => true
  | .ack _ | .crypto _ => !zeroRtt
  | .newToken _ | .pathResponse _ | .handshakeDone => level = .oneRtt && !zeroRtt
  | .connectionClose close => close.frameType.isSome || level = .oneRtt
  | _ => level = .oneRtt

def Conn.refuses (c : Conn env) (zeroRtt : Bool) : Frame → Bool
  | .handshakeDone => !c.isClient
  | .newToken _ => zeroRtt || !c.isClient
  | .stream _ => c.streams.isNone
  | frame => zeroRtt && barredFromZeroRtt frame

def Conn.met (c : Conn env) (level : Level) (frame : Frame) (ackDue : Bool) : Conn env :=
  (c.note (.handled c.state frame)).onSpace level fun space => { space with ackElicitingPending := ackDue }

lemma met_self (level : Level) (frame : Frame) :
    c.met level frame (c.spaces level).ackElicitingPending = c.note (.handled c.state frame) := by
  simp only [Conn.met, Conn.onSpace, Conn.setSpace]
  congr 1
  exact Function.update_eq_self level (c.note (.handled c.state frame)).spaces

lemma handlePacketFrame_refused {level : Level} {zeroRtt : Bool} {frame : Frame} (now : ℚ)
    (hforbidden : permitted level zeroRtt frame = false) (h : c.refuses zeroRtt frame = true) :
    Ensures (handlePacketFrame level zeroRtt now frame) c (fun _ _ => False) fun e c' =>
      (∃ reason frameType, e = .connection protocolViolation reason frameType) ∧
        ∃ ackDue, c' = c.met level frame ackDue := by
  simp only [handlePacketFrame, ensures_flow]
  refine ⟨fun _ => ⟨⟨_, _, rfl⟩, _, (met_self level frame).symm⟩, fun hallowed => ?_⟩
  cases frame with
  | handshakeDone =>
    have hserver : c.isClient = false := by simpa [Conn.refuses] using h
    refine ⟨fun _ => ?_, fun hquiet => absurd rfl hquiet⟩
    simp only [handleFrame, ensures_flow]
    exact ⟨fun _ => ⟨⟨_, _, rfl⟩, true, rfl⟩,
      fun hclient => hclient (by simp [Conn.onSpace, Conn.setSpace, Conn.note, hserver])⟩
  | newToken token =>
    have hserver : c.isClient = false := by simp_all [Conn.refuses, barredFromZeroRtt]
    refine ⟨fun _ => ?_, fun hquiet => absurd rfl hquiet⟩
    simp only [handleFrame, ensures_flow]
    exact ⟨fun _ => ⟨⟨_, _, rfl⟩, true, rfl⟩,
      fun hclient => hclient (by simp [Conn.onSpace, Conn.setSpace, Conn.note, hserver])⟩
  | stream stream =>
    have hnone : c.streams = none := by simpa [Conn.refuses] using h
    have hstream : ∀ c₁ : Conn env, c₁.streams = none → Ensures (handleStream stream) c₁ (fun _ _ => False)
        fun e c' => (∃ reason frameType, e = .connection protocolViolation reason frameType) ∧ c' = c₁ := by
      intro c₁ hnone
      simp only [handleStream, ensures_state, hnone, ensures_throw]
      exact ⟨⟨_, _, rfl⟩, trivial⟩
    refine ⟨fun _ => ?_, fun hquiet => absurd rfl hquiet⟩
    simp only [handleFrame, ensures_state]
    exact (hstream (c.met level (.stream stream) true) hnone).mono (fun _ _ => id) fun _ _ h => ⟨h.1, true, h.2⟩
  | _ => exact absurd (by simpa [Conn.refuses] using h) hallowed

lemma handlePacketFrame_unrefused {level : Level} {zeroRtt : Bool} {frame : Frame} (now : ℚ)
    (hforbidden : permitted level zeroRtt frame = false) (h : c.refuses zeroRtt frame = false) :
    Ensures (handlePacketFrame level zeroRtt now frame) c (fun _ _ => True) fun e _ =>
      ∀ reason frameType, e ≠ .connection protocolViolation reason frameType := by
  have hallowed : ¬ (zeroRtt = true ∧ barredFromZeroRtt frame = true) := by
    rintro ⟨rfl, hbarred⟩
    cases frame <;> simp_all [Conn.refuses, barredFromZeroRtt]
  have hframe : ∀ c₁ : Conn env, c₁.isClient = c.isClient → c₁.streams = c.streams →
      Ensures (handleFrame level frame now) c₁ (fun _ _ => True) fun e _ =>
        ∀ reason frameType, e ≠ .connection protocolViolation reason frameType := by
    intro c₁ hclient hstreams
    simp only [handleFrame, ensures_state]
    cases frame with
    | ack ack | crypto crypto =>
      have hzero : zeroRtt = true := by simpa [permitted] using hforbidden
      exact absurd ⟨hzero, rfl⟩ hallowed
    | stream stream =>
      obtain ⟨streams, hsome⟩ := Option.isSome_iff_exists.1 (by simpa [Conn.refuses] using h : c.streams.isSome)
      simp only [handleStream, ensures_state, hstreams, hsome, ensures_tryCatch, onStreams, ensures_throw]
      apply (streams.handleStream_spec stream).mono
      · exact fun _ _ _ => trivial
      · rintro e _ ⟨⟨code, reason, rfl, -, hcode⟩, -⟩ reason' frameType heq
        cases heq
        exact absurd hcode (by decide)
    | maxStreamData streamId maximum =>
      apply (handleMaxStreamData_raises streamId maximum false).mono
      · exact fun _ _ _ => trivial
      · rintro e _ ⟨hescapes, -⟩ reason frameType rfl
        cases hescapes
    | maxStreams maximum bidirectional =>
      simp only [handleMaxStreams, ensures_flow]
      refine ⟨fun _ reason frameType heq => ?_, fun _ => trivial⟩
      cases heq
    | handshakeDone =>
      have hyes : c.isClient = true := by simpa [Conn.refuses] using h
      simp only [ensures_flow]
      exact ⟨fun hnot => absurd (hclient.trans hyes) hnot, fun _ => trivial⟩
    | newToken token =>
      have hyes : c.isClient = true := by simp_all [Conn.refuses]
      simp only [ensures_flow]
      exact ⟨fun hnot => absurd (hclient.trans hyes) hnot, fun _ => trivial⟩
    | _ => trivial
  simp only [handlePacketFrame, ensures_flow]
  exact ⟨fun hbarred => absurd hbarred hallowed, fun _ => ⟨fun _ => hframe _ rfl rfl, fun _ => hframe _ rfl rfl⟩⟩

lemma handlePacketFrame_noted (level : Level) (zeroRtt : Bool) (now : ℚ) (frame : Frame)
    (hs : (c.core w []).Sound) (hstate : c.state ≠ .terminated) (hlax : w.lax = true) :
    Always (handlePacketFrame level zeroRtt now frame) c fun c' => c.trace.length < c'.trace.length := by
  have hlonger : ∀ c' : Conn env, Path ((c.note (.handled c.state frame)).core w []) (c'.core w []) →
      c.trace.length < c'.trace.length := by
    intro c' hpath
    have hle := hpath.trace_suffix.length_le
    exact Nat.lt_of_succ_le hle
  exact (handlePacketFrame_path level zeroRtt now frame hs hstate ⟨.inl hlax, .inl hlax⟩).mono
    (fun _ c' h => hlonger c' h.1)
    fun _ c' h => hlonger c' h

lemma handleFrames_noted (level : Level) (frames : List Frame) (now : ℚ) (zeroRtt : Bool)
    (hs : (c.core w []).Sound) (hstate : c.state ≠ .terminated) (hlax : w.lax = true) :
    Ensures (handleFrames level frames now zeroRtt) c (fun _ _ => True) fun _ c' => c.trace.length <
      c'.trace.length := by
  cases frames with
  | nil => trivial
  | cons frame frames =>
    rw [handleFrames, each, ensures_bind]
    apply ((handlePacketFrame_noted level zeroRtt now frame hs hstate hlax).and
      (handlePacketFrame_goes level zeroRtt now frame hs hstate ⟨.inl hlax, .inl hlax⟩)).mono
    · rintro _ c₁ ⟨hlonger, hpath, hstate₁⟩
      apply (handleFrames_goes level frames now zeroRtt (hs.path hpath) hstate₁ fun _ _ =>
        ⟨.inl hlax, .inl hlax⟩).mono
      · exact fun _ _ _ => trivial
      · intro _ c₂ hpath₂
        have hle := hpath₂.trace_suffix.length_le
        exact hlonger.trans_le hle
    · exact fun _ _ h => h.1

lemma handleFrames_forbidden {level : Level} {zeroRtt : Bool} {frame : Frame} (now : ℚ) (frames : List Frame)
    (hforbidden : permitted level zeroRtt frame = false) (hs : (c.core w []).Sound)
    (hstate : c.state ≠ .terminated)
    (hlax : w.lax = true) :
    (∃ reason frameType ackDue, handleFrames level (frame :: frames) now zeroRtt c =
      .error (.connection protocolViolation reason frameType) (c.met level frame ackDue)) ↔
      c.refuses zeroRtt frame = true := by
  rw [handleFrames]
  cases hstep : handlePacketFrame level zeroRtt now frame c with
  | error e c₁ =>
    rw [each_cons_of_error hstep]
    constructor
    · rintro ⟨reason, frameType, ackDue, heq⟩
      cases heq
      by_contra hunrefused
      exact (handlePacketFrame_unrefused now hforbidden (by simpa using hunrefused)).of_error hstep _ _ rfl
    · intro hrefuses
      obtain ⟨⟨reason, frameType, rfl⟩, ackDue, rfl⟩ :=
        (handlePacketFrame_refused now hforbidden hrefuses).of_error hstep
      exact ⟨reason, frameType, ackDue, rfl⟩
  | ok _ c₁ =>
    rw [each_cons_of_ok hstep]
    have hnoted := (handlePacketFrame_noted level zeroRtt now frame hs hstate hlax).of_ok hstep
    obtain ⟨hpath, hstate₁⟩ :=
      (handlePacketFrame_goes level zeroRtt now frame hs hstate ⟨.inl hlax, .inl hlax⟩).of_ok hstep
    constructor
    · rintro ⟨reason, frameType, ackDue, heq⟩
      have hlonger := (handleFrames_noted level frames now zeroRtt (hs.path hpath) hstate₁ hlax).of_error heq
      have hlength : (c.met level frame ackDue).trace.length = c.trace.length + 1 := rfl
      omega
    · intro hrefuses
      exact ((handlePacketFrame_refused now hforbidden hrefuses).of_ok hstep).elim

end Permission

theorem forbidden_frame_refused_iff (h : Begins c) (ops : List (Op env))
    (hstate : ((Session.start c).run ops).conn.state ≠ .terminated) (level : Level) (zeroRtt : Bool) (now : ℚ)
    (payload : Bytes) (pre post : List Frame) (frame : Frame) (c' : Conn env)
    (hparse : parseFrames payload = .ok (pre ++ frame :: post))
    (hpre : handleFrames level pre now zeroRtt ((Session.start c).run ops).conn = .ok ⟨⟩ c')
    (hforbidden : permitted level zeroRtt frame = false) :
    (∃ reason frameType ackDue, handlePayload level payload now zeroRtt ((Session.start c).run ops).conn =
      .error (.connection protocolViolation reason frameType) (c'.met level frame ackDue)) ↔
    c'.refuses zeroRtt frame = true := by
  obtain ⟨_, _, _, _, intact, -, -, hpath, -⟩ := Session.reached h ops
  have hs : (Conn.core _ { Session.caller _ intact with lax := true } []).Sound :=
    ((Core.sound_initial _ _ _ _ _).path hpath).lax
  obtain ⟨hpath', hstate'⟩ :=
    (handleFrames_goes level pre now zeroRtt hs hstate fun _ _ => ⟨.inl rfl, .inl rfl⟩).of_ok hpre
  have heq : handlePayload level payload now zeroRtt ((Session.start c).run ops).conn =
      handleFrames level (frame :: post) now zeroRtt c' := by
    rw [handlePayload, hparse]
    exact each_append_of_ok hpre
  rw [heq]
  exact handleFrames_forbidden now post hforbidden (hs.path hpath') hstate' rfl

theorem forbidden_frame_refused_stream :
    ∃ reason frameType ackDue, handlePayload .initial [0x0a, 0x00, 0x01, 0x07] 0 false
        ((Session.start (plainServer .default)).run []).conn =
      .error (.connection protocolViolation reason frameType)
        (((Session.start (plainServer .default)).run []).conn.met .initial (.stream ⟨0, 0, [7], false⟩) ackDue) :=
  (forbidden_frame_refused_iff (begins_plainServer .default) [] (by decide +kernel) .initial false 0
    [0x0a, 0x00, 0x01, 0x07] [] [] (.stream ⟨0, 0, [7], false⟩)
      ((Session.start (plainServer .default)).run []).conn
    (by decide +kernel) rfl rfl).2 rfl

theorem initial_packet_confirms :
    ((Session.start (plainClient .default none)).run [.datagramReceived
      (plainPacket .initial (List.replicate 8 2) (List.replicate 8 3) 0 [.handshakeDone]) 0 none 0]).conn.state =
        .handshaking ∧
    ((Session.start (plainClient .default none)).run [.datagramReceived
      (plainPacket .initial (List.replicate 8 2) (List.replicate 8 3) 0 [.handshakeDone]) 0 none
        0]).conn.recovery.handshakeConfirmed = true ∧
    (((Session.start (plainClient .default none)).run [.datagramReceived
      (plainPacket .initial (List.replicate 8 2) (List.replicate 8 3) 0 [.handshakeDone]) 0 none 0]).conn.spaces
        .handshake).discarded = true := by
  decide +kernel

end Dsquic.Connection
