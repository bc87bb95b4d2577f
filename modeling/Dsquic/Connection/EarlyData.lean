import Dsquic.Connection.Plain
import Dsquic.Connection.StreamBytes
import Dsquic.Recovery.Conservation

/-!
What becomes of early data that a server rejects.
-/

namespace Dsquic.Connection

open Lib Wire Streams Recovery

variable {frame : Stream}

section Weight

def Weighty (frame : Stream) : Prop := frame.data ≠ [] ∨ frame.fin = true

lemma weighty_newFrame {send send' : SendStream} {maxBytes credit : ℤ}
    (h : send.newFrame maxBytes credit = (some frame, send')) : Weighty frame ∧
    send'.retransmit = send.retransmit := by
  simp only [SendStream.newFrame] at h
  split_ifs at h with hnothing
  · cases h
  · cases h
    rw [not_and_or, Bool.not_eq_false] at hnothing
    exact ⟨hnothing, rfl⟩

lemma weighty_nextFrame {send send' : SendStream} {maxBytes credit : ℤ}
    (h : send.nextFrame maxBytes credit = (some frame, send')) (hlost : ∀ lost ∈ send.retransmit, Weighty lost) :
    Weighty frame ∧ ∀ lost ∈ send'.retransmit, Weighty lost := by
  have hnew : send.newFrame maxBytes credit = (some frame, send') →
      Weighty frame ∧ ∀ lost ∈ send'.retransmit, Weighty lost := by
    intro h
    obtain ⟨hframe, hsame⟩ := weighty_newFrame h
    exact ⟨hframe, by rwa [hsame]⟩
  simp only [SendStream.nextFrame] at h
  split at h
  · next first others hretransmit =>
    split_ifs at h
    · cases h
      exact ⟨hlost _ (by simp [hretransmit]), fun lost hmem => hlost lost (by simp [hretransmit, hmem])⟩
    · exact hnew h
  · exact hnew h

namespace Core

variable {s s' : Core}

structure AllWeighty (s : Core) : Prop where
  carried : ∀ level frame, s.Carried level (.stream frame) → Weighty frame
  lost : ∀ i send, s.send? i = some send → ∀ frame ∈ send.retransmit, Weighty frame

lemma AllWeighty.effect (h : s.AllWeighty) (hs : s.Sound) (heffect : Effect s s') : s'.AllWeighty := by
  refine ⟨fun level frame hcarried => ?_, fun i send' hsend' frame hframe => ?_⟩
  · rcases hcarried.origin hs heffect with hbefore | htaken
    · exact h.carried level frame hbefore
    · cases htaken with
      | control _ hcontrol => exact absurd (hs.controls _ hcontrol) id
      | plain _ hplain => cases hplain
      | stream _ _ i send send' maxBytes credit hsend hnext =>
        exact (weighty_nextFrame hnext (h.lost i send hsend)).1
  · have hturns := turns_effect hs heffect i
    rw [hsend'] at hturns
    cases hsend : s.send? i with
    | none =>
      rw [hsend] at hturns
      cases hturns with
      | opened limit => simp [SendStream.new] at hframe
    | some send =>
      have hlost := h.lost i send hsend
      rw [hsend] at hturns
      cases hturns with
      | same => exact hlost frame hframe
      | limit => exact hlost frame hframe
      | requeued _ again =>
        simp only [SendStream.requeue] at hframe
        split_ifs at hframe with hsome
        · rcases List.mem_append.1 hframe with hmem | hmem
          · exact hlost frame hmem
          · obtain rfl := List.mem_singleton.1 hmem
            exact hsome
        · exact hlost frame hframe
      | acked => exact hlost frame hframe
      | taken _ _ again maxBytes credit _ _ _ hnext => exact (weighty_nextFrame hnext hlost).2 frame hframe
      | written _ _ data fin hwrite =>
        simp only [SendStream.write] at hwrite
        split_ifs at hwrite
        · cases hwrite
          exact hlost frame hframe
        · cases hwrite
          exact hlost frame hframe

lemma allWeighty_initial (prims : Primitives) (isClient : Bool) (config : Config) (hostCid peerCid : Bytes) :
    (Core.initial prims isClient config hostCid peerCid).AllWeighty := by
  refine ⟨fun level frame h => absurd h (not_carried_initial prims isClient config hostCid peerCid),
    fun i send h => ?_⟩
  cases h

lemma AllWeighty.path (h : s.AllWeighty) (hs : s.Sound) (hpath : Path s s') : s'.AllWeighty := by
  have hboth := hpath.invariant (P := fun t => t.Sound ∧ t.AllWeighty)
    (fun _ _ heffect ht => ⟨ht.1.effect heffect, ht.2.effect ht.1 heffect⟩) ⟨hs, h⟩
  exact hboth.2

end Core

end Weight

variable {env : Env}

variable {c : Conn env}

namespace Conn

def Resends (c : Conn env) (frame : Stream) : Prop :=
  ∃ m send, c.streams = some m ∧ m.send? frame.streamId = some send ∧ frame ∈ send.retransmit

structure Requeues (frames : List Frame) (c c' : Conn env) : Prop where
  recovery : c'.recovery = c.recovery
  isClient : c'.isClient = c.isClient
  streams : c.streams.isSome → c'.streams.isSome
  kept : ∀ frame, c.Resends frame → c'.Resends frame
  added : c.streams.isSome → ∀ frame, .stream frame ∈ frames → Weighty frame → c'.Resends frame

lemma Requeues.refl (c : Conn env) : Requeues [] c c :=
  ⟨rfl, rfl, id, fun _ => id, fun _ _ hmem => absurd hmem List.not_mem_nil⟩

lemma Requeues.trans {frames frames' : List Frame} {c c' c'' : Conn env} (h : Requeues frames c c')
    (h' : Requeues frames' c' c'') : Requeues (frames ++ frames') c c'' where
  recovery := h'.recovery.trans h.recovery
  isClient := h'.isClient.trans h.isClient
  streams hsome := h'.streams (h.streams hsome)
  kept frame hframe := h'.kept frame (h.kept frame hframe)
  added hsome frame hmem hweighty := (List.mem_append.1 hmem).elim
    (fun hmem => h'.kept frame (h.added hsome frame hmem hweighty))
    (fun hmem => h'.added (h.streams hsome) frame hmem hweighty)

lemma Requeues.of_streams_eq {c c' : Conn env} {frame : Frame} (hframe : ∀ stream, frame ≠ .stream stream)
    (hrecovery : c'.recovery = c.recovery) (hclient : c'.isClient = c.isClient)
    (hstreams : c'.streams = c.streams) :
    Requeues [frame] c c' where
  recovery := hrecovery
  isClient := hclient
  streams hsome := by rwa [hstreams]
  kept stream hstream := by rwa [Resends, hstreams]
  added _ stream hmem := absurd (List.mem_singleton.1 hmem).symm (hframe stream)

lemma requeues_stream {m : StreamManager} {send : SendStream}
    (hm : c.streams = some m) (hsend : m.send? frame.streamId = some send) :
    Requeues [.stream frame] c (c.setStreams (m.setSend frame.streamId (send.requeue frame))) := by
  have hnow : (m.setSend frame.streamId (send.requeue frame)).send? frame.streamId = some (send.requeue frame) :=
    (m.send?_setSend _ _ _).trans (if_pos rfl)
  refine ⟨rfl, rfl, fun _ => rfl, fun again hagain => ?_, fun _ again hmem hweighty => ?_⟩
  · obtain ⟨m', send', hm', hsend', hlost⟩ := hagain
    cases hm.symm.trans hm'
    by_cases hid : again.streamId = frame.streamId
    · rw [hid, hsend] at hsend'
      cases hsend'
      refine ⟨_, _, rfl, (congrArg _ hid).trans hnow, ?_⟩
      simp only [SendStream.requeue]
      split_ifs
      · exact List.mem_append_left _ hlost
      · exact hlost
    · exact ⟨_, send', rfl, ((m.send?_setSend _ _ _).trans (if_neg hid)).trans hsend', hlost⟩
  · cases List.mem_singleton.1 hmem
    refine ⟨_, _, rfl, hnow, ?_⟩
    rw [SendStream.requeue, if_pos (show frame.data ≠ [] ∨ frame.fin = true from hweighty)]
    exact List.mem_append_right _ (List.mem_singleton_self _)

end Conn

open Conn

lemma requeueFrame_requeues (level : Level) (frame : Frame) (c : Conn env) :
    Ensures (requeueFrame level frame) c fun _ => Requeues [frame] c := by
  simp only [requeueFrame, ensures_state]
  cases frame with
  | stream stream =>
    cases hstreams : c.streams with
    | none =>
      refine ⟨rfl, rfl, id, fun _ => id, fun hsome => ?_⟩
      rw [hstreams] at hsome
      cases hsome
    | some streams =>
      simp only [onStreams, ensures_zoom]
      apply (StreamManager.withSend_spec streams stream.streamId _).imp_true
      rintro _ m' ⟨send, send', hsend, hsend', rfl⟩
      cases hsend'
      exact requeues_stream hstreams hsend
  | maxStreamData streamId maximum =>
    cases c.streams with
    | none => exact .of_streams_eq (by simp) rfl rfl rfl
    | some streams =>
      simp only [ensures_flow]
      exact ⟨fun recv _ => .of_streams_eq (by simp) rfl rfl rfl, fun _ _ => trivial⟩
  | maxData | maxStreams =>
    cases c.streams with
    | none => exact .of_streams_eq (by simp) rfl rfl rfl
    | some streams => exact .of_streams_eq (by simp) rfl rfl rfl
  | _ => exact .of_streams_eq (by simp) rfl rfl rfl

lemma requeueLost_requeues (packet : SentPacket) (c : Conn env) :
    Ensures (requeueLost packet) c fun _ => Requeues packet.frames c := by
  have h := ensures_each_flatMap Requeues.refl Requeues.trans packet.frames
    (fun frame _ => requeueFrame_requeues packet.level frame) c
  rwa [List.flatMap_singleton'] at h

lemma each_requeues (packets : List SentPacket) (c : Conn env) :
    Ensures (each requeueLost packets) c fun _ => Requeues (packets.flatMap (·.frames)) c :=
  ensures_each_flatMap Requeues.refl Requeues.trans packets (fun packet _ => requeueLost_requeues packet) c

def Conn.SeesRejection (c : Conn env) : Prop :=
  ∃ tls, c.tls = some tls ∧ c.isClient = true ∧ env.earlySecret tls ≠ none ∧ env.earlyDataAccepted tls = false

lemma resendRejectedEarlyData_spec (c : Conn env) :
    Ensures resendRejectedEarlyData c fun _ c' =>
      (c.SeesRejection ∧ Requeues ((c.recovery.spaces .oneRtt).sent.values.flatMap (·.frames))
        (c.setRecovery (c.recovery.restartSpace .oneRtt).2) c') ∨ (¬c.SeesRejection ∧ c' = c) := by
  simp only [resendRejectedEarlyData, ensures_state]
  cases htls : c.tls with
  | none =>
    refine .inr ⟨?_, rfl⟩
    rintro ⟨tls, h, -⟩
    rw [htls] at h
    cases h
  | some tls =>
    rw [ensures_ite]
    refine ⟨fun hcond => ?_, fun hcond => .inr ⟨?_, rfl⟩⟩
    · simp only [ensures_state]
      have hrejected : env.earlyDataAccepted tls = false := by simpa using hcond.2.2
      exact (each_requeues _ _).mono
        (fun _ _ h => .inl ⟨⟨tls, htls, hcond.1, hcond.2.1, hrejected⟩, h⟩) fun _ _ _ => trivial
    · rintro ⟨tls', h, hclient, hsecret, hrejected⟩
      cases htls.symm.trans h
      exact hcond ⟨hclient, hsecret, by simp [hrejected]⟩

lemma adoptPeerLimits_keeps (peer : TransportParameters) (c : Conn env) :
    Ensures (adoptPeerLimits peer) c fun _ c' => c'.recovery = c.recovery ∧ c'.tls = c.tls ∧
      c'.isClient = c.isClient ∧ c'.streams.isSome := by
  simp only [adoptPeerLimits, ensures_state]
  cases hstreams : c.streams with
  | none => exact ⟨rfl, rfl, rfl, rfl⟩
  | some streams =>
    rw [ensures_ite]
    refine ⟨fun _ => ?_, fun _ => ⟨rfl, rfl, rfl, by rw [hstreams]; rfl⟩⟩
    cases htls : c.tls with
    | none => trivial
    | some tls =>
      cases c.rememberedParameters with
      | none => trivial
      | some remembered =>
        simp only [ensures_flow]
        exact ⟨fun _ => trivial, fun _ => ⟨rfl, htls, rfl, rfl⟩⟩

lemma validatePeerParameters_keeps (peer : TransportParameters) (c : Conn env) :
    Ensures (validatePeerParameters peer) c fun _ c' => c' = c := by
  simp only [validatePeerParameters, ensures_flow, implies_true, and_self]

/-- A state in which a connection can be, also in the midst of a call. -/
def Conn.Reached (c : Conn env) : Prop :=
  ∃ isClient config hostCid peerCid caller,
    Path (Core.initial env.toPrimitives isClient config hostCid peerCid) (c.core caller [])

lemma Session.reached_conn (h : Begins c) (ops : List (Op env)) : ((start c).run ops).conn.Reached := by
  obtain ⟨isClient, config, hostCid, peerCid, intact, -, -, hpath, -⟩ := Session.reached h ops
  exact ⟨isClient, config, hostCid, peerCid, _, hpath⟩

lemma Conn.Reached.weighty (h : c.Reached) {packet : SentPacket} {level : Level}
    (hpacket : packet ∈ (c.recovery.spaces level).sent.values) (hframe : .stream frame ∈ packet.frames) :
    Weighty frame := by
  obtain ⟨isClient, config, hostCid, peerCid, caller, hpath⟩ := h
  have hweighty := (Core.allWeighty_initial env.toPrimitives isClient config hostCid peerCid).path
    (Core.sound_initial env.toPrimitives isClient config hostCid peerCid) hpath
  exact hweighty.carried level frame (.inr ⟨packet, hpacket, hframe⟩)

structure LeavesNothing (c c' : Conn env) : Prop where
  gone : ∀ packet ∈ (c.recovery.spaces .oneRtt).sent.values, packet ∉ (c'.recovery.spaces .oneRtt).sent.values
  uncounted : c'.recovery.controller.bytesInFlight =
    c.recovery.controller.bytesInFlight - flight (c.recovery.spaces .oneRtt).sent.values
  resent : ∀ packet ∈ (c.recovery.spaces .oneRtt).sent.values, ∀ frame, .stream frame ∈ packet.frames →
    c'.Resends frame

lemma onHandshakeComplete_outcome (alpn : String) (parameters : Bytes) (now : ℚ) (hclient : c.isClient = true) :
    Ensures (onHandshakeComplete alpn parameters now) c fun _ c' => ∃ c₁ c₂ : Conn env,
      c₁.recovery = c.recovery ∧ c₁.tls = c.tls ∧ c₁.isClient = true ∧ c₁.streams.isSome ∧
      c'.recovery = c₂.recovery ∧ c'.streams = c₂.streams ∧
      ((c₁.SeesRejection ∧ Requeues ((c₁.recovery.spaces .oneRtt).sent.values.flatMap (·.frames))
        (c₁.setRecovery (c₁.recovery.restartSpace .oneRtt).2) c₂) ∨ (¬c₁.SeesRejection ∧ c₂ = c₁)) := by
  simp only [onHandshakeComplete, ensures_flow]
  refine ⟨fun peer _ => ?_, fun _ _ => trivial⟩
  apply (validatePeerParameters_keeps peer _).imp_true
  rintro _ _ rfl
  apply (adoptPeerLimits_keeps peer _).imp_true
  rintro _ c₁ ⟨hrecovery, htls, hclient₁, hstreams⟩
  have hclient₁ : c₁.isClient = true := hclient₁.trans hclient
  apply (resendRejectedEarlyData_spec _).imp_true
  intro _ c₂ hresent
  have hclient₂ : c₂.isClient = true := by
    rcases hresent with ⟨-, hrequeues⟩ | ⟨-, rfl⟩
    · exact hrequeues.isClient.trans hclient₁
    · exact hclient₁
  refine ⟨fun hserver => absurd hclient₂ hserver, fun _ => ?_⟩
  exact ⟨c₁.onSpace .oneRtt fun space => { space with keysSendEarly := none }, c₂, hrecovery, htls, hclient₁,
    hstreams, rfl, rfl, hresent⟩

lemma restartSpace_empties (l : LossDetection) (level : Level) :
    ((l.restartSpace level).2.spaces level).sent.values = [] ∧
      (l.restartSpace level).2.controller.bytesInFlight =
        l.controller.bytesInFlight - flight (l.spaces level).sent.values := by
  obtain ⟨-, hbytes⟩ := l.controller.releases ((l.spaces level).sent.values.filter (·.inFlight))
  rw [flight_filter] at hbytes
  exact ⟨by simp [LossDetection.restartSpace, LossDetection.emptied], hbytes⟩

/-- Rejected early data leaves nothing behind when TLS still has the early secret, which a HelloRetryRequest makes
it forget, or when there was none in flight. -/
theorem rejected_early_data_iff {c c' : Conn env} (hreached : c.Reached) (hclient : c.isClient = true)
    (tls : env.Tls)
    (htls : c.tls = some tls) (hrejected : env.earlyDataAccepted tls = false) (alpn : String) (parameters : Bytes)
    (now : ℚ) (h : onHandshakeComplete alpn parameters now c = .ok ⟨⟩ c') :
    LeavesNothing c c' ↔ env.earlySecret tls ≠ none ∨ (c.recovery.spaces .oneRtt).sent.values = [] := by
  obtain ⟨c₁, c₂, hrecovery, htls₁, hclient₁, hstreams, hrecovery', hstreams', hresent⟩ :=
    (onHandshakeComplete_outcome alpn parameters now hclient).of_ok h
  have hresends : ∀ frame, c₂.Resends frame → c'.Resends frame := by
    intro frame hframe
    rwa [Conn.Resends, hstreams']
  rcases hresent with ⟨⟨tls', htls', -, hsecret, -⟩, hrequeues⟩ | ⟨hunseen, rfl⟩
  · cases (htls₁.trans htls).symm.trans htls'
    obtain ⟨hempty, hbytes⟩ := restartSpace_empties c.recovery .oneRtt
    have hrestarted : c'.recovery = (c.recovery.restartSpace .oneRtt).2 := by
      rw [hrecovery', hrequeues.recovery, ← hrecovery]
      rfl
    refine ⟨fun _ => .inl hsecret, fun _ => ⟨fun packet _ => ?_, ?_, fun packet hpacket frame hframe => ?_⟩⟩
    · rw [hrestarted, hempty]
      exact List.not_mem_nil
    · rw [hrestarted, hbytes]
    · refine hresends frame (hrequeues.added hstreams frame ?_ (hreached.weighty hpacket hframe))
      rw [hrecovery]
      exact List.mem_flatMap.2 ⟨packet, hpacket, hframe⟩
  · have hnone : env.earlySecret tls = none := by
      by_contra hsome
      exact hunseen ⟨tls, htls₁.trans htls, hclient₁, hsome, hrejected⟩
    have hsame : c'.recovery = c.recovery := hrecovery'.trans hrecovery
    constructor
    · intro hleaves
      refine .inr (List.eq_nil_iff_forall_not_mem.2 fun packet hpacket => hleaves.gone packet hpacket ?_)
      rw [hsame]
      exact hpacket
    · rintro (hsecret | hempty)
      · exact absurd hnone hsecret
      · refine ⟨fun packet hpacket => ?_, ?_, fun packet hpacket => ?_⟩
        · rw [hempty] at hpacket
          cases hpacket
        · rw [hsame, hempty, flight_nil, sub_zero]
        · rw [hempty] at hpacket
          cases hpacket

def earlyDataOps (crypto : Bytes) : List (Op .plain) :=
  [.openStream, .sendStreamData 0 [65] true, .datagramsToSend 0 3,
    .datagramReceived (plainPacket .initial (List.replicate 8 2) (List.replicate 8 9) 0 [.crypto ⟨0, crypto⟩]) 0
      none 0]

def earlyClient : Conn .plain :=
  ((Session.start (plainClient .default (some plainParameters))).run (earlyDataOps [3, 4])).conn

lemma earlyClient_facts :
    earlyClient.isClient = true ∧ (earlyClient.recovery.spaces .oneRtt).sent.values ≠ [] ∧
      earlyClient.tls.map (fun tls => (tls.early, tls.accepted)) = some (some [], false) ∧
      (onHandshakeComplete "hq" plainParameters 0 earlyClient matches .ok _ _) := by
  decide +kernel

theorem rejected_early_data_iff_earlyClient :
    (earlyClient.recovery.spaces .oneRtt).sent.values ≠ [] ∧
      LeavesNothing earlyClient (finalState (onHandshakeComplete "hq" plainParameters 0) earlyClient) := by
  obtain ⟨hclient, hsent, htls, hreturns⟩ := earlyClient_facts
  obtain ⟨tls, htls, hfields⟩ := Option.map_eq_some_iff.1 htls
  obtain ⟨hearly, haccepted⟩ := Prod.mk.inj hfields
  have hreached : earlyClient.Reached := Session.reached_conn (begins_plainClient _ _) _
  refine ⟨hsent, ?_⟩
  cases hcall : onHandshakeComplete "hq" plainParameters 0 earlyClient with
  | error e c' =>
    rw [hcall] at hreturns
    cases hreturns
  | ok _ c' =>
    have hfinal : finalState (onHandshakeComplete "hq" plainParameters 0) earlyClient = c' := by
      rw [finalState, hcall]
    rw [hfinal]
    refine (rejected_early_data_iff hreached hclient tls htls haccepted "hq" plainParameters 0 hcall).2 (.inl ?_)
    rw [show Env.plain.earlySecret tls = some [] from hearly]
    exact Option.some_ne_none _

/-- After a HelloRetryRequest the handshake completes without early data, and the 0-RTT packet stays in flight with
the frame that its stream does not send again. -/
theorem early_data_left_by_retry :
    let sent :=
      ((Session.start (plainClient .default (some plainParameters))).run ((earlyDataOps [7]).take 3)).conn
    let c := ((Session.start (plainClient .default (some plainParameters))).run (earlyDataOps [7] ++
      [.datagramReceived
        (plainPacket .initial (List.replicate 8 2) (List.replicate 8 9) 1 [.crypto ⟨1, [3, 4, 6]⟩])
        0 none 0])).conn
    ((sent.spaces .oneRtt).keysSend = none ∧ (sent.spaces .oneRtt).keysSendEarly ≠ none) ∧
    (c.state = .connected ∧ c.tls.map (·.accepted) = some false) ∧
    (∃ packet ∈ (sent.recovery.spaces .oneRtt).sent.values, packet ∈ (c.recovery.spaces .oneRtt).sent.values ∧
      packet.inFlight = true ∧ .stream ⟨0, 0, [65], true⟩ ∈ packet.frames) ∧
    c.recovery.controller.bytesInFlight = flight c.recovery.held ∧
    c.streams.bind (fun m => (m.send? 0).map (·.retransmit)) = some [] := by
  decide +kernel

end Dsquic.Connection
