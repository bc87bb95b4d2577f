import Dsquic.Connection.SendPath

/-!
Every run of a connection is a path of effects from an initial state.
-/

namespace Dsquic.Connection

open Lib Wire Streams Recovery

section Timers

variable {env : Env} {c : Conn env} {w : Caller}

lemma oweProbes_goes (level : Level) : Goes w [] [] c (c.oweProbes level) := .single (.oweProbes _ level) rfl

lemma onTimeout_goes (now : ℚ) (hs : (c.core w []).Sound) :
    Ensures (onTimeout now) c (fun _ => Goes w [] [] c) fun _ _ => False := by
  obtain ⟨level, hsettles⟩ := c.recovery.onLossDetectionTimeout_settles now
  -- nothing is declared lost before the server is heard
  have hquiet : (c.core w []).Heard ∨ ([] : List SentPacket) = [] ∧
    (c.recovery.onLossDetectionTimeout now).1.lost = [] ∧
      (c.recovery.onLossDetectionTimeout now).2.spaces = c.recovery.spaces := by
    by_cases hheard : (c.core w []).Heard
    · exact .inl hheard
    · exact .inr ⟨rfl, c.recovery.onLossDetectionTimeout_quiet now (hs.unheard hheard).lossTime⟩
  simp only [onTimeout, ensures_state]
  have hsettle : Goes w [] (inHand (c.recovery.onLossDetectionTimeout now).1.lost ++ []) c
      (c.setRecovery (c.recovery.onLossDetectionTimeout now).2) := by
    refine .effect (.settle _ level [] _ _ hsettles hquiet) ?_ rfl
    simp [Core.hold, Conn.core, Conn.setRecovery]
  apply (requeueAll_goes _ (hsettle.sound hs)).imp
  intro _ c₁ h₁
  have h₁ := hsettle.trans h₁
  cases (c.recovery.onLossDetectionTimeout now).1.probeLevel with
  | none => exact h₁
  | some level =>
    simp only [ensures_state]
    have h₂ := h₁.trans (oweProbes_goes level)
    apply (prepareProbe_goes level (h₂.sound hs)).imp
    exact fun _ _ h₃ => h₂.trans h₃

lemma handleTimer_path (now : ℚ) (hs : (c.core w []).Sound) :
    Ensures (handleTimer now) c (fun _ => Leads w c) fun _ _ => False := by
  simp only [handleTimer, ensures_flow]
  refine ⟨fun _ => Effect.path (.terminate _), fun _ => ⟨fun _ => .refl, fun _ => ⟨fun _ => ?_, fun _ =>
    ⟨fun _ => ?_, fun _ => .refl⟩⟩⟩⟩
  · exact Effect.path (.expire _ "idle timeout")
  · exact (onTimeout_goes now hs).imp fun _ _ h => h.path

end Timers

section Application

variable {env : Env} {c : Conn env} {w : Caller}

lemma queueControl_goes {frame : Frame} (h : (c.core w []).Queueable frame) :
    Goes w [] [] c (c.queueControl frame) :=
  .single (.queue _ frame h) rfl

lemma challengePath_goes (data : Bytes) : Goes w [] [] c (c.challengePath data) := by
  have hchallenge : Goes w [] [] c { c with
      pathChallenges := c.pathChallenges ++ [data]
      pathValidated := false } := .of_core_eq rfl
  exact hchallenge.trans (queueControl_goes trivial)

lemma sendNewToken_goes (token : Bytes) :
    Always (sendNewToken token) c (Goes w [] [] c) := by
  simp only [sendNewToken, ensures_flow]
  exact ⟨fun _ => .refl c, fun _ => queueControl_goes trivial⟩

lemma openStream_goes (hs : (c.core w []).Sound) :
    Always openStream c (Goes w [] [] c) := by
  simp only [openStream, ensures_state]
  cases hstreams : c.streams with
  | none => exact .refl c
  | some streams =>
    simp only [ensures_tryCatch, onStreams, ensures_zoom]
    apply (streams.openBidi_spec).mono
    · rintro i m' ⟨rfl, -, rfl⟩
      exact goes_manage hstreams (.openBidi (hs.numbered streams hstreams) _ _) (.openBidi streams _ _)
    · rintro e m' ⟨rfl, rfl, -⟩
      have hsame : Goes w [] [] c (c.setStreams m') := goes_manage hstreams (.refl m') (.refl m')
      simp only [ensures_state, ensures_throw]
      exact hsame.trans (queueControl_goes trivial)

def Caller.write (w : Caller) (i : ℕ) (data : Bytes) (fin : Bool) : Caller :=
  { w with
    written := Function.update w.written i (w.written i + data.length)
    finished := Function.update w.finished i (w.finished i || fin) }

lemma sendStreamData_path (i : ℕ) (data : Bytes) (fin : Bool) :
    Ensures (sendStreamData i data fin) c (fun _ c' => Path (c.core w []) (c'.core (w.write i data fin) []))
      fun _ => Leads w c := by
  simp only [sendStreamData, ensures_state]
  cases hstreams : c.streams with
  | none => exact .refl
  | some streams =>
    simp only [onStreams, ensures_zoom]
    apply (StreamManager.withSend_spec streams i _).mono
    · rintro _ m' ⟨send, send', hsend, hsend', rfl⟩
      exact Effect.path (.write _ streams i send send' data fin hstreams hsend hsend')
    · rintro e m' ⟨rfl, -⟩
      have hsame : Goes w [] [] c (c.setStreams m') := goes_manage hstreams (.refl m') (.refl m')
      exact hsame.path

end Application

def Core.initial (prims : Primitives) (isClient : Bool) (config : Config) (hostCid peerCid : Bytes) : Core where
  prims := prims
  isClient := isClient
  config := config
  hostCid := hostCid
  peerCid := peerCid
  peerCidConfirmed := !isClient
  initialDcid := peerCid
  retryToken := []
  retrySourceCid := config.retry.map (·.sourceCid)
  state := .handshaking
  events := []
  trace := []
  queues _ := ⟨0, [], 0, [], false, false, none⟩
  inboxes _ := .new
  hasTls := isClient
  recovery := .new (.new config.maxDatagramSize) isClient
  streams := none
  controlFrames := []
  probesPending _ := 0
  donePending := false
  closeFrame := none
  closeSent := false
  bytesReceived := 0
  bytesSent := 0
  addressValidated := isClient
  pending := 0
  caller := .new
  held := []

lemma Core.fresh_initial (prims : Primitives) (isClient : Bool) (config : Config) (hostCid peerCid : Bytes) :
    (Core.initial prims isClient config hostCid peerCid).Fresh := by
  intro level n packet hget
  cases hget

lemma Core.unheard_initial (prims : Primitives) (isClient : Bool) (config : Config) (hostCid peerCid : Bytes) :
    (Core.initial prims isClient config hostCid peerCid).Unheard where
  current := rfl
  next := rfl
  handshake := rfl
  lossTime _ := rfl
  flown := by
    rintro - crypto ⟨_, _, _, hsealed, -⟩
    exact absurd hsealed List.not_mem_nil
  unretried _ _ _ _ := List.not_mem_nil

lemma Core.sound_initial (prims : Primitives) (isClient : Bool) (config : Config) (hostCid peerCid : Bytes) :
    (Core.initial prims isClient config hostCid peerCid).Sound where
  fresh := Core.fresh_initial prims isClient config hostCid peerCid
  unheard _ := Core.unheard_initial prims isClient config hostCid peerCid
  holds _ _ hmem := absurd hmem List.not_mem_nil
  sends _ _ hmem := absurd hmem List.not_mem_nil
  controls _ hmem := absurd hmem List.not_mem_nil
  halves _ _ hsend := by cases hsend
  numbered _ hm := by cases hm
  levels _ _ hmem := absurd hmem List.not_mem_nil
  isOpen := NewReno.open_new config.maxDatagramSize
  size := rfl
  idle _ _ hmem := absurd hmem List.not_mem_nil
  tls h := h

structure Core.Balanced (s : Core) : Prop where
  paid : s.bytesReceived ≤ s.caller.passed
  handed : s.caller.returned ≤ s.spent
  flushed : s.pending = 0

lemma Core.balanced_initial (prims : Primitives) (isClient : Bool) (config : Config) (hostCid peerCid : Bytes) :
    (Core.initial prims isClient config hostCid peerCid).Balanced := ⟨le_refl 0, le_refl 0, rfl⟩

variable {s s' : Core}

lemma Core.Balanced.effect (h : s.Balanced) (heffect : Effect s s') : s'.Balanced := by
  have hspends := heffect.spends
  have hspent : s.caller.returned ≤ s'.spent := h.handed.trans (Nat.add_le_add hspends.sent hspends.closed)
  have hflushed : s'.pending = 0 := Nat.eq_zero_of_le_zero (h.flushed ▸ hspends.pending)
  have hclose : ∀ (t : Core) (frame : ConnectionClose), (t.close frame).bytesReceived = t.bytesReceived ∧
      (t.close frame).caller = t.caller := by
    intro t frame
    simp only [Core.close]
    split_ifs <;> exact ⟨rfl, rfl⟩
  cases heffect with
  | pass length => exact ⟨h.paid.trans (Nat.le_add_right _ _), hspent, hflushed⟩
  | receive length hpaid => exact ⟨hpaid, hspent, hflushed⟩
  | deliver length hhanded => exact ⟨h.paid, hhanded, hflushed⟩
  | close frame =>
    obtain ⟨hreceived, hcaller⟩ := hclose s frame
    exact ⟨by rw [hreceived, hcaller]; exact h.paid, by rw [hcaller]; exact hspent, hflushed⟩
  | abort frame errorCode reason =>
    obtain ⟨hreceived, hcaller⟩ := hclose (s.note (.aborted s.state)) frame
    refine ⟨?_, ?_, hflushed⟩
    · simp only [Core.report, hreceived, hcaller]
      exact h.paid
    · simp only [Core.report, hcaller] at hspent ⊢
      exact hspent
  | _ => exact ⟨h.paid, hspent, hflushed⟩

lemma Core.Balanced.path (h : s.Balanced) (hpath : Path s s') : s'.Balanced :=
  hpath.invariant (fun _ _ heffect hs => hs.effect heffect) h

structure Core.Same (s s' : Core) : Prop where
  prims : s'.prims = s.prims
  isClient : s'.isClient = s.isClient
  config : s'.config = s.config
  hostCid : s'.hostCid = s.hostCid
  peerCid : s.peerCid.length ≤ maxCidLength → s'.peerCid.length ≤ maxCidLength

lemma Core.Same.trans {s s' s'' : Core} (h : s.Same s') (h' : s'.Same s'') : s.Same s'' :=
  ⟨h'.prims.trans h.prims, h'.isClient.trans h.isClient, h'.config.trans h.config, h'.hostCid.trans h.hostCid,
    h'.peerCid ∘ h.peerCid⟩

lemma Effect.same (h : Effect s s') : s.Same s' := by
  have hclose : ∀ (t : Core) (frame : ConnectionClose), t.Same (t.close frame) := by
    intro t frame
    simp only [Core.close]
    split_ifs <;> exact ⟨rfl, rfl, rfl, rfl, id⟩
  cases h with
  | address cid hcid | learn cid hcid => exact ⟨rfl, rfl, rfl, rfl, fun _ => hcid⟩
  | adopt dcid scid hscid =>
    refine ⟨rfl, rfl, rfl, rfl, fun hpeer => ?_⟩
    simp only [Core.install, Core.onQueue, Core.onInbox]
    split_ifs
    · exact hscid
    · exact hpeer
  | retry packet hcid => exact ⟨rfl, rfl, rfl, rfl, fun _ => hcid⟩
  | close frame => exact hclose s frame
  | abort frame errorCode reason => exact { hclose (s.note (.aborted s.state)) frame with }
  | _ => exact ⟨rfl, rfl, rfl, rfl, id⟩

lemma Path.same (h : Path s s') : s.Same s' :=
  h.invariant (P := fun t => s.Same t) (fun _ _ heffect ht => ht.trans heffect.same) ⟨rfl, rfl, rfl, rfl, id⟩

section Begin

variable {env : Env} {c : Conn env} {w : Caller}

lemma syncEarlyKeys_client (tls : env.Tls) (hclient : c.isClient = true) (hstreams : c.streams = none) :
    Ensures (syncEarlyKeys tls) c (fun _ c' => c'.streams = none) fun _ _ => False := by
  simp only [syncEarlyKeys, ensures_state]
  cases env.earlySecret tls with
  | none => exact hstreams
  | some secret =>
    simp only [Conn.isClient_note, hclient, if_true, ensures_flow]
    exact ⟨fun _ => hstreams, fun _ => hstreams⟩

lemma emitAll_goes (now : ℚ) (events : List TlsEvent)
    (hevents : ∀ event ∈ events, ∃ level data, event = .sendData level data)
    (hclient : c.isClient = true) (hstreams : c.streams = none) :
    Ensures (each (onTlsEvent now) events) c
      (fun _ c' => Goes w [] [] c c' ∧ c'.isClient = true ∧ c'.streams = none) fun _ _ => False := by
  have hloop := ensures_each (f := (onTlsEvent now : TlsEvent → M env PUnit)) (E := fun _ _ => False)
    (I := fun rest (c' : Conn env) => (∀ event ∈ rest, ∃ level data, event = .sendData level data) ∧
      Goes w [] [] c c' ∧ c'.isClient = true ∧ c'.streams = none)
  apply (hloop ?_ events c ⟨hevents, .refl c, hclient, hstreams⟩).mono
  · exact fun _ _ h => h.2
  · exact fun _ _ h => h
  · rintro event rest c₁ ⟨hrest, h₁, hclient₁, hstreams₁⟩
    obtain ⟨level, data, rfl⟩ := hrest event List.mem_cons_self
    rw [onTlsEvent, ensures_modify]
    exact ⟨fun event h => hrest event (List.mem_cons_of_mem _ h), h₁.trans (emit_goes level data),
      hclient₁, hstreams₁⟩

lemma openEarlyStreams_goes (hstreams : c.streams = none) : Goes w [] [] c c.openEarlyStreams := by
  simp only [Conn.openEarlyStreams]
  split
  · split_ifs
    · exact .single (.create _ true _ _ hstreams) rfl
    · exact .refl c
  · exact .refl c

lemma connect_goes (now : ℚ) {parameters : Bytes} (htls : c.tls = some (env.newClient parameters))
    (hclient : c.isClient = true) (hstreams : c.streams = none) :
    Ensures (connect now) c (fun _ => Goes w [] [] c) fun _ _ => False := by
  simp only [connect, ensures_state, htls, drainTlsEvents]
  have hstart : Goes w [] [] c { c with
      tls := some (env.takeEvents (env.start (env.newClient parameters) now)).2 } :=
    .of_core_eq (by simp [Conn.core, htls])
  apply (emitAll_goes (w := w) (c := { c with
    tls := some (env.takeEvents (env.start (env.newClient parameters) now)).2 }) now _
    (env.start_events parameters now) hclient hstreams).imp
  rintro _ c₁ ⟨h₁, hclient₁, hstreams₁⟩
  have h₁ := hstart.trans h₁
  have hsync (tls : env.Tls) : Ensures (syncEarlyKeys tls) c₁ (fun _ => Goes w [] [] c₁) _ :=
    syncEarlyKeys_goes tls (h₁.hasTls (by simp [htls]))
  apply ((hsync _).and (syncEarlyKeys_client _ hclient₁ hstreams₁)).mono
  · rintro _ c₂ ⟨h₂, hstreams₂⟩
    have harm : Goes w [] [] c₂.openEarlyStreams (c₂.openEarlyStreams.armIdleTimer now) := .of_core_eq rfl
    exact ((h₁.trans h₂).trans (openEarlyStreams_goes hstreams₂)).trans harm
  · exact fun _ _ h => h.2

lemma newClient_spec {config : Config} {hostCid peerCid : Conn.Cid} {ticketParameters : Option Bytes}
    {destination : Option env.Destination}
    (h : Conn.newClient env config hostCid peerCid ticketParameters destination = .ok c) :
    (∃ parameters, c.tls = some (env.newClient parameters)) ∧ c.isClient = true ∧ c.streams = none ∧
      Path (Core.initial env.toPrimitives true config hostCid.1 peerCid.1) (c.core .new []) := by
  obtain ⟨encoded, -, h⟩ := bind_eq_ok.1 h
  obtain ⟨remembered, -, h⟩ := bind_eq_ok.1 h
  obtain rfl := Except.ok.inj h
  refine ⟨⟨encoded, rfl⟩, rfl, rfl, ?_⟩
  -- all but the keys of the Initial space is as at the start
  rw [Conn.core_installInitialKeys]
  exact Effect.path (.install (Core.initial env.toPrimitives true config hostCid.1 peerCid.1) rfl rfl)

theorem Begins.path (h : Begins c) : ∃ isClient config hostCid peerCid, hostCid.length = 8 ∧
    (peerCid.length ≤ maxCidLength ∧ (isClient = false → peerCid = [])) ∧
    Path (Core.initial env.toPrimitives isClient config hostCid peerCid) (c.core .new []) := by
  cases h with
  | server config hostCid destination =>
    exact ⟨false, config, hostCid.1, [], hostCid.2, ⟨Nat.zero_le _, fun _ => rfl⟩, .refl⟩
  | client config hostCid peerCid ticketParameters destination c now h =>
    obtain ⟨⟨parameters, htls⟩, hclient, hstreams, hcore⟩ := newClient_spec h
    have hconnect := connect_goes (w := .new) now htls hclient hstreams
    have hpath := (hconnect.mono (fun _ _ h => h.path) fun _ _ h => h.elim).final
    exact ⟨true, config, hostCid.1, peerCid.1, hostCid.2, ⟨peerCid.2.le.trans (by decide), Bool.noConfusion⟩,
      hcore.trans hpath⟩

end Begin

namespace Session

variable {env : Env} {intact : Bool} {α : Type} {m : M env α}

def caller (s : Session env) (intact : Bool) : Caller :=
  ⟨s.passed, s.returned, s.taken, s.written, s.finished, intact, false, false, false⟩

def core (s : Session env) (intact : Bool) : Core := s.conn.core (s.caller intact) []

def sendReturns (s : Session env) : Op env → Bool
  | .datagramsToSend now rounds =>
    match Connection.datagramsToSend now rounds s.conn with
    | .ok _ _ => true
    | .error _ _ => false
  | _ => true

def sendsReturn (s : Session env) : List (Op env) → Bool
  | [] => true
  | op :: ops => s.sendReturns op && (s.step op).sendsReturn ops

lemma exec_path {s : Session env}
    (h : Always m s.conn fun c' => Path (s.core intact) (c'.core (s.caller intact) [])) :
    Path (s.core intact) ((s.exec m).core intact) := h.final

lemma exec_goes {s : Session env}
    (h : Always m s.conn (Goes (s.caller intact) [] [] s.conn)) : Path (s.core intact) ((s.exec m).core intact) :=
  exec_path (h.mono (fun _ _ h => h.path) fun _ _ h => h.path)

lemma datagramReceived_step (s : Session env) (intact : Bool) (data : Bytes) (now : ℚ)
    (source : Option env.Destination) (ecn : ℕ) (hs : (s.core intact).Sound) (hb : (s.core intact).Balanced) :
    Path (s.core intact) ((s.step (.datagramReceived data now source ecn)).core intact) := by
  have hpass := Effect.pass (s.core intact) data.length
  have hpaid : s.conn.bytesReceived + data.length ≤ s.passed + data.length := Nat.add_le_add_right hb.paid _
  have hreceive := datagramReceived_path (c := s.conn)
    (w := { s.caller intact with passed := s.passed + data.length }) data now source ecn hpaid (hs.effect hpass)
  exact hpass.path.trans hreceive.final

lemma datagramsToSend_step (s : Session env) (intact : Bool) (now : ℚ) (rounds : ℕ)
    (hb : (s.core intact).Balanced) :
    ∃ intact', Path (s.core intact) ((s.step (.datagramsToSend now rounds)).core intact') ∧
      (s.sendReturns (.datagramsToSend now rounds) = true → intact' = intact) := by
  have hsend := datagramsToSend_path (c := s.conn) (s.caller intact) now rounds
  simp only [step, sendReturns]
  cases hcall : Connection.datagramsToSend now rounds s.conn with
  | ok datagrams c =>
    obtain ⟨hpath, hspent⟩ := hsend.of_ok hcall
    have hflushed : totalLength s.conn.pending = 0 := hb.flushed
    have hhanded : s.returned ≤ (s.core intact).spent := hb.handed
    have hdeliver := Effect.deliver (c.core (s.caller intact) []) (totalLength datagrams)
      (show s.returned + totalLength datagrams ≤ _ by rw [core] at hhanded; omega)
    exact ⟨intact, hpath.trans hdeliver.path, fun _ => rfl⟩
  | error e c =>
    obtain ⟨held, hpath⟩ := hsend.of_error hcall
    exact ⟨false, hpath.trans (Effect.path (.lose _)), Bool.noConfusion⟩

lemma sendStreamData_step (s : Session env) (intact : Bool) (i : ℕ) (data : Bytes) (fin : Bool) :
    Path (s.core intact) ((s.step (.sendStreamData i data fin)).core intact) := by
  have hwrite := sendStreamData_path (c := s.conn) (w := s.caller intact) i data fin
  simp only [step]
  cases hcall : Connection.sendStreamData i data fin s.conn with
  | ok _ c => exact hwrite.of_ok hcall
  | error e c => exact hwrite.of_error hcall

theorem step_path (s : Session env) (intact : Bool) (op : Op env) (hs : (s.core intact).Sound)
    (hb : (s.core intact).Balanced) :
    ∃ intact', Path (s.core intact) ((s.step op).core intact') ∧ (s.sendReturns op = true → intact' = intact) := by
  cases op with
  | datagramReceived data now source ecn =>
    exact ⟨intact, s.datagramReceived_step intact data now source ecn hs hb, fun _ => rfl⟩
  | datagramsToSend now rounds => exact s.datagramsToSend_step intact now rounds hb
  | handleTimer now =>
    exact ⟨intact, exec_path ((handleTimer_path now hs).mono (fun _ _ h => h) fun _ _ h => h.elim), fun _ => rfl⟩
  | close errorCode reason frameType =>
    refine ⟨intact, ?_, fun _ => rfl⟩
    have hclose := Effect.close (s.core intact) ⟨errorCode, reason.toUTF8.data.toList, frameType⟩
    rw [core, ← Conn.core_close] at hclose
    exact hclose.path
  | initiateKeyUpdate now =>
    refine ⟨intact, exec_goes ?_, fun _ => rfl⟩
    apply (initiateKeyUpdate_builds (s.caller intact) now).mono
    · exact fun _ _ h => h.2
    · rintro _ _ rfl
      exact .refl _
  | validatePath challenge => exact ⟨intact, (challengePath_goes challenge).path, fun _ => rfl⟩
  | sendNewToken token => exact ⟨intact, exec_goes (sendNewToken_goes token), fun _ => rfl⟩
  | openStream => exact ⟨intact, exec_goes (openStream_goes hs), fun _ => rfl⟩
  | sendStreamData i data fin => exact ⟨intact, s.sendStreamData_step intact i data fin, fun _ => rfl⟩
  | takeEvents => exact ⟨intact, Effect.path (.takeEvents _), fun _ => rfl⟩

theorem run_path (s : Session env) (intact : Bool) (ops : List (Op env)) (hs : (s.core intact).Sound)
    (hb : (s.core intact).Balanced) :
    ∃ intact', Path (s.core intact) ((s.run ops).core intact') ∧
      (s.sendsReturn ops = true → intact' = intact) := by
  induction ops generalizing s intact with
  | nil => exact ⟨intact, .refl, fun _ => rfl⟩
  | cons op ops ih =>
    obtain ⟨mid, hstep, hkept⟩ := s.step_path intact op hs hb
    obtain ⟨last, hrun, hkept'⟩ := ih (s.step op) mid (hs.path hstep) (hb.path hstep)
    refine ⟨last, hstep.trans hrun, fun h => ?_⟩
    have h := Bool.and_eq_true_iff.1 h
    exact (hkept' h.2).trans (hkept h.1)

theorem onward {c : Conn env} (h : Begins c) (ops : List (Op env)) :
    ∃ intact, Path (c.core .new []) (((start c).run ops).core intact) ∧
      ((start c).sendsReturn ops = true → intact = true) := by
  obtain ⟨isClient, config, hostCid, peerCid, -, -, hbegin⟩ := h.path
  have hs := (Core.sound_initial env.toPrimitives isClient config hostCid peerCid).path hbegin
  have hb := (Core.balanced_initial env.toPrimitives isClient config hostCid peerCid).path hbegin
  exact (start c).run_path true ops hs hb

theorem reached {c : Conn env} (h : Begins c) (ops : List (Op env)) :
    ∃ isClient config hostCid peerCid intact, hostCid.length = 8 ∧
      (peerCid.length ≤ maxCidLength ∧ (isClient = false → peerCid = [])) ∧
      Path (Core.initial env.toPrimitives isClient config hostCid peerCid) (((start c).run ops).core intact) ∧
      ((start c).sendsReturn ops = true → intact = true) := by
  obtain ⟨isClient, config, hostCid, peerCid, hhost, hpeer, hbegin⟩ := h.path
  obtain ⟨intact, hrun, hkept⟩ := onward h ops
  exact ⟨isClient, config, hostCid, peerCid, intact, hhost, hpeer, hbegin.trans hrun, hkept⟩

lemma length_cids {c : Conn env} (h : Begins c) (ops : List (Op env)) :
    ((start c).run ops).conn.hostCid.length = 8 ∧ ((start c).run ops).conn.peerCid.length ≤ maxCidLength := by
  obtain ⟨isClient, config, hostCid, peerCid, intact, hhost, hpeer, hpath, -⟩ := reached h ops
  exact ⟨(congrArg List.length hpath.same.hostCid).trans hhost, hpath.same.peerCid hpeer.1⟩

end Session

end Dsquic.Connection
