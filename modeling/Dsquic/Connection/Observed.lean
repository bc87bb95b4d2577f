import Dsquic.Connection.SendPath

/-!
A call to send as an observer sees it, who looks at the connection around each datagram that is built, and
what choosing the frames of a packet leaves alone.
-/

namespace Dsquic.Connection

open Lib Wire Streams Recovery

variable {env : Env} {α : Type}

def observeDatagrams (observe : Bool → Conn env → Conn env → α) (now : ℚ) : ℕ →
    M env (List (OutgoingDatagram env × α))
  | 0 => throw .diverges
  | rounds + 1 => do
    let pacedOut ← pacingBlocked now
    let c ← get
    let datagram ← buildDatagram now pacedOut
    match datagram with
    | none => return []
    | some datagram => do
      let c₂ ← get
      modify fun c' => { c' with pacingCredit := c'.pacingCredit -
        (c'.recovery.controller.bytesInFlight - c.recovery.controller.bytesInFlight : ℤ) }
      let datagrams ← observeDatagrams observe now rounds
      return (datagram, observe pacedOut c c₂) :: datagrams

def observeToSend (observe : Bool → Conn env → Conn env → α) (other : α) (now : ℚ) (rounds : ℕ) :
    M env (List (OutgoingDatagram env × α)) := do
  let c ← get
  if c.state = .draining ∨ c.state = .terminated then return []
  else if c.closeFrame.isSome then (List.map (·, other)) <$> buildCloseDatagram now
  else do
    maybeUpdateKeys now
    modify fun c => { c with pacingDeadline := none }
    let datagrams ← observeDatagrams observe now rounds
    modifyGet fun c => (c.pending.map (·, other) ++ datagrams, { c with pending := [] })

section Equations

variable (observe : Bool → Conn env → Conn env → α) (other : α) (now : ℚ) (rounds : ℕ)

lemma buildDatagrams_eq_observe :
    (buildDatagrams now rounds : M env _) = List.map Prod.fst <$> observeDatagrams observe now rounds := by
  induction rounds with
  | zero => rfl
  | succ rounds ih =>
    simp only [buildDatagrams, observeDatagrams, map_bind]
    congr 1
    funext pacedOut
    congr 1
    funext c
    congr 1
    funext datagram
    cases datagram with
    | none => simp
    | some datagram =>
      simp only [ih, map_bind, bind_map_left, map_pure, List.map_cons]
      rfl

lemma datagramsToSend_eq_observe :
    (datagramsToSend now rounds : M env _) = List.map Prod.fst <$> observeToSend observe other now rounds := by
  have hfst : ∀ datagrams : List (OutgoingDatagram env), (datagrams.map fun d => (d, other)).map Prod.fst =
    datagrams := by
    intro datagrams
    rw [List.map_map]
    exact List.map_id datagrams
  simp only [datagramsToSend, observeToSend, map_bind, buildDatagrams_eq_observe observe]
  congr 1
  funext c
  split_ifs
  · simp
  · simp only [Functor.map_map, hfst, id_map']
  · simp only [map_bind, bind_map_left]
    congr 1
    funext _
    congr 1
    funext _
    congr 1
    funext datagrams
    funext c
    change EStateM.Result.ok (c.pending ++ datagrams.map Prod.fst) _ = EStateM.Result.ok (List.map Prod.fst _) _
    rw [List.map_append, hfst]

variable {observe other now rounds}

lemma datagramsToSend_of_observe {c c' : Conn env} {observed : List (OutgoingDatagram env × α)}
    (h : observeToSend observe other now rounds c = .ok observed c') :
    datagramsToSend now rounds c = .ok (observed.map Prod.fst) c' := by
  rw [datagramsToSend_eq_observe observe other]
  change EStateM.map _ _ _ = _
  rw [EStateM.map, h]

def observations (observe : Bool → Conn env → Conn env → α) (other : α) (now : ℚ) (rounds : ℕ)
    (c : Conn env) : List α :=
  match observeToSend observe other now rounds c with
  | .ok observed _ => observed.map Prod.snd
  | .error _ _ => []

lemma exists_of_observations {c : Conn env} (h : observations observe other now rounds c ≠ []) :
    ∃ observed c', observeToSend observe other now rounds c = .ok observed c' ∧
      observed.map Prod.snd = observations observe other now rounds c := by
  unfold observations at h ⊢
  split at h
  · next observed c' hsend => exact ⟨observed, c', hsend, rfl⟩
  · exact absurd rfl h

end Equations

structure Touches (level : Level) (c c' : Conn env) : Prop where
  credit : c'.pacingCredit = c.pacingCredit
  updated : c'.pacingUpdated = c.pacingUpdated
  trace : c'.trace = c.trace
  spaces : ∀ other, other ≠ level → c'.spaces other = c.spaces other
  probes : ∀ other, other ≠ level → c'.probesPending other = c.probesPending other
  application : level ≠ .oneRtt → c'.controlFrames = c.controlFrames ∧
    c'.handshakeDonePending = c.handshakeDonePending ∧ c'.streams = c.streams

section Touches

variable {c c' c'' : Conn env} {level : Level} {room : ℤ}

lemma Touches.refl (c : Conn env) : Touches level c c :=
  ⟨rfl, rfl, rfl, fun _ _ => rfl, fun _ _ => rfl, fun _ => ⟨rfl, rfl, rfl⟩⟩

lemma Touches.trans (h : Touches level c c') (h' : Touches level c' c'') : Touches level c c'' where
  credit := h'.credit.trans h.credit
  updated := h'.updated.trans h.updated
  trace := h'.trace.trans h.trace
  spaces other hother := (h'.spaces other hother).trans (h.spaces other hother)
  probes other hother := (h'.probes other hother).trans (h.probes other hother)
  application hlevel := by
    obtain ⟨hcontrol, hdone, hstreams⟩ := h.application hlevel
    obtain ⟨hcontrol', hdone', hstreams'⟩ := h'.application hlevel
    exact ⟨hcontrol'.trans hcontrol, hdone'.trans hdone, hstreams'.trans hstreams⟩

lemma touches_setSpace (c : Conn env) (level : Level) (space : Space PacketKeys Bytes) :
    Touches level c (c.setSpace level space) :=
  ⟨rfl, rfl, rfl, fun _ hother => Function.update_of_ne hother _ _, fun _ _ => rfl, fun _ => ⟨rfl, rfl, rfl⟩⟩

lemma touches_probes (c : Conn env) (level : Level) (owed : ℕ) :
    Touches level c { c with probesPending := Function.update c.probesPending level owed } :=
  ⟨rfl, rfl, rfl, fun _ _ => rfl, fun _ hother => Function.update_of_ne hother _ _, fun _ => ⟨rfl, rfl, rfl⟩⟩

lemma chooseAck_touches :
    Ensures (chooseAck level room) c fun _ => Touches level c := by
  simp only [chooseAck, ensures_state]
  cases (c.spaces level).buildAck with
  | none => exact .refl c
  | some ack =>
    simp only [ensures_flow]
    exact ⟨fun _ _ => ⟨fun _ => touches_setSpace c level _, fun _ => .refl c⟩, fun _ _ => trivial⟩

lemma chooseCrypto_touches :
    Ensures (chooseCrypto level room) c fun _ => Touches level c := by
  simp only [chooseCrypto, ensures_state]
  cases ((c.spaces level).nextCrypto (room - 16).toNat).1 with
  | none => exact touches_setSpace c level _
  | some frame =>
    simp only [ensures_flow]
    exact ⟨fun _ _ => touches_setSpace c level _, fun _ _ => trivial⟩

lemma takeControl_touches (frames : List Frame) (used : ℕ) :
    Ensures (takeControl room frames used) c fun _ => Touches .oneRtt c := by
  induction frames generalizing used c with
  | nil => exact .refl c
  | cons control rest ih =>
    simp only [takeControl, ensures_flow]
    refine ⟨fun _ => ⟨fun encoded _ => ⟨fun _ => .refl c, fun _ => ?_⟩, fun _ _ => trivial⟩, fun _ => .refl c⟩
    have htake : Touches .oneRtt c { c with controlFrames := rest } :=
      ⟨rfl, rfl, rfl, fun _ _ => rfl, fun _ _ => rfl, fun h => absurd rfl h⟩
    exact (ih _).imp fun _ _ h => htake.trans h

lemma takeStreams_touches (streamIds : List ℕ) (used : ℕ) :
    Ensures (takeStreams room streamIds used) c fun _ => Touches .oneRtt c := by
  induction streamIds generalizing used c with
  | nil => exact .refl c
  | cons streamId streamIds ih =>
    simp only [takeStreams, ensures_state]
    cases c.streams with
    | none => exact .refl c
    | some streams =>
      simp only [ensures_flow, onStreams]
      refine ⟨fun _ => .refl c, fun _ => (ensures_self _ _).imp_true (fun frame m _ => ?_)⟩
      have htake : Touches .oneRtt c (c.setStreams m) :=
        ⟨rfl, rfl, rfl, fun _ _ => rfl, fun _ _ => rfl, fun h => absurd rfl h⟩
      cases frame with
      | none => exact (ih used).imp (fun _ _ h => htake.trans h)
      | some frame =>
        simp only [ensures_flow]
        exact ⟨fun _ _ => (ih _).imp (fun _ _ h => htake.trans h), fun _ _ => trivial⟩

lemma applicationFramesAt_touches :
    Ensures (applicationFramesAt level room) c fun _ => Touches level c := by
  rw [applicationFramesAt, ensures_ite]
  refine ⟨?_, fun _ => .refl c⟩
  rintro rfl
  have hrest : ∀ (c₁ : Conn env) (used : ℕ), Touches .oneRtt c c₁ →
      Ensures (takeControl room c₁.controlFrames used) c₁ fun control c₂ =>
        Ensures (takeStreams room ((c₂.streams.map (·.writableStreams)).getD []) control.2) c₂
          fun _ => Touches .oneRtt c := by
    intro c₁ used h₁
    refine (takeControl_touches _ used).imp fun control c₂ h₂ => ?_
    exact (takeStreams_touches _ _).imp fun _ _ h₃ => (h₁.trans h₂).trans h₃
  simp only [applicationFrames, chooseHandshakeDone, ensures_flow]
  have hdone : Touches .oneRtt c { c with handshakeDonePending := false } :=
    ⟨rfl, rfl, rfl, fun _ _ => rfl, fun _ _ => rfl, fun h => absurd rfl h⟩
  exact ⟨fun _ => hrest { c with handshakeDonePending := false } 1 hdone, fun _ => hrest c 0 (.refl c)⟩

lemma chooseProbe_touches (chosen : List Frame) :
    Ensures (chooseProbe level room chosen) c fun _ => Touches level c := by
  simp only [chooseProbe, ensures_flow]
  exact ⟨fun _ => .refl c, fun _ => ⟨fun _ => touches_probes c level _,
    fun _ => ⟨fun _ _ => ⟨fun _ _ => touches_probes c level _, fun _ _ => trivial⟩, fun _ _ => trivial⟩⟩⟩

lemma pendingFrames_touches (ackOnly : Bool) :
    Ensures (pendingFrames level room ackOnly) c fun _ => Touches level c := by
  simp only [pendingFrames, ensures_flow]
  refine chooseAck_touches.imp fun ack c₁ h₁ => ⟨fun _ => h₁, fun _ => ?_⟩
  refine chooseCrypto_touches.imp fun crypto c₂ h₂ => ?_
  refine applicationFramesAt_touches.imp fun application c₃ h₃ => ?_
  exact (chooseProbe_touches _).imp fun _ c₄ h₄ => ((h₁.trans h₂).trans h₃).trans h₄

end Touches

end Dsquic.Connection
