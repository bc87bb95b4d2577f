import Dsquic.Endpoint.Requests
import Dsquic.Endpoint.Routing
import Mathlib.Data.Finset.Card

/-!
The connections of a server, which it knows by their connection IDs until they have ended.
-/

namespace Dsquic.Endpoint

open Lib Wire Connection

variable {env : Env}

structure ServerSession (env : Env) where
  connection : Conn env
  requests : Dict ℕ Bytes
  deadline : ℚ

structure Hosting (env : Env) where
  server : Server
  config : Config
  idleTimeout : ℚ
  resolve : Bytes → Option Bytes
  resumed : env.Tls → Bool

/-- A session is an object, and `sessions` has it under its number. Those from `created` on do not exist yet. -/
structure Serving (env : Env) where
  sessions : Dict Bytes ℕ
  objects : ℕ → ServerSession env
  created : ℕ
  connectionsServed : ℕ
  connectionsResumed : ℕ
  connectionsEarlyData : ℕ

structure Arrival (env : Env) where
  data : Bytes
  source : Address
  destination : Option env.Destination
  ecn : ℕ
  entropy : Entropy
  hostCid : Conn.Cid
  now : ℚ
  wallClock : ℚ

structure Poll (env : Env) where
  arrivals : List (Arrival env)
  sentAt : ℚ
  now : ℚ
  rounds : ℕ
  token : ℕ → Bytes

namespace Serving

def new (objects : ℕ → ServerSession env) : Serving env := ⟨.empty, objects, 0, 0, 0, 0⟩

def onSession (i : ℕ) (m : EStateM Raised (ServerSession env) PUnit) : EStateM Raised (Serving env) PUnit :=
  zoom (fun s => s.objects i) (fun session s => { s with objects := Function.update s.objects i session }) m

def onConnection {α : Type} (m : M env α) : EStateM Raised (ServerSession env) α :=
  zoom ServerSession.connection (fun c session => { session with connection := c }) m

def accept (host : Hosting env) (cid : Bytes) (retry : Option RetryContext) (arrival : Arrival env) :
    EStateM Raised (Serving env) ℕ :=
  modifyGet fun s => (s.created, { s with
    sessions := s.sessions.set cid s.created
    objects := Function.update s.objects s.created
      ⟨.newServer env { host.config with retry := retry } arrival.hostCid none, .empty,
        arrival.now + host.idleTimeout⟩
    created := s.created + 1 })

def deliver (host : Hosting env) (arrival : Arrival env) (i : ℕ) : EStateM Raised (Serving env) PUnit := do
  onSession i (do
    onConnection (datagramReceived arrival.data arrival.now arrival.destination arrival.ecn)
    modify fun session => { session with deadline := arrival.now + host.idleTimeout })
  modify fun s =>
    let cid := (s.objects i).connection.hostCid
    if s.sessions.get? cid = none then { s with sessions := s.sessions.set cid i } else s

def receive (host : Hosting env) (arrival : Arrival env) : EStateM Raised (Serving env) PUnit := do
  let s ← get
  match destinationConnectionId arrival.data connectionIdLength with
  | none => pure ⟨⟩
  | some cid =>
    match s.sessions.get? cid with
    | some i => deliver host arrival i
    | none => do
      let outcome ← lift (route { host.server with sessions := s.sessions.keys } arrival.entropy arrival.data
        arrival.source arrival.wallClock)
      match outcome with
      | .accepted _ retry => do
        let i ← accept host cid retry arrival
        deliver host arrival i
      | _ => pure ⟨⟩

def sendPending (now : ℚ) (rounds : ℕ) : EStateM Raised (ServerSession env) PUnit :=
  discard (onConnection (datagramsToSend now rounds))

def isStreamData : Event → Bool
  | .streamDataReceived _ => true
  | _ => false

def attend (host : Hosting env) (poll : Poll env) (i : ℕ) : EStateM Raised (ServerSession env) PUnit := do
  onConnection (handleTimer poll.now)
  let session ← get
  doIf (session.connection.events.any isStreamData)
    (modify fun session => { session with deadline := poll.now + host.idleTimeout })
  let requests ← onConnection (serveRequests host.resolve (poll.token i) session.requests)
  modify fun session => { session with requests := requests }
  sendPending poll.now poll.rounds

def finished (s : Serving env) (now : ℚ) (i : ℕ) : Bool :=
  (s.objects i).connection.state = .terminated || decide (now > (s.objects i).deadline)

def countTls (s : Serving env) (flag : env.Tls → Bool) (departed : List ℕ) : ℕ :=
  departed.countP fun i => (s.objects i).connection.tls.any flag

def reap (host : Hosting env) (now : ℚ) (s : Serving env) : Serving env :=
  let departing := (s.sessions.values.filter (s.finished now)).dedup
  let sessions := s.sessions.filter fun _ i => !s.finished now i
  let departed := departing.filter fun i => !sessions.values.contains i
  { s with
    sessions := sessions
    connectionsServed := s.connectionsServed + departed.length
    connectionsResumed := s.connectionsResumed + s.countTls host.resumed departed
    connectionsEarlyData := s.connectionsEarlyData + s.countTls env.earlyDataAccepted departed }

def poll (host : Hosting env) (p : Poll env) : EStateM Raised (Serving env) PUnit := do
  let s ← get
  each (fun i => onSession i (sendPending p.sentAt p.rounds)) s.sessions.values
  each (receive host) p.arrivals
  let s ← get
  each (fun i => onSession i (attend host p i)) s.sessions.values
  modify (reap host p.now)

def run (host : Hosting env) (s : Serving env) (polls : List (Poll env)) : Serving env :=
  polls.foldl (fun s p => finalState (poll host p) s) s

structure Accounted (s : Serving env) : Prop where
  created : ∀ i ∈ s.sessions.values, i < s.created
  served : s.connectionsServed + s.sessions.values.toFinset.card = s.created
  resumed : s.connectionsResumed ≤ s.connectionsServed
  earlyData : s.connectionsEarlyData ≤ s.connectionsServed

structure Grows (s s' : Serving env) : Prop where
  accounted : s'.Accounted
  kept : ∀ cid i, s.sessions.get? cid = some i → s'.sessions.get? cid = some i

variable {s s' s'' : Serving env} {host : Hosting env} {cid : Bytes} {i : ℕ}

lemma Accounted.grows (h : s.Accounted) (objects : ℕ → ServerSession env) :
    s.Grows { s with objects := objects } :=
  ⟨{ h with }, fun _ _ => id⟩

lemma Grows.trans (h : s.Grows s') (h' : s'.Grows s'') : s.Grows s'' :=
  ⟨h'.accounted, fun cid i hget => h'.kept cid i (h.kept cid i hget)⟩

lemma get?_set_of_some {cid other : Bytes} {i j : ℕ} (hnew : s.sessions.get? cid = none)
    (hget : s.sessions.get? other = some i) : (s.sessions.set cid j).get? other = some i := by
  have hne : other ≠ cid := by
    rintro rfl
    cases hnew.symm.trans hget
  rw [Dict.get?_set, if_neg hne, hget]

lemma grows_accept (hs : s.Accounted) (hnew : s.sessions.get? cid = none) (objects : ℕ → ServerSession env) :
    s.Grows { s with sessions := s.sessions.set cid s.created, objects := objects, created := s.created + 1 } := by
  have hvalues := Dict.values_set_fresh s.created hnew
  have hfresh : s.created ∉ s.sessions.values.toFinset := fun hmem =>
    absurd (hs.created _ (List.mem_toFinset.1 hmem)) (lt_irrefl _)
  have hcard : (s.sessions.values ++ [s.created]).toFinset.card = s.sessions.values.toFinset.card + 1 := by
    rw [List.toFinset_append, Finset.union_comm, List.toFinset_cons, List.toFinset_nil, insert_empty_eq,
      Finset.singleton_union, Finset.card_insert_of_notMem hfresh]
  refine ⟨⟨fun i hi => ?_, ?_, hs.resumed, hs.earlyData⟩, fun other i => get?_set_of_some hnew⟩
  · simp only [hvalues, List.mem_append, List.mem_singleton] at hi
    rcases hi with hi | rfl
    · exact (hs.created i hi).trans (Nat.lt_succ_self _)
    · exact Nat.lt_succ_self _
  · have hserved := hs.served
    simp only [hvalues, hcard]
    omega

lemma grows_index (hs : s.Accounted) (hnew : s.sessions.get? cid = none)
    (hi : i ∈ s.sessions.values) : s.Grows { s with sessions := s.sessions.set cid i } := by
  have hvalues : ∀ j, j ∈ (s.sessions.set cid i).values ↔ j ∈ s.sessions.values := by
    intro j
    rw [Dict.values_set_fresh i hnew, List.mem_append, List.mem_singleton, or_iff_left_iff_imp]
    rintro rfl
    exact hi
  have hsame : (s.sessions.set cid i).values.toFinset = s.sessions.values.toFinset := by
    ext j
    simp only [List.mem_toFinset, hvalues]
  refine ⟨⟨fun j hj => hs.created j ((hvalues j).1 hj), ?_, hs.resumed, hs.earlyData⟩,
    fun other j => get?_set_of_some hnew⟩
  simp only [hsame]
  exact hs.served

lemma mem_values_of_get? (h : s.sessions.get? cid = some i) : i ∈ s.sessions.values :=
  Dict.mem_values.2 ⟨cid, Dict.get?_eq_some_iff.1 h⟩

lemma values_reap (now : ℚ) : (reap host now s).sessions.values = s.sessions.values.filter fun i =>
    !s.finished now i :=
  Dict.values_filter _ _

lemma Accounted.reap (hs : s.Accounted) (now : ℚ) : (reap host now s).Accounted := by
  have hdeparted : (s.sessions.values.filter (s.finished now)).dedup.filter
      (fun i => !(s.sessions.filter fun _ i => !s.finished now i).values.contains i) =
      (s.sessions.values.filter (s.finished now)).dedup := by
    rw [List.filter_eq_self]
    intro i hi
    have hfinished := (List.mem_filter.1 (List.mem_dedup.1 hi)).2
    simp [Dict.values_filter s.sessions fun i => !s.finished now i, hfinished]
  have hcard : (s.sessions.values.filter (s.finished now)).dedup.length +
      (s.sessions.values.filter fun i => !s.finished now i).toFinset.card = s.sessions.values.toFinset.card := by
    rw [← List.card_toFinset, List.toFinset_filter, List.toFinset_filter, ← Finset.card_filter_add_card_filter_not
      (s := s.sessions.values.toFinset) (fun i => s.finished now i = true)]
    simp
  have hcount : ∀ flag : env.Tls → Bool, s.countTls flag (s.sessions.values.filter (s.finished now)).dedup ≤
      (s.sessions.values.filter (s.finished now)).dedup.length := fun _ => List.countP_le_length
  refine ⟨fun i hi => ?_, ?_, ?_, ?_⟩
  · rw [values_reap] at hi
    exact hs.created i (List.mem_of_mem_filter hi)
  · have hserved := hs.served
    rw [values_reap]
    simp only [Serving.reap, hdeparted]
    omega
  · simp only [Serving.reap, hdeparted]
    exact Nat.add_le_add hs.resumed (hcount _)
  · simp only [Serving.reap, hdeparted]
    exact Nat.add_le_add hs.earlyData (hcount _)

lemma onSession_grows (hs : s.Accounted) (i : ℕ) (m : EStateM Raised (ServerSession env) PUnit) :
    Ensures (onSession i m) s (fun _ s' => s.Grows s' ∧ s'.sessions = s.sessions) fun _ s' => s.Grows s' := by
  rw [onSession, ensures_zoom]
  exact (ensures_self _ _).mono (fun _ _ _ => ⟨hs.grows _, rfl⟩) fun _ _ _ => hs.grows _

lemma deliver_grows (hs : s.Accounted) (arrival : Arrival env) (hi : i ∈ s.sessions.values) :
    Ensures (deliver host arrival i) s (fun _ => s.Grows) fun _ s' => s.Grows s' := by
  rw [deliver, ensures_bind]
  refine (onSession_grows hs i _).imp ?_
  rintro _ s₁ ⟨h₁, hsame⟩
  simp only [ensures_modify]
  split_ifs with hnew
  · exact h₁.trans (grows_index h₁.accounted hnew (by rwa [hsame]))
  · exact h₁

lemma receive_grows (hs : s.Accounted) (arrival : Arrival env) :
    Ensures (receive host arrival) s (fun _ => s.Grows) fun _ s' => s.Grows s' := by
  have hquiet : s.Grows s := hs.grows s.objects
  simp only [receive, ensures_state]
  cases destinationConnectionId arrival.data connectionIdLength with
  | none => exact hquiet
  | some cid =>
    cases hget : s.sessions.get? cid with
    | some i => simpa only [hget] using deliver_grows hs arrival (mem_values_of_get? hget)
    | none =>
      simp only [hget, ensures_flow]
      refine ⟨fun outcome _ => ?_, fun _ _ => hquiet⟩
      cases outcome with
      | accepted _ retry =>
        simp only [accept, ensures_state]
        have haccept := grows_accept hs hget (Function.update s.objects s.created
          ⟨.newServer env { host.config with retry := retry } arrival.hostCid none, .empty,
            arrival.now + host.idleTimeout⟩)
        refine (deliver_grows haccept.accounted arrival ?_).mono (fun _ _ h => haccept.trans h)
          fun _ _ h => haccept.trans h
        exact @mem_values_of_get? env _ cid _ (by simp)
      | _ => exact hquiet

lemma each_grows {α : Type} {f : α → EStateM Raised (Serving env) PUnit}
    (h : ∀ a (s : Serving env), s.Accounted → Ensures (f a) s (fun _ => s.Grows) fun _ s' => s.Grows s')
    (hs : s.Accounted) (as : List α) : Ensures (each f as) s (fun _ => s.Grows) fun _ s' => s.Grows s' :=
  ensures_each (I := fun _ s' => s.Grows s')
    (fun a _ s₁ h₁ => (h a s₁ h₁.accounted).mono (fun _ _ h₂ => h₁.trans h₂)
    fun _ _ h₂ => h₁.trans h₂) as s (hs.grows s.objects)

lemma poll_spec (hs : s.Accounted) (p : Poll env) :
    Ensures (poll host p) s (fun _ s' => ∃ s₁, s.Grows s₁ ∧ s' = reap host p.now s₁) fun _ s' => s.Grows s' := by
  have hsessions : ∀ (m : ℕ → EStateM Raised (ServerSession env) PUnit) {s : Serving env}, s.Accounted → ∀ is,
      Ensures (each (fun i => onSession i (m i)) is) s (fun _ => s.Grows) fun _ s' => s.Grows s' := fun m _ =>
    each_grows fun i _ hs => (onSession_grows hs i (m i)).imp (fun _ _ h => h.1)
  simp only [poll, ensures_state]
  refine (hsessions _ hs _).imp fun _ s₁ h₁ => ?_
  refine (each_grows (fun arrival _ hs => receive_grows hs arrival) h₁.accounted _).mono (fun _ s₂ h₂ => ?_)
    fun _ _ h => h₁.trans h
  exact (hsessions _ h₂.accounted _).mono (fun _ s₃ h₃ => ⟨s₃, (h₁.trans h₂).trans h₃, rfl⟩)
    fun _ _ h => (h₁.trans h₂).trans h

lemma accounted_run (host : Hosting env) (objects : ℕ → ServerSession env) (polls : List (Poll env)) :
    (run host (new objects) polls).Accounted := by
  induction polls using List.reverseRecOn with
  | nil => exact ⟨fun _ hi => absurd hi List.not_mem_nil, rfl, le_rfl, le_rfl⟩
  | append_singleton polls p ih =>
    rw [run, List.foldl_append]
    refine Ensures.final (P := Accounted) ((poll_spec ih p).mono ?_ fun _ _ h => h.accounted)
    rintro _ _ ⟨s₁, h₁, rfl⟩
    exact h₁.accounted.reap p.now

end Serving

theorem connections_served_once (host : Hosting env) (objects : ℕ → ServerSession env) (polls : List (Poll env)) :
    (Serving.run host (.new objects) polls).connectionsServed +
        (Serving.run host (.new objects) polls).sessions.values.toFinset.card =
      (Serving.run host (.new objects) polls).created ∧
    (Serving.run host (.new objects) polls).connectionsResumed ≤
      (Serving.run host (.new objects) polls).connectionsServed ∧
    (Serving.run host (.new objects) polls).connectionsEarlyData ≤
      (Serving.run host (.new objects) polls).connectionsServed :=
  have h := Serving.accounted_run host objects polls
  ⟨h.served, h.resumed, h.earlyData⟩

/-- A connection ID stays that of its session until the session has ended, and a step that returns leaves none
that has. -/
theorem sessions_kept (host : Hosting env) (objects : ℕ → ServerSession env) (polls : List (Poll env))
    (p : Poll env) :
    (∀ cid i, (Serving.run host (.new objects) polls).sessions.get? cid = some i →
      (Serving.run host (.new objects) (polls ++ [p])).sessions.get? cid = some i ∨
        i ∉ (Serving.run host (.new objects) (polls ++ [p])).sessions.values ∧
          (Serving.run host (.new objects) (polls ++ [p])).finished p.now i = true) ∧
    ∀ s', Serving.poll host p (Serving.run host (.new objects) polls) = .ok ⟨⟩ s' →
      ∀ i ∈ s'.sessions.values, s'.finished p.now i = false := by
  have hpoll := @Serving.poll_spec env _ host (Serving.accounted_run host objects polls) p
  constructor
  · intro cid i hget
    rw [Serving.run, List.foldl_append]
    refine Ensures.final (P := fun s' => s'.sessions.get? cid = some i ∨
      i ∉ s'.sessions.values ∧ s'.finished p.now i = true) (hpoll.mono ?_ fun _ _ h => .inl (h.kept cid i hget))
    rintro _ _ ⟨s₁, h₁, rfl⟩
    have hget₁ := h₁.kept cid i hget
    cases hfinished : s₁.finished p.now i with
    | false => exact .inl (Dict.get?_filter_eq_some.2 ⟨hget₁, by simp [hfinished]⟩)
    | true => exact .inr ⟨by simp [Serving.values_reap, hfinished], hfinished⟩
  · intro s' hok i hi
    obtain ⟨s₁, -, rfl⟩ := hpoll.of_ok hok
    rw [Serving.values_reap] at hi
    have hlive : s₁.finished p.now i = false := by simpa using (List.mem_filter.1 hi).2
    exact hlive

end Dsquic.Endpoint
