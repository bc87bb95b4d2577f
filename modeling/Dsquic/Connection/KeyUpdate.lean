import Dsquic.Connection.Space
import Mathlib.Data.Nat.Bits

/-!
Two endpoints and the 1-RTT packets each has sent. A key set is identified with its generation, so that
authentication succeeds exactly when the keys selected have the generation of the packet. Packets are
delivered from what was sent in any order, any number of times or never.
-/

namespace Dsquic.Connection

open Lib Wire Streams Recovery

namespace KeyUpdate

structure Packet where
  number : ℕ
  phase : Bool
  generation : ℕ
  frames : List Frame
  deriving DecidableEq

def Packet.revealed (p : Packet) : Space.Revealed := ⟨p.number, p.phase⟩

structure Endpoint where
  isClient : Bool
  state : ConnectionState
  space : Space ℕ ℕ
  recovery : LossDetection
  handshakeDonePending : Bool

def nextGeneration (secret : Option ℕ) (_keys : ℕ) : ℕ × ℕ :=
  (secret.getD 0 + 1, secret.getD 0 + 1)

namespace Endpoint

def new (isClient : Bool) (maxDatagramSize : ℕ) : Endpoint where
  isClient := isClient
  state := .handshaking
  space := { (Space.new : Space ℕ ℕ) with
    keysSend := some 0
    keysRecv := some 0
    secretSend := some 0
    keysRecvNext := some 1
    secretRecvNext := some 1 }
  recovery := .new (.new maxDatagramSize) isClient
  handshakeDonePending := false

def confirmed (e : Endpoint) : Bool := e.recovery.handshakeConfirmed

/-- Confirmation also retires the Handshake space; its keys are no part of this model. -/
def confirmHandshake (e : Endpoint) : Endpoint :=
  { e with recovery := { e.recovery with handshakeConfirmed := true }.discardSpace .handshake }

def onHandshakeComplete (e : Endpoint) : Endpoint :=
  if e.state ≠ .handshaking then e
  else
    let e := { e with state := .connected }
    if e.isClient then e else { e with handshakeDonePending := true }.confirmHandshake

def rotate (e : Endpoint) (now : ℚ) : Endpoint :=
  match e.space.rotateKeys nextGeneration now (3 * e.recovery.pto) with
  | .ok space => { e with space := space }
  | .error _ => e

def initiateKeyUpdate (e : Endpoint) (now : ℚ) : Endpoint :=
  if e.space.mayUpdate e.confirmed (e.recovery.largestAcked .oneRtt) then e.rotate now else e

def chooseFrames (e : Endpoint) (ackFits data : Bool) : List Frame :=
  (if ackFits then (e.space.buildAck.map Frame.ack).toList else []) ++
    (if e.handshakeDonePending then [.handshakeDone] else []) ++ if data then [.ping] else []

def afterSending (e : Endpoint) (frames : List Frame) (acked : Bool) (now : ℚ) (size : ℕ) : Endpoint :=
  let eliciting := frames.any isAckEliciting
  { e with
    space := { e.space with
      nextPacketNumber := e.space.nextPacketNumber + 1
      ackElicitingPending := e.space.ackElicitingPending && !acked }
    recovery := e.recovery.onPacketSent
      ⟨.oneRtt, e.space.nextPacketNumber, now, eliciting, eliciting, size, frames⟩
    handshakeDonePending := false }

def send (e : Endpoint) (now : ℚ) (ackFits data : Bool) (size : ℕ) : Option Packet × Endpoint :=
  let frames := e.chooseFrames ackFits data
  if frames = [] ∨ ¬(e.state = .handshaking ∨ e.state = .connected) then (none, e)
  else
    match e.space.keysSend with
    | none => (none, e)
    | some generation =>
      (some ⟨e.space.nextPacketNumber, e.space.keyPhase, generation, frames⟩,
        e.afterSending frames (ackFits && e.space.buildAck.isSome) now size)

def selectKeys (e : Endpoint) (p : Packet) (now : ℚ) : Except Raised (ℕ × Bool) :=
  e.space.receiveKeys .oneRtt p.revealed e.confirmed now

def decrypt (e : Endpoint) (p : Packet) (now : ℚ) : Option (Endpoint × Bool) :=
  match e.selectKeys p now with
  | .error _ => none
  | .ok (selected, updating) =>
    if selected ≠ p.generation then none
    else
      let e := if updating then e.rotate now else e
      some ({ e with space := e.space.noteKeyPhase p.revealed }, updating)

/-- HANDSHAKE_DONE is resent until acknowledged; the other frames carry no keys. -/
def requeueLost (packet : SentPacket) (e : Endpoint) : Endpoint :=
  if .handshakeDone ∈ packet.frames then { e with handshakeDonePending := true } else e

def requeueAll (packets : List SentPacket) (e : Endpoint) : Endpoint :=
  packets.foldl (fun e packet => e.requeueLost packet) e

def handleAck (ack : Ack) (now : ℚ) : EStateM Raised Endpoint PUnit := do
  let outcome ← zoom recovery (fun recovery e => { e with recovery := recovery })
    (LossDetection.onAckReceived .oneRtt ack 0 now)
  modify (requeueAll outcome.lost)

def handleFrame (now : ℚ) (frame : Frame) : EStateM Raised Endpoint PUnit := do
  doIf (isAckEliciting frame) (modify fun e =>
    { e with space := { e.space with ackElicitingPending := true } })
  match frame with
  | .ack ack => handleAck ack now
  | .handshakeDone => do
    let e ← get
    raiseIf (¬e.isClient) (.connection protocolViolation "client sent HANDSHAKE_DONE" (some 0))
    modify confirmHandshake
  | _ => pure ⟨⟩

def handleFrames (e : Endpoint) (frames : List Frame) (now : ℚ) : Endpoint :=
  match each (handleFrame now) frames e with
  | .ok _ e => e
  | .error _ e => { e with state := .closing }

def accept (e : Endpoint) (p : Packet) (now : ℚ) : Endpoint :=
  if e.space.received.covers p.number (p.number + 1) then e
  else { e with space := e.space.noteReceived p.number 0 }.handleFrames p.frames now

/-- A handshaking endpoint drops 1-RTT packets; a draining or terminated one drops every packet. -/
def processes (e : Endpoint) : Bool := e.state = .connected || e.state = .closing

/-- A probe resends up to two of the oldest packets unless data is queued already: for its own level,
and before confirmation for the 1-RTT packets that ride with a Handshake probe. -/
def prepareProbe (e : Endpoint) (level : Level) (busy : Bool) : Endpoint :=
  if busy ∨ e.handshakeDonePending then e
  else if level = .oneRtt ∨ level = .handshake ∧ ¬e.confirmed then
    e.requeueAll ((e.recovery.unacked .oneRtt).take 2)
  else e

/-- Loss by timer, or a probe. `busy` says that other 1-RTT data is queued. -/
def handleTimer (e : Endpoint) (busy : Bool) (now : ℚ) : Endpoint :=
  match e.recovery.lossDetectionTimeout with
  | none => e
  | some timeout =>
    if now < timeout ∨ ¬(e.state = .handshaking ∨ e.state = .connected) then e
    else
      let (outcome, recovery) := e.recovery.onLossDetectionTimeout now
      let e := { e with recovery := recovery }.requeueAll outcome.lost
      match outcome.probeLevel with
      | none => e
      | some level => e.prepareProbe level busy

end Endpoint

/-- The client is the side `true`. `rotations` records, for every rotation that a received packet
caused, the generation of that packet and the generation rotated to. -/
structure Peers where
  endpoint : Bool → Endpoint
  wire : Bool → List Packet
  rotations : List (ℕ × ℕ)

namespace Peers

inductive Action
  | complete (side : Bool)
  | send (side : Bool) (now : ℚ) (ackFits data : Bool) (size : ℕ)
  | initiate (side : Bool) (now : ℚ)
  | deliver (side : Bool) (packet : ℕ) (now : ℚ)
  | timeout (side : Bool) (busy : Bool) (now : ℚ)

def init (maxDatagramSize : Bool → ℕ) : Peers where
  endpoint side := .new side (maxDatagramSize side)
  wire _ := []
  rotations := []

def put (s : Peers) (side : Bool) (e : Endpoint) : Peers :=
  { s with endpoint := Function.update s.endpoint side e }

def transmit (s : Peers) (side : Bool) : Option Packet → Peers
  | none => s
  | some p => { s with wire := Function.update s.wire side (s.wire side ++ [p]) }

def receive (s : Peers) (side : Bool) (p : Packet) (now : ℚ) : Peers :=
  let e := s.endpoint side
  if ¬e.processes then s
  else
    match e.decrypt p now with
    | none => s
    | some (e, updating) =>
      let s := if updating then
        { s with rotations := (p.generation, e.space.keysRecv.getD 0) :: s.rotations } else s
      s.put side (e.accept p now)

def step (s : Peers) : Action → Peers
  | .complete side => s.put side (s.endpoint side).onHandshakeComplete
  | .send side now ackFits data size =>
    let (packet, e) := (s.endpoint side).send now ackFits data size
    (s.put side e).transmit side packet
  | .initiate side now => s.put side ((s.endpoint side).initiateKeyUpdate now)
  | .deliver side packet now =>
    match (s.wire !side)[packet]? with
    | none => s
    | some p => s.receive side p now
  | .timeout side busy now => s.put side ((s.endpoint side).handleTimer busy now)

def run (s : Peers) (actions : List Action) : Peers := actions.foldl step s

end Peers

structure AtGeneration (space : Space ℕ ℕ) (g : ℕ) : Prop where
  send : space.keysSend = some g
  recv : space.keysRecv = some g
  recvNext : space.keysRecvNext = some (g + 1)
  recvPrevious : ∀ h, space.keysRecvPrevious = some h ↔ g = h + 1
  secretSend : space.secretSend = some g
  secretNext : space.secretRecvNext = some (g + 1)
  phase : space.keyPhase = g.bodd

structure Rotated (space space' : Space ℕ ℕ) : Prop where
  sendFirst : space'.keyPhaseSendFirst = space.nextPacketNumber
  number : space'.nextPacketNumber = space.nextPacketNumber
  received : space'.received = space.received
  largest : space'.largestReceived = space.largestReceived
  first : space'.keyPhaseFirst = none

section Space

variable {space : Space ℕ ℕ} {g : ℕ}

lemma AtGeneration.rotateKeys (h : AtGeneration space g) (now retention : ℚ) :
    ∃ space', space.rotateKeys nextGeneration now retention = .ok space' ∧
      AtGeneration space' (g + 1) ∧ Rotated space space' := by
  simp only [Space.rotateKeys, h.recvNext, h.send, Except.ok.injEq, exists_eq_left']
  refine ⟨⟨?_, rfl, ?_, fun n => ?_, ?_, ?_, ?_⟩, ⟨rfl, rfl, rfl, rfl, rfl⟩⟩
  · simp [nextGeneration, h.secretSend]
  · simp [nextGeneration, h.secretNext]
  · simp [h.recv]
  · simp [nextGeneration, h.secretSend]
  · simp [nextGeneration, h.secretNext]
  · simp [h.phase]

lemma AtGeneration.receiveKeys (h : AtGeneration space g) (packet : Space.Revealed) (confirmed : Bool) (now : ℚ) :
    space.receiveKeys .oneRtt packet confirmed now = .ok
      (if packet.keyPhase = space.keyPhase then (g, false)
      else if space.beforePhase packet.packetNumber then
        if 0 < g ∧ now ≤ space.keysRecvPreviousExpiry then (g - 1, false) else (g, false)
      else if confirmed then (g + 1, true) else (g, false)) := by
  simp only [Space.receiveKeys, h.recv, h.recvNext, ne_eq, not_true_eq_false, false_or]
  by_cases hphase : packet.keyPhase = space.keyPhase
  · simp [hphase]
  by_cases hbefore : space.beforePhase packet.packetNumber = true
  · cases g with
    | zero =>
      have hnone : space.keysRecvPrevious = none := by
        rw [Option.eq_none_iff_forall_ne_some]
        intro n hn
        have := (h.recvPrevious n).1 hn
        omega
      simp [hphase, hbefore, hnone]
    | succ g =>
      simp only [hphase, hbefore, (h.recvPrevious g).2 rfl]
      by_cases hnow : now ≤ space.keysRecvPreviousExpiry
      · simp [hnow]
      · simp [hnow, not_le.1 hnow]
  · cases confirmed <;> simp [hphase, hbefore]

lemma AtGeneration.noteKeyPhase (h : AtGeneration space g) (packet : Space.Revealed) :
    AtGeneration (space.noteKeyPhase packet) g := by
  unfold Space.noteKeyPhase
  split_ifs
  · exact h
  · exact ⟨h.1, h.2, h.3, h.4, h.5, h.6, h.7⟩
  · exact h

lemma noteKeyPhase_sendFirst (space : Space ℕ ℕ) (packet : Space.Revealed) :
    (space.noteKeyPhase packet).keyPhaseSendFirst = space.keyPhaseSendFirst ∧
      (space.noteKeyPhase packet).nextPacketNumber = space.nextPacketNumber := by
  unfold Space.noteKeyPhase
  split_ifs <;> exact ⟨rfl, rfl⟩

lemma keyPhaseFirst_noteKeyPhase {packet : Space.Revealed} (h : packet.keyPhase = space.keyPhase) :
    (space.noteKeyPhase packet).keyPhaseFirst ≠ none := by
  unfold Space.noteKeyPhase
  rw [if_neg (not_not.2 h)]
  split_ifs with hbefore
  · simp
  · intro hnone
    simp [Space.beforePhase, hnone] at hbefore

end Space

structure Half (x y : Space ℕ ℕ) (acked : ℤ) (g k : ℕ) (wire back : List Packet) : Prop where
  atGeneration : AtGeneration x g
  sendFirst_le : x.keyPhaseSendFirst ≤ x.nextPacketNumber
  number_lt : ∀ p ∈ wire, p.number < x.nextPacketNumber
  generation_le : ∀ p ∈ wire, p.generation ≤ g
  current : ∀ p ∈ wire, x.keyPhaseSendFirst ≤ p.number → p.generation = g
  phase : ∀ p ∈ wire, p.phase = p.generation.bodd
  ordered : ∀ p ∈ wire, ∀ q ∈ wire, p.generation < q.generation → p.number < q.number
  received : ∀ n ∈ y.received, ∃ p ∈ wire, p.number = n ∧ p.generation ≤ k
  largest : 0 ≤ y.largestReceived → ∃ n ∈ y.received, y.largestReceived = (n : ℕ)
  first : ∀ f, y.keyPhaseFirst = some f → k = 0 ∧ f = 0 ∨ ∃ p ∈ wire, p.number = f ∧ p.generation = k
  seen : y.keyPhaseFirst = none → ∀ p ∈ wire, p.number ∈ y.received → p.generation ≠ k
  acks : ∀ p ∈ back, ∀ ack, .ack ack ∈ p.frames → ack.largest ∈ y.received
  acknowledged : 0 ≤ acked → ∃ n ∈ y.received, acked = (n : ℕ)
  bound : g ≤ k + 1
  ahead : g = k + 1 → y.keyPhaseFirst ≠ none

namespace Half

variable {x x' y y' : Space ℕ ℕ} {acked acked' : ℤ} {g k : ℕ} {wire back : List Packet} {p : Packet}

lemma generation_eq_of_number_eq (h : Half x y acked g k wire back) {p q : Packet} (hp : p ∈ wire)
    (hq : q ∈ wire) (hn : p.number = q.number) : p.generation = q.generation := by
  rcases lt_trichotomy p.generation q.generation with hlt | heq | hlt
  · exact absurd (h.ordered p hp q hq hlt) (by omega)
  · exact heq
  · exact absurd (h.ordered q hq p hp hlt) (by omega)

lemma generation_le_of_received (h : Half x y acked g k wire back) (hp : p ∈ wire)
    (hr : p.number ∈ y.received) : p.generation ≤ k := by
  obtain ⟨q, hq, hn, hle⟩ := h.received _ hr
  rwa [h.generation_eq_of_number_eq hp hq hn.symm]

lemma reached_of_acked (h : Half x y acked g k wire back) (hacked : (x.keyPhaseSendFirst : ℤ) ≤ acked) :
    g ≤ k ∧ (g = k → y.keyPhaseFirst ≠ none) := by
  obtain ⟨n, hn, rfl⟩ := h.acknowledged (by omega)
  obtain ⟨p, hp, rfl, hle⟩ := h.received n hn
  have hg : p.generation = g := h.current p hp (by exact_mod_cast hacked)
  exact ⟨hg ▸ hle, fun hgk hnone => h.seen hnone p hp hn (hg.trans hgk)⟩

lemma congr (h : Half x y acked g k wire back) (hx : AtGeneration x' g)
    (hfirst : x'.keyPhaseSendFirst = x.keyPhaseSendFirst)
    (hnumber : x'.nextPacketNumber = x.nextPacketNumber) (hreceived : y'.received = y.received)
    (hlargest : y'.largestReceived = y.largestReceived) (hphase : y'.keyPhaseFirst = y.keyPhaseFirst) :
    Half x' y' acked g k wire back :=
  { h with
    atGeneration := hx
    sendFirst_le := by rw [hfirst, hnumber]; exact h.sendFirst_le
    number_lt := by rw [hnumber]; exact h.number_lt
    current := by rw [hfirst]; exact h.current
    received := by rw [hreceived]; exact h.received
    largest := by rw [hlargest, hreceived]; exact h.largest
    first := by rw [hphase]; exact h.first
    seen := by rw [hphase, hreceived]; exact h.seen
    acks := by rw [hreceived]; exact h.acks
    acknowledged := by rw [hreceived]; exact h.acknowledged
    ahead := by rw [hphase]; exact h.ahead }

lemma rotate_left (h : Half x y acked g k wire back) (hx : AtGeneration x' (g + 1)) (hr : Rotated x x')
    (hle : g ≤ k) (hseen : g = k → y.keyPhaseFirst ≠ none) : Half x' y acked (g + 1) k wire back :=
  { h with
    atGeneration := hx
    sendFirst_le := by rw [hr.sendFirst, hr.number]
    number_lt := by rw [hr.number]; exact h.number_lt
    generation_le := fun p hp => (h.generation_le p hp).trans (Nat.le_succ g)
    current := fun p hp hge => absurd (h.number_lt p hp) (by rw [hr.sendFirst] at hge; omega)
    bound := by omega
    ahead := fun heq => hseen (by omega) }

lemma rotate_right (h : Half x y acked g k wire back) (hr : Rotated y y') :
    Half x y' acked g (k + 1) wire back :=
  { h with
    received := fun n hn => by
      obtain ⟨p, hp, hpn, hle⟩ := h.received n (hr.received ▸ hn)
      exact ⟨p, hp, hpn, by omega⟩
    largest := by rw [hr.largest, hr.received]; exact h.largest
    first := fun f hf => by simp [hr.first] at hf
    seen := fun _ p hp hrec => by
      have := h.generation_le_of_received hp (hr.received ▸ hrec)
      omega
    acks := by rw [hr.received]; exact h.acks
    acknowledged := by rw [hr.received]; exact h.acknowledged
    bound := by have := h.bound; omega
    ahead := fun heq => by have := h.bound; omega }

lemma emit_left (h : Half x y acked g k wire back) (b : Bool) (hn : p.number = x.nextPacketNumber)
    (hg : p.generation = g) (hp : p.phase = x.keyPhase) :
    Half { x with nextPacketNumber := x.nextPacketNumber + 1, ackElicitingPending := b } y acked g k
      (wire ++ [p]) back := by
  have hnew : ∀ {P : Packet → Prop}, (∀ q ∈ wire, P q) → P p → ∀ q ∈ wire ++ [p], P q := by
    intro P hold hp q hq
    rcases List.mem_append.1 hq with hq | hq
    · exact hold q hq
    · exact List.mem_singleton.1 hq ▸ hp
  have hat := h.atGeneration
  refine { h with
    atGeneration := ⟨hat.1, hat.2, hat.3, hat.4, hat.5, hat.6, hat.7⟩
    sendFirst_le := h.sendFirst_le.trans (Nat.le_succ _)
    number_lt := hnew (fun q hq => (h.number_lt q hq).trans (Nat.lt_succ_self _)) (by simp [hn])
    generation_le := hnew h.generation_le hg.le
    current := hnew h.current fun _ => hg
    phase := hnew h.phase (by rw [hp, hg, h.atGeneration.phase])
    ordered := hnew (fun q hq => hnew (h.ordered q hq) fun _ => by have := h.number_lt q hq; omega)
      (hnew (fun q hq hlt => absurd (h.generation_le q hq) (by omega)) fun hlt => by omega)
    received := fun n hn => ?_
    first := fun f hf => ?_
    seen := fun hnone => hnew (h.seen hnone) fun hr => ?_ }
  · obtain ⟨q, hq, hqn, hle⟩ := h.received n hn
    exact ⟨q, List.mem_append_left _ hq, hqn, hle⟩
  · refine (h.first f hf).imp_right ?_
    rintro ⟨q, hq, hqf⟩
    exact ⟨q, List.mem_append_left _ hq, hqf⟩
  · obtain ⟨q, hq, hqn, -⟩ := h.received _ hr
    exact absurd (h.number_lt q hq) (by omega)

lemma emit_right (h : Half x y acked g k wire back) (b : Bool) (n : ℕ)
    (hacks : ∀ ack, .ack ack ∈ p.frames → ack.largest ∈ y.received) :
    Half x { y with nextPacketNumber := n, ackElicitingPending := b } acked g k wire (back ++ [p]) :=
  { h with
    acks := fun q hq => by
      rcases List.mem_append.1 hq with hq | hq
      · exact h.acks q hq
      · exact List.mem_singleton.1 hq ▸ hacks }

lemma largest_of_buildAck (h : Half x y acked g k wire back) {ack : Ack} (hack : y.buildAck = some ack) :
    ack.largest ∈ y.received := by
  by_cases hnone : ¬y.ackElicitingPending ∨ y.largestReceived < 0
  · simp only [Space.buildAck, if_pos hnone, reduceCtorEq] at hack
  · simp only [Space.buildAck, if_neg hnone, Option.some.injEq] at hack
    rw [not_or, not_lt] at hnone
    obtain ⟨n, hn, hlargest⟩ := h.largest hnone.2
    subst hack
    simpa [hlargest] using hn

lemma note_right (h : Half x y acked g k wire back) (hp : p ∈ wire)
    (hg : p.phase = y.keyPhase → p.generation = k) :
    Half x (y.noteKeyPhase p.revealed) acked g k wire back := by
  unfold Space.noteKeyPhase
  split_ifs with hphase hbefore
  · exact h
  · have hpk := hg (not_not.1 hphase)
    exact { h with
      first := fun f hf => .inr ⟨p, hp, Option.some.inj hf, hpk⟩
      seen := fun hnone => by simp at hnone
      ahead := fun _ => by simp }
  · exact h

lemma receive_right (h : Half x y acked g k wire back) (hp : p ∈ wire) (hle : p.generation ≤ k)
    (hfirst : p.generation = k → y.keyPhaseFirst ≠ none) (ecn : ℕ) :
    Half x (y.noteReceived p.number ecn) acked g k wire back := by
  have hmem : ∀ n, n ∈ (y.noteReceived p.number ecn).received ↔ n ∈ y.received ∨ n = p.number := by
    intro n
    simp only [Space.noteReceived, RangeSet.mem_add]
    exact or_congr_right (by omega)
  refine { h with
    received := fun n hn => ?_
    largest := fun h0 => ?_
    seen := fun hnone q hq hqr => ?_
    acks := fun q hq ack hack => (hmem _).2 (.inl (h.acks q hq ack hack))
    acknowledged := fun h0 => ?_ }
  · rcases (hmem n).1 hn with hn | rfl
    · exact h.received n hn
    · exact ⟨p, hp, rfl, hle⟩
  · rcases le_total y.largestReceived p.number with hle | hle
    · exact ⟨p.number, (hmem _).2 (.inr rfl), max_eq_right hle⟩
    · obtain ⟨n, hn, hl⟩ := h.largest (by omega)
      exact ⟨n, (hmem _).2 (.inl hn), (max_eq_left hle).trans hl⟩
  · rcases (hmem _).1 hqr with hr | hn
    · exact h.seen hnone q hq hr
    · intro hqk
      exact hfirst ((h.generation_eq_of_number_eq hp hq hn.symm).trans hqk) hnone
  · obtain ⟨n, hn, ha⟩ := h.acknowledged h0
    exact ⟨n, (hmem _).2 (.inl hn), ha⟩

lemma beforePhase_of_lt (h : Half x y acked g k wire back) (hp : p ∈ wire) (hlt : p.generation < k) :
    y.beforePhase p.number = true := by
  unfold Space.beforePhase
  split
  · rfl
  · next f hf =>
    rcases h.first f hf with ⟨rfl, -⟩ | ⟨q, hq, rfl, rfl⟩
    · omega
    · exact decide_eq_true (h.ordered p hp q hq hlt)

lemma beforePhase_of_next (h : Half x y acked g k wire back) (hp : p ∈ wire) (hnext : p.generation = k + 1) :
    y.beforePhase p.number = false := by
  have hahead : g = k + 1 := by
    have := h.generation_le p hp
    have := h.bound
    omega
  unfold Space.beforePhase
  split
  · next hnone => exact absurd hnone (h.ahead hahead)
  · next f hf =>
    rcases h.first f hf with ⟨-, rfl⟩ | ⟨q, hq, rfl, rfl⟩
    · simp
    · exact decide_eq_false (h.ordered q hq p hp (by omega)).not_gt

lemma ack_left (h : Half x y acked g k wire back) (hp : p ∈ back)
    (hacked : acked' = acked ∨ ∃ ack, .ack ack ∈ p.frames ∧ acked' = ack.largest) :
    Half x y acked' g k wire back :=
  { h with
    acknowledged := fun h0 => by
      rcases hacked with rfl | ⟨ack, hack, rfl⟩
      · exact h.acknowledged h0
      · exact ⟨ack.largest, h.acks p hp ack hack, rfl⟩ }

end Half

namespace Endpoint

def largestAcked (e : Endpoint) : ℤ := e.recovery.largestAcked .oneRtt

structure Follows (frames : List Frame) (e e' : Endpoint) : Prop where
  space : ∃ b, e'.space = { e.space with ackElicitingPending := b }
  acked : e'.largestAcked = e.largestAcked ∨ ∃ ack, .ack ack ∈ frames ∧ e'.largestAcked = ack.largest

section Follows

variable {frames : List Frame} {e e' e'' : Endpoint}

lemma Follows.refl (frames : List Frame) (e : Endpoint) : Follows frames e e :=
  ⟨⟨e.space.ackElicitingPending, rfl⟩, .inl rfl⟩

lemma Follows.of_eq (hspace : e'.space = e.space) (hacked : e'.largestAcked = e.largestAcked) :
    Follows frames e e' :=
  ⟨⟨e.space.ackElicitingPending, hspace⟩, .inl hacked⟩

lemma Follows.trans (h : Follows frames e e') (h' : Follows frames e' e'') : Follows frames e e'' := by
  obtain ⟨b, hb⟩ := h.space
  obtain ⟨b', hb'⟩ := h'.space
  refine ⟨⟨b', by rw [hb', hb]⟩, ?_⟩
  rcases h'.acked with h₂ | h₂
  · exact h₂ ▸ h.acked
  · exact .inr h₂

lemma follows_requeueLost (packet : SentPacket) (e : Endpoint) :
    Follows frames e (e.requeueLost packet) := by
  unfold requeueLost
  split_ifs
  · exact .of_eq rfl rfl
  · exact .refl frames e

lemma follows_requeueAll (packets : List SentPacket) (e : Endpoint) :
    Follows frames e (e.requeueAll packets) := by
  unfold requeueAll
  induction packets generalizing e with
  | nil => exact .refl frames e
  | cons packet packets ih => exact (follows_requeueLost packet e).trans (ih _)

lemma follows_confirmHandshake (e : Endpoint) : Follows frames e e.confirmHandshake :=
  .of_eq rfl (by simp [largestAcked, confirmHandshake, LossDetection.largestAcked,
    LossDetection.discardSpace, LossDetection.emptied])

lemma follows_onHandshakeComplete (e : Endpoint) : Follows frames e e.onHandshakeComplete := by
  simp only [onHandshakeComplete]
  split_ifs
  · exact .refl frames e
  · exact .of_eq rfl rfl
  · refine Follows.trans ?_ (follows_confirmHandshake _)
    exact .of_eq rfl rfl

lemma handleAck_follows (ack : Ack) (now : ℚ) (hack : .ack ack ∈ frames) (e : Endpoint) :
    Always (handleAck ack now) e (Follows frames e) := by
  -- an ACK that is refused or fails still only moves the largest acknowledged number
  have hgrows : ∀ {l'}, LossDetection.AckGrows e.recovery .oneRtt ack l' →
      Follows frames e { e with recovery := l' } := by
    intro l' h
    refine ⟨⟨_, rfl⟩, ?_⟩
    rcases h .oneRtt with h | ⟨-, h⟩
    · exact .inl h
    · rcases max_choice (e.recovery.largestAcked .oneRtt) (ack.largest : ℤ) with hm | hm
      · exact .inl (h.trans hm)
      · exact .inr ⟨ack, hack, h.trans hm⟩
  simp only [handleAck, ensures_state]
  refine (LossDetection.onAckReceived_spec e.recovery .oneRtt ack 0 now).mono ?_ ?_
  · rintro outcome l' ⟨-, -, h⟩
    exact (hgrows h).trans (follows_requeueAll _ _)
  · rintro error l' (⟨-, rfl⟩ | ⟨h, -⟩)
    · exact .of_eq rfl rfl
    · exact hgrows h

lemma handleFrame_follows (now : ℚ) {frame : Frame} (hframe : frame ∈ frames) (e : Endpoint) :
    Always (handleFrame now frame) e (Follows frames e) := by
  have hpending : Follows frames e { e with space := { e.space with ackElicitingPending := true } } :=
    ⟨⟨true, rfl⟩, .inl rfl⟩
  cases frame with
  | ack ack =>
    simp only [handleFrame, ensures_flow]
    exact ⟨fun h => by simp [isAckEliciting] at h, fun _ => handleAck_follows ack now hframe e⟩
  | handshakeDone =>
    simp only [handleFrame, ensures_flow]
    exact ⟨fun _ => ⟨fun _ => hpending, fun _ => hpending.trans (follows_confirmHandshake _)⟩,
      fun h => by simp [isAckEliciting] at h⟩
  | _ =>
    simp only [handleFrame, ensures_flow]
    exact ⟨fun _ => hpending, fun _ => .refl frames e⟩

lemma handleFrames_follows (e : Endpoint) (frames : List Frame) (now : ℚ) :
    Follows frames e (e.handleFrames frames now) := by
  have hloop : Ensures (each (handleFrame now) frames) e
      (fun _ e' => (∀ frame ∈ ([] : List Frame), frame ∈ frames) ∧ Follows frames e e')
      fun _ e' => Follows frames e e' := by
    apply ensures_each (I := fun rest e' => (∀ frame ∈ rest, frame ∈ frames) ∧ Follows frames e e')
    · rintro frame rest e' ⟨hsub, h⟩
      apply (handleFrame_follows now (hsub frame (by simp)) e').mono
      · exact fun _ _ h' => ⟨fun f hf => hsub f (by simp [hf]), h.trans h'⟩
      · exact fun _ _ h' => h.trans h'
    · exact ⟨fun _ h => h, .refl frames e⟩
  unfold handleFrames
  cases hrun : each (handleFrame now) frames e with
  | ok _ e' => exact (hloop.of_ok hrun).2
  | error _ e' => exact (hloop.of_error hrun).trans (.of_eq rfl rfl)

lemma follows_handleTimer (e : Endpoint) (busy : Bool) (now : ℚ) :
    Follows frames e (e.handleTimer busy now) := by
  have hprobe : ∀ (e : Endpoint) (level : Level), Follows frames e (e.prepareProbe level busy) := by
    intro e level
    unfold prepareProbe
    split_ifs
    · exact .refl frames e
    · exact follows_requeueAll _ e
    · exact .refl frames e
  unfold handleTimer
  split
  · exact .refl frames e
  · split_ifs
    · exact .refl frames e
    · have htimeout : Follows frames e { e with recovery := (e.recovery.onLossDetectionTimeout now).2 } :=
        .of_eq rfl (LossDetection.largestAcked_onLossDetectionTimeout _ _ _)
      have hlost := htimeout.trans
        (follows_requeueAll (e.recovery.onLossDetectionTimeout now).1.lost _)
      dsimp only
      split
      · exact hlost
      · exact hlost.trans (hprobe _ _)

end Follows

end Endpoint

lemma Endpoint.buildAck_of_mem_chooseFrames {e : Endpoint} {ackFits data : Bool} {ack : Ack}
    (h : .ack ack ∈ e.chooseFrames ackFits data) : e.space.buildAck = some ack := by
  simp only [chooseFrames, List.mem_append] at h
  rcases h with (h | h) | h
  · split_ifs at h
    · simpa using h
    · simp at h
  · split_ifs at h <;> simp at h
  · split_ifs at h <;> simp at h

lemma Endpoint.decrypt_eq_some {e e' : Endpoint} {p : Packet} {now : ℚ} {updating : Bool}
    (h : e.decrypt p now = some (e', updating)) :
    e.selectKeys p now = .ok (p.generation, updating) ∧
      e' = { (if updating then e.rotate now else e) with
        space := (if updating then e.rotate now else e).space.noteKeyPhase p.revealed } := by
  unfold Endpoint.decrypt at h
  split at h
  · cases h
  · next selected up hkeys =>
    by_cases hgen : selected ≠ p.generation
    · simp only [if_pos hgen, reduceCtorEq] at h
    · simp only [if_neg hgen, Option.some.injEq, Prod.mk.injEq] at h
      obtain ⟨rfl, rfl⟩ := h
      exact ⟨by rw [hkeys, not_not.1 hgen], rfl⟩

structure Linked (a b : Endpoint) (g k : ℕ) (sent received : List Packet) : Prop where
  out : Half a.space b.space a.largestAcked g k sent received
  back : Half b.space a.space b.largestAcked k g received sent

namespace Linked

open Endpoint

variable {a a' b : Endpoint} {g k : ℕ} {sent received : List Packet} {p : Packet} {now : ℚ}

lemma symm (h : Linked a b g k sent received) : Linked b a k g received sent := ⟨h.back, h.out⟩

lemma start (isClient : Bool) (m n : ℕ) : Linked (.new isClient m) (.new (!isClient) n) 0 0 [] [] := by
  have hhalf : ∀ (c d : Bool) (m n : ℕ), Half (Endpoint.new c m).space (Endpoint.new d n).space
      (Endpoint.new c m).largestAcked 0 0 [] [] := by
    intro c d m n
    refine ⟨⟨rfl, rfl, rfl, fun h => ?_, rfl, rfl, rfl⟩, le_rfl, by simp, by simp, by simp, by simp, by simp,
      ?_, ?_, ?_, by simp, by simp, ?_, by omega, by omega⟩
    · simp [Endpoint.new, Space.new]
    · simp [Endpoint.new, Space.new]
    · simp [Endpoint.new, Space.new]
    · intro f hf
      exact .inl ⟨rfl, (Option.some.inj hf).symm⟩
    · intro h
      simp [Endpoint.new, Endpoint.largestAcked, LossDetection.largestAcked, LossDetection.new, SentSpace.new] at h
  exact ⟨hhalf _ _ _ _, hhalf _ _ _ _⟩

lemma follows {frames : List Frame} (h : Linked a b g k sent received) (hf : Follows frames a a')
    (hframes : frames = [] ∨ ∃ p ∈ received, p.frames = frames) : Linked a' b g k sent received := by
  obtain ⟨pending, hspace⟩ := hf.space
  have hat := h.out.atGeneration
  have hout : Half a'.space b.space a.largestAcked g k sent received := by
    rw [hspace]
    exact h.out.congr ⟨hat.1, hat.2, hat.3, hat.4, hat.5, hat.6, hat.7⟩ rfl rfl rfl rfl rfl
  have hback : Half b.space a'.space b.largestAcked k g received sent := by
    rw [hspace]
    exact h.back.congr h.back.atGeneration rfl rfl rfl rfl rfl
  refine ⟨?_, hback⟩
  rcases hf.acked with hsame | ⟨ack, hack, hacked⟩
  · rwa [hsame]
  · rcases hframes with rfl | ⟨p, hp, rfl⟩
    · simp at hack
    · exact hout.ack_left hp (.inr ⟨ack, hack, hacked⟩)

lemma rotate (h : Linked a b g k sent received) (now : ℚ) (hle : g ≤ k)
    (hseen : g = k → b.space.keyPhaseFirst ≠ none) : Linked (a.rotate now) b (g + 1) k sent received := by
  obtain ⟨space, hrotate, hat, hrotated⟩ := h.out.atGeneration.rotateKeys now (3 * a.recovery.pto)
  have ha : a.rotate now = { a with space := space } := by simp only [Endpoint.rotate, hrotate]
  rw [ha]
  exact ⟨h.out.rotate_left hat hrotated hle hseen, h.back.rotate_right hrotated⟩

lemma initiateKeyUpdate (h : Linked a b g k sent received) (now : ℚ) :
    ∃ g', Linked (a.initiateKeyUpdate now) b g' k sent received := by
  unfold Endpoint.initiateKeyUpdate
  split_ifs with hmay
  · simp only [Space.mayUpdate, Bool.and_eq_true, decide_eq_true_eq] at hmay
    obtain ⟨hle, hseen⟩ := h.out.reached_of_acked hmay.2
    exact ⟨g + 1, h.rotate now hle hseen⟩
  · exact ⟨g, h⟩

lemma send (h : Linked a b g k sent received) (now : ℚ) (ackFits data : Bool) (size : ℕ) :
    Linked (a.send now ackFits data size).2 b g k
      (sent ++ (a.send now ackFits data size).1.toList) received := by
  simp only [Endpoint.send, h.out.atGeneration.send]
  split_ifs with hnone
  · simpa using h
  · have hacked : (a.afterSending (a.chooseFrames ackFits data) (ackFits && a.space.buildAck.isSome) now
        size).largestAcked = a.largestAcked := by
      simp [Endpoint.largestAcked, afterSending, LossDetection.largestAcked, LossDetection.onPacketSent]
    refine ⟨hacked ▸ h.out.emit_left _ rfl rfl rfl, h.back.emit_right _ _ fun ack hack => ?_⟩
    exact h.back.largest_of_buildAck (buildAck_of_mem_chooseFrames hack)

lemma note (h : Linked a b g k sent received) (hp : p ∈ received)
    (hg : p.phase = a.space.keyPhase → p.generation = g) :
    Linked { a with space := a.space.noteKeyPhase p.revealed } b g k sent received :=
  ⟨h.out.congr (h.out.atGeneration.noteKeyPhase _) (noteKeyPhase_sendFirst _ _).1
    (noteKeyPhase_sendFirst _ _).2 rfl rfl rfl, h.back.note_right hp hg⟩

lemma phase_eq (h : Linked a b g k sent received) (hp : p ∈ received) (hg : p.generation = g) :
    p.phase = a.space.keyPhase := by
  rw [h.back.phase p hp, hg, h.out.atGeneration.phase]

lemma decrypt {updating : Bool} (h : Linked a b g k sent received) (hp : p ∈ received)
    (hd : a.decrypt p now = some (a', updating)) :
    ∃ g', Linked a' b g' k sent received ∧ p.generation ≤ g' ∧
      (p.generation = g' → a'.space.keyPhaseFirst ≠ none) ∧ (updating = true → p.generation = g') := by
  obtain ⟨hkeys, rfl⟩ := decrypt_eq_some hd
  rw [selectKeys, h.out.atGeneration.receiveKeys, Except.ok.injEq] at hkeys
  by_cases hphase : p.phase = a.space.keyPhase
  · -- the current keys
    obtain ⟨hg, rfl⟩ := Prod.mk.inj ((if_pos hphase).symm.trans hkeys)
    exact ⟨g, h.note hp fun _ => hg.symm, hg.symm.le, fun _ => keyPhaseFirst_noteKeyPhase hphase, by simp⟩
  have hne : g ≠ p.generation := fun hg => hphase (h.phase_eq hp hg.symm)
  replace hkeys := (if_neg hphase).symm.trans hkeys
  split_ifs at hkeys with hbefore hprevious hconfirmed
  · -- the previous keys
    obtain ⟨hg, rfl⟩ := Prod.mk.inj hkeys
    exact ⟨g, h.note hp fun h => absurd h hphase, by omega, fun hg => absurd hg.symm hne, by simp⟩
  · exact absurd (Prod.mk.inj hkeys).1 hne
  · -- the peer has updated
    obtain ⟨hg, rfl⟩ := Prod.mk.inj hkeys
    have hle := h.back.generation_le p hp
    have hrotated := h.rotate now (by omega) (by omega)
    exact ⟨g + 1, hrotated.note hp fun _ => hg.symm, hg.symm.le,
      fun _ => keyPhaseFirst_noteKeyPhase (hrotated.phase_eq hp hg.symm), fun _ => hg.symm⟩
  · exact absurd (Prod.mk.inj hkeys).1 hne

lemma accept (h : Linked a b g k sent received) (hp : p ∈ received) (hle : p.generation ≤ g)
    (hfirst : p.generation = g → a.space.keyPhaseFirst ≠ none) (now : ℚ) :
    Linked (a.accept p now) b g k sent received := by
  unfold Endpoint.accept
  split_ifs
  · exact h
  · have hat := h.out.atGeneration
    have hnoted : Linked { a with space := a.space.noteReceived p.number 0 } b g k sent received :=
      ⟨h.out.congr ⟨hat.1, hat.2, hat.3, hat.4, hat.5, hat.6, hat.7⟩ rfl rfl rfl rfl rfl,
        h.back.receive_right hp hle hfirst 0⟩
    exact hnoted.follows (handleFrames_follows _ p.frames now) (.inr ⟨p, hp, rfl⟩)

end Linked

namespace Peers

structure Inv (s : Peers) (g : Bool → ℕ) : Prop where
  linked : ∀ side, Linked (s.endpoint side) (s.endpoint !side) (g side) (g !side) (s.wire side) (s.wire !side)
  rotations : ∀ r ∈ s.rotations, r.2 = r.1

section Inv

variable {s : Peers} {g : Bool → ℕ} {side : Bool} {k : ℕ}

lemma inv_init (maxDatagramSize : Bool → ℕ) : Inv (init maxDatagramSize) fun _ => 0 :=
  ⟨fun side => Linked.start side _ _, by simp [init]⟩

lemma inv_update {e : Endpoint} {wire : List Packet} {rotations : List (ℕ × ℕ)}
    (hlinked : Linked e (s.endpoint !side) k (g !side) wire (s.wire !side))
    (hrotations : ∀ r ∈ rotations, r.2 = r.1) :
    ∃ g', Inv ⟨Function.update s.endpoint side e, Function.update s.wire side wire, rotations⟩ g' := by
  refine ⟨Function.update g side k, fun other => ?_, hrotations⟩
  have hne : (!side) ≠ side := by cases side <;> simp
  by_cases hside : other = side
  · subst hside
    simpa only [Function.update_self, Function.update_of_ne hne] using hlinked
  · obtain rfl : other = !side := by cases other <;> cases side <;> simp_all
    simpa only [Bool.not_not, Function.update_self, Function.update_of_ne hne] using hlinked.symm

lemma Inv.put (h : Inv s g) {e : Endpoint}
    (hlinked : Linked e (s.endpoint !side) k (g !side) (s.wire side) (s.wire !side)) :
    ∃ g', Inv (s.put side e) g' := by
  have := inv_update hlinked h.rotations
  rwa [Function.update_eq_self] at this

lemma Inv.receive (h : Inv s g) {p : Packet} (hp : p ∈ s.wire !side) (now : ℚ) :
    ∃ g', Inv (s.receive side p now) g' := by
  simp only [Peers.receive]
  split_ifs with hprocesses
  swap
  · exact ⟨g, h⟩
  split
  · exact ⟨g, h⟩
  · next e updating hd =>
    obtain ⟨k, hlinked, hle, hfirst, hrotated⟩ := (h.linked side).decrypt hp hd
    have haccepted := hlinked.accept hp hle hfirst now
    split_ifs with hup
    · have hrotations : ∀ r ∈ (p.generation, e.space.keysRecv.getD 0) :: s.rotations, r.2 = r.1 := by
        intro r hr
        rcases List.mem_cons.1 hr with rfl | hr
        · simp [hlinked.out.atGeneration.recv, hrotated hup]
        · exact h.rotations r hr
      have := inv_update haccepted hrotations
      rwa [Function.update_eq_self] at this
    · exact h.put haccepted

lemma Inv.step (h : Inv s g) (action : Action) : ∃ g', Inv (s.step action) g' := by
  cases action with
  | complete side => exact h.put ((h.linked side).follows (Endpoint.follows_onHandshakeComplete _) (.inl rfl))
  | send side now ackFits data size =>
    have := inv_update ((h.linked side).send now ackFits data size) h.rotations
    simp only [Peers.step]
    cases hpacket : ((s.endpoint side).send now ackFits data size).1 with
    | none => simpa [hpacket, Peers.transmit, Peers.put] using this
    | some packet => simpa [hpacket, Peers.transmit, Peers.put] using this
  | initiate side now =>
    obtain ⟨k, hk⟩ := (h.linked side).initiateKeyUpdate now
    exact h.put hk
  | deliver side packet now =>
    simp only [Peers.step]
    split
    · exact ⟨g, h⟩
    · next p hp => exact h.receive (List.mem_of_getElem? hp) now
  | timeout side busy now => exact h.put ((h.linked side).follows (Endpoint.follows_handleTimer _ _ _) (.inl rfl))

lemma inv_run (maxDatagramSize : Bool → ℕ) (actions : List Action) :
    ∃ g, Inv ((init maxDatagramSize).run actions) g := by
  have hrun : ∀ (actions : List Action) (s : Peers) (g : Bool → ℕ), Inv s g → ∃ g', Inv (s.run actions) g' := by
    intro actions
    induction actions with
    | nil => exact fun s g h => ⟨g, h⟩
    | cons action actions ih =>
      intro s g h
      obtain ⟨g', h'⟩ := h.step action
      exact ih _ g' h'
  exact hrun actions _ _ (inv_init maxDatagramSize)

end Inv

/-- In every run the two directions of an endpoint share one generation, the generations of the two
endpoints differ by at most one, and a rotation that a packet caused moved to the packet's generation. -/
theorem generations_in_step (maxDatagramSize : Bool → ℕ) (actions : List Action) :
    ∃ g : Bool → ℕ,
      (∀ side, (((init maxDatagramSize).run actions).endpoint side).space.keysSend = some (g side) ∧
        (((init maxDatagramSize).run actions).endpoint side).space.keysRecv = some (g side)) ∧
      g true ≤ g false + 1 ∧ g false ≤ g true + 1 ∧
      ∀ r ∈ ((init maxDatagramSize).run actions).rotations, r.2 = r.1 := by
  obtain ⟨g, h⟩ := inv_run maxDatagramSize actions
  exact ⟨g, fun side => ⟨(h.linked side).out.atGeneration.send, (h.linked side).out.atGeneration.recv⟩,
    (h.linked true).out.bound, (h.linked false).out.bound, h.rotations⟩

def Owed (e : Endpoint) (p : Packet) (now : ℚ) : Prop :=
  some p.generation = e.space.keysRecv ∨
    some (p.generation + 1) = e.space.keysRecv ∧ now ≤ e.space.keysRecvPreviousExpiry ∨
    some p.generation = e.space.keysRecv.map (· + 1)

/-- An owed packet in flight is given the keys of its generation, except that
an endpoint whose handshake is not confirmed never follows its peer to the next one. -/
theorem selectKeys_of_owed_iff (maxDatagramSize : Bool → ℕ) (actions : List Action) (side : Bool)
    (p : Packet) (now : ℚ) (hp : p ∈ ((init maxDatagramSize).run actions).wire !side)
    (howed : Owed (((init maxDatagramSize).run actions).endpoint side) p now) :
    (∃ updating, (((init maxDatagramSize).run actions).endpoint side).selectKeys p now =
        .ok (p.generation, updating)) ↔
      ((((init maxDatagramSize).run actions).endpoint side).confirmed = true ∨
        some p.generation ≠ (((init maxDatagramSize).run actions).endpoint side).space.keysRecv.map (· + 1)) := by
  obtain ⟨g, h⟩ := inv_run maxDatagramSize actions
  have hside := h.linked side
  have hat := hside.out.atGeneration
  have hback := hside.back
  generalize ((init maxDatagramSize).run actions).endpoint side = e at *
  simp only [Owed, hat.recv, Option.some.injEq, Option.map_some] at howed
  simp only [Endpoint.selectKeys, hat.receiveKeys, Packet.revealed, hat.recv, Option.map_some, ne_eq,
    Option.some.injEq, Except.ok.injEq]
  rcases howed with hg | ⟨hg, hnow⟩ | hg
  · -- the current generation
    simp [hside.phase_eq hp hg, hg]
  · -- the previous one, retained
    have hphase : p.phase ≠ e.space.keyPhase := by
      rw [hback.phase p hp, hat.phase, ← hg]
      simp
    have hbefore := hback.beforePhase_of_lt hp (by omega)
    have hne : p.generation ≠ g side + 1 := by omega
    have hpos : 0 < g side := by omega
    simp [hphase, hbefore, hnow, hne, hpos]
    omega
  · -- the next one
    have hphase : p.phase ≠ e.space.keyPhase := by
      rw [hback.phase p hp, hat.phase, hg]
      simp
    have hbefore := hback.beforePhase_of_next hp hg
    cases hconfirmed : e.confirmed <;> simp [hphase, hbefore, hg]

def doneDelivered : List Action :=
  [.complete true, .complete false, .send false 0 true false 100, .deliver true 0 1, .send true 1 true false 50,
    .deliver false 0 1, .initiate false 2, .send false 2 true true 100]

theorem selectKeys_doneDelivered :
    ∃ updating, (((init fun _ => 1200).run doneDelivered).endpoint true).selectKeys ⟨1, true, 1, [.ping]⟩ 3 =
      .ok (1, updating) :=
  (selectKeys_of_owed_iff (fun _ => 1200) doneDelivered true ⟨1, true, 1, [.ping]⟩ 3 (by decide +kernel)
    (.inr (.inr (by decide +kernel)))).2 (.inl (by decide +kernel))

def doneLost : List Action :=
  [.complete true, .complete false, .send false 0 true false 100, .send false 0 true true 100,
    .deliver true 1 1, .send true 1 true false 50, .deliver false 0 1, .initiate false 2,
    .send false 2 true true 100]

def updated : Packet := ⟨2, true, 1, [.ping]⟩

theorem selectKeys_doneLost :
    updated ∈ ((init fun _ => 1200).run doneLost).wire false ∧
      (((init fun _ => 1200).run doneLost).endpoint true).state = .connected ∧
      Owed (((init fun _ => 1200).run doneLost).endpoint true) updated 3 ∧
      ¬∃ updating, (((init fun _ => 1200).run doneLost).endpoint true).selectKeys updated 3 =
        .ok (updated.generation, updating) := by
  have hkeys : (((init fun _ => 1200).run doneLost).endpoint true).selectKeys updated 3 = .ok (0, false) := by
    decide +kernel
  refine ⟨by decide +kernel, by decide +kernel, .inr (.inr (by decide +kernel)), ?_⟩
  rintro ⟨updating, h⟩
  rw [hkeys] at h
  simp [updated] at h

end Peers

end KeyUpdate

end Dsquic.Connection
