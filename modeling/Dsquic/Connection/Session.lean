import Dsquic.Connection.Send

/-!
Timers and the application interface of a connection, and runs: sequences of calls of its public
operations, each continuing from the state the last one left, raised or returned.
-/

namespace Dsquic.Connection

open Lib Wire Streams Recovery

variable {env : Env}

namespace Conn

def idleTimeoutMs (c : Conn env) : Option ℕ :=
  ([c.localParameters.maxIdleTimeoutMs, (c.peerParameters.map (·.maxIdleTimeoutMs)).getD 0].filter (0 < ·)).min?

def idleDeadline (c : Conn env) : Option ℚ :=
  match c.idleStarted, c.idleTimeoutMs with
  | some started, some timeout => some (started + max ((timeout : ℚ) / 1000) (3 * c.recovery.pto))
  | _, _ => none

def due (deadline : Option ℚ) (now : ℚ) : Bool :=
  match deadline with
  | none => false
  | some time => time ≤ now

def expire (c : Conn env) : Conn env :=
  { c.note (.expired c.state) with
    state := .terminated
    events := c.events ++ [.connectionTerminated noError "idle timeout"] }

def oweProbes (c : Conn env) (level : Level) : Conn env :=
  { c.note (.probed level (c.probesPending level) (c.spaces level).discarded) with
    probesPending := Function.update c.probesPending level (c.probesPending level + 2) }

end Conn

def onTimeout (now : ℚ) : M env PUnit := do
  let c ← get
  let (outcome, recovery) := c.recovery.onLossDetectionTimeout now
  set (c.setRecovery recovery)
  each requeueLost outcome.lost
  match outcome.probeLevel with
  | none => pure ⟨⟩
  | some level => do
    modify fun c => c.oweProbes level
    prepareProbe level

def handleTimer (now : ℚ) : M env PUnit := do
  let c ← get
  if Conn.due c.closingDeadline now then set { c with state := .terminated }
  else if c.state = .closing ∨ c.state = .draining then pure ⟨⟩
  else if Conn.due c.idleDeadline now then set c.expire
  else if Conn.due c.recovery.lossDetectionTimeout now then onTimeout now
  else pure ⟨⟩

def Conn.openEarlyStreams (c : Conn env) : Conn env :=
  match c.tls, c.rememberedParameters with
  | some tls, some remembered =>
    if env.earlySecret tls ≠ none then
      c.setStreams (.new true (flowLimits c.localParameters) (flowLimits remembered))
    else c
  | _, _ => c

def connect (now : ℚ) : M env PUnit := do
  let c ← get
  match c.tls with
  | none => throw .assertion
  | some tls => do
    set { c with tls := some (env.start tls now) }
    drainTlsEvents now
    modify fun c => c.openEarlyStreams.armIdleTimer now

def Conn.challengePath (c : Conn env) (data : Bytes) : Conn env :=
  { c with pathChallenges := c.pathChallenges ++ [data], pathValidated := false }.queueControl
    (.pathChallenge data)

def sendNewToken (token : Bytes) : M env PUnit := do
  let c ← get
  raiseIf c.isClient .assertion
  set (c.queueControl (.newToken token))

def openStream : M env ℕ := do
  let c ← get
  match c.streams with
  | none => throw (.runtime "cannot open a stream before the handshake completes")
  | some streams => tryCatch (onStreams streams StreamManager.openBidi) fun
    | .streamLimit reason => do
      modify fun c => c.queueControl (.streamsBlocked streams.maxStreamsBidi true)
      throw (.streamLimit reason)
    | e => throw e

def sendStreamData (streamId : ℕ) (data : Bytes) (endStream : Bool) : M env PUnit := do
  let c ← get
  match c.streams with
  | none => throw (.runtime "cannot send stream data before the handshake completes")
  | some streams => onStreams streams (StreamManager.withSend streamId (·.write data endStream))

/-- The public operations. Random bytes are arguments, and so is a bound on the rounds of the send loop. -/
inductive Op (env : Env)
  | datagramReceived (data : Bytes) (now : ℚ) (source : Option env.Destination) (ecn : ℕ)
  | datagramsToSend (now : ℚ) (rounds : ℕ)
  | handleTimer (now : ℚ)
  | close (errorCode : ℕ) (reason : String) (frameType : Option ℕ)
  | initiateKeyUpdate (now : ℚ)
  | validatePath (challenge : Bytes)
  | sendNewToken (token : Bytes)
  | openStream
  | sendStreamData (streamId : ℕ) (data : Bytes) (endStream : Bool)
  | takeEvents

/-- A connection with what its caller has given it and seen of it. -/
structure Session (env : Env) where
  conn : Conn env
  passed : ℕ
  returned : ℕ
  taken : List Event
  written : ℕ → ℕ
  finished : ℕ → Bool

namespace Session

def start (c : Conn env) : Session env := ⟨c, 0, 0, [], fun _ => 0, fun _ => false⟩

def totalLength (datagrams : List (OutgoingDatagram env)) : ℕ := (datagrams.map (·.data.length)).sum

def exec {α : Type} (s : Session env) (m : M env α) : Session env := { s with conn := finalState m s.conn }

def step (s : Session env) : Op env → Session env
  | .datagramReceived data now source ecn =>
    { s.exec (Connection.datagramReceived data now source ecn) with passed := s.passed + data.length }
  | .datagramsToSend now rounds =>
    match Connection.datagramsToSend now rounds s.conn with
    | .ok datagrams c => { s with conn := c, returned := s.returned + totalLength datagrams }
    | .error _ c => { s with conn := c }
  | .handleTimer now => s.exec (Connection.handleTimer now)
  | .close errorCode reason frameType => { s with conn := s.conn.close errorCode reason frameType }
  | .initiateKeyUpdate now => s.exec (Connection.initiateKeyUpdate now)
  | .validatePath challenge => { s with conn := s.conn.challengePath challenge }
  | .sendNewToken token => s.exec (Connection.sendNewToken token)
  | .openStream => s.exec Connection.openStream
  | .sendStreamData streamId data endStream =>
    match Connection.sendStreamData streamId data endStream s.conn with
    | .ok _ c => { s with
        conn := c
        written := Function.update s.written streamId (s.written streamId + data.length)
        finished := Function.update s.finished streamId (s.finished streamId || endStream) }
    | .error _ c => { s with conn := c }
  | .takeEvents => { s with conn := { s.conn with events := [] }, taken := s.taken ++ s.conn.events }

def run (s : Session env) (ops : List (Op env)) : Session env := ops.foldl step s

end Session

inductive Begins : Conn env → Prop
  | server (config : Config) (hostCid : Conn.Cid) (destination : Option env.Destination) :
      Begins (Conn.newServer env config hostCid destination)
  | client (config : Config) (hostCid peerCid : Conn.Cid) (ticketParameters : Option Bytes)
      (destination : Option env.Destination) (c : Conn env) (now : ℚ)
      (h : Conn.newClient env config hostCid peerCid ticketParameters destination = .ok c) :
      Begins (finalState (connect now) c)

end Dsquic.Connection
