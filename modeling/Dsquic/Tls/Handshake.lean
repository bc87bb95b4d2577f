import Dsquic.Lib.Framing
import Dsquic.Recovery.NewReno
import Dsquic.Tls.Messages

/-!
What both roles of a handshake share: the bytes received at each level are cut into messages, which the role
handles. -/

namespace Dsquic.Tls

open Lib Wire Buffer Recovery

inductive Direction
  | client
  | server
  deriving DecidableEq

/-- The ALPN protocol is its ASCII bytes. -/
inductive TlsEvent
  | sendData (level : Level) (data : Bytes)
  | secretAvailable (level : Level) (direction : Direction) (secret : Bytes) (cipherSuite : ℕ)
  | handshakeComplete (alpn peerTransportParameters : Bytes)
  deriving DecidableEq

namespace Alert

def unexpectedMessage : ℕ := 10
def handshakeFailure : ℕ := 40
def badCertificate : ℕ := 42
def illegalParameter : ℕ := 47
def decryptError : ℕ := 51
def protocolVersion : ℕ := 70
def missingExtension : ℕ := 109
def unsupportedExtension : ℕ := 110
def noApplicationProtocol : ℕ := 120

end Alert

def requireMessage (expects : HandshakeType × Level) (level : Level) (message : HandshakeMessage) :
    Except Raised PUnit :=
  if message.messageType ≠ expects.1 then
    .error (.tlsAlert Alert.unexpectedMessage s!"expected {expects.1.name}, got {message.messageType.name}")
  else if level ≠ expects.2 then
    .error (.tlsAlert Alert.unexpectedMessage s!"{message.messageType.name} at wrong level {level.name}")
  else .ok ⟨⟩

lemma requireMessage_ok {expects : HandshakeType × Level} {level : Level} {message : HandshakeMessage}
    (h : requireMessage expects level message = .ok ⟨⟩) : expects = (message.messageType, level) := by
  simp only [requireMessage] at h
  split_ifs at h with htype hlevel
  rw [not_not.1 htype, not_not.1 hlevel]

def headerLength : ℕ := 4

def cutMessage (buffer : Bytes) : Option (Bytes × Bytes) :=
  let length := headerLength + fromBytes ((buffer.take 4).drop 1)
  if headerLength ≤ buffer.length ∧ length ≤ buffer.length then some (buffer.take length, buffer.drop length)
  else none

lemma cutMessage_append {buffer raw rest : Bytes} (h : cutMessage buffer = some (raw, rest)) (more : Bytes) :
    cutMessage (buffer ++ more) = some (raw, rest ++ more) := by
  simp only [cutMessage, Option.ite_none_right_eq_some, Option.some.injEq, Prod.mk.injEq] at h ⊢
  obtain ⟨⟨hheader, hlength⟩, rfl, rfl⟩ := h
  have hbytes : (buffer ++ more).take 4 = buffer.take 4 := List.take_append_of_le_length hheader
  rw [hbytes, List.length_append, List.take_append_of_le_length hlength, List.drop_append_of_le_length hlength]
  exact ⟨⟨by omega, by omega⟩, rfl, rfl⟩

lemma cutMessage_shrinks {buffer raw rest : Bytes} (h : cutMessage buffer = some (raw, rest)) :
    rest.length < buffer.length := by
  simp only [cutMessage, Option.ite_none_right_eq_some, Option.some.injEq, Prod.mk.injEq] at h
  obtain ⟨⟨hheader, hlength⟩, -, rfl⟩ := h
  rw [List.length_drop]
  unfold headerLength at hheader ⊢
  omega

def messageFraming : Framing UInt8 := ⟨cutMessage, cutMessage_append, cutMessage_shrinks⟩

/-- `role` is what the client or the server adds; `handled` are the messages handed to it, with their levels and
bytes. -/
structure Handshake (σ : Type) where
  now : ℚ
  buffers : Level → Bytes
  role : σ
  handled : List (Level × HandshakeMessage × Bytes)

namespace Handshake

variable {σ : Type} (handle : ℚ → Level → HandshakeMessage → Bytes → EStateM Raised σ PUnit)

def new (role : σ) : Handshake σ := ⟨0, fun _ => [], role, []⟩

def extend (h : Handshake σ) (level : Level) (data : Bytes) : Handshake σ :=
  { h with buffers := Function.update h.buffers level (h.buffers level ++ data) }

def handleRaw (now : ℚ) (level : Level) (raw : Bytes) :
    EStateM Raised (List (Level × HandshakeMessage × Bytes) × σ) PUnit := do
  let (message, _) ← lift (parseHandshakeMessage raw)
  modify fun s => (s.1 ++ [(level, message, raw)], s.2)
  zoom Prod.snd (fun role s => (s.1, role)) (handle now level message raw)

def receive (level : Level) (data : Bytes) (now : ℚ) : EStateM Raised (Handshake σ) PUnit := do
  modify fun h => { h with now := now }
  zoom (fun h => (h.buffers level, h.handled, h.role))
    (fun s h => { h with buffers := Function.update h.buffers level s.1, handled := s.2.1, role := s.2.2 })
    (messageFraming.feed (handleRaw handle now level) data)

lemma receive_eq (level : Level) (data : Bytes) (now : ℚ) :
    receive handle level data now = zoom (fun h => (h.buffers level, h.handled, h.role))
      (fun s h => ⟨now, Function.update h.buffers level s.1, s.2.2, s.2.1⟩)
      (messageFraming.feed (handleRaw handle now level) data) := rfl

def messages (h : Handshake σ) (level : Level) (data : Bytes) : List Bytes :=
  messageFraming.frames (h.buffers level ++ data).length (h.buffers level ++ data)

variable {handle} {level : Level} {now : ℚ} {parts : List Bytes} {h : Handshake σ} {I : σ → Prop}

inductive Reached (handle : ℚ → Level → HandshakeMessage → Bytes → EStateM Raised σ PUnit)
    (Good : Handshake σ → Level → Bytes → ℚ → Prop) (role : σ) : Handshake σ → Prop
  | start : Reached handle Good role (.new role)
  | receive {h : Handshake σ} (level : Level) (data : Bytes) (now : ℚ) (hreached : Reached handle Good role h)
      (hgood : Good h level data now) : Reached handle Good role (finalState (receive handle level data now) h)

lemma Reached.invariant {Good : Handshake σ → Level → Bytes → ℚ → Prop} {role : σ}
    (hreached : Reached handle Good role h) (hstart : I role)
    (hstep : ∀ h level data now, I h.role → Good h level data now →
      Always (Handshake.receive handle level data now) h fun h' => I h'.role) : I h.role := by
  induction hreached with
  | start => exact hstart
  | receive level data now _ hgood ih =>
    exact Ensures.final (P := fun h : Handshake σ => I h.role) (hstep _ level data now ih hgood)

lemma receive_flatten (hparts : parts ≠ []) :
    Ensures (each (receive handle level · now) parts) h
      (fun _ h' => receive handle level parts.flatten now h = .ok ⟨⟩ h')
      fun e h' => ∃ front part back, parts = front ++ part :: back ∧
        receive handle level parts.flatten now h = .error e (h'.extend level back.flatten) := by
  rw [Ensures, each_eq_zoom (by simp) (by simp) (receive_eq handle level · now) hparts, ← Ensures, ensures_zoom]
  simp only [receive_eq]
  apply (messageFraming.feed_flatten hparts).mono
  · intro _ s' hfeed
    rw [zoom, hfeed]
  · rintro e s' ⟨front, part, back, hsplit, hfeed⟩
    refine ⟨front, part, back, hsplit, ?_⟩
    rw [zoom, hfeed]
    simp [extend]

end Handshake

end Dsquic.Tls
