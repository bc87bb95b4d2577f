import Dsquic.Connection.Session

/-!
A connection without cryptography: packets are sealed by sixteen zero bytes, and the TLS machine does
what each byte it reads tells it to. It shows that the runs reasoned about exist.
-/

namespace Dsquic.Connection

open Lib Wire Streams Recovery

structure PlainTls where
  early : Option Bytes
  accepted : Bool
  events : List TlsEvent

def plainParameters : Bytes := [8, 1, 1, 4, 1, 16, 6, 1, 16]

namespace PlainTls

/-- 1 completes the handshake, 2 accepts early data, 3 and 4 install the handshake and the 1-RTT keys,
5 answers at the handshake level, 6 completes the handshake with a peer that allows a stream, 7 is a
HelloRetryRequest: the early secret is gone, and a second hello is sent, and 8 completes the handshake with
a peer that may delay its acknowledgements by 50 milliseconds. -/
def read (tls : PlainTls) (byte : UInt8) : PlainTls :=
  match byte.toNat with
  | 1 => { tls with events := tls.events ++ [.handshakeComplete "hq" []] }
  | 2 => { tls with early := some [], accepted := true }
  | 3 => { tls with
      events := tls.events ++ [.secretAvailable .handshake true [] tlsAes128GcmSha256 (by decide),
        .secretAvailable .handshake false [] tlsAes128GcmSha256 (by decide)] }
  | 4 => { tls with
      events := tls.events ++ [.secretAvailable .oneRtt true [] tlsAes128GcmSha256 (by decide),
        .secretAvailable .oneRtt false [] tlsAes128GcmSha256 (by decide)] }
  | 5 => { tls with events := tls.events ++ [.sendData .handshake [5]] }
  | 6 => { tls with events := tls.events ++ [.handshakeComplete "hq" plainParameters] }
  | 7 => { tls with early := none, events := tls.events ++ [.sendData .initial [1]] }
  | 8 => { tls with events := tls.events ++ [.handshakeComplete "hq" [11, 1, 50]] }
  | _ => tls

end PlainTls

def plainPrimitives : Primitives where
  hkdfExtract _ _ := []
  hkdfExpandLabel _ _ _ length := List.replicate length 0
  aeadEncrypt _ _ _ data _ := data ++ List.replicate aeadTagLength 0
  aeadDecrypt _ _ _ data _ :=
    if data.drop (data.length - aeadTagLength) = List.replicate aeadTagLength 0
    then some (data.take (data.length - aeadTagLength)) else none
  headerMask _ _ _ := List.replicate 5 0
  length_hkdfExpandLabel _ _ _ _ := List.length_replicate
  length_aeadEncrypt _ _ _ _ _ := by simp
  length_headerMask _ _ _ := rfl
  aeadDecrypt_encrypt _ _ _ _ _ := by simp

def Env.plain : Env where
  toPrimitives := plainPrimitives
  Tls := PlainTls
  Destination := PUnit
  newClient _ := ⟨some [], false, []⟩
  newServer _ := ⟨none, false, []⟩
  start tls _ := { tls with events := tls.events ++ [.sendData .initial [1]] }
  receive _ data _ := modify fun tls => data.foldl PlainTls.read tls
  takeEvents tls := (tls.events, { tls with events := [] })
  earlySecret tls := tls.early
  earlyDataAccepted tls := tls.accepted
  cipherSuite _ := tlsAes128GcmSha256
  clientTransportParameters _ := []
  decodeUtf8 _ := ""
  shiftLimit := 2 ^ 40
  start_events _ _ _ hevent := ⟨.initial, [1], List.mem_singleton.1 hevent⟩

def plainServer (config : Config) : Conn .plain := .newServer .plain config ⟨List.replicate 8 1, rfl⟩ none

def plainClient (config : Config) (ticketParameters : Option Bytes) : Conn .plain :=
  match Conn.newClient .plain config ⟨List.replicate 8 2, rfl⟩ ⟨List.replicate 8 3, rfl⟩ ticketParameters none with
  | .ok c => finalState (connect 0) c
  | .error _ => plainServer config

lemma begins_plainServer (config : Config) : Begins (plainServer config) := .server config _ none

lemma begins_plainClient (config : Config) (ticketParameters : Option Bytes) :
    Begins (plainClient config ticketParameters) := by
  simp only [plainClient]
  split
  · next c h => exact .client _ _ _ _ _ c 0 h
  · exact begins_plainServer config

def sentAt {env : Env} (now : ℚ) (rounds : ℕ) (c : Conn env) : List Bytes :=
  match datagramsToSend now rounds c with
  | .ok datagrams _ => datagrams.map (·.data)
  | .error _ _ => []

lemma exists_of_mem_sentAt {env : Env} {now : ℚ} {rounds : ℕ} {c : Conn env} {data : Bytes}
    (h : data ∈ sentAt now rounds c) :
    ∃ datagrams c', datagramsToSend now rounds c = .ok datagrams c' ∧ ∃ d ∈ datagrams, d.data = data := by
  unfold sentAt at h
  split at h
  · next datagrams c' hsend => exact ⟨datagrams, c', hsend, List.mem_map.1 h⟩
  · exact absurd h List.not_mem_nil

def plainPacket (packetType : PacketType) (destinationCid sourceCid : Bytes) (packetNumber : ℕ)
    (frames : List Frame) :
    Bytes :=
  let packet : Except Raised Bytes := do
    let payload ← concatEncoded (frames.map Frame.encode)
    let payload := padPayload payload
    let header ← buildLongHeader ⟨packetType, quicV1, destinationCid, sourceCid, []⟩
      (payload.length + aeadTagLength)
      packetNumber 1
    plainPrimitives.protect (plainPrimitives.derivePacketKeys [] tlsAes128GcmSha256) header payload packetNumber
  packet.toOption.getD []

def plainInitial (packetNumber : ℕ) (frames : List Frame) : Bytes :=
  plainPacket .initial (List.replicate 8 7) (List.replicate 8 9) packetNumber frames

def plainFullInitial (data : Bytes) : Bytes := plainInitial 0 [.crypto ⟨0, data⟩, .padding (1154 - data.length)]

def plainHandshake : Bytes := plainInitial 0 [.crypto ⟨0, [3, 4, 1]⟩]

def plainFlight : List (Op .plain) :=
  [.datagramReceived (plainInitial 0 [.crypto ⟨0, [3, 5]⟩]) 0 none 0,
    .datagramReceived (plainPacket .handshake (List.replicate 8 1) (List.replicate 8 9) 0 [.ping]) 0 none 0,
    .datagramsToSend 0 2]

end Dsquic.Connection
