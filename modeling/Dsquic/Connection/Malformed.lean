import Dsquic.Connection.Dispatch
import Dsquic.Tls.ClientAlerts
import Dsquic.Tls.ServerAlerts

/-!
Handshake bytes that cannot be decoded: of what TLS raises a connection catches the alerts, and nothing else is
one. -/

namespace Dsquic.Connection

open Lib Wire Streams Recovery

section Crypto

variable {env : Env} {level : Level} {frame : Crypto} {now : ℚ} {c : Conn env}

end Crypto

def TlsEvent.ofTls : Tls.TlsEvent → Option TlsEvent
  | .sendData level data => some (.sendData level data)
  | .secretAvailable level direction secret cipherSuite =>
    if h : level ≠ .initial then some (.secretAvailable level (direction = .client) secret cipherSuite h) else none
  | .handshakeComplete alpn parameters =>
    some (.handshakeComplete (String.ofList (alpn.map fun byte => Char.ofNat byte.toNat)) parameters)

def Env.server (primitives : Primitives) (prims : Tls.Asymmetric) (draw : Tls.TicketDraw)
    (setup : Tls.ServerSetup) :
    Env where
  toPrimitives := primitives
  Tls := Tls.Handshake Tls.TlsServer
  Destination := PUnit
  newClient _ := .new (setup.server prims)
  newServer parameters := .new ({ setup with transportParameters := parameters }.server prims)
  start tls _ := tls
  receive := Tls.Handshake.receive (Tls.TlsServer.handle prims draw)
  takeEvents tls :=
    (tls.role.events.filterMap TlsEvent.ofTls, { tls with role := { tls.role with events := [] } })
  earlySecret tls := tls.role.earlySecret
  earlyDataAccepted tls := tls.role.earlyDataAccepted
  cipherSuite tls := tls.role.cipherSuite
  clientTransportParameters tls := tls.role.clientTransportParameters
  decodeUtf8 _ := ""
  shiftLimit := 2 ^ 40
  start_events _ _ _ hevent := absurd hevent List.not_mem_nil

def bareInitial (data : Bytes) : Bytes :=
  plainInitial 0 [.crypto ⟨0, data⟩]

end Dsquic.Connection
