import Dsquic.Tls.KeyExchange
import Dsquic.Wire.TransportParameters

/-!
The handshake of a server: how it answers a hello, whether that resumes a session, and the ticket it issues.
-/

namespace Dsquic.Tls

open Lib Wire Buffer Recovery

def serverExpects : ServerState → Except Raised (HandshakeType × Level)
  | .start => .ok (.clientHello, .initial)
  | .waitSecondClientHello => .ok (.clientHello, .initial)
  | .waitFinished => .ok (.finished, .handshake)
  | .connected => .error (.key 4)

def ticketNonceLength : ℕ := 12

def openTicket (hashing : Hashing) (key ticket : Bytes) (now : ℚ) (lifetime : ℕ) :
    Except Raised (Option TicketState) :=
  let nonce := ticket.take ticketNonceLength
  if nonce.length < 8 then .error (.value "Nonce must be between 8 and 128 bytes")
  else
    match hashing.aeadDecrypt .aesGcm key nonce (ticket.drop ticketNonceLength) [] with
    | none => .ok none
    | some plaintext => Parser.run (do
        let issued ← pullUint 8
        if now - issued > lifetime then return none
        else
          let ageAdd ← pullUint32
          let cipherSuite ← pullUint16
          let alpn ← pullVec 1
          let alpn ← lift (decodeAscii alpn)
          let transportParameters ← pullVec 2
          let psk ← pullBytes sha256Length
          return some ⟨psk, ageAdd, alpn, transportParameters, issued, cipherSuite⟩) plaintext

namespace TlsServer

variable (prims : Asymmetric)

def new (ticketKey : Option Bytes) (transportParameters : Bytes) (certificateChain : List Bytes)
    (signingKey : Bytes)
    (protocols : List Bytes) (random key : Bytes) : TlsServer where
  ticketKey := ticketKey
  transportParameters := transportParameters
  clientSupportsResumption := false
  alpn := []
  cipherSuite := tlsAes128GcmSha256
  schedule := .new prims.toHashing none
  now := 0
  certificateChain := certificateChain
  signingKey := signingKey
  protocols := protocols
  random := random
  key := key
  helloRetrySent := false
  clientTransportParameters := []
  resumed := false
  earlyDataAccepted := false
  earlySecret := none
  events := []
  clientHsSecret := []
  serverHsSecret := []
  state := .start

def updateTranscript (message : Bytes) : EStateM Raised TlsServer PUnit :=
  modify fun server => { server with schedule := server.schedule.updateTranscript message }

def emit (event : TlsEvent) : EStateM Raised TlsServer PUnit :=
  modify fun server => { server with events := server.events ++ [event] }

def negotiateAlpn (server : TlsServer) (hello : ClientHello) : Except Raised Bytes := do
  let offered ← match findExtension hello.extensions ExtensionType.alpn with
    | some data => parseAlpn data
    | none => .ok []
  match server.protocols.find? offered.contains with
  | some protocol => .ok protocol
  | none => .error (.tlsAlert Alert.noApplicationProtocol "no ALPN protocol in common")

def sendHelloRetryRequest (hello : ClientHello) (raw : Bytes) (group : ℕ) : EStateM Raised TlsServer PUnit := do
  let server ← get
  raiseIf server.helloRetrySent (.tlsAlert Alert.handshakeFailure "client retried without a usable key share")
  set { server with
    helloRetrySent := true
    schedule := (server.schedule.updateTranscript raw).replaceTranscriptWithMessageHash prims.toHashing }
  let selected ← lift (intToBytes group 2)
  let retry ← lift (encodeServerHello ⟨helloRetryRequestRandom, hello.legacySessionId, server.cipherSuite,
    [⟨ExtensionType.supportedVersions, tls13⟩, ⟨ExtensionType.keyShare, selected⟩]⟩)
  updateTranscript retry
  emit (.sendData .initial retry)
  modify fun server => { server with state := .waitSecondClientHello }

def firstTicket (key raw : Bytes) (binders : List Bytes) (now : ℚ) :
    List (PskIdentity × ℕ) → Except Raised (Option (ℕ × TicketState))
  | [] => .ok none
  | (identity, index) :: others => do
    match ← openTicket prims.toHashing key identity.identity now sessionTicketLifetime with
    | none => firstTicket key raw binders now others
    | some state => do
      let transcript ← binderTranscript raw binders.length
      let expected := finishedVerifyData prims.toHashing
        ((KeySchedule.new prims.toHashing (some state.psk)).binderKey prims.toHashing) (prims.sha256 transcript)
      if binders[index]? ≠ some expected then
        .error (.tlsAlert Alert.decryptError "PSK binder does not verify (§4.2.11.2)")
      else .ok (some (index, state))

def supportsResumption (hello : ClientHello) : Bool :=
  match findExtension hello.extensions ExtensionType.pskKeyExchangeModes with
  | none => false
  | some modes => (modes.drop 1).contains pskDheKe

def selectPsk (server : TlsServer) (hello : ClientHello) (raw : Bytes) :
    Except Raised (Option (ℕ × TicketState)) :=
  match findExtension hello.extensions ExtensionType.preSharedKey with
  | none => .ok none
  | some offer =>
    if hello.extensions.getLast?.map (·.type) ≠ some ExtensionType.preSharedKey then
      .error (.tlsAlert Alert.illegalParameter "pre_shared_key is not the last extension")
    else if (findExtension hello.extensions ExtensionType.pskKeyExchangeModes).isSome = false then
      .error (.tlsAlert Alert.missingExtension "pre_shared_key without psk_key_exchange_modes (§4.2.9)")
    else if supportsResumption hello = false then .ok none
    else
      match server.ticketKey with
      | none => .ok none
      | some key =>
        -- the transcript that a second hello's binder covers is gone
        if server.helloRetrySent then .ok none
        else do
          let (identities, binders) ← parseOfferedPsks offer
          firstTicket prims key raw binders server.now identities.zipIdx

def acceptsEarlyData (server : TlsServer) (hello : ClientHello) (alpn : Bytes) :
    Option (ℕ × TicketState) → Except Raised Bool
  | none => .ok false
  | some (index, state) =>
    if (findExtension hello.extensions ExtensionType.earlyData).isSome = false ∨ index ≠ 0 ∨ state.alpn ≠ alpn ∨
        state.cipherSuite ≠ server.cipherSuite then .ok false
    else do
      let remembered ← TransportParameters.decode state.transportParameters
      let current ← TransportParameters.decode server.transportParameters
      if TransportParameters.reducesZeroRttLimits remembered current then return false
      else ticketIsFresh hello (index, state) server.now

def resolvePskOffer (hello : ClientHello) (raw alpn : Bytes) :
    EStateM Raised TlsServer (Option (ℕ × TicketState)) := do
  let server ← get
  let selected ← lift (server.selectPsk prims hello raw)
  set { server with resumed := selected.isSome, clientSupportsResumption := supportsResumption hello }
  let accepted ← lift (server.acceptsEarlyData hello alpn selected)
  modify fun server => { server with
    earlyDataAccepted := accepted
    schedule := (match selected with
      | some (_, state) => KeySchedule.new prims.toHashing (some state.psk)
      | none => server.schedule).updateTranscript raw }
  modify fun server => { server with
    earlySecret :=
      if accepted then some (server.schedule.clientEarlyTrafficSecret prims.toHashing) else server.earlySecret }
  return selected

def certificateMessages : EStateM Raised TlsServer Bytes := do
  let server ← get
  let certificate ← lift (encodeCertificate ⟨[], server.certificateChain.map (⟨·, []⟩)⟩)
  updateTranscript certificate
  let server ← get
  let certificateVerify ← lift (encodeCertificateVerify
    (prims.signCertificateVerify server.signingKey (server.schedule.transcriptHash prims.toHashing)))
  updateTranscript certificateVerify
  return certificate ++ certificateVerify

def helloKeyShare (hello : ClientHello) : Except Raised (Option Bytes) :=
  match findExtension hello.extensions ExtensionType.keyShare with
  | some entries => clientKeyShare entries
  | none => .ok none

def commonGroup (hello : ClientHello) : Except Raised ℕ := do
  let offered ← match findExtension hello.extensions ExtensionType.supportedGroups with
    | some data => parseSupportedGroups data
    | none => .ok []
  match supportedGroups.find? offered.contains with
  | some group => .ok group
  | none => .error (.tlsAlert Alert.handshakeFailure "no key exchange group in common")

def emitHandshakeSecrets (shared : Bytes) : EStateM Raised TlsServer PUnit :=
  modify fun server =>
    let (schedule, clientSecret, serverSecret, events) :=
      prims.handshakeSecrets server.schedule server.cipherSuite shared
    { server with
      schedule := schedule
      clientHsSecret := clientSecret
      serverHsSecret := serverSecret
      events := server.events ++ events }

def emitApplicationSecrets : EStateM Raised TlsServer PUnit :=
  modify fun server =>
    let (schedule, events) := prims.applicationSecrets server.schedule server.cipherSuite
    { server with schedule := schedule, events := server.events ++ events }

def sendServerHello (hello : ClientHello) (selected : Option (ℕ × TicketState)) :
    EStateM Raised TlsServer PUnit := do
  let server ← get
  let share ← lift (concatEncoded [intToBytes x25519Group 2, vec 2 (prims.publicKey server.key)])
  let identity ← lift (match selected with
    | some (index, _) => do
      let data ← intToBytes index 2
      return [⟨ExtensionType.preSharedKey, data⟩]
    | none => .ok [])
  let raw ← lift (encodeServerHello ⟨server.random, hello.legacySessionId, server.cipherSuite,
    [⟨ExtensionType.supportedVersions, tls13⟩, ⟨ExtensionType.keyShare, share⟩] ++ identity⟩)
  updateTranscript raw
  emit (.sendData .initial raw)

def sendFlight (alpn : Bytes) (resumes : Bool) : EStateM Raised TlsServer PUnit := do
  let server ← get
  let protocols ← lift (vecOf 2 (vec 1) [alpn])
  let encryptedExtensions ← lift (encodeEncryptedExtensions
    ⟨[⟨ExtensionType.alpn, protocols⟩, ⟨ExtensionType.quicTransportParameters, server.transportParameters⟩] ++
      if server.earlyDataAccepted then [⟨ExtensionType.earlyData, []⟩] else []⟩)
  updateTranscript encryptedExtensions
  let certificates ← if resumes then pure [] else certificateMessages prims
  let server ← get
  let finished ← lift (encodeFinished
    ⟨finishedVerifyData prims.toHashing server.serverHsSecret (server.schedule.transcriptHash prims.toHashing)⟩)
  updateTranscript finished
  emit (.sendData .handshake (encryptedExtensions ++ certificates ++ finished))

def answerHello (hello : ClientHello) (raw peerPublic : Bytes) : EStateM Raised TlsServer PUnit := do
  match findExtension hello.extensions ExtensionType.quicTransportParameters with
  | none => throw (.tlsAlert Alert.missingExtension "no quic_transport_parameters (RFC 9001 §8.2)")
  | some clientTransportParameters => do
    let server ← get
    let alpn ← lift (server.negotiateAlpn hello)
    let selected ← resolvePskOffer prims hello raw alpn
    sendServerHello prims hello selected
    let shared ← lift (prims.exchange server.key peerPublic)
    emitHandshakeSecrets prims shared
    sendFlight prims alpn selected.isSome
    emitApplicationSecrets prims
    modify fun server => { server with
      alpn := alpn
      clientTransportParameters := clientTransportParameters
      state := .waitFinished }

def onClientHello (hello : ClientHello) (raw : Bytes) : EStateM Raised TlsServer PUnit := do
  match hello.cipherSuites.find? (supportedCipherSuites.contains ·) with
  | none => throw (.tlsAlert Alert.handshakeFailure "no cipher suite in common")
  | some cipherSuite => do
    modify fun server => { server with cipherSuite := cipherSuite }
    raiseIf (¬tls13 <:+: (findExtension hello.extensions ExtensionType.supportedVersions).getD [])
      (.tlsAlert Alert.protocolVersion "client did not offer TLS 1.3")
    match ← lift (helloKeyShare hello) with
    | none => do
      let group ← lift (commonGroup hello)
      sendHelloRetryRequest prims hello raw group
    | some peerPublic => answerHello prims hello raw peerPublic

def onFinished (draw : TicketDraw) (message : Finished) (raw : Bytes) : EStateM Raised TlsServer PUnit := do
  let server ← get
  raiseIf (message.verifyData ≠
      finishedVerifyData prims.toHashing server.clientHsSecret (server.schedule.transcriptHash prims.toHashing))
    (.tlsAlert Alert.decryptError "client Finished verify_data mismatch")
  updateTranscript raw
  emit (.handshakeComplete server.alpn server.clientTransportParameters)
  modify fun server => { server with state := .connected }
  let server ← get
  match ← lift (server.issueSessionTicket prims.toHashing draw) with
  | none => pure ⟨⟩
  | some (_, ticket) => do
    let data ← lift (encodeNewSessionTicket ticket)
    emit (.sendData .oneRtt data)

def handle (draw : TicketDraw) (now : ℚ) (level : Level) (message : HandshakeMessage) (raw : Bytes) :
    EStateM Raised TlsServer PUnit := do
  modify fun server => { server with now := now }
  let server ← get
  if server.state = .connected then
    throw (.tlsAlert Alert.unexpectedMessage "handshake message after completion")
  else do
    let expects ← lift (serverExpects server.state)
    lift (requireMessage expects level message)
    match message with
    | .clientHello hello => onClientHello prims hello raw
    | .finished message => onFinished prims draw message raw
    | _ => pure ⟨⟩

end TlsServer

end Dsquic.Tls
