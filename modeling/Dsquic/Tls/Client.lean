import Dsquic.Tls.KeyExchange

/-!
The handshake of a client: what it does with each message of the server.
-/

namespace Dsquic.Tls

open Lib Wire Buffer Recovery

def clientExpects : ClientState → Except Raised (HandshakeType × Level)
  | .waitServerHello => .ok (.serverHello, .initial)
  | .waitEncryptedExtensions => .ok (.encryptedExtensions, .handshake)
  | .waitCertificate => .ok (.certificate, .handshake)
  | .waitCertificateVerify => .ok (.certificateVerify, .handshake)
  | .waitFinished => .ok (.finished, .handshake)
  | .start => .error (.key 1)
  | .connected => .error (.key 7)

namespace TlsClient

variable (prims : Asymmetric)

def new (config : ClientConfig) (random : Bytes) (keys : List (ℕ × Bytes)) (retryKey : Bytes) : TlsClient where
  config := config
  random := random
  shares := keys.map fun key => (key.1, prims.publicKey key.2)
  helloRetried := false
  earlyDataOffered := false
  cipherSuite := tlsAes128GcmSha256
  now := 0
  schedule := .new prims.toHashing (config.sessionTicket.map (·.psk))
  fallbackSchedule := config.sessionTicket.map fun _ => .new prims.toHashing none
  earlySecret := none
  events := []
  alpn := []
  peerTransportParameters := []
  sessionTickets := []
  keys := keys
  retryKey := retryKey
  resumed := false
  earlyDataAccepted := false
  leafCertificate := []
  clientHsSecret := []
  serverHsSecret := []
  state := .start

def retryGroup (client : TlsClient) (hello : ServerHello) : Except Raised ℕ :=
  let keyShare := findExtension hello.extensions ExtensionType.keyShare
  let group := fromBytes (keyShare.getD [])
  if client.helloRetried then .error (.tlsAlert Alert.unexpectedMessage "second HelloRetryRequest")
  else if keyShare.map List.length ≠ some 2 then
    .error (.tlsAlert Alert.missingExtension "HelloRetryRequest has no selected group")
  else if group ∉ supportedGroups then
    .error (.tlsAlert Alert.illegalParameter s!"HelloRetryRequest group {groupName group} not offered")
  else if (client.keys.lookup group).isSome then
    .error (.tlsAlert Alert.illegalParameter "HelloRetryRequest asks for a group already shared")
  else .ok group

lemma retryGroup_ok {client : TlsClient} {hello : ServerHello} {group : ℕ}
    (h : client.retryGroup hello = .ok group) :
    client.helloRetried = false ∧ group = x25519Group := by
  simp only [retryGroup] at h
  split_ifs at h with hretried hlength hgroup hshared
  cases h
  exact ⟨by simpa using hretried, by simpa [supportedGroups] using hgroup⟩

def onHelloRetryRequest (hello : ServerHello) (raw : Bytes) : EStateM Raised TlsClient PUnit := do
  let client ← get
  let group ← lift (client.retryGroup hello)
  let restart (schedule : KeySchedule) : KeySchedule :=
    (schedule.replaceTranscriptWithMessageHash prims.toHashing).updateTranscript raw
  set { client with
    helloRetried := true
    earlySecret := none
    schedule := restart client.schedule
    fallbackSchedule := client.fallbackSchedule.map restart
    keys := [(group, client.retryKey)]
    shares := [(group, prims.publicKey client.retryKey)] }
  let hello ← buildClientHello
  let retry ← lift (encodeClientHello hello)
  let retry ← recordHello prims.toHashing retry
  modify fun client => { client with
    fallbackSchedule := client.fallbackSchedule.map (·.updateTranscript retry)
    events := client.events ++ [.sendData .initial retry]
    state := .waitServerHello }

def readServerHello (client : TlsClient) (hello : ServerHello) : Except Raised (Bytes × Bytes) := do
  if findExtension hello.extensions ExtensionType.supportedVersions ≠ some tls13 then
    .error (.tlsAlert Alert.protocolVersion "server did not select TLS 1.3")
  else
    match findExtension hello.extensions ExtensionType.keyShare with
    | none => .error (.tlsAlert Alert.missingExtension "ServerHello has no key_share")
    | some keyShare => do
      let (group, peerPublic) ← parseKeyShareEntry keyShare
      match client.keys.lookup group with
      | none => .error (.tlsAlert Alert.illegalParameter s!"server chose group {groupName group} with no share")
      | some ourKey => .ok (ourKey, peerPublic)

def settleOffer (hello : ServerHello) : EStateM Raised TlsClient PUnit := do
  let client ← get
  match findExtension hello.extensions ExtensionType.preSharedKey with
  | some selected => do
    raiseIf (client.config.sessionTicket.isSome = false)
      (.tlsAlert Alert.illegalParameter "pre_shared_key answers an offer never made")
    raiseIf (fromBytes selected ≠ 0) (.tlsAlert Alert.illegalParameter "selected_identity is out of range")
    set { client with resumed := true, fallbackSchedule := none }
  | none => set { client with schedule := client.fallbackSchedule.getD client.schedule, fallbackSchedule := none }

def emitHandshakeSecrets (shared : Bytes) : EStateM Raised TlsClient PUnit :=
  modify fun client =>
    let (schedule, clientSecret, serverSecret, events) :=
      prims.handshakeSecrets client.schedule client.cipherSuite shared
    { client with
      schedule := schedule
      clientHsSecret := clientSecret
      serverHsSecret := serverSecret
      events := client.events ++ events }

def onServerHello (hello : ServerHello) (raw : Bytes) : EStateM Raised TlsClient PUnit := do
  if hello.random = helloRetryRequestRandom then onHelloRetryRequest prims hello raw
  else
    let client ← get
    raiseIf (hello.legacySessionIdEcho ≠ []) (.tlsAlert Alert.illegalParameter "session id echo is not empty")
    raiseIf (hello.cipherSuite ∉ client.config.cipherSuites)
      (.tlsAlert Alert.illegalParameter "server selected an unoffered cipher suite")
    set { client with cipherSuite := hello.cipherSuite }
    let (ourKey, peerPublic) ← lift (client.readServerHello hello)
    settleOffer hello
    updateTranscript raw
    let shared ← lift (prims.exchange ourKey peerPublic)
    emitHandshakeSecrets prims shared
    modify fun client => { client with state := .waitEncryptedExtensions }

def selectedAlpn (client : TlsClient) (message : EncryptedExtensions) : Except Raised Bytes :=
  match findExtension message.extensions ExtensionType.alpn with
  | none => .error (.tlsAlert Alert.noApplicationProtocol "server selected no ALPN protocol")
  | some data => do
    match ← parseAlpn data with
    | [selected] =>
      if client.config.alpn.contains selected then .ok selected
      else .error (.tlsAlert Alert.noApplicationProtocol "server selected an unoffered ALPN protocol")
    | _ => .error (.tlsAlert Alert.noApplicationProtocol "server selected an unoffered ALPN protocol")

def acceptedEarlyData (client : TlsClient) (message : EncryptedExtensions) (selected : Bytes) :
    Except Raised Bool :=
  if (findExtension message.extensions ExtensionType.earlyData).isSome = false then .ok false
  else if client.earlyDataOffered = false then
    .error (.tlsAlert Alert.unsupportedExtension "early_data accepted but never offered")
  else if client.resumed = false then
    .error (.tlsAlert Alert.illegalParameter "early_data accepted without the PSK (§4.2.10)")
  else
    match client.config.sessionTicket with
    | none => .ok true
    | some ticket =>
      if selected ≠ ticket.alpn then
        .error (.tlsAlert Alert.illegalParameter "early_data accepted across an ALPN change")
      else if client.cipherSuite ≠ ticket.cipherSuite then
        .error (.tlsAlert Alert.illegalParameter "early_data accepted across a suite change")
      else .ok true

def onEncryptedExtensions (message : EncryptedExtensions) (raw : Bytes) : EStateM Raised TlsClient PUnit := do
  let client ← get
  let selected ← lift (client.selectedAlpn message)
  match findExtension message.extensions ExtensionType.quicTransportParameters with
  | none => throw (.tlsAlert Alert.missingExtension "no quic_transport_parameters (RFC 9001 §8.2)")
  | some transportParameters => do
    let accepted ← lift (client.acceptedEarlyData message selected)
    set { client with
      earlyDataAccepted := client.earlyDataAccepted || accepted
      alpn := selected
      peerTransportParameters := transportParameters
      schedule := client.schedule.updateTranscript raw
      state := if client.resumed then .waitFinished else .waitCertificate }

def verifyCertificatePolicy (config : ClientConfig) (leaf : CertificateEntry) (others : List CertificateEntry) :
    Except Raised PUnit := do
  let leaf ← prims.loadDer leaf.data
  let intermediates ← others.mapM fun entry => prims.loadDer entry.data
  let anchors ← config.caCertificates.mapM prims.loadDer
  match prims.verifyChain anchors config.verificationTime config.serverName leaf intermediates with
  | .accepted => .ok ⟨⟩
  | .rejected reason => .error (.tlsAlert Alert.badCertificate s!"certificate verification failed: {reason}")
  | .invalid reason => .error (.value reason)

def onCertificate (message : Certificate) (raw : Bytes) : EStateM Raised TlsClient PUnit := do
  match message.entries with
  | [] => throw (.tlsAlert Alert.illegalParameter "empty certificate chain")
  | leaf :: others => do
    modify fun client => { client with leafCertificate := leaf.data }
    let client ← get
    doIf (client.config.insecureSkipVerify = false)
      (lift (verifyCertificatePolicy prims client.config leaf others))
    updateTranscript raw
    modify fun client => { client with state := .waitCertificateVerify }

def onCertificateVerify (message : CertificateVerify) (raw : Bytes) : EStateM Raised TlsClient PUnit := do
  let client ← get
  lift (prims.verifyCertificateVerify client.leafCertificate message
    (client.schedule.transcriptHash prims.toHashing))
  updateTranscript raw
  modify fun client => { client with state := .waitFinished }

def emitApplicationSecrets : EStateM Raised TlsClient PUnit :=
  modify fun client =>
    let (schedule, events) := prims.applicationSecrets client.schedule client.cipherSuite
    { client with schedule := schedule, events := client.events ++ events }

def onFinished (message : Finished) (raw : Bytes) : EStateM Raised TlsClient PUnit := do
  let client ← get
  raiseIf (message.verifyData ≠
      finishedVerifyData prims.toHashing client.serverHsSecret (client.schedule.transcriptHash prims.toHashing))
    (.tlsAlert Alert.decryptError "server Finished verify_data mismatch")
  updateTranscript raw
  emitApplicationSecrets prims
  let client ← get
  let finished ← lift (encodeFinished
    ⟨finishedVerifyData prims.toHashing client.clientHsSecret (client.schedule.transcriptHash prims.toHashing)⟩)
  updateTranscript finished
  modify fun client => { client with
    events := client.events ++
      [.sendData .handshake finished, .handshakeComplete client.alpn client.peerTransportParameters]
    state := .connected }

def handle (now : ℚ) (level : Level) (message : HandshakeMessage) (raw : Bytes) :
    EStateM Raised TlsClient PUnit := do
  modify fun client => { client with now := now }
  let client ← get
  if client.state = .connected then
    match message with
    | .newSessionTicket ticket => storeSessionTicket prims.toHashing ticket
    | _ => throw (.tlsAlert Alert.unexpectedMessage "handshake message after completion")
  else do
    let expects ← lift (clientExpects client.state)
    lift (requireMessage expects level message)
    match message with
    | .serverHello hello => onServerHello prims hello raw
    | .encryptedExtensions message => onEncryptedExtensions message raw
    | .certificate message => onCertificate prims message raw
    | .certificateVerify message => onCertificateVerify prims message raw
    | .finished message => onFinished prims message raw
    | .clientHello _ | .newSessionTicket _ => pure ⟨⟩

section Hello

variable {client : TlsClient} {raw : Bytes}

lemma buildClientHello_spec :
    Ensures buildClientHello client
      (fun _ client' => ∃ offered suite, client' =
        { client with earlyDataOffered := offered, cipherSuite := suite })
      fun _ client' => client'.events = client.events := by
  simp only [buildClientHello, ensures_flow]
  exact ⟨fun _ _ => ⟨fun _ _ => ⟨_, _, rfl⟩, fun _ _ => trivial⟩, fun _ _ => trivial⟩

lemma length_finishedVerifyData (hashing : Hashing) (secret transcriptHash : Bytes) :
    (finishedVerifyData hashing secret transcriptHash).length = sha256Length := hashing.length_hmacSha256 _ _

lemma updateTranscript_patched (schedule : KeySchedule) {truncated binder : Bytes}
    (htruncated : binderTranscript raw 1 = .ok truncated) (hbinder : binder.length = sha256Length) :
    (schedule.updateTranscript truncated).updateTranscript
        ((raw.take (raw.length - binder.length) ++ binder).drop truncated.length) =
      schedule.updateTranscript (raw.take (raw.length - binder.length) ++ binder) := by
  have hcut : truncated = raw.take (raw.length - 35) := by
    simp only [binderTranscript] at htruncated
    split_ifs at htruncated
    cases htruncated
    rfl
  have hfront : truncated = (raw.take (raw.length - binder.length) ++ binder).take truncated.length := by
    have hlength : truncated.length = raw.length - 35 := by
      rw [hcut, List.length_take]
      omega
    have hle : raw.length - 35 ≤ (raw.take (raw.length - 32)).length := by
      rw [List.length_take]
      omega
    rw [hbinder, sha256Length, hlength, List.take_append_of_le_length hle, List.take_take, hcut]
    congr 1
    omega
  simp only [KeySchedule.updateTranscript, List.append_assoc]
  nth_rewrite 1 [hfront]
  rw [List.take_append_drop]

lemma recordHello_spec (hashing : Hashing) :
    Ensures (recordHello hashing raw) client
      (fun sent client' => client' = { client with schedule := client.schedule.updateTranscript sent })
      fun _ client' => client'.events = client.events := by
  simp only [recordHello, ensures_flow]
  refine ⟨fun _ => ?_, fun _ => rfl⟩
  simp only [fillPskBinder, updateTranscript, ensures_flow]
  refine ⟨fun truncated htruncated => ?_, fun _ _ => trivial⟩
  rw [updateTranscript_patched _ htruncated (length_finishedVerifyData hashing _ _)]

end Hello

end TlsClient

def bareConfig : ClientConfig :=
  ⟨ascii "localhost", [ascii "h3"], [], [], false, none, none, supportedCipherSuites, false⟩

def bareKey : Bytes := List.replicate 32 1

def bareClient : TlsClient := .new bareAsymmetric bareConfig (List.replicate 32 2) [(x25519Group, bareKey)] bareKey

end Dsquic.Tls
