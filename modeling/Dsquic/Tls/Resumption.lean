import Dsquic.Tls.Handshake
import Dsquic.Wire.Protection
import Mathlib.Data.Rat.Floor

/-!
Session tickets and the offer to resume with one: what a server issues, what a client keeps and offers, and how the
server judges the age of an offer.
-/

namespace Dsquic.Tls

open Lib Wire Buffer Recovery

def sha256Length : ℕ := 32

def maxEarlyDataSize : ℕ := 0xFFFFFFFF

def ticketAgeToleranceMs : ℚ := 10000

def sessionTicketLifetime : ℕ := 7200

/-- `int(x)` -/
def truncate (x : ℚ) : ℤ := if 0 ≤ x then ⌊x⌋ else ⌈x⌉

namespace ExtensionType

def serverName : ℕ := 0
def supportedGroups : ℕ := 10
def signatureAlgorithms : ℕ := 13
def alpn : ℕ := 16
def preSharedKey : ℕ := 41
def earlyData : ℕ := 42
def supportedVersions : ℕ := 43
def pskKeyExchangeModes : ℕ := 45
def keyShare : ℕ := 51
def quicTransportParameters : ℕ := 0x39

end ExtensionType

structure Hashing extends Primitives where
  sha256 : Bytes → Bytes
  hmacSha256 : Bytes → Bytes → Bytes
  length_hmacSha256 : ∀ key data, (hmacSha256 key data).length = sha256Length

section Schedule

structure KeySchedule where
  secret : Bytes
  transcript : Bytes

namespace KeySchedule

variable (hashing : Hashing)

def updateTranscript (schedule : KeySchedule) (message : Bytes) : KeySchedule :=
  { schedule with transcript := schedule.transcript ++ message }

def transcriptHash (schedule : KeySchedule) : Bytes := hashing.sha256 schedule.transcript

def binderKey (schedule : KeySchedule) : Bytes :=
  hashing.hkdfExpandLabel schedule.secret (ascii "res binder") (hashing.sha256 []) sha256Length

def derive (schedule : KeySchedule) (label : Bytes) : Bytes :=
  hashing.hkdfExpandLabel schedule.secret label (schedule.transcriptHash hashing) sha256Length

def new (psk : Option Bytes) : KeySchedule :=
  ⟨hashing.hkdfExtract (List.replicate sha256Length 0) (psk.getD (List.replicate sha256Length 0)), []⟩

def replaceTranscriptWithMessageHash (schedule : KeySchedule) : KeySchedule :=
  let digest := schedule.transcriptHash hashing
  { schedule with transcript := 254 :: toBytes 3 digest.length ++ digest }

def advance (schedule : KeySchedule) (input : Bytes) : KeySchedule :=
  let derived := hashing.hkdfExpandLabel schedule.secret (ascii "derived") (hashing.sha256 []) sha256Length
  { schedule with secret := hashing.hkdfExtract derived input }

def addEcdhe (schedule : KeySchedule) (sharedSecret : Bytes) : KeySchedule := schedule.advance hashing sharedSecret

def advanceToMaster (schedule : KeySchedule) : KeySchedule :=
  schedule.advance hashing (List.replicate sha256Length 0)

def clientEarlyTrafficSecret (schedule : KeySchedule) : Bytes := schedule.derive hashing (ascii "c e traffic")

def resumptionMasterSecret (schedule : KeySchedule) : Bytes := schedule.derive hashing (ascii "res master")

def clientHandshakeTrafficSecret (schedule : KeySchedule) : Bytes := schedule.derive hashing (ascii "c hs traffic")

def serverHandshakeTrafficSecret (schedule : KeySchedule) : Bytes := schedule.derive hashing (ascii "s hs traffic")

def clientApplicationTrafficSecret (schedule : KeySchedule) : Bytes :=
  schedule.derive hashing (ascii "c ap traffic")

def serverApplicationTrafficSecret (schedule : KeySchedule) : Bytes :=
  schedule.derive hashing (ascii "s ap traffic")

end KeySchedule

def finishedVerifyData (hashing : Hashing) (baseSecret transcriptHash : Bytes) : Bytes :=
  hashing.hmacSha256 (hashing.hkdfExpandLabel baseSecret (ascii "finished") [] sha256Length) transcriptHash

def resumptionPsk (hashing : Hashing) (resumptionMasterSecret ticketNonce : Bytes) : Bytes :=
  hashing.hkdfExpandLabel resumptionMasterSecret (ascii "resumption") ticketNonce sha256Length

end Schedule

section Offers

structure PskIdentity where
  identity : Bytes
  obfuscatedTicketAge : ℕ
  deriving DecidableEq

def encodePskIdentity (identity : PskIdentity) : Except Raised Bytes :=
  concatEncoded [vec 2 identity.identity, intToBytes identity.obfuscatedTicketAge 4]

def encodeBinders (binders : List Bytes) : Except Raised Bytes := vecOf 2 (vec 1) binders

def encodeOfferedPsks (identities : List PskIdentity) (binders : List Bytes) : Except Raised Bytes :=
  concatEncoded [vecOf 2 encodePskIdentity identities, encodeBinders binders]

def pullPskIdentity : Parser PskIdentity := do
  let identity ← pullVec 2
  let obfuscatedTicketAge ← pullUint 4
  return ⟨identity, obfuscatedTicketAge⟩

def parseOfferedPsks (data : Bytes) : Except Raised (List PskIdentity × List Bytes) :=
  Parser.run (do
    let identities ← pullVecOf 2 pullPskIdentity
    let binders ← pullVecOf 2 (pullVec 1)
    raiseIf (identities.length ≠ binders.length) (.tlsAlert 47 "one binder per identity is required")
    return (identities, binders)) data

def binderTranscript (clientHello : Bytes) (binderCount : ℕ) : Except Raised Bytes :=
  let trailing := 2 + binderCount * (1 + sha256Length)
  if clientHello.length ≤ trailing then .error (.tlsAlert 50 "ClientHello is too short to carry its binders")
  else .ok (clientHello.take (clientHello.length - trailing))

def findExtension (extensions : List Extension) (extType : ℕ) : Option Bytes :=
  (extensions.find? fun extension => extension.type = extType).map (·.data)

end Offers

section Tickets

/-- What a client keeps of a ticket. Texts are their ASCII bytes. -/
structure SessionTicket where
  identity : Bytes
  psk : Bytes
  ageAdd : ℕ
  lifetime : ℕ
  receivedAt : ℚ
  maxEarlyDataSize : ℕ
  alpn : Bytes
  transportParameters : Bytes
  cipherSuite : ℕ

structure TicketState where
  psk : Bytes
  ageAdd : ℕ
  alpn : Bytes
  transportParameters : Bytes
  issuedAt : ℤ
  cipherSuite : ℕ
  deriving DecidableEq

def encodeIssuedAt (issuedAt : ℤ) : Except Raised Bytes :=
  if issuedAt < 0 then .error (.overflow "can't convert negative int to unsigned") else intToBytes issuedAt.toNat 8

def sealTicket (hashing : Hashing) (key nonce : Bytes) (state : TicketState) : Except Raised Bytes := do
  let plaintext ← concatEncoded [encodeIssuedAt state.issuedAt, intToBytes state.ageAdd 4,
    intToBytes state.cipherSuite 2, vec 1 state.alpn, vec 2 state.transportParameters, .ok state.psk]
  return nonce ++ hashing.aeadEncrypt .aesGcm key nonce plaintext []

end Tickets

section Client

structure ClientConfig where
  serverName : Bytes
  alpn : List Bytes
  transportParameters : Bytes
  caCertificates : List Bytes
  insecureSkipVerify : Bool
  verificationTime : Option ℚ
  sessionTicket : Option SessionTicket
  cipherSuites : List ℕ
  earlyData : Bool

inductive ClientState
  | start
  | waitServerHello
  | waitEncryptedExtensions
  | waitCertificate
  | waitCertificateVerify
  | waitFinished
  | connected
  deriving DecidableEq

/-- `shares` are the public keys of the groups for which there is one, and `keys` the private ones. `retryKey` is
the private key drawn should the server ask for another share. -/
structure TlsClient where
  config : ClientConfig
  random : Bytes
  shares : List (ℕ × Bytes)
  helloRetried : Bool
  earlyDataOffered : Bool
  cipherSuite : ℕ
  now : ℚ
  schedule : KeySchedule
  fallbackSchedule : Option KeySchedule
  earlySecret : Option Bytes
  events : List TlsEvent
  alpn : Bytes
  peerTransportParameters : Bytes
  sessionTickets : List SessionTicket
  keys : List (ℕ × Bytes)
  retryKey : Bytes
  resumed : Bool
  earlyDataAccepted : Bool
  leafCertificate : Bytes
  clientHsSecret : Bytes
  serverHsSecret : Bytes
  state : ClientState

namespace TlsClient

def offersEarlyData (client : TlsClient) : Bool :=
  client.config.earlyData && !client.helloRetried &&
    match client.config.sessionTicket with
    | none => false
    | some ticket =>
      ticket.maxEarlyDataSize = Tls.maxEarlyDataSize && ticket.cipherSuite ∈ client.config.cipherSuites

def pskOffer (client : TlsClient) (ticket : SessionTicket) : Except Raised Extension := do
  let age := truncate ((client.now - ticket.receivedAt) * 1000) + ticket.ageAdd
  let offer ← encodeOfferedPsks [⟨ticket.identity, (age % 2 ^ 32).toNat⟩] [List.replicate sha256Length 0]
  return ⟨ExtensionType.preSharedKey, offer⟩

def plainExtensions (client : TlsClient) : Except Raised (List Extension) := do
  let shares ← concatEncoded (client.shares.map fun share => concatEncoded [intToBytes share.1 2, vec 2 share.2])
  let serverName ← vec 2 client.config.serverName
  let serverNames ← vec 2 (0 :: serverName)
  let alpn ← vecOf 2 (vec 1) client.config.alpn
  let shares ← vec 2 shares
  return [⟨ExtensionType.serverName, serverNames⟩, ⟨ExtensionType.supportedGroups, [0, 2, 0, 0x1D]⟩,
    ⟨ExtensionType.signatureAlgorithms, [0, 4, 8, 4, 4, 3]⟩, ⟨ExtensionType.alpn, alpn⟩,
    ⟨ExtensionType.supportedVersions, [2, 3, 4]⟩, ⟨ExtensionType.keyShare, shares⟩,
    ⟨ExtensionType.quicTransportParameters, client.config.transportParameters⟩,
    ⟨ExtensionType.pskKeyExchangeModes, [1, 1]⟩] ++
    if client.earlyDataOffered then [⟨ExtensionType.earlyData, []⟩] else []

def offers (client : TlsClient) : Except Raised (List Extension) :=
  match client.config.sessionTicket with
  | none => .ok []
  | some ticket => do
    let offer ← client.pskOffer ticket
    return [offer]

def buildClientHello : EStateM Raised TlsClient ClientHello := do
  modify fun client => { client with
    earlyDataOffered := client.offersEarlyData
    -- provisional, until the server selects a suite
    cipherSuite :=
      match client.config.sessionTicket with
      | some ticket => if client.offersEarlyData then ticket.cipherSuite else client.cipherSuite
      | none => client.cipherSuite }
  let client ← get
  let extensions ← lift client.plainExtensions
  let offers ← lift client.offers
  return ⟨client.random, [], client.config.cipherSuites, extensions ++ offers⟩

def updateTranscript (message : Bytes) : EStateM Raised TlsClient PUnit :=
  modify fun client => { client with schedule := client.schedule.updateTranscript message }

def fillPskBinder (hashing : Hashing) (raw : Bytes) : EStateM Raised TlsClient Bytes := do
  let truncated ← lift (binderTranscript raw 1)
  updateTranscript truncated
  let client ← get
  let binder :=
    finishedVerifyData hashing (client.schedule.binderKey hashing) (client.schedule.transcriptHash hashing)
  let patched := raw.take (raw.length - binder.length) ++ binder
  updateTranscript (patched.drop truncated.length)
  return patched

def recordHello (hashing : Hashing) (raw : Bytes) : EStateM Raised TlsClient Bytes := do
  let client ← get
  if client.config.sessionTicket.isSome then fillPskBinder hashing raw
  else
    updateTranscript raw
    return raw

def start (hashing : Hashing) (now : ℚ) : EStateM Raised TlsClient PUnit := do
  modify fun client => { client with now := now }
  let hello ← buildClientHello
  let raw ← lift (encodeClientHello hello)
  let raw ← recordHello hashing raw
  modify fun client => { client with
    fallbackSchedule := client.fallbackSchedule.map (·.updateTranscript raw)
    earlySecret :=
      if client.earlyDataOffered then some (client.schedule.clientEarlyTrafficSecret hashing) else
        client.earlySecret
    events := client.events ++ [.sendData .initial raw]
    state := .waitServerHello }

def storeSessionTicket (hashing : Hashing) (message : NewSessionTicket) : EStateM Raised TlsClient PUnit := do
  let earlyData := findExtension message.extensions ExtensionType.earlyData
  let size := fromBytes (earlyData.getD [])
  raiseIf (earlyData.isSome ∧ size ≠ maxEarlyDataSize)
    (.tlsAlert 47 "max_early_data_size must be 2^32-1 (RFC 9001 §4.6.1)")
  modify fun client => { client with
    sessionTickets := client.sessionTickets ++ [
      { identity := message.ticket
        psk := resumptionPsk hashing (client.schedule.resumptionMasterSecret hashing) message.nonce
        ageAdd := message.ageAdd
        lifetime := message.lifetime
        receivedAt := client.now
        maxEarlyDataSize := size
        alpn := client.alpn
        transportParameters := client.peerTransportParameters
        cipherSuite := client.cipherSuite }] }

end TlsClient

end Client

section Server

inductive ServerState
  | start
  | waitSecondClientHello
  | waitFinished
  | connected
  deriving DecidableEq

structure TicketDraw where
  nonce : Bytes
  ageAdd : Bytes
  sealNonce : Bytes

structure TlsServer where
  ticketKey : Option Bytes
  transportParameters : Bytes
  clientSupportsResumption : Bool
  alpn : Bytes
  cipherSuite : ℕ
  schedule : KeySchedule
  now : ℚ
  certificateChain : List Bytes
  signingKey : Bytes
  protocols : List Bytes
  random : Bytes
  key : Bytes
  helloRetrySent : Bool
  clientTransportParameters : Bytes
  resumed : Bool
  earlyDataAccepted : Bool
  earlySecret : Option Bytes
  events : List TlsEvent
  clientHsSecret : Bytes
  serverHsSecret : Bytes
  state : ServerState

namespace TlsServer

def issueSessionTicket (hashing : Hashing) (server : TlsServer) (draw : TicketDraw) :
    Except Raised (Option (TicketState × NewSessionTicket)) :=
  match server.ticketKey with
  | none => .ok none
  | some key =>
    if ¬server.clientSupportsResumption then .ok none
    else do
      let state : TicketState :=
        { psk := resumptionPsk hashing (server.schedule.resumptionMasterSecret hashing) draw.nonce
          ageAdd := fromBytes draw.ageAdd
          alpn := server.alpn
          transportParameters := server.transportParameters
          issuedAt := truncate server.now
          cipherSuite := server.cipherSuite }
      let ticket ← sealTicket hashing key draw.sealNonce state
      return some (state, ⟨sessionTicketLifetime, state.ageAdd, draw.nonce, ticket,
        [⟨ExtensionType.earlyData, toBytes 4 maxEarlyDataSize⟩]⟩)

def ticketIsFresh (hello : ClientHello) (selected : ℕ × TicketState) (now : ℚ) : Except Raised Bool :=
  match findExtension hello.extensions ExtensionType.preSharedKey with
  | none => .error .assertion
  | some offer => do
    let (identities, _) ← parseOfferedPsks offer
    match identities[selected.1]? with
    | none => .error (.index "list index out of range")
    | some identity =>
      let claimed : ℤ := ((identity.obfuscatedTicketAge : ℤ) - selected.2.ageAdd) % 2 ^ 32
      let actual : ℚ := (now - selected.2.issuedAt) * 1000
      return decide (|actual - claimed| ≤ ticketAgeToleranceMs)

end TlsServer

end Server

end Dsquic.Tls
