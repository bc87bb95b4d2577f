import Dsquic.Tls.Resumption

/-!
What a client and a server exchange to agree on keys and to authenticate them: the extensions of their hellos, the
secrets derived, and the certificates.
-/

namespace Dsquic.Tls

open Lib Wire Buffer Recovery

def x25519Group : ℕ := 0x001D

def supportedGroups : List ℕ := [x25519Group]

def supportedCipherSuites : List ℕ := [tlsAes128GcmSha256, tlsChacha20Poly1305Sha256]

def tls13 : Bytes := [3, 4]

def pskDheKe : UInt8 := 1

def rsaPssRsaeSha256 : ℕ := 0x0804

def ecdsaSecp256r1Sha256 : ℕ := 0x0403

def certificateVerifyContext : Bytes :=
  List.replicate 64 32 ++ ascii "TLS 1.3, server CertificateVerify" ++ [0]

def helloRetryRequestRandom : Bytes :=
  [0xcf, 0x21, 0xad, 0x74, 0xe5, 0x9a, 0x61, 0x11, 0xbe, 0x1d, 0x8c, 0x02, 0x1e, 0x65, 0xb8, 0x91,
    0xc2, 0xa2, 0x11, 0x16, 0x7a, 0xbb, 0x8c, 0x5e, 0x07, 0x9e, 0x09, 0xe2, 0xc8, 0xa8, 0x33, 0x9c]

inductive KeyKind
  | rsa
  | ellipticCurve
  | other
  deriving DecidableEq

/-- The outcome of the verification of a chain; `invalid` if there is no verifier for the anchors and the name. -/
inductive Verdict
  | accepted
  | rejected (reason : String)
  | invalid (reason : String)

/-- The primitives of key exchange and of signatures. `sharedSecret` has none for a point of low order. A
certificate is loaded from its encoding if that is one, and has a key if that is of a known kind. -/
structure Asymmetric extends Hashing where
  Cert : Type
  publicKey : Bytes → Bytes
  sharedSecret : Bytes → Bytes → Option Bytes
  loadCertificate : Bytes → Option Cert
  keyKind : Cert → Option KeyKind
  verifySignature : Cert → Bytes → Bytes → Bool
  verifyChain : List Cert → Option ℚ → Bytes → Cert → List Cert → Verdict
  signingKind : Bytes → KeyKind
  sign : Bytes → Bytes → Bytes

/-- Primitives without secrets: hashes do not depend on what is hashed, and every certificate and signature is
good. -/
def bareAsymmetric : Asymmetric where
  hkdfExtract _ _ := []
  hkdfExpandLabel _ _ _ length := List.replicate length 1
  aeadEncrypt _ _ _ data _ := List.replicate aeadTagLength 0 ++ data
  aeadDecrypt _ _ _ data _ := some (data.drop aeadTagLength)
  headerMask _ _ _ := List.replicate 5 1
  length_hkdfExpandLabel _ _ _ _ := List.length_replicate
  length_aeadEncrypt _ _ _ _ _ := by simp [Nat.add_comm]
  length_headerMask _ _ _ := rfl
  aeadDecrypt_encrypt _ _ _ _ _ := by simp
  sha256 _ := List.replicate sha256Length 0
  hmacSha256 _ _ := List.replicate sha256Length 0
  length_hmacSha256 _ _ := List.length_replicate
  Cert := Bytes
  publicKey key := key
  sharedSecret _ peerPublic := some peerPublic
  loadCertificate := some
  keyKind _ := some .rsa
  verifySignature _ _ _ := true
  verifyChain _ _ _ _ _ := .accepted
  signingKind _ := .rsa
  sign _ _ := []

section Extensions

/-- `{group:#06x}` -/
def groupName (group : ℕ) : String :=
  let digits := Nat.toDigits 16 group
  "0x" ++ String.ofList (List.replicate (4 - digits.length) '0' ++ digits)

def decodeAscii (data : Bytes) : Except Raised Bytes :=
  if data.all (· < 128) then .ok data else .error
    (.value "'ascii' codec can't decode bytes: ordinal not in range(128)")

def parseKeyShareEntry (data : Bytes) : Except Raised (ℕ × Bytes) :=
  Parser.run (do
    let group ← pullUint16
    raiseIf (group ∉ supportedGroups)
      (.tlsAlert Alert.illegalParameter s!"key_share group {groupName group} is not supported")
    let publicKey ← pullVec 2
    return (group, publicKey)) data

def listBlock (data : Bytes) : Except Raised Bytes :=
  (Parser.run (pullBytes (fromBytes (data.take 2) + 2)) data).map (·.drop 2)

def parseList {α : Type} (item : Parser α) (data : Bytes) : Except Raised (List α) := do
  let block ← listBlock data
  (pullWhile item block.length).run block

def parseSupportedGroups (data : Bytes) : Except Raised (List ℕ) := parseList pullUint16 data

def parseAlpn (data : Bytes) : Except Raised (List Bytes) :=
  parseList (do
    let protocol ← pullVec 1
    lift (decodeAscii protocol)) data

def findKeyShare : ℕ → Parser (Option Bytes)
  | 0 => return none
  | rounds + 1 => do
    let block ← get
    if block.isEmpty then return none
    else
      let group ← pullUint16
      let publicKey ← pullVec 2
      if group = x25519Group then return some publicKey else findKeyShare rounds

def clientKeyShare (entries : Bytes) : Except Raised (Option Bytes) := do
  let block ← listBlock entries
  (findKeyShare block.length).run block

end Extensions

namespace Asymmetric

variable (prims : Asymmetric)

def exchange (key peerPublic : Bytes) : Except Raised Bytes :=
  if peerPublic.length ≠ 32 then .error (.value "An X25519 public key is 32 bytes long")
  else
    match prims.sharedSecret key peerPublic with
    | some shared => .ok shared
    | none => .error (.value "Error computing shared key.")

def loadDer (data : Bytes) : Except Raised prims.Cert :=
  match prims.loadCertificate data with
  | some certificate => .ok certificate
  | none => .error (.value "error parsing asn1 value")

def certificateKind (certificate : prims.Cert) : Except Raised KeyKind :=
  match prims.keyKind certificate with
  | some kind => .ok kind
  | none => .error (.value "unsupported public key")

def signatureFits (algorithm : ℕ) (kind : KeyKind) : Bool :=
  (algorithm = rsaPssRsaeSha256 && kind = .rsa) || (algorithm = ecdsaSecp256r1Sha256 && kind = .ellipticCurve)

def verifyCertificateVerify (leafCertificate : Bytes) (message : CertificateVerify) (transcriptHash : Bytes) :
    Except Raised PUnit := do
  let certificate ← prims.loadDer leafCertificate
  let kind ← prims.certificateKind certificate
  if signatureFits message.algorithm kind = false then
    .error (.tlsAlert Alert.illegalParameter "unsupported CertificateVerify algorithm")
  else if prims.verifySignature certificate message.signature (certificateVerifyContext ++ transcriptHash) =
    false then
    .error (.tlsAlert Alert.decryptError "CertificateVerify signature is invalid")
  else .ok ⟨⟩

def signCertificateVerify (signingKey transcriptHash : Bytes) : CertificateVerify :=
  ⟨if prims.signingKind signingKey = .rsa then rsaPssRsaeSha256 else ecdsaSecp256r1Sha256,
    prims.sign signingKey (certificateVerifyContext ++ transcriptHash)⟩

def handshakeSecrets (schedule : KeySchedule) (cipherSuite : ℕ) (shared : Bytes) :
    KeySchedule × Bytes × Bytes × List TlsEvent :=
  let schedule := schedule.addEcdhe prims.toHashing shared
  let client := schedule.clientHandshakeTrafficSecret prims.toHashing
  let server := schedule.serverHandshakeTrafficSecret prims.toHashing
  (schedule, client, server,
    [.secretAvailable .handshake .client client cipherSuite,
      .secretAvailable .handshake .server server cipherSuite])

def applicationSecrets (schedule : KeySchedule) (cipherSuite : ℕ) : KeySchedule × List TlsEvent :=
  let schedule := schedule.advanceToMaster prims.toHashing
  (schedule,
    [.secretAvailable .oneRtt .client (schedule.clientApplicationTrafficSecret prims.toHashing) cipherSuite,
      .secretAvailable .oneRtt .server (schedule.serverApplicationTrafficSecret prims.toHashing) cipherSuite])

end Asymmetric

end Dsquic.Tls
