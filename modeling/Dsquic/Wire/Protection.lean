import Dsquic.Wire.Packet

/-!
Packet protection over abstract cryptographic primitives: key derivation, the AEAD, header protection,
and the integrity tag of Retry packets. Of the primitives only the lengths of their outputs and that
decryption undoes encryption are assumed.
-/

namespace Dsquic.Wire

open Lib Buffer

def tlsAes128GcmSha256 : ℕ := 0x1301
def tlsChacha20Poly1305Sha256 : ℕ := 0x1303

def aeadTagLength : ℕ := 16
def sampleLength : ℕ := 16
def maxPnLength : ℕ := 4

inductive Aead
  | aesGcm
  | chaCha20Poly1305
  deriving DecidableEq

/-- `aeadEncrypt` takes the key, the nonce, the data and the associated data; `headerMask` takes the
header protection key and the sample. -/
structure Primitives where
  hkdfExtract : Bytes → Bytes → Bytes
  hkdfExpandLabel : Bytes → Bytes → Bytes → ℕ → Bytes
  aeadEncrypt : Aead → Bytes → Bytes → Bytes → Bytes → Bytes
  aeadDecrypt : Aead → Bytes → Bytes → Bytes → Bytes → Option Bytes
  headerMask : Aead → Bytes → Bytes → Bytes
  length_hkdfExpandLabel : ∀ secret label context length,
    (hkdfExpandLabel secret label context length).length = length
  length_aeadEncrypt : ∀ aead key nonce data aad,
    (aeadEncrypt aead key nonce data aad).length = data.length + aeadTagLength
  length_headerMask : ∀ aead key sample, (headerMask aead key sample).length = 5
  aeadDecrypt_encrypt : ∀ aead key nonce data aad,
    aeadDecrypt aead key nonce (aeadEncrypt aead key nonce data aad) aad = some data

structure PacketKeys where
  key : Bytes
  iv : Bytes
  hp : Bytes
  cipherSuite : ℕ
  length_iv : iv.length = 12
  deriving DecidableEq

def ascii (text : String) : Bytes := text.toList.map fun c => UInt8.ofNat c.toNat

namespace Primitives

variable (prims : Primitives)

def initialSalt : Bytes :=
  [0x38, 0x76, 0x2c, 0xf7, 0xf5, 0x59, 0x34, 0xb3, 0x4d, 0x17, 0x9a, 0xe6, 0xa4, 0xc8, 0x0c, 0xad, 0xcc,
    0xbb, 0x7f, 0x0a]

structure InitialSecrets where
  client : Bytes
  server : Bytes

def deriveInitialSecrets (clientDcid : Bytes) : InitialSecrets :=
  let initialSecret := prims.hkdfExtract initialSalt clientDcid
  ⟨prims.hkdfExpandLabel initialSecret (ascii "client in") [] 32,
    prims.hkdfExpandLabel initialSecret (ascii "server in") [] 32⟩

def derivePacketKeys (secret : Bytes) (cipherSuite : ℕ) : PacketKeys :=
  let keyLength := if cipherSuite = tlsChacha20Poly1305Sha256 then 32 else 16
  { key := prims.hkdfExpandLabel secret (ascii "quic key") [] keyLength
    iv := prims.hkdfExpandLabel secret (ascii "quic iv") [] 12
    hp := prims.hkdfExpandLabel secret (ascii "quic hp") [] keyLength
    cipherSuite := cipherSuite
    length_iv := prims.length_hkdfExpandLabel _ _ _ _ }

def initialKeys (ofClient : Bool) (clientDcid : Bytes) : PacketKeys :=
  let secrets := prims.deriveInitialSecrets clientDcid
  prims.derivePacketKeys (if ofClient then secrets.client else secrets.server) tlsAes128GcmSha256

def nextGeneration (secret : Option Bytes) (keys : PacketKeys) : Bytes × PacketKeys :=
  let updated := prims.hkdfExpandLabel (secret.getD []) (ascii "quic ku") [] 32
  (updated, { prims.derivePacketKeys updated keys.cipherSuite with hp := keys.hp })

def aead (keys : PacketKeys) : Aead :=
  if keys.cipherSuite = tlsChacha20Poly1305Sha256 then .chaCha20Poly1305 else .aesGcm

def headerProtectionMask (keys : PacketKeys) (sample : Bytes) : Bytes :=
  prims.headerMask (aead keys) keys.hp sample

def nonce (iv : Bytes) (packetNumber : ℕ) : Except Raised Bytes := do
  let number ← intToBytes packetNumber iv.length
  return List.zipWith (· ^^^ ·) iv number

def pnLengthOf (first : UInt8) : ℕ := (first.toNat &&& 0x03) + 1

def protectedBits (first : UInt8) : UInt8 := if isLong first then 0x0F else 0x1F

def maskHeader (mask : Bytes) (firstBits : UInt8) (pnOffset pnLength : ℕ) (packet : Bytes) : Bytes :=
  packet.zipIdx.map fun (byte, i) =>
    if i = 0 then byte ^^^ (mask.headD 0 &&& firstBits)
    else if pnOffset ≤ i ∧ i < pnOffset + pnLength then byte ^^^ mask.getD (1 + (i - pnOffset)) 0
    else byte

def protect (keys : PacketKeys) (header payload : Bytes) (packetNumber : ℕ) : Except Raised Bytes := do
  let first := header.headD 0
  let pnLength := pnLengthOf first
  let nonce ← nonce keys.iv packetNumber
  let ciphertext := prims.aeadEncrypt (aead keys) keys.key nonce payload header
  let sampleOffset := maxPnLength - pnLength
  let sample := (ciphertext.drop sampleOffset).take sampleLength
  let mask := prims.headerProtectionMask keys sample
  return maskHeader mask (protectedBits first) (header.length - pnLength) pnLength (header ++ ciphertext)

structure UnprotectedHeader where
  packetNumber : ℕ
  keyPhase : Bool
  header : Bytes
  ciphertext : Bytes

def removeHeaderProtection (keys : PacketKeys) (packet : Bytes) (pnOffset : ℕ) (largestPn : ℤ) :
    Except Raised UnprotectedHeader :=
  let sample := (packet.drop (pnOffset + maxPnLength)).take sampleLength
  if sample.length < sampleLength then .error (.value "packet too short to sample for header protection")
  else
    let mask := prims.headerProtectionMask keys sample
    let first := packet.headD 0 ^^^ (mask.headD 0 &&& protectedBits (packet.headD 0))
    let pnLength := pnLengthOf first
    let pnBytes := List.zipWith (· ^^^ ·) ((packet.drop pnOffset).take pnLength) (mask.drop 1)
    .ok { packetNumber := decodePacketNumber largestPn (fromBytes pnBytes) (pnLength * 8)
          keyPhase := first.toNat &&& 0x04 ≠ 0
          header := [first] ++ (packet.take pnOffset).drop 1 ++ pnBytes
          ciphertext := packet.drop (pnOffset + pnLength) }

def decryptPayload (keys : PacketKeys) (unprotected : UnprotectedHeader) : Except Raised Bytes := do
  let nonce ← nonce keys.iv unprotected.packetNumber
  match prims.aeadDecrypt (aead keys) keys.key nonce unprotected.ciphertext unprotected.header with
  | some payload => .ok payload
  | none => .error .invalidTag

def retryIntegrityKey : Bytes :=
  [0xbe, 0x0c, 0x69, 0x0b, 0x9f, 0x66, 0x57, 0x5a, 0x1d, 0x76, 0x6b, 0x54, 0xe3, 0x68, 0xc8, 0x4e]

def retryIntegrityNonce : Bytes :=
  [0x46, 0x15, 0x99, 0xd3, 0x5d, 0x63, 0x2b, 0xf2, 0x23, 0x98, 0x25, 0xbb]

def retryIntegrityTag (originalDestinationCid retryWithoutTag : Bytes) : Except Raised Bytes := do
  let length ← singleByte originalDestinationCid.length
  return prims.aeadEncrypt .aesGcm retryIntegrityKey retryIntegrityNonce []
    (length ++ originalDestinationCid ++ retryWithoutTag)

structure Retry where
  version : ℕ
  destinationCid : Bytes
  sourceCid : Bytes
  token : Bytes
  deriving DecidableEq

def isRetry (data : Bytes) : Bool :=
  longVersion data = some quicV1 && PacketType.ofFirst (data.headD 0) = .retry

def parseRetry (data originalDestinationCid : Bytes) : Except Raised Retry :=
  if data.length < aeadTagLength then .error (.headerParse "Retry packet shorter than its integrity tag")
  else Parser.run (do
    let first ← pullUint8
    raiseIf (¬isLong first) (.headerParse "Retry packet without a long header")
    let version ← pullUint32
    raiseIf (version ≠ quicV1) (.unsupportedVersion version)
    raiseIf (PacketType.ofFirst first ≠ .retry) (.headerParse "not a Retry packet")
    let destinationCid ← pullShort
    let sourceCid ← pullShort
    raiseIf (destinationCid.length > maxCidLength ∨ sourceCid.length > maxCidLength)
      (.headerParse "connection ID longer than 20 bytes")
    let unsigned := data.take (data.length - aeadTagLength)
    let expected ← lift (prims.retryIntegrityTag originalDestinationCid unsigned)
    raiseIf (data.drop (data.length - aeadTagLength) ≠ expected)
      (.headerParse "Retry integrity tag does not verify")
    let b ← get
    return ⟨version, destinationCid, sourceCid, unsigned.drop b.position⟩) data

lemma length_sourceCid_of_parseRetry {data dcid : Bytes} {packet : Retry}
    (h : prims.parseRetry data dcid = .ok packet) : packet.sourceCid.length ≤ maxCidLength := by
  simp only [parseRetry] at h
  split_ifs at h
  refine Parser.of_run_eq_ok (Q := fun packet => packet.sourceCid.length ≤ maxCidLength) ?_ h
  refine ensures_bind_of_forall fun first _ => ensures_bind_of_forall fun _ _ => ensures_bind_of_forall
    fun version _ => ensures_bind_of_forall fun _ _ => ensures_bind_of_forall fun _ _ => ensures_bind_of_forall
    fun destinationCid _ => ensures_bind_of_forall fun sourceCid _ => ?_
  rw [ensures_bind, ensures_raiseIf]
  refine ⟨fun _ => trivial, fun hcids => ?_⟩
  refine ensures_bind_of_forall fun expected _ => ensures_bind_of_forall fun _ _ => ensures_bind_of_forall
    fun _ _ => ?_
  exact not_lt.1 fun hlt => hcids (.inr hlt)

lemma length_protect {keys : PacketKeys} {header payload packet : Bytes} {packetNumber : ℕ}
    (h : prims.protect keys header payload packetNumber = .ok packet) :
    packet.length = header.length + payload.length + aeadTagLength := by
  obtain ⟨nonce, -, h⟩ := bind_eq_ok.1 h
  cases h
  simp [maskHeader, prims.length_aeadEncrypt, Nat.add_assoc]

end Primitives

end Dsquic.Wire
