import Dsquic.Wire.Buffer

/-!
Long and short headers, Version Negotiation, and packet numbers.
-/

namespace Dsquic.Wire

open Lib Buffer

def quicV1 : ℕ := 1
def maxCidLength : ℕ := 20
def maxPacketNumber : ℕ := 2 ^ 62 - 1

inductive PacketType
  | initial
  | zeroRtt
  | handshake
  | retry
  deriving DecidableEq

namespace PacketType

def value : PacketType → ℕ
  | initial => 0
  | zeroRtt => 1
  | handshake => 2
  | retry => 3

def ofFirst (first : UInt8) : PacketType :=
  match (first.toNat &&& 0x30) >>> 4 with
  | 0 => initial
  | 1 => zeroRtt
  | 2 => handshake
  | _ => retry

end PacketType

def isLong (first : UInt8) : Bool := first.toNat &&& 0x80 ≠ 0

def hasFixedBit (first : UInt8) : Bool := first.toNat &&& 0x40 ≠ 0

structure LongHeader where
  packetType : PacketType
  version : ℕ
  destinationCid : Bytes
  sourceCid : Bytes
  token : Bytes
  length : ℕ
  pnOffset : ℕ
  deriving DecidableEq

structure ShortHeader where
  destinationCid : Bytes
  pnOffset : ℕ

def pullShort : Parser Bytes := do
  let length ← pullUint8
  pullBytes length.toNat

def pullToken (packetType : PacketType) : Parser Bytes :=
  if packetType = .initial then do
    let length ← pullVarint
    pullBytes length
  else pure []

section Raises

variable {E : Raised → Prop} (hread : ∀ reason, E (.bufferRead reason))

include hread

lemma raises_pullShort : Parser.Raises E pullShort := (raises_pullUint8 hread).bind fun _ =>
  raises_pullBytes hread _

lemma raises_pullToken (packetType : PacketType) : Parser.Raises E (pullToken packetType) := by
  simp only [pullToken]
  split_ifs
  · exact (raises_pullVarint hread).bind fun _ => raises_pullBytes hread _
  · exact .pure _

end Raises

def longHeaderParser : Parser LongHeader := do
  let first ← pullUint8
  raiseIf (¬isLong first) (.headerParse "not a long header")
  raiseIf (¬hasFixedBit first) (.headerParse "fixed bit is zero")
  let version ← pullUint32
  raiseIf (version = 0) (.headerParse "version negotiation parsing not implemented")
  let destinationCid ← pullShort
  let sourceCid ← pullShort
  raiseIf (destinationCid.length > maxCidLength ∨ sourceCid.length > maxCidLength)
    (.headerParse "connection ID longer than 20 bytes")
  raiseIf (version ≠ quicV1) (.unsupportedVersion version)
  let packetType := PacketType.ofFirst first
  raiseIf (packetType = .retry) (.headerParse "a Retry packet has no Length field; use parse_retry")
  let token ← pullToken packetType
  let length ← pullVarint
  let b ← get
  return ⟨packetType, version, destinationCid, sourceCid, token, length, b.position⟩

def parseLongHeader (data : Bytes) : Except Raised LongHeader := longHeaderParser.run data

lemma length_cids_of_parseLongHeader {data : Bytes} {header : LongHeader} (h : parseLongHeader data = .ok header) :
    header.destinationCid.length ≤ maxCidLength ∧ header.sourceCid.length ≤ maxCidLength := by
  refine Parser.of_run_eq_ok (Q := fun header => header.destinationCid.length ≤ maxCidLength ∧
    header.sourceCid.length ≤ maxCidLength) ?_ h
  refine ensures_bind_of_forall fun first _ => ensures_bind_of_forall fun _ _ => ensures_bind_of_forall
    fun _ _ => ensures_bind_of_forall fun version _ => ensures_bind_of_forall fun _ _ => ensures_bind_of_forall
    fun destinationCid _ => ensures_bind_of_forall fun sourceCid _ => ?_
  rw [ensures_bind, ensures_raiseIf]
  refine ⟨fun _ => trivial, fun hcids => ?_⟩
  refine ensures_bind_of_forall fun _ _ => ensures_bind_of_forall fun _ _ => ensures_bind_of_forall
    fun token _ => ensures_bind_of_forall fun length _ => ensures_bind_of_forall fun _ _ => ?_
  exact ⟨not_lt.1 fun hlt => hcids (.inl hlt), not_lt.1 fun hlt => hcids (.inr hlt)⟩

def shortHeaderParser (cidLength : ℕ) : Parser ShortHeader := do
  let first ← pullUint8
  raiseIf (isLong first) (.headerParse "not a short header")
  raiseIf (¬hasFixedBit first) (.headerParse "fixed bit is zero")
  let destinationCid ← pullBytes cidLength
  let b ← get
  return ⟨destinationCid, b.position⟩

def parseShortHeader (data : Bytes) (cidLength : ℕ) : Except Raised ShortHeader :=
  (shortHeaderParser cidLength).run data

structure VersionNegotiation where
  destinationCid : Bytes
  sourceCid : Bytes
  versions : List ℕ

def versionEnd : ℕ := 5

def longVersion (data : Bytes) : Option ℕ :=
  if data.length < versionEnd ∨ ¬isLong (data.headD 0) then none
  else some (fromBytes ((data.take versionEnd).drop 1))

def isVersionNegotiation (data : Bytes) : Bool := longVersion data = some 0

def pullVersions : ℕ → Parser (List ℕ)
  | 0 => return []
  | rounds + 1 => do
    let b ← get
    if b.isEmpty then return []
    else
      let version ← pullUint32
      let versions ← pullVersions rounds
      return version :: versions

def parseVersionNegotiation (data : Bytes) : Except Raised VersionNegotiation :=
  Parser.run (do
    let destinationCid ← pullShort
    let sourceCid ← pullShort
    let versions ← pullVersions data.length
    return ⟨destinationCid, sourceCid, versions⟩) (data.drop versionEnd)

structure LongHeaderTemplate where
  packetType : PacketType
  version : ℕ
  destinationCid : Bytes
  sourceCid : Bytes
  token : Bytes

/-- `int.to_bytes(length, "big")` -/
def intToBytes (value length : ℕ) : Except Raised Bytes :=
  if value < 256 ^ length then .ok (toBytes length value) else .error (.overflow "int too big to convert")

/-- `bytes([value])` -/
def singleByte (value : ℕ) : Except Raised Bytes :=
  if value < 256 then .ok [UInt8.ofNat value] else .error (.value "bytes must be in range(0, 256)")

def encodeToken (template : LongHeaderTemplate) : Except Raised Bytes :=
  if template.packetType = .initial then do
    let length ← encodeVarint template.token.length
    return length ++ template.token
  else .ok []

def buildLongHeader (template : LongHeaderTemplate) (payloadLength packetNumber packetNumberLength : ℕ) :
    Except Raised Bytes := do
  let first := 0x80 ||| 0x40 ||| template.packetType.value <<< 4 ||| (packetNumberLength - 1)
  let version ← intToBytes template.version 4
  let destinationLength ← singleByte template.destinationCid.length
  let sourceLength ← singleByte template.sourceCid.length
  let token ← encodeToken template
  let length ← encodeVarint (packetNumberLength + payloadLength)
  let number ← intToBytes packetNumber 8
  return [UInt8.ofNat first] ++ version ++ destinationLength ++ template.destinationCid ++ sourceLength ++
    template.sourceCid ++ token ++ length ++ number.drop (8 - packetNumberLength)

def bitLength (n : ℕ) : ℕ := if n = 0 then 0 else n.log2 + 1

def encodePacketNumber (fullPn : ℕ) (largestAcked : Option ℕ) : Except Raised Bytes := do
  let numUnacked := match largestAcked with
    | none => fullPn + 1
    | some largest => ((fullPn : ℤ) - largest).natAbs
  let numBytes := min 4 (max 1 ((bitLength numUnacked + 1 + 7) / 8))
  let number ← intToBytes fullPn 8
  return number.drop (8 - numBytes)

def decodePacketNumber (largestPn : ℤ) (truncatedPn pnBits : ℕ) : ℕ :=
  let expected := (largestPn + 1).toNat
  let window := 1 <<< pnBits
  let half := window / 2
  -- the mask clears the low bits, which the truncated number then fills
  let candidate := expected / window * window + truncatedPn
  if candidate + half ≤ expected ∧ candidate < 2 ^ 62 - window then candidate + window
  else if candidate > expected + half ∧ candidate ≥ window then candidate - window
  else candidate

section Length

variable {template : LongHeaderTemplate} {data : Bytes}

lemma length_intToBytes {value length : ℕ} (h : intToBytes value length = .ok data) :
    data.length = length := by
  unfold intToBytes at h
  split_ifs at h
  cases h
  simp

lemma length_singleByte {value : ℕ} (h : singleByte value = .ok data) : data.length = 1 := by
  unfold singleByte at h
  split_ifs at h
  cases h
  rfl

lemma length_encodePacketNumber {number : ℕ} {largest : Option ℕ}
    (h : encodePacketNumber number largest = .ok data) : 1 ≤ data.length ∧ data.length ≤ 4 := by
  obtain ⟨full, hfull, h⟩ := bind_eq_ok.1 h
  cases h
  rw [List.length_drop, length_intToBytes hfull]
  omega

def tokenLength (template : LongHeaderTemplate) : ℕ :=
  if template.packetType = .initial then varintLength template.token.length + template.token.length else 0

lemma length_encodeToken (h : encodeToken template = .ok data) : data.length = tokenLength template := by
  unfold encodeToken at h
  unfold tokenLength
  split_ifs at h ⊢
  · obtain ⟨length, hlength, h⟩ := bind_eq_ok.1 h
    cases h
    rw [List.length_append, length_encodeVarint hlength]
  · cases h
    rfl

def longHeaderLength (template : LongHeaderTemplate) (payloadLength numberLength : ℕ) : ℕ :=
  7 + template.destinationCid.length + template.sourceCid.length + tokenLength template +
    varintLength (numberLength + payloadLength) + numberLength

lemma length_buildLongHeader {payloadLength number numberLength : ℕ}
    (h : buildLongHeader template payloadLength number numberLength = .ok data) (hn : numberLength ≤ 8) :
    data.length = longHeaderLength template payloadLength numberLength := by
  obtain ⟨version, hversion, h⟩ := bind_eq_ok.1 h
  obtain ⟨destination, hdestination, h⟩ := bind_eq_ok.1 h
  obtain ⟨source, hsource, h⟩ := bind_eq_ok.1 h
  obtain ⟨token, htoken, h⟩ := bind_eq_ok.1 h
  obtain ⟨length, hlength, h⟩ := bind_eq_ok.1 h
  obtain ⟨full, hfull, h⟩ := bind_eq_ok.1 h
  cases h
  simp only [List.length_append, List.length_drop, List.length_singleton, length_intToBytes hversion,
    length_singleByte hdestination, length_singleByte hsource, length_encodeToken htoken,
    length_encodeVarint hlength, length_intToBytes hfull, longHeaderLength]
  omega

lemma longHeaderLength_le (template : LongHeaderTemplate) (payloadLength : ℕ) {numberLength : ℕ}
    (hn : numberLength ≤ 4) :
    longHeaderLength template payloadLength numberLength ≤
      27 + template.destinationCid.length + template.sourceCid.length + template.token.length := by
  have hvarint := varintLength_le (numberLength + payloadLength)
  have htoken : tokenLength template ≤ 8 + template.token.length := by
    have := varintLength_le template.token.length
    unfold tokenLength
    split_ifs <;> omega
  unfold longHeaderLength
  omega

lemma longHeaderLength_mono {a b : ℕ} (h : a ≤ b) (numberLength : ℕ) :
    longHeaderLength template a numberLength ≤ longHeaderLength template b numberLength := by
  have := varintLength_mono (Nat.add_le_add_left h numberLength)
  unfold longHeaderLength
  omega

end Length

end Dsquic.Wire
