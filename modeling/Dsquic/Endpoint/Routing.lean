import Dsquic.Connection.Plain
import Dsquic.Endpoint.TokenValidity

/-!
What a server does with a datagram for a connection ID it does not know: answer it without keeping
state, start a connection, or drop it.
-/

namespace Dsquic.Endpoint

open Lib Wire Buffer Connection

def minVersionNegotiationDatagram : ℕ := 1200

def buildVersionNegotiation (noise : UInt8) (destinationCid sourceCid : Bytes) : Except Raised Bytes :=
  concatEncoded [.ok [noise ||| 0x80], intToBytes 0 4, singleByte destinationCid.length, .ok destinationCid,
    singleByte sourceCid.length, .ok sourceCid, intToBytes quicV1 4]

def versionNegotiationResponse (noise : UInt8) (datagram : Bytes) : Except Raised (Option Bytes) :=
  if datagram.length < minVersionNegotiationDatagram then .ok none
  else if ¬isLong (datagram.headD 0) then .ok none
  else
    let version := fromBytes ((datagram.take versionEnd).drop 1)
    if version = 0 ∨ version = quicV1 then .ok none
    else
      match Parser.run (do
        let peerDestination ← pullShort
        let peerSource ← pullShort
        return (peerDestination, peerSource)) (datagram.drop versionEnd) with
      | .error (.bufferRead _) => .ok none
      | .error e => .error e
      | .ok (peerDestination, peerSource) =>
        if peerDestination.length > maxCidLength ∨ peerSource.length > maxCidLength then .ok none
        else some <$> buildVersionNegotiation noise peerSource peerDestination

def destinationConnectionId (data : Bytes) (cidLength : ℕ) : Option Bytes :=
  if data = [] then none
  else if isLong (data.headD 0) then
    if data.length ≤ versionEnd then none
    else
      let length := (data.getD versionEnd 0).toNat
      if length > maxCidLength ∨ data.length < versionEnd + 1 + length then none
      else some ((data.take (versionEnd + 1 + length)).drop (versionEnd + 1))
  else if data.length < 1 + cidLength then none
  else some ((data.take (1 + cidLength)).drop 1)

/-- A source with the bytes that stand for it in a token; only to a tuple can a datagram be sent. -/
structure Address where
  repr : Bytes
  isTuple : Bool

/-- `sessions` are the connection IDs under which connections are known. -/
structure Server where
  prims : Primitives
  tokenKey : Bytes
  retry : Bool
  sessions : List Bytes

structure Entropy where
  noise : UInt8
  retryCid : Conn.Cid
  nonce : { nonce : Bytes // nonce.length = nonceLength }

inductive Outcome
  | dropped
  | replied (packet : Bytes)
  | delivered
  | accepted (cid : Bytes) (retry : Option RetryContext)
  deriving DecidableEq

def connectionIdLength : ℕ := 8

def tokenLifetime : ℚ := 60

def newTokenLifetime : ℚ := 3600

def sendTo (source : Address) (packet : Bytes) : Outcome := if source.isTuple then .replied packet else .dropped

def initialHeader (data : Bytes) : Except Raised (Option LongHeader) :=
  if data = [] ∨ ¬isLong (data.headD 0) then .ok none
  else
    match parseLongHeader data with
    | .error (.headerParse _) | .error (.unsupportedVersion _) => .ok none
    | .error e => .error e
    | .ok header => .ok (if header.packetType = .initial then some header else none)

def sendRetry (server : Server) (entropy : Entropy) (header : LongHeader) (source : Address) (now : ℚ) :
    Except Raised Bytes := do
  let token ← mintToken server.prims server.tokenKey entropy.nonce.1 header.destinationCid source.repr now
  buildRetry server.prims header.sourceCid entropy.retryCid.1 token header.destinationCid

def checkToken (server : Server) (token cid : Bytes) (source : Address) (now : ℚ) :
    Except Raised (Option RetryContext) :=
  if newToken <+: token then do
    validateNewToken server.prims server.tokenKey token source.repr now newTokenLifetime
    return none
  else do
    let original ← validateToken server.prims server.tokenKey token source.repr now tokenLifetime
    return some ⟨original, cid⟩

def validateAddress (server : Server) (entropy : Entropy) (data cid : Bytes) (source : Address) (now : ℚ) :
    Except Raised (Outcome ⊕ Option RetryContext) := do
  match ← initialHeader data with
  | none => return .inl .dropped
  | some header =>
    if header.token = [] then return .inl (sendTo source (← sendRetry server entropy header source now))
    else
      match checkToken server header.token cid source now with
      | .ok context => return .inr context
      | .error (.token _) => return .inl (sendTo source (← sendRetry server entropy header source now))
      | .error e => throw e

def route (server : Server) (entropy : Entropy) (data : Bytes) (source : Address) (now : ℚ) :
    Except Raised Outcome :=
  match destinationConnectionId data connectionIdLength with
  | none => .ok .dropped
  | some cid =>
    if server.sessions.contains cid then .ok .delivered
    else do
      match ← versionNegotiationResponse entropy.noise data with
      | some negotiation => return sendTo source negotiation
      | none =>
        if ¬isLong (data.headD 0) then return .dropped
        else if server.retry then
          match ← validateAddress server entropy data cid source now with
          | .inl outcome => return outcome
          | .inr context => return .accepted cid context
        else return .accepted cid none

variable {header : LongHeader}

lemma initial_of_initialHeader {data : Bytes} (h : initialHeader data = .ok (some header)) :
    parseLongHeader data = .ok header ∧ PacketType.ofFirst (data.headD 0) = .initial ∧
      fromBytes ((data.take versionEnd).drop 1) = quicV1 := by
  simp only [initialHeader] at h
  split at h
  · cases h
  · split at h
    · cases h
    · cases h
    · cases h
    · next header' hparse =>
      obtain ⟨htype, hversion⟩ := version_of_parseLongHeader hparse
      split at h
      · next hinitial =>
        cases h
        exact ⟨hparse, htype ▸ hinitial, hversion⟩
      · cases h

section Replies

variable {server : Server} {entropy : Entropy} {data reply : Bytes} {source : Address} {now : ℚ} {noise : UInt8}

lemma eq_of_sendTo {packet : Bytes} (h : sendTo source packet = .replied reply) : packet = reply := by
  rw [sendTo] at h
  split_ifs at h
  exact Outcome.replied.inj h

lemma validateAddress_replied {cid : Bytes}
    (h : validateAddress server entropy data cid source now = .ok (.inl (.replied reply))) :
    ∃ header, initialHeader data = .ok (some header) ∧ sendRetry server entropy header source now = .ok reply := by
  obtain ⟨header?, hheader, h⟩ := bind_eq_ok.1 h
  cases header? with
  | none => cases h
  | some header =>
    refine ⟨header, hheader, ?_⟩
    -- a Retry answers an Initial without a token and one whose token does not validate
    have hsent : ∀ {e}, (do return Sum.inl (sendTo source (← sendRetry server entropy header source now)) :
        Except Raised (Outcome ⊕ Option RetryContext)) = .ok (.inl e) → e = .replied reply →
        sendRetry server entropy header source now = .ok reply := by
      intro e hsend he
      obtain ⟨packet, hpacket, hsend⟩ := bind_eq_ok.1 hsend
      cases hsend
      rw [hpacket, eq_of_sendTo he]
    dsimp only at h
    split at h
    · exact hsent h rfl
    · split at h
      · cases h
      · exact hsent h rfl
      · cases h

lemma route_replied (h : route server entropy data source now = .ok (.replied reply)) :
    versionNegotiationResponse entropy.noise data = .ok (some reply) ∨
      ∃ header, initialHeader data = .ok (some header) ∧ sendRetry server entropy header source now =
        .ok reply := by
  simp only [route] at h
  split at h
  · cases h
  · split at h
    · cases h
    · obtain ⟨negotiation, hnegotiation, h⟩ := bind_eq_ok.1 h
      split at h
      · rw [hnegotiation, eq_of_sendTo (Except.ok.inj h)]
        exact .inl rfl
      · split at h
        · cases h
        · split at h
          · obtain ⟨outcome, houtcome, h⟩ := bind_eq_ok.1 h
            split at h
            · cases h
              exact .inr (validateAddress_replied houtcome)
            · cases h
          · cases h

def retryLength (header : LongHeader) (source : Address) : ℕ :=
  68 + header.sourceCid.length + (varintLength header.destinationCid.length + header.destinationCid.length) +
    (varintLength source.repr.length + source.repr.length)

lemma length_retryIntegrityTag {prims : Primitives} {dcid unsigned tag : Bytes}
    (h : prims.retryIntegrityTag dcid unsigned = .ok tag) : tag.length = aeadTagLength := by
  obtain ⟨length, -, h⟩ := bind_eq_ok.1 h
  cases h
  rw [prims.length_aeadEncrypt, List.length_nil, Nat.zero_add]

lemma length_mintToken {token : Bytes} (h : mintToken server.prims server.tokenKey entropy.nonce.1
    header.destinationCid source.repr now = .ok token) :
    token.length = 37 + (varintLength header.destinationCid.length + header.destinationCid.length) +
      (varintLength source.repr.length + source.repr.length) := by
  obtain ⟨payload, hpayload, h⟩ := bind_eq_ok.1 h
  cases h
  simp only [tokenPayload, concatEncoded_cons_ok, concatEncoded_singleton, Except.ok.injEq] at hpayload
  obtain ⟨cidLength, _, hcid, ⟨_, _, rfl, ⟨addressLength, _, haddress, ⟨_, _, rfl, hstamp, rfl⟩, rfl⟩, rfl⟩,
    rfl⟩ := hpayload
  have hnonce := entropy.nonce.2
  simp only [List.length_append, server.prims.length_aeadEncrypt, length_encodeVarint hcid,
    length_encodeVarint haddress, length_timestamp hstamp, hnonce, retryToken, List.length_singleton, nonceLength,
    aeadTagLength]
  omega

lemma length_sendRetry (h : sendRetry server entropy header source now = .ok reply) :
    reply.length = retryLength header source := by
  obtain ⟨token, htoken, h⟩ := bind_eq_ok.1 h
  obtain ⟨unsigned, hunsigned, h⟩ := bind_eq_ok.1 h
  obtain ⟨tag, htag, h⟩ := bind_eq_ok.1 h
  cases h
  simp only [retryHeader, concatEncoded_cons_ok, concatEncoded_singleton, Except.ok.injEq] at hunsigned
  obtain ⟨_, _, rfl, ⟨version, _, hversion, ⟨destination, _, hdestination, ⟨_, _, rfl, ⟨cid, _, hcid,
    ⟨_, _, rfl, rfl, rfl⟩, rfl⟩, rfl⟩, rfl⟩, rfl⟩, rfl⟩ := hunsigned
  simp only [List.length_append, List.length_singleton, length_intToBytes hversion, length_singleByte hdestination,
    length_singleByte hcid, length_mintToken htoken, length_retryIntegrityTag htag, entropy.retryCid.2,
    aeadTagLength, retryLength]
  omega

def versionField (data : Bytes) : ℕ := fromBytes ((data.take versionEnd).drop 1)

lemma versionField_cons {first : UInt8} {version rest : Bytes} (hlength : version.length = 4) :
    versionField (first :: version ++ rest) = fromBytes version := by
  have hversion : (first :: version).length = versionEnd := by rw [List.length_cons, hlength, versionEnd]
  rw [versionField, ← hversion, List.take_left, List.drop_one, List.tail_cons]

lemma versionNegotiationResponse_some (h : versionNegotiationResponse noise data = .ok (some reply)) :
    minVersionNegotiationDatagram ≤ data.length ∧ isLong (data.headD 0) = true ∧
      (versionField data ≠ 0 ∧ versionField data ≠ quicV1) ∧ ∃ peerDestination peerSource, Parser.run (do
        let peerDestination ← pullShort
        let peerSource ← pullShort
        return (peerDestination, peerSource)) (data.drop versionEnd) = .ok (peerDestination, peerSource) ∧
      ¬(peerDestination.length > maxCidLength ∨ peerSource.length > maxCidLength) ∧
      buildVersionNegotiation noise peerSource peerDestination = .ok reply := by
  simp only [versionNegotiationResponse] at h
  split at h
  · cases h
  · next hlength =>
    split at h
    · cases h
    · next hlong =>
      split at h
      · cases h
      · next hversion =>
        refine ⟨not_lt.1 hlength, not_not.1 hlong, not_or.1 hversion, ?_⟩
        split at h
        · cases h
        · cases h
        · next peerDestination peerSource hcids =>
          split at h
          · cases h
          · next hshort =>
            refine ⟨peerDestination, peerSource, hcids, hshort, ?_⟩
            cases hbuild : buildVersionNegotiation noise peerSource peerDestination with
            | error e => rw [hbuild] at h; cases h
            | ok packet =>
              rw [hbuild] at h
              cases h
              rfl

lemma answerable_of_route (h : route server entropy data source now = .ok (.replied reply)) :
    versionField data ≠ 0 ∧ (versionField data = quicV1 → PacketType.ofFirst (data.headD 0) = .initial) := by
  rcases route_replied h with h | ⟨header, hheader, -⟩
  · obtain ⟨-, -, ⟨hzero, hquic⟩, -⟩ := versionNegotiationResponse_some h
    exact ⟨hzero, fun hone => absurd hone hquic⟩
  · obtain ⟨-, htype, hversion⟩ := initial_of_initialHeader hheader
    exact ⟨fun hzero => absurd (hzero.symm.trans hversion) (by decide), fun _ => htype⟩

lemma buildVersionNegotiation_shape {destination cid : Bytes}
    (h : buildVersionNegotiation noise destination cid = .ok reply) :
    reply.length = 11 + destination.length + cid.length ∧ versionField reply = 0 := by
  simp only [buildVersionNegotiation, concatEncoded_cons_ok, concatEncoded_singleton, Except.ok.injEq] at h
  obtain ⟨_, _, rfl, ⟨zero, _, hzero, ⟨destinationLength, _, hdestination, ⟨_, _, rfl, ⟨cidLength, _, hcid,
    ⟨_, version, rfl, hversion, rfl⟩, rfl⟩, rfl⟩, rfl⟩, rfl⟩, rfl⟩ := h
  constructor
  · simp only [List.length_append, List.length_singleton, length_intToBytes hzero, length_singleByte hdestination,
      length_singleByte hcid, length_intToBytes hversion]
    omega
  · rw [← List.append_assoc, List.singleton_append, versionField_cons (length_intToBytes hzero)]
    cases hzero
    decide

lemma versionNegotiationResponse_shape (h : versionNegotiationResponse noise data = .ok (some reply)) :
    minVersionNegotiationDatagram ≤ data.length ∧ reply.length ≤ 11 + 2 * maxCidLength ∧
      versionField reply = 0 := by
  obtain ⟨hlength, -, -, peerDestination, peerSource, -, hshort, hbuild⟩ := versionNegotiationResponse_some h
  obtain ⟨hdestination, hsource⟩ := not_or.1 hshort
  obtain ⟨hreply, hversion⟩ := buildVersionNegotiation_shape hbuild
  exact ⟨hlength, by omega, hversion⟩

lemma sendRetry_shape (h : sendRetry server entropy header source now = .ok reply) :
    versionField reply = quicV1 ∧ PacketType.ofFirst (reply.headD 0) = .retry := by
  obtain ⟨token, htoken, h⟩ := bind_eq_ok.1 h
  obtain ⟨unsigned, hunsigned, h⟩ := bind_eq_ok.1 h
  obtain ⟨tag, htag, h⟩ := bind_eq_ok.1 h
  cases h
  obtain ⟨_, others, hfirst, hothers, rfl⟩ := concatEncoded_cons_ok.1 hunsigned
  obtain ⟨version, rest, hversion, -, rfl⟩ := concatEncoded_cons_ok.1 hothers
  cases hfirst
  constructor
  · rw [← List.append_assoc, List.singleton_append, List.append_assoc,
      versionField_cons (length_intToBytes hversion)]
    cases hversion
    decide
  · change PacketType.ofFirst (UInt8.ofNat (0x80 ||| 0x40 ||| PacketType.retry.value <<< 4)) = .retry
    decide

/-- A reply that keeps no state is within three times the datagram exactly when a Retry for it would be, and no
such reply is answered in turn, by this server or any other. -/
theorem stateless_reply_within_iff (server : Server) (entropy : Entropy) (data : Bytes)
    (source : Address) (now : ℚ)
    (reply : Bytes) (h : route server entropy data source now = .ok (.replied reply)) :
    (reply.length ≤ 3 * data.length ↔
      ∀ header, initialHeader data = .ok (some header) → retryLength header source ≤ 3 * data.length) ∧
    ∀ server' entropy' source' now' further,
      route server' entropy' reply source' now' ≠ .ok (.replied further) := by
  rcases route_replied h with hreply | ⟨header, hheader, hreply⟩
  · obtain ⟨hdata, hshort, hversion⟩ := versionNegotiationResponse_shape hreply
    constructor
    · have hwithin : reply.length ≤ 3 * data.length := by
        rw [minVersionNegotiationDatagram] at hdata
        rw [maxCidLength] at hshort
        omega
      refine ⟨fun _ header hheader => ?_, fun _ => hwithin⟩
      exact absurd (initial_of_initialHeader hheader).2.2 (versionNegotiationResponse_some hreply).2.2.1.2
    · intro server' entropy' source' now' further hagain
      exact (answerable_of_route hagain).1 hversion
  · obtain ⟨hversion, htype⟩ := sendRetry_shape hreply
    rw [length_sendRetry hreply]
    constructor
    · refine ⟨fun hwithin header' hheader' => ?_, fun hall => hall header hheader⟩
      rw [hheader] at hheader'
      cases hheader'
      exact hwithin
    · intro server' entropy' source' now' further hagain
      have hinitial := (answerable_of_route hagain).2 hversion
      rw [htype] at hinitial
      cases hinitial

end Replies

def plainRetryServer : Server := ⟨plainPrimitives, [], true, []⟩

def plainEntropy : Entropy := ⟨0, ⟨List.replicate 8 4, rfl⟩, ⟨List.replicate 12 5, rfl⟩⟩

def bareInitial : Bytes := [0xC0, 0, 0, 0, 1, 0, 0, 0, 0]

/-- `('1.2.3.4', 443)` -/
def plainAddress : Address := ⟨[40, 39, 49, 46, 50, 46, 51, 46, 52, 39, 44, 32, 52, 52, 51, 41], true⟩

def bareRetry : Bytes :=
  [0xF0, 0, 0, 0, 1, 0, 8] ++ List.replicate 8 4 ++ retryToken ++ List.replicate 12 5 ++ [0, 16] ++
    plainAddress.repr ++
    List.replicate 40 0

theorem stateless_reply_within_iff_padded :
    route plainRetryServer plainEntropy (bareInitial ++ List.replicate 20 0) plainAddress 0 =
      .ok (.replied bareRetry) ∧
    bareRetry.length ≤ 3 * (bareInitial ++ List.replicate 20 0).length ∧
    ∀ server' entropy' source' now' further,
      route server' entropy' bareRetry source' now' ≠ .ok (.replied further) := by
  have hroute : route plainRetryServer plainEntropy (bareInitial ++ List.replicate 20 0) plainAddress 0 =
      .ok (.replied bareRetry) := by decide +kernel
  have h := stateless_reply_within_iff plainRetryServer plainEntropy (bareInitial ++ List.replicate 20 0)
    plainAddress 0
    bareRetry hroute
  exact ⟨hroute, by decide, h.2⟩

theorem stateless_reply_amplifies :
    route plainRetryServer plainEntropy bareInitial plainAddress 0 = .ok (.replied bareRetry) ∧
      3 * bareInitial.length < bareRetry.length := by
  decide +kernel

end Dsquic.Endpoint
