import Dsquic.Endpoint.Routing
import Dsquic.Wire.Retraces

/-!
The readers of a header agree: the parser of a packet, the routing of a datagram and the answer to an unknown
version. -/

namespace Dsquic.Endpoint

open Lib Wire Buffer

def Carries (data : Bytes) (version : ℕ) (destinationCid sourceCid : Bytes) : Prop :=
  ∃ first rest, isLong first = true ∧ version < 2 ^ 32 ∧ destinationCid.length ≤ maxCidLength ∧
    sourceCid.length ≤ maxCidLength ∧
    data = first :: toBytes 4 version ++ (UInt8.ofNat destinationCid.length :: destinationCid) ++
      (UInt8.ofNat sourceCid.length :: sourceCid) ++ rest

section Readers

variable {data destinationCid sourceCid : Bytes} {version : ℕ} {header : LongHeader} {noise : UInt8}
  {reply : Bytes}

lemma Carries.destinationConnectionId (h : Carries data version destinationCid sourceCid) (cidLength : ℕ) :
    destinationConnectionId data cidLength = some destinationCid := by
  obtain ⟨first, rest, hlong, -, hlength, -, rfl⟩ := h
  have hsmall : destinationCid.length % 256 = destinationCid.length :=
    Nat.mod_eq_of_lt (hlength.trans_lt (by decide))
  simp only [Endpoint.destinationConnectionId, toBytes, versionEnd, List.drop_take]
  simp [hlong, hsmall]
  omega

lemma carries_of_fields {first : UInt8} {versionBytes destination source rest rest₁ rest₂ rest₃ : Bytes}
    (hlong : isLong first = true) (hfirst : data = [first] ++ rest₁) (hversion : rest₁ = versionBytes ++ rest₂)
    (hbytes : intToBytes version 4 = .ok versionBytes) (hdestination : rest₂ = destination ++ rest₃)
    (hdestinationCid : destination = UInt8.ofNat destinationCid.length :: destinationCid)
    (hsource : rest₃ = source ++ rest)
    (hsourceCid : source = UInt8.ofNat sourceCid.length :: sourceCid)
    (hshort : ¬(destinationCid.length > maxCidLength ∨ sourceCid.length > maxCidLength)) :
    Carries data version destinationCid sourceCid := by
  obtain ⟨hd, hs⟩ := not_or.1 hshort
  simp only [intToBytes] at hbytes
  split_ifs at hbytes with hlt
  cases hbytes
  refine ⟨first, rest, hlong, hlt, not_lt.1 hd, not_lt.1 hs, ?_⟩
  subst hfirst hversion hdestination hdestinationCid hsource hsourceCid
  simp only [List.append_assoc, List.cons_append, List.nil_append]

lemma longHeaderParser_carries (data : Bytes) :
    Ensures longHeaderParser ⟨data, 0⟩
      (fun header _ => Carries data header.version header.destinationCid header.sourceCid)
      fun e _ => ∀ version, e = .unsupportedVersion version →
        ∃ destinationCid sourceCid, Carries data version destinationCid sourceCid := by
  have hread : ∀ reason version, Raised.bufferRead reason = .unsupportedVersion version →
      ∃ destinationCid sourceCid, Carries data version destinationCid sourceCid := by
    rintro _ _ ⟨⟩
  have hparse : ∀ reason version, Raised.headerParse reason = .unsupportedVersion version →
      ∃ destinationCid sourceCid, Carries data version destinationCid sourceCid := by
    rintro _ _ ⟨⟩
  rw [longHeaderParser, ensures_bind]
  apply (Parser.retraces_pullUint8.ensures (raises_pullUint8 hread) _).mono _ fun _ _ he => he
  rintro first b₁ ⟨_, hfirst, rfl⟩
  rw [ensures_bind, ensures_raiseIf]
  refine ⟨fun _ => hparse _, fun hlong => ?_⟩
  rw [ensures_bind, ensures_raiseIf]
  refine ⟨fun _ => hparse _, fun _ => ?_⟩
  rw [ensures_bind]
  apply ((retraces_pullUint 4).ensures (raises_pullUint32 hread) _).mono _ fun _ _ he => he
  rintro version b₂ ⟨versionBytes, hversion, hbytes⟩
  rw [ensures_bind, ensures_raiseIf]
  refine ⟨fun _ => hparse _, fun _ => ?_⟩
  rw [ensures_bind]
  apply (retraces_pullShort.ensures (raises_pullShort hread) _).mono _ fun _ _ he => he
  rintro destinationCid b₃ ⟨destination, hdestination, -, hdestinationCid⟩
  rw [ensures_bind]
  apply (retraces_pullShort.ensures (raises_pullShort hread) _).mono _ fun _ _ he => he
  rintro sourceCid b₄ ⟨source, hsource, -, hsourceCid⟩
  rw [ensures_bind, ensures_raiseIf]
  refine ⟨fun _ => hparse _, fun hshort => ?_⟩
  have hcarries := carries_of_fields (not_not.1 hlong) hfirst hversion hbytes hdestination hdestinationCid hsource
    hsourceCid hshort
  rw [ensures_bind, ensures_raiseIf]
  refine ⟨fun _ => ?_, fun _ => ?_⟩
  · rintro _ ⟨⟩
    exact ⟨destinationCid, sourceCid, hcarries⟩
  rw [ensures_bind, ensures_raiseIf]
  refine ⟨fun _ => hparse _, fun _ => ?_⟩
  rw [ensures_bind]
  apply (raises_pullToken hread _ _).mono _ fun _ _ he => he
  intro token b₅ _
  rw [ensures_bind]
  apply (raises_pullVarint hread _).mono _ fun _ _ he => he
  intro length b₆ _
  exact hcarries

lemma carries_of_parseLongHeader (h : parseLongHeader data = .ok header) :
    Carries data header.version header.destinationCid header.sourceCid := by
  refine Parser.of_run_eq_ok
    (Q := fun header => Carries data header.version header.destinationCid header.sourceCid) ?_ h
  exact (longHeaderParser_carries data).imp_true fun _ _ h => h

lemma carries_of_unsupportedVersion (h : parseLongHeader data = .error (.unsupportedVersion version)) :
    ∃ destinationCid sourceCid, Carries data version destinationCid sourceCid := by
  refine Parser.of_run_eq_error (E := fun e => ∀ version, e = .unsupportedVersion version →
    ∃ destinationCid sourceCid, Carries data version destinationCid sourceCid) ?_ h version rfl
  exact (longHeaderParser_carries data).imp fun _ _ _ => trivial

lemma destinationConnectionId_of_parseLongHeader (h : parseLongHeader data = .ok header)
    (cidLength : ℕ) : destinationConnectionId data cidLength = some header.destinationCid :=
  (carries_of_parseLongHeader h).destinationConnectionId cidLength

lemma destinationConnectionId_of_parseShortHeader {header : ShortHeader} {cidLength : ℕ}
    (h : parseShortHeader data cidLength = .ok header) :
    destinationConnectionId data cidLength = some header.destinationCid := by
  refine Parser.of_run_eq_ok
    (Q := fun header => destinationConnectionId data cidLength = some header.destinationCid) ?_ h
  rw [shortHeaderParser, ensures_bind]
  apply (Parser.retraces_pullUint8 _).mono _ fun _ _ _ => trivial
  rintro first b₁ ⟨_, hfirst, -, rfl⟩
  rw [ensures_bind, ensures_raiseIf]
  refine ⟨fun _ => trivial, fun hshort => ?_⟩
  rw [ensures_bind, ensures_raiseIf]
  refine ⟨fun _ => trivial, fun _ => ?_⟩
  rw [ensures_bind]
  apply (Parser.retraces_pullBytes cidLength _).mono _ fun _ _ _ => trivial
  rintro cid b₂ ⟨_, hcid, -, rfl, rfl⟩
  change destinationConnectionId data cid.length = some cid
  have hdata : data = first :: (cid ++ b₂.rest) := by
    rw [← hcid]
    exact hfirst
  simp only [hdata, Endpoint.destinationConnectionId, List.drop_take]
  simp [hshort]
  omega

lemma fields_of_cids (h : Parser.run (do
      let peerDestination ← pullShort
      let peerSource ← pullShort
      return (peerDestination, peerSource)) data = .ok (destinationCid, sourceCid)) :
    ∃ rest, data = (UInt8.ofNat destinationCid.length :: destinationCid) ++
      ((UInt8.ofNat sourceCid.length :: sourceCid) ++ rest) := by
  refine Parser.of_run_eq_ok (Q := fun cids : Bytes × Bytes => ∃ rest, data =
    (UInt8.ofNat cids.1.length :: cids.1) ++ ((UInt8.ofNat cids.2.length :: cids.2) ++ rest)) ?_ h
  rw [ensures_bind]
  apply (retraces_pullShort _).mono _ fun _ _ _ => trivial
  rintro destinationCid b₁ ⟨_, hdestination, -, -, rfl⟩
  rw [ensures_bind]
  apply (retraces_pullShort _).mono _ fun _ _ _ => trivial
  rintro sourceCid b₂ ⟨_, hsource, -, -, rfl⟩
  refine ⟨b₂.rest, ?_⟩
  rw [← hsource]
  exact hdestination

lemma carries_of_negotiated (h : versionNegotiationResponse noise data = .ok (some reply)) :
    ∃ version destinationCid sourceCid, Carries data version destinationCid sourceCid ∧
      buildVersionNegotiation noise sourceCid destinationCid = .ok reply := by
  obtain ⟨hlength, hlong, -, destinationCid, sourceCid, hcids, hshort, hbuild⟩ := versionNegotiationResponse_some h
  obtain ⟨rest, hrest⟩ := fields_of_cids hcids
  have hversion : ((data.take versionEnd).drop 1).length = 4 := by
    rw [List.length_drop, List.length_take, Nat.min_eq_left ((by decide : versionEnd ≤ 1200).trans hlength)]
    rfl
  have hfirst : data = [data.headD 0] ++ data.drop 1 := by
    cases data with
    | nil => cases hlength
    | cons first data => rfl
  have hafter : data.drop 1 = (data.take versionEnd).drop 1 ++ data.drop versionEnd := by
    rw [← List.drop_append_of_le_length (by rw [List.length_drop] at hversion; omega), List.take_append_drop]
  have hbytes : intToBytes (versionField data) 4 = .ok ((data.take versionEnd).drop 1) := by
    have hlt := fromBytes_lt ((data.take versionEnd).drop 1)
    rw [hversion] at hlt
    rw [intToBytes, versionField, if_pos hlt, ← hversion, toBytes_fromBytes]
  exact ⟨versionField data, destinationCid, sourceCid,
    carries_of_fields hlong hfirst hafter hbytes hrest rfl rfl rfl hshort, hbuild⟩

lemma isLong_or (noise : UInt8) : isLong (noise ||| 0x80) = true := by
  have hbit : (noise.toNat ||| 0x80) &&& 0x80 = 0x80 := by
    apply Nat.eq_of_testBit_eq
    intro i
    rw [Nat.testBit_and, Nat.testBit_or]
    cases Nat.testBit 0x80 i <;> simp
  simp [isLong, hbit]

lemma reads_pullVersions {version : ℕ} {data : Bytes} (h : intToBytes version 4 = .ok data) (rounds : ℕ) :
    (pullVersions (rounds + 2)).Reads data [] [version] := by
  intro position
  have hfull : (⟨data ++ [], position⟩ : Buffer).isEmpty = false := by
    have hlength := length_intToBytes h
    cases data with
    | nil => cases hlength
    | cons first data => rfl
  rw [pullVersions, ensures_bind, ensures_get, hfull, if_neg Bool.false_ne_true, ensures_bind]
  apply (reads_pullUint32 h []).ensures
  simp [pullVersions, Buffer.isEmpty]

lemma parseVersionNegotiation_build (h : buildVersionNegotiation noise destinationCid sourceCid = .ok reply) :
    isVersionNegotiation reply = true ∧
      parseVersionNegotiation reply = .ok ⟨destinationCid, sourceCid, [quicV1]⟩ := by
  obtain ⟨hlength, hfield⟩ := buildVersionNegotiation_shape h
  simp only [buildVersionNegotiation, concatEncoded_cons_ok, concatEncoded_singleton, Except.ok.injEq] at h
  obtain ⟨_, _, rfl, ⟨zero, _, hzero, ⟨destinationLength, _, hdestination, ⟨_, _, rfl, ⟨sourceLength, _, hsource,
    ⟨_, version, rfl, hversion, rfl⟩, rfl⟩, rfl⟩, rfl⟩, rfl⟩, hreply⟩ := h
  have hhead : reply.headD 0 = noise ||| 0x80 := by rw [hreply]; rfl
  constructor
  · have hlong : ¬(reply.length < versionEnd ∨ ¬isLong (reply.headD 0)) := by
      rw [hhead, isLong_or, versionEnd]
      simp only [not_true, or_false]
      omega
    rw [isVersionNegotiation, longVersion, if_neg hlong, ← versionField, hfield]
    rfl
  · have hdrop : reply.drop versionEnd =
        destinationLength ++ destinationCid ++ (sourceLength ++ sourceCid ++ (version ++ [])) := by
      rw [hreply, ← List.append_assoc, List.drop_left' (by simp [length_intToBytes hzero, versionEnd])]
      simp only [List.append_assoc, List.append_nil]
    obtain ⟨rounds, hrounds⟩ : ∃ rounds, reply.length = rounds + 2 := ⟨reply.length - 2, by omega⟩
    rw [parseVersionNegotiation, hdrop, hrounds]
    apply Parser.Reads.run_eq_ok
    refine (reads_pullShort hdestination _).bind ((reads_pullShort hsource _).bind ?_)
    exact (reads_pullVersions hversion rounds).bind (.pure _ [])

end Readers

/-- A datagram is routed by the destination that its header has for the parsers, and the answer to an unknown
version goes back from where the datagram is routed to. -/
theorem routing_agrees_with_parsing (data : Bytes) (cidLength : ℕ) :
    (∀ header, parseLongHeader data = .ok header →
      destinationConnectionId data cidLength = some header.destinationCid) ∧
    (∀ version, parseLongHeader data = .error (.unsupportedVersion version) →
      ∃ destinationCid sourceCid, Carries data version destinationCid sourceCid ∧
        destinationConnectionId data cidLength = some destinationCid) ∧
    (∀ header, parseShortHeader data cidLength = .ok header →
      destinationConnectionId data cidLength = some header.destinationCid) ∧
    ∀ noise reply, versionNegotiationResponse noise data = .ok (some reply) →
      isVersionNegotiation reply = true ∧
      ∃ version destinationCid sourceCid, Carries data version destinationCid sourceCid ∧
        destinationConnectionId data cidLength = some destinationCid ∧
        parseVersionNegotiation reply = .ok ⟨sourceCid, destinationCid, [quicV1]⟩ := by
  refine ⟨fun header h => destinationConnectionId_of_parseLongHeader h cidLength, fun version h => ?_,
    fun header h => destinationConnectionId_of_parseShortHeader h, fun noise reply h => ?_⟩
  · obtain ⟨destinationCid, sourceCid, hcarries⟩ := carries_of_unsupportedVersion h
    exact ⟨destinationCid, sourceCid, hcarries, hcarries.destinationConnectionId cidLength⟩
  · obtain ⟨version, destinationCid, sourceCid, hcarries, hbuild⟩ := carries_of_negotiated h
    obtain ⟨haccepts, hparses⟩ := parseVersionNegotiation_build hbuild
    exact ⟨haccepts, version, destinationCid, sourceCid, hcarries,
      hcarries.destinationConnectionId cidLength, hparses⟩

end Dsquic.Endpoint
