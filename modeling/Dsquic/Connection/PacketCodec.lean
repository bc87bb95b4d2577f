import Dsquic.Connection.Plain
import Dsquic.Wire.PacketCodec

/-!
The receiver recovers what the sender protected, under long and short headers.
-/

namespace Dsquic.Connection

open Lib Wire

variable {env : Env}

lemma shortHeaderFirstByte_spec (space : Space PacketKeys Bytes) {n : ℕ} (hpos : 1 ≤ n) (hle : n ≤ 4) :
    isLong (shortHeaderFirstByte space n) = false ∧ hasFixedBit (shortHeaderFirstByte space n) = true ∧
      Primitives.pnLengthOf (shortHeaderFirstByte space n) = n ∧
      ((shortHeaderFirstByte space n).toNat &&& 0x04 ≠ 0 ↔ space.keyPhase = true) := by
  cases hphase : space.keyPhase <;> simp only [shortHeaderFirstByte, hphase] <;> interval_cases n <;> decide

def Recovers (prims : Primitives) (keys : PacketKeys) (packet header payload : Bytes) (pnOffset : ℕ) (largest : ℤ)
    (packetNumber : ℕ) (keyPhase : Bool) : Prop :=
  ∃ unprotected, prims.removeHeaderProtection keys packet pnOffset largest = .ok unprotected ∧
    unprotected.packetNumber = packetNumber ∧ unprotected.keyPhase = keyPhase ∧ unprotected.header = header ∧
    prims.decryptPayload keys unprotected = .ok payload

theorem packet_protection_round_trip (prims : Primitives) (keys : PacketKeys) {packetNumber : ℕ}
    (hmax : packetNumber ≤ maxPacketNumber) {largestAcked : Option ℕ} {number : Bytes}
    (hnumber : encodePacketNumber packetNumber largestAcked = .ok number) (payload : Bytes)
    (hpayload : 4 - number.length ≤ payload.length) {largest : ℤ} (hlargest : -1 ≤ largest)
    (hwindow : InWindow largest packetNumber number.length) :
    (∀ template header, template.WellFormed →
      buildLongHeader template (payload.length + aeadTagLength) packetNumber number.length = .ok header →
      ∃ packet, prims.protect keys header payload packetNumber = .ok packet ∧
        ∀ rest, ∃ pnOffset, pnOffset + number.length = header.length ∧
          parseLongHeader (packet ++ rest) = .ok
            { packetType := template.packetType
              version := quicV1
              destinationCid := template.destinationCid
              sourceCid := template.sourceCid
              token := template.token
              length := number.length + payload.length + aeadTagLength
              pnOffset := pnOffset } ∧
          Recovers prims keys packet header payload pnOffset largest packetNumber false) ∧
    (∀ template header, template.version ≠ quicV1 →
      buildLongHeader template (payload.length + aeadTagLength) packetNumber number.length = .ok header →
      ∃ packet, prims.protect keys header payload packetNumber = .ok packet ∧
        ∀ rest parsed, parseLongHeader (packet ++ rest) ≠ .ok parsed) ∧
    ∀ (space : Space PacketKeys Bytes) (cid : Bytes),
      ∃ packet, prims.protect keys ([shortHeaderFirstByte space number.length] ++ cid ++ number) payload
        packetNumber =
          .ok packet ∧
        ∀ rest, parseShortHeader (packet ++ rest) cid.length = .ok ⟨cid, 1 + cid.length⟩ ∧
          Recovers prims keys packet ([shortHeaderFirstByte space number.length] ++ cid ++ number) payload
            (1 + cid.length) largest packetNumber space.keyPhase := by
  obtain ⟨hpos, hle⟩ := length_encodePacketNumber hnumber
  have hbytes := encodePacketNumber_eq hnumber
  have hsample : maxPnLength ≤ payload.length + number.length := by
    rw [maxPnLength]
    omega
  refine ⟨?_, ?_, ?_⟩
  · intro template header hwf hheader
    obtain ⟨middle, hshape, -, hparse⟩ := buildLongHeader_eq hpos hle hheader
    obtain ⟨-, -, -, hlength, hphase⟩ := longFirst_spec template.packetType hpos hle
    rw [← hbytes] at hshape
    subst hshape
    obtain ⟨packet, hpacket⟩ := prims.protect_isOk keys _ payload hmax
    refine ⟨packet, hpacket, fun rest => ⟨1 + middle.length, ?_, ?_, ?_⟩⟩
    · simp only [List.length_cons, List.length_append]
      omega
    · rw [Nat.add_assoc]
      exact hparse hwf _ packet rest (Primitives.veiled_protect hlength hpacket)
    · have hopen := Primitives.unprotect_protect hlength hbytes hsample hlargest hmax hwindow hpacket
      rwa [decide_eq_false (by rw [hphase]; exact fun h => h rfl)] at hopen
  · intro template header hne hheader
    obtain ⟨_, hshape, ⟨tail, rfl, hlt⟩, -⟩ := buildLongHeader_eq hpos hle hheader
    obtain ⟨-, -, -, hlength, -⟩ := longFirst_spec template.packetType hpos hle
    rw [← hbytes] at hshape
    subst hshape
    obtain ⟨packet, hpacket⟩ := prims.protect_isOk keys _ payload hmax
    exact ⟨packet, hpacket, parseLongHeader_of_version_ne hlt hne (Primitives.veiled_protect hlength hpacket)⟩
  · intro space cid
    obtain ⟨packet, hpacket⟩ :=
      prims.protect_isOk keys ([shortHeaderFirstByte space number.length] ++ cid ++ number)
      payload hmax
    obtain ⟨hshort, hfixed, hlength, hphase⟩ := shortHeaderFirstByte_spec space hpos hle
    refine ⟨packet, hpacket, fun rest => ⟨?_, ?_⟩⟩
    · exact parseShortHeader_veiled hshort hfixed (Primitives.veiled_protect hlength hpacket) rest
    · have hopen := Primitives.unprotect_protect hlength hbytes hsample hlargest hmax hwindow hpacket
      have hbit : decide ((shortHeaderFirstByte space number.length).toNat &&& 0x04 ≠ 0) = space.keyPhase := by
        simp only [hphase, Bool.decide_eq_true]
      rwa [hbit] at hopen

def plainKeys : PacketKeys := plainPrimitives.derivePacketKeys [] tlsAes128GcmSha256

theorem packet_protection_round_trip_ping :
    ∃ packet, plainPrimitives.protect plainKeys
        ([shortHeaderFirstByte ((plainServer .default).spaces .oneRtt) 1] ++ List.replicate 8 7 ++ [5]) [1, 0, 0]
          5 =
        .ok packet ∧
      ∀ rest, parseShortHeader (packet ++ rest) 8 = .ok ⟨List.replicate 8 7, 9⟩ ∧
        Recovers plainPrimitives plainKeys packet
          ([shortHeaderFirstByte ((plainServer .default).spaces .oneRtt) 1] ++ List.replicate 8 7 ++ [5])
            [1, 0, 0] 9 3 5
          ((plainServer .default).spaces .oneRtt).keyPhase :=
  (packet_protection_round_trip plainPrimitives plainKeys (by decide)
    (show encodePacketNumber 5 none = .ok [5] by decide)
    [1, 0, 0] (by decide) (by decide) (by decide)).2.2 ((plainServer .default).spaces .oneRtt) (List.replicate 8 7)

def versionTwoHeader : Bytes := [0xC0, 0, 0, 0, 2, 0, 0, 0, 21, 0]

theorem version_two_refused :
    buildLongHeader ⟨.initial, 2, [], [], []⟩ 20 0 1 = .ok versionTwoHeader ∧
      plainPrimitives.protect plainKeys versionTwoHeader [1, 0, 0, 0] 0 =
        .ok (versionTwoHeader ++ [1, 0, 0, 0] ++ List.replicate 16 0) ∧
      parseLongHeader (versionTwoHeader ++ [1, 0, 0, 0] ++ List.replicate 16 0) =
        .error (.unsupportedVersion 2) := by
  decide +kernel

end Dsquic.Connection
