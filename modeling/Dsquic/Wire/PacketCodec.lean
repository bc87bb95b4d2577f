import Dsquic.Wire.Protection
import Dsquic.Wire.Reads

/-!
Packets are opened as they were protected: the header is parsed through its mask, the packet number decoded in its
window, and the payload decrypted.
-/

namespace Dsquic.Wire

open Lib Buffer

section PacketNumber

lemma drop_toBytes {skip length : ℕ} (value : ℕ) (h : skip ≤ length) :
    (toBytes length value).drop skip = toBytes (length - skip) value := by
  induction skip generalizing length with
  | zero => rfl
  | succ skip ih =>
    obtain ⟨length, rfl⟩ := Nat.exists_eq_add_of_le' (show 1 ≤ length by omega)
    rw [toBytes_succ, List.drop_succ_cons, ih (by omega), Nat.add_sub_add_right]

lemma encodePacketNumber_eq {packetNumber : ℕ} {largestAcked : Option ℕ} {number : Bytes}
    (h : encodePacketNumber packetNumber largestAcked = .ok number) :
    number = toBytes number.length packetNumber := by
  obtain ⟨full, hfull, h⟩ := bind_eq_ok.1 h
  simp only [intToBytes] at hfull
  split_ifs at hfull
  cases hfull
  cases h
  rw [List.length_drop, length_toBytes, drop_toBytes packetNumber (Nat.sub_le 8 _)]

def InWindow (largest : ℤ) (packetNumber length : ℕ) : Prop :=
  largest + 1 < packetNumber + (256 ^ length / 2 : ℕ) ∧ packetNumber ≤ largest + 1 + (256 ^ length / 2 : ℕ)

instance (largest : ℤ) (packetNumber length : ℕ) : Decidable (InWindow largest packetNumber length) :=
  inferInstanceAs (Decidable (_ ∧ _))

lemma decodePacketNumber_truncated {largest : ℤ} {packetNumber length : ℕ} (hlargest : -1 ≤ largest)
    (hmax : packetNumber ≤ maxPacketNumber) (hlength : 1 ≤ length) (h : InWindow largest packetNumber length) :
    decodePacketNumber largest (packetNumber % 256 ^ length) (length * 8) = packetNumber := by
  obtain ⟨expected, hexpected⟩ := Int.eq_ofNat_of_zero_le (show 0 ≤ largest + 1 by omega)
  obtain ⟨half, hhalf⟩ : ∃ half, 256 ^ length = 2 * half := by
    obtain ⟨length, rfl⟩ := Nat.exists_eq_add_of_le' hlength
    exact ⟨128 * 256 ^ length, by ring⟩
  have hwindow : 1 <<< (length * 8) = 2 * half := by
    rw [Nat.shiftLeft_eq, Nat.one_mul, Nat.mul_comm, Nat.pow_mul, ← hhalf]
  have hpos : 0 < 2 * half := hhalf ▸ Nat.pow_pos (by decide)
  simp only [InWindow, hexpected, hhalf] at h
  simp only [maxPacketNumber] at hmax
  simp only [decodePacketNumber, hexpected, hwindow, hhalf, Int.toNat_natCast]
  have hpacket := Nat.div_add_mod packetNumber (2 * half)
  have hblock := Nat.div_add_mod expected (2 * half)
  have hlow := Nat.mod_lt packetNumber hpos
  have hbelow := Nat.mod_lt expected hpos
  rw [Nat.mul_comm (expected / _)]
  -- The number lies in the block of the expected one, or in one of the two blocks next to it.
  rcases Nat.lt_trichotomy (packetNumber / (2 * half)) (expected / (2 * half)) with hlt | heq | hgt
  · rcases (Nat.succ_le_of_lt hlt).eq_or_lt with hnext | hfar
    · rw [← hnext, Nat.mul_succ] at hblock ⊢
      rw [if_neg (by omega), if_pos (by omega)]
      omega
    · have hblocks := Nat.mul_le_mul_left (2 * half) (Nat.succ_le_of_lt hfar)
      simp only [Nat.mul_succ] at hblocks
      omega
  · rw [heq] at hpacket
    rw [if_neg (by omega), if_neg (by omega), hpacket]
  · rcases (Nat.succ_le_of_lt hgt).eq_or_lt with hnext | hfar
    · rw [← hnext, Nat.mul_succ] at hpacket
      rw [if_pos (by omega)]
      omega
    · have hblocks := Nat.mul_le_mul_left (2 * half) (Nat.succ_le_of_lt hfar)
      simp only [Nat.mul_succ] at hblocks
      omega

lemma lt_two_pow_bitLength (n : ℕ) : n < 2 ^ bitLength n := by
  rw [bitLength]
  split_ifs with hzero
  · simp [hzero]
  · exact Nat.lt_log2_self

lemma bitLength_le {n bits : ℕ} (h : n < 2 ^ bits) : bitLength n ≤ bits := by
  rw [bitLength]
  split_ifs with hzero
  · exact Nat.zero_le bits
  · exact Nat.succ_le_of_lt ((Nat.log2_lt hzero).2 h)

lemma numUnacked_lt {n : ℕ} (h : n < 2 ^ 31) :
    n < 2 ^ (8 * min 4 (max 1 ((bitLength n + 1 + 7) / 8)) - 1) := by
  have hbits := bitLength_le h
  calc n < 2 ^ bitLength n := lt_two_pow_bitLength n
    _ ≤ _ := Nat.pow_le_pow_right (by decide) (by omega)

lemma encodePacketNumber_isOk {packetNumber unacked : ℕ} {largestAcked : Option ℕ}
    (hmax : packetNumber ≤ maxPacketNumber)
    (h : largestAcked = none ∧ unacked = packetNumber + 1 ∨
      ∃ largest, largestAcked = some largest ∧ largest < packetNumber ∧ unacked = packetNumber - largest) :
    ∃ number, encodePacketNumber packetNumber largestAcked = .ok number ∧
      number.length = min 4 (max 1 ((bitLength unacked + 1 + 7) / 8)) := by
  have hfits : packetNumber < 256 ^ 8 := by
    simp only [maxPacketNumber] at hmax
    omega
  rcases h with ⟨rfl, rfl⟩ | ⟨largest, rfl, hlargest, rfl⟩
  · refine ⟨_, by simp only [encodePacketNumber, intToBytes, if_pos hfits]; rfl, ?_⟩
    simp only [List.length_drop, length_toBytes]
    omega
  · have habs : ((packetNumber : ℤ) - largest).natAbs = packetNumber - largest := by omega
    refine ⟨_, by simp only [encodePacketNumber, intToBytes, if_pos hfits, habs]; rfl, ?_⟩
    simp only [List.length_drop, length_toBytes]
    omega

lemma half_window_eq {length : ℕ} (h : 1 ≤ length) : 256 ^ length / 2 = 2 ^ (8 * length - 1) := by
  obtain ⟨length, rfl⟩ := Nat.exists_eq_add_of_le' h
  rw [show 8 * (length + 1) - 1 = 8 * length + 7 by omega, pow_succ, pow_add, pow_mul]
  norm_num [Nat.mul_div_assoc]

/-- A packet number sent with the bytes that the acknowledgements so far call for is recovered by every receiver
that has what was acknowledged and has not gone half a window beyond it. -/
theorem packet_number_unambiguous {packetNumber : ℕ} {largestAcked : Option ℕ} (hmax : packetNumber < 2 ^ 62)
    (h : largestAcked = none ∧ packetNumber + 1 < 2 ^ 31 ∨
      ∃ largest, largestAcked = some largest ∧ largest < packetNumber ∧ packetNumber - largest < 2 ^ 31) :
    ∃ number, encodePacketNumber packetNumber largestAcked = .ok number ∧
      ∀ largest : ℤ, (largestAcked.elim (-1) fun acked => (acked : ℤ)) ≤ largest →
        largest + 1 - 2 ^ (8 * number.length - 1) < packetNumber →
        decodePacketNumber largest (fromBytes number) (8 * number.length) = packetNumber := by
  have hmax : packetNumber ≤ maxPacketNumber := Nat.le_sub_one_of_lt hmax
  obtain ⟨unacked, hunacked, hsmall, hnear⟩ : ∃ unacked, (largestAcked = none ∧ unacked = packetNumber + 1 ∨
      ∃ largest, largestAcked = some largest ∧ largest < packetNumber ∧ unacked = packetNumber - largest) ∧
      unacked < 2 ^ 31 ∧ (packetNumber : ℤ) = (largestAcked.elim (-1) fun acked => (acked : ℤ)) + unacked := by
    rcases h with ⟨rfl, hsmall⟩ | ⟨largest, rfl, hlargest, hsmall⟩
    · exact ⟨_, .inl ⟨rfl, rfl⟩, hsmall, by simp⟩
    · exact ⟨_, .inr ⟨largest, rfl, hlargest, rfl⟩, hsmall, by simp only [Option.elim]; omega⟩
  obtain ⟨number, hnumber, hlength⟩ := encodePacketNumber_isOk hmax hunacked
  have hwindow := hlength ▸ numUnacked_lt hsmall
  obtain ⟨hpositive, -⟩ := length_encodePacketNumber hnumber
  refine ⟨number, hnumber, fun largest hseen hahead => ?_⟩
  have hvalue : fromBytes number = packetNumber % 256 ^ number.length := by
    conv_lhs => rw [encodePacketNumber_eq hnumber]
    exact fromBytes_toBytes _ _
  have hlargest : -1 ≤ largest := by
    refine le_trans ?_ hseen
    cases largestAcked <;> simp
  rw [hvalue, Nat.mul_comm]
  apply decodePacketNumber_truncated hlargest hmax hpositive
  have hhalf : ((256 ^ number.length / 2 : ℕ) : ℤ) = 2 ^ (8 * number.length - 1) := by
    rw [half_window_eq hpositive]
    norm_cast
  have hwindow : (unacked : ℤ) < 2 ^ (8 * number.length - 1) := by exact_mod_cast hwindow
  rw [InWindow, hhalf]
  omega

theorem packet_number_unambiguous_boundary :
    ∃ number, encodePacketNumber (2 ^ 62 - 1) (some (2 ^ 62 - 129)) = .ok number ∧
      ∀ largest : ℤ, ((2 ^ 62 - 129 : ℕ) : ℤ) ≤ largest → largest + 1 - 2 ^ (8 * number.length - 1) <
        (2 ^ 62 - 1 : ℕ) →
        decodePacketNumber largest (fromBytes number) (8 * number.length) = 2 ^ 62 - 1 :=
  packet_number_unambiguous (by decide) (.inr ⟨2 ^ 62 - 129, rfl, by decide, by decide⟩)

end PacketNumber

section Mask

lemma toNat_masked (first mask bits : UInt8) {visible : ℕ} (h : bits.toNat &&& visible = 0) :
    (first ^^^ (mask &&& bits)).toNat &&& visible = first.toNat &&& visible := by
  rw [UInt8.toNat_xor, UInt8.toNat_and, Nat.and_xor_distrib_right, Nat.and_assoc, h, Nat.and_zero, Nat.xor_zero]

lemma protectedBits_cases (first : UInt8) :
    Primitives.protectedBits first = 0x0F ∨ Primitives.protectedBits first = 0x1F := by
  simp only [Primitives.protectedBits]
  split_ifs
  · exact .inl rfl
  · exact .inr rfl

lemma isLong_masked (first mask : UInt8) :
    isLong (first ^^^ (mask &&& Primitives.protectedBits first)) = isLong first := by
  have hbits : (Primitives.protectedBits first).toNat &&& 0x80 = 0 := by
    rcases protectedBits_cases first with h | h <;> rw [h] <;> rfl
  simp only [isLong, toNat_masked first mask _ hbits]

lemma protectedBits_masked (first mask : UInt8) :
    Primitives.protectedBits (first ^^^ (mask &&& Primitives.protectedBits first)) =
      Primitives.protectedBits first := by
  change (if isLong (first ^^^ (mask &&& Primitives.protectedBits first)) then 0x0F else 0x1F) = _
  rw [isLong_masked]
  rfl

lemma hasFixedBit_masked (first mask : UInt8) :
    hasFixedBit (first ^^^ (mask &&& Primitives.protectedBits first)) = hasFixedBit first := by
  have hbits : (Primitives.protectedBits first).toNat &&& 0x40 = 0 := by
    rcases protectedBits_cases first with h | h <;> rw [h] <;> rfl
  simp only [hasFixedBit, toNat_masked first mask _ hbits]

lemma xor_cancel (byte mask : UInt8) : byte ^^^ mask ^^^ mask = byte := by
  rw [UInt8.xor_assoc, UInt8.xor_self, UInt8.xor_zero]

lemma zipWith_xor_cancel {number mask : Bytes} (h : number.length ≤ mask.length) :
    List.zipWith (· ^^^ ·) (List.zipWith (· ^^^ ·) number mask) mask = number := by
  induction number generalizing mask with
  | nil => rfl
  | cons byte number ih =>
    cases mask with
    | nil => cases h
    | cons bits mask =>
      rw [List.zipWith_cons_cons, List.zipWith_cons_cons, xor_cancel, ih (Nat.le_of_succ_le_succ h)]

lemma mapIdx_eq_self {f : ℕ → UInt8 → UInt8} {data : Bytes} (h : ∀ i < data.length, ∀ byte, f i byte = byte) :
    data.mapIdx f = data := by
  apply List.ext_getElem (by simp)
  intro i hi _
  rw [List.getElem_mapIdx]
  exact h i (by simpa using hi) _

lemma mapIdx_xor {number mask : Bytes} (h : number.length < mask.length) :
    number.mapIdx (fun i byte => byte ^^^ mask.getD (1 + i) 0) = List.zipWith (· ^^^ ·) number (mask.drop 1) := by
  have hlength : number.length ≤ (mask.drop 1).length := by rw [List.length_drop]; omega
  apply List.ext_getElem (by simp; omega)
  intro i hi _
  have hi : 1 + i < mask.length := by simp at hi; omega
  simp [List.getElem_zipWith, List.getD_eq_getElem?_getD, hi, Nat.add_comm i 1]

lemma maskHeader_eq {mask middle number : Bytes} (bits first : UInt8) (ciphertext : Bytes)
    (hmask : number.length < mask.length) :
    Primitives.maskHeader mask bits (1 + middle.length) number.length
      (first :: (middle ++ (number ++ ciphertext))) =
      (first ^^^ (mask.headD 0 &&& bits)) ::
        (middle ++ (List.zipWith (· ^^^ ·) number (mask.drop 1) ++ ciphertext)) := by
  have hindexed : Primitives.maskHeader mask bits (1 + middle.length) number.length
      (first :: (middle ++ (number ++ ciphertext))) =
        (first :: (middle ++ (number ++ ciphertext))).mapIdx fun i byte =>
        if i = 0 then byte ^^^ (mask.headD 0 &&& bits)
        else if 1 + middle.length ≤ i ∧ i < 1 + middle.length + number.length then
          byte ^^^ mask.getD (1 + (i - (1 + middle.length))) 0
        else byte := by
    rw [List.mapIdx_eq_zipIdx_map]
    rfl
  rw [hindexed, List.mapIdx_cons, List.mapIdx_append, List.mapIdx_append, ← mapIdx_xor hmask]
  congr 1
  congr 1
  · apply mapIdx_eq_self
    intro i hi byte
    rw [if_neg (Nat.succ_ne_zero i), if_neg (by omega)]
  congr 1
  · apply List.ext_getElem (by simp)
    intro i hi _
    rw [List.length_mapIdx] at hi
    rw [List.getElem_mapIdx, List.getElem_mapIdx, if_neg (Nat.succ_ne_zero _), if_pos (by omega)]
    congr 2
    omega
  · apply mapIdx_eq_self
    intro i hi byte
    rw [if_neg (Nat.succ_ne_zero _), if_neg (by omega)]

end Mask

section Protection

variable {prims : Primitives} {keys : PacketKeys} {first : UInt8} {middle number payload packet : Bytes}
  {packetNumber : ℕ}

lemma pnLengthOf_le (first : UInt8) : Primitives.pnLengthOf first ≤ 4 := by
  have : first.toNat &&& 0x03 < 2 ^ 2 := Nat.and_lt_two_pow _ (show 0x03 < 2 ^ 2 by decide)
  simp only [Primitives.pnLengthOf]
  omega

/-- What the network sees of a packet: the first byte under a mask, the header up to the packet number, and a
body. -/
def Veiled (first : UInt8) (middle : Bytes) (length : ℕ) (packet : Bytes) : Prop :=
  ∃ mask body, packet = (first ^^^ (mask &&& Primitives.protectedBits first)) :: (middle ++ body) ∧
    body.length = length

lemma drop_veiled (byte : UInt8) (middle body : Bytes) (k : ℕ) :
    (byte :: (middle ++ body)).drop (1 + middle.length + k) = body.drop k := by
  rw [Nat.add_assoc, Nat.add_comm 1, List.drop_succ_cons, List.drop_length_add_append]

lemma take_veiled (byte : UInt8) (middle body : Bytes) :
    (byte :: (middle ++ body)).take (1 + middle.length) = byte :: middle := by
  rw [Nat.add_comm 1, List.take_succ_cons, List.take_left]

namespace Primitives

lemma protect_eq (hlength : pnLengthOf first = number.length)
    (h : prims.protect keys (first :: (middle ++ number)) payload packetNumber = .ok packet) :
    ∃ nonce ciphertext mask, Primitives.nonce keys.iv packetNumber = .ok nonce ∧
      ciphertext = prims.aeadEncrypt (aead keys) keys.key nonce payload (first :: (middle ++ number)) ∧
      mask = prims.headerProtectionMask keys ((ciphertext.drop (maxPnLength - number.length)).take sampleLength) ∧
      packet = (first ^^^ (mask.headD 0 &&& protectedBits first)) ::
        (middle ++ (List.zipWith (· ^^^ ·) number (mask.drop 1) ++ ciphertext)) := by
  obtain ⟨nonce, hnonce, h⟩ := bind_eq_ok.1 h
  refine ⟨nonce, _, _, hnonce, rfl, rfl, ?_⟩
  have hmask (sample : Bytes) : number.length < (prims.headerProtectionMask keys sample).length := by
    have := pnLengthOf_le first
    rw [headerProtectionMask, prims.length_headerMask]
    omega
  have hoffset : (first :: (middle ++ number)).length - number.length = 1 + middle.length := by
    simp only [List.length_cons, List.length_append]
    omega
  cases h
  simp only [List.headD_cons, hlength, hoffset, List.cons_append, List.append_assoc]
  exact maskHeader_eq _ _ _ (hmask _)

lemma veiled_protect (hlength : pnLengthOf first = number.length)
    (h : prims.protect keys (first :: (middle ++ number)) payload packetNumber = .ok packet) :
    Veiled first middle (number.length + payload.length + aeadTagLength) packet := by
  obtain ⟨nonce, ciphertext, mask, -, hciphertext, hmask, rfl⟩ := protect_eq hlength h
  refine ⟨_, _, rfl, ?_⟩
  have := pnLengthOf_le first
  rw [List.length_append, List.length_zipWith, List.length_drop, hmask, headerProtectionMask,
    prims.length_headerMask, hciphertext, prims.length_aeadEncrypt]
  omega

lemma removeHeaderProtection_protect (hlength : pnLengthOf first = number.length)
    (hpayload : maxPnLength ≤ payload.length + number.length) (largest : ℤ)
    (h : prims.protect keys (first :: (middle ++ number)) payload packetNumber = .ok packet) :
    ∃ nonce, Primitives.nonce keys.iv packetNumber = .ok nonce ∧
      prims.removeHeaderProtection keys packet (1 + middle.length) largest =
        .ok { packetNumber := decodePacketNumber largest (fromBytes number) (number.length * 8)
              keyPhase := first.toNat &&& 0x04 ≠ 0
              header := first :: (middle ++ number)
              ciphertext :=
                prims.aeadEncrypt (aead keys) keys.key nonce payload (first :: (middle ++ number)) } := by
  obtain ⟨nonce, ciphertext, mask, hnonce, hciphertext, hmask, rfl⟩ := protect_eq hlength h
  refine ⟨nonce, hnonce, ?_⟩
  rw [← hciphertext]
  have hle := pnLengthOf_le first
  have hnumber : number.length ≤ (mask.drop 1).length := by
    rw [List.length_drop, hmask, headerProtectionMask, prims.length_headerMask]
    omega
  have hnumberLength : (List.zipWith (· ^^^ ·) number (mask.drop 1)).length = number.length := by
    rw [List.length_zipWith]
    omega
  have hcipherLength : ciphertext.length = payload.length + aeadTagLength := by
    rw [hciphertext, prims.length_aeadEncrypt]
  have hdropNumber : (List.zipWith (· ^^^ ·) number (mask.drop 1) ++ ciphertext).drop maxPnLength =
      ciphertext.drop (maxPnLength - number.length) := by
    rw [List.drop_append, hnumberLength, List.drop_eq_nil_of_le (by rw [hnumberLength, maxPnLength]; omega),
      List.nil_append]
  have hdropBody : (List.zipWith (· ^^^ ·) number (mask.drop 1) ++ ciphertext).drop number.length =
    ciphertext := by
    rw [← hnumberLength, List.drop_left]
  have htakeBody : (List.zipWith (· ^^^ ·) number (mask.drop 1) ++ ciphertext).take number.length =
      List.zipWith (· ^^^ ·) number (mask.drop 1) := by
    rw [← hnumberLength, List.take_left]
  have hpnOffset := drop_veiled (first ^^^ (mask.headD 0 &&& protectedBits first)) middle
    (List.zipWith (· ^^^ ·) number (mask.drop 1) ++ ciphertext) 0
  rw [Nat.add_zero, List.drop_zero] at hpnOffset
  simp only [removeHeaderProtection, drop_veiled, hdropNumber, ← hmask, List.headD_cons, protectedBits_masked,
    xor_cancel, hlength, hpnOffset, htakeBody, hdropBody, zipWith_xor_cancel hnumber, take_veiled,
    List.drop_succ_cons, List.drop_zero]
  rw [if_neg]
  · rfl
  · rw [List.length_take, List.length_drop, hcipherLength]
    simp only [sampleLength, maxPnLength, aeadTagLength] at hpayload ⊢
    omega

lemma unprotect_protect (hlength : pnLengthOf first = number.length)
    (hnumber : number = toBytes number.length packetNumber)
    (hpayload : maxPnLength ≤ payload.length + number.length) {largest : ℤ} (hlargest : -1 ≤ largest)
    (hmax : packetNumber ≤ maxPacketNumber) (hwindow : InWindow largest packetNumber number.length)
    (h : prims.protect keys (first :: (middle ++ number)) payload packetNumber = .ok packet) :
    ∃ unprotected, prims.removeHeaderProtection keys packet (1 + middle.length) largest = .ok unprotected ∧
      unprotected.packetNumber = packetNumber ∧ unprotected.keyPhase = decide (first.toNat &&& 0x04 ≠ 0) ∧
      unprotected.header = first :: (middle ++ number) ∧ prims.decryptPayload keys unprotected = .ok payload := by
  obtain ⟨nonce, hnonce, hremove⟩ := removeHeaderProtection_protect hlength hpayload largest h
  have hpositive : 1 ≤ number.length := by
    rw [← hlength, pnLengthOf]
    omega
  have hdecode : decodePacketNumber largest (fromBytes number) (number.length * 8) = packetNumber := by
    rw [hnumber, fromBytes_toBytes, length_toBytes]
    exact decodePacketNumber_truncated hlargest hmax hpositive hwindow
  refine ⟨_, hremove, hdecode, rfl, rfl, ?_⟩
  rw [decryptPayload, bind_eq_ok]
  refine ⟨nonce, ?_, ?_⟩
  · rw [hdecode, hnonce]
  · simp only [prims.aeadDecrypt_encrypt]

lemma protect_isOk (prims : Primitives) (keys : PacketKeys) (header payload : Bytes)
    (hmax : packetNumber ≤ maxPacketNumber) :
    ∃ packet, prims.protect keys header payload packetNumber = .ok packet := by
  have hnonce : ∃ nonce, Primitives.nonce keys.iv packetNumber = .ok nonce := by
    simp only [maxPacketNumber] at hmax
    rw [Primitives.nonce, intToBytes, keys.length_iv, if_pos (by omega)]
    exact ⟨_, rfl⟩
  obtain ⟨nonce, hnonce⟩ := hnonce
  simp only [protect, hnonce]
  exact ⟨_, rfl⟩

end Primitives

end Protection

section Headers

lemma ofFirst_masked (first mask : UInt8) (hlong : isLong first = true) :
    PacketType.ofFirst (first ^^^ (mask &&& Primitives.protectedBits first)) = PacketType.ofFirst first := by
  have hbits : (Primitives.protectedBits first).toNat &&& 0x30 = 0 := by simp [Primitives.protectedBits, hlong]
  simp only [PacketType.ofFirst, toNat_masked first mask _ hbits]

def longFirst (packetType : PacketType) (packetNumberLength : ℕ) : UInt8 :=
  UInt8.ofNat (0x80 ||| 0x40 ||| packetType.value <<< 4 ||| (packetNumberLength - 1))

lemma longFirst_spec (packetType : PacketType) {n : ℕ} (hpos : 1 ≤ n) (hle : n ≤ 4) :
    isLong (longFirst packetType n) = true ∧ hasFixedBit (longFirst packetType n) = true ∧
      PacketType.ofFirst (longFirst packetType n) = packetType ∧
        Primitives.pnLengthOf (longFirst packetType n) = n ∧
      (longFirst packetType n).toNat &&& 0x04 = 0 := by
  interval_cases n <;> cases packetType <;> decide

lemma reads_pullShort {cid length : Bytes} (h : singleByte cid.length = .ok length) (rest : Bytes) :
    pullShort.Reads (length ++ cid) rest cid := by
  simp only [singleByte] at h
  split_ifs at h with hlt
  cases h
  apply (reads_pullUint8 _ _).bind
  rw [UInt8.toNat_ofNat', Nat.mod_eq_of_lt hlt]
  exact reads_pullBytes cid rest

lemma reads_pullUint32 {value : ℕ} {data : Bytes} (h : intToBytes value 4 = .ok data) (rest : Bytes) :
    pullUint32.Reads data rest value := by
  simp only [intToBytes] at h
  split_ifs at h with hlt
  cases h
  have hbytes := reads_pullBytes (toBytes 4 value) ([] ++ rest)
  rw [length_toBytes] at hbytes
  rw [← List.append_nil (toBytes 4 value)]
  apply hbytes.bind
  rw [fromBytes_toBytes, Nat.mod_eq_of_lt hlt]
  exact .pure value rest

lemma reads_pullToken {template : LongHeaderTemplate} {token : Bytes} (h : encodeToken template = .ok token)
    (hnone : template.packetType ≠ .initial → template.token = []) (rest : Bytes) :
    (pullToken template.packetType).Reads token rest template.token := by
  simp only [encodeToken] at h
  simp only [pullToken]
  split_ifs at h ⊢ with hinitial
  · obtain ⟨length, hlength, h⟩ := bind_eq_ok.1 h
    cases h
    exact (reads_pullVarint hlength _).bind (reads_pullBytes _ rest)
  · cases h
    rw [hnone hinitial]
    exact .pure _ _

lemma version_of_parseLongHeader {data : Bytes} {header : LongHeader} (h : parseLongHeader data = .ok header) :
    header.packetType = PacketType.ofFirst (data.headD 0) ∧
      fromBytes ((data.take versionEnd).drop 1) = quicV1 := by
  have hhead : (data.take 1).headD 0 = data.headD 0 := by cases data <;> rfl
  have hversion : (data.take versionEnd).drop 1 = (data.drop 1).take 4 := by rw [List.drop_take, versionEnd]
  refine Parser.of_run_eq_ok (Q := fun header => header.packetType = PacketType.ofFirst (data.headD 0) ∧
    fromBytes ((data.take versionEnd).drop 1) = quicV1) ?_ h
  simp only [longHeaderParser, pullUint8, pullUint32, ensures_flow, ensures_pullBytes, implies_true, true_and,
    hhead, hversion]
  intro _ _ _ _ _
  refine (ensures_self _ _).imp_true fun destination _ _ => ?_
  refine (ensures_self _ _).imp_true fun source _ _ hcids hquic hretry => ?_
  refine (ensures_self _ _).imp_true fun token _ _ => ?_
  exact (ensures_self _ _).imp_true fun length _ _ => not_not.1 hquic

structure LongHeaderTemplate.WellFormed (template : LongHeaderTemplate) : Prop where
  packetType : template.packetType ≠ .retry
  version : template.version = quicV1
  destinationCid : template.destinationCid.length ≤ maxCidLength
  sourceCid : template.sourceCid.length ≤ maxCidLength
  token : template.packetType ≠ .initial → template.token = []

lemma buildLongHeader_eq {template : LongHeaderTemplate} {payloadLength packetNumber n : ℕ} {header : Bytes}
    (hpos : 1 ≤ n) (hle : n ≤ 4) (h : buildLongHeader template payloadLength packetNumber n = .ok header) :
    ∃ middle, header = longFirst template.packetType n :: (middle ++ toBytes n packetNumber) ∧
      (∃ tail, middle = toBytes 4 template.version ++ tail ∧ template.version < 256 ^ 4) ∧
      (template.WellFormed → ∀ length packet rest, Veiled (longFirst template.packetType n) middle length packet →
        parseLongHeader (packet ++ rest) = .ok
          { packetType := template.packetType
            version := quicV1
            destinationCid := template.destinationCid
            sourceCid := template.sourceCid
            token := template.token
            length := n + payloadLength
            pnOffset := 1 + middle.length }) := by
  obtain ⟨version, hversion, h⟩ := bind_eq_ok.1 h
  obtain ⟨destination, hdestination, h⟩ := bind_eq_ok.1 h
  obtain ⟨source, hsource, h⟩ := bind_eq_ok.1 h
  obtain ⟨token, htoken, h⟩ := bind_eq_ok.1 h
  obtain ⟨length, hlength, h⟩ := bind_eq_ok.1 h
  obtain ⟨full, hfull, h⟩ := bind_eq_ok.1 h
  have hnumber : full.drop (8 - n) = toBytes n packetNumber := by
    simp only [intToBytes] at hfull
    split_ifs at hfull
    cases hfull
    rw [drop_toBytes packetNumber (Nat.sub_le 8 n), show 8 - (8 - n) = n by omega]
  refine ⟨version ++
    ((destination ++ template.destinationCid) ++ ((source ++ template.sourceCid) ++ (token ++ length))),
    ?_, ?_, ?_⟩
  · cases h
    rw [hnumber]
    simp [longFirst]
  · simp only [intToBytes] at hversion
    split_ifs at hversion with hlt
    cases hversion
    exact ⟨_, rfl, hlt⟩
  · rintro hwf bodyLength _ rest ⟨mask, body, rfl, -⟩
    obtain ⟨hlong, hfixed, htype, -, -⟩ := longFirst_spec template.packetType hpos hle
    have hshape : (longFirst template.packetType n ^^^
        (mask &&& Primitives.protectedBits (longFirst template.packetType n))) :: (version ++ ((destination ++
          template.destinationCid) ++ ((source ++ template.sourceCid) ++ (token ++ length))) ++ body) ++ rest =
        [longFirst template.packetType n ^^^
          (mask &&& Primitives.protectedBits (longFirst template.packetType n))] ++
          (version ++ ((destination ++ template.destinationCid) ++ ((source ++ template.sourceCid) ++
            (token ++ (length ++ (body ++ rest)))))) := by simp
    rw [hshape]
    apply Parser.run_eq_ok_of_ensures
    simp only [longHeaderParser, ensures_flow]
    apply (reads_pullUint8 _ _).ensures
    simp only [isLong_masked, hasFixedBit_masked, hlong, hfixed, ofFirst_masked _ _ hlong, htype]
    refine ⟨fun h => h trivial, fun _ => ⟨fun h => h trivial, fun _ => ?_⟩⟩
    apply (reads_pullUint32 hversion _).ensures
    rw [hwf.version]
    refine ⟨fun h => (by decide : quicV1 ≠ 0) h, fun _ => ?_⟩
    apply (reads_pullShort hdestination _).ensures
    apply (reads_pullShort hsource _).ensures
    refine ⟨fun h => ?_, fun _ => ⟨fun h => h rfl, fun _ => ⟨hwf.packetType, fun _ => ?_⟩⟩⟩
    · exact h.elim (Nat.not_lt.2 hwf.destinationCid) (Nat.not_lt.2 hwf.sourceCid)
    apply (reads_pullToken htoken hwf.token _).ensures
    apply (reads_pullVarint hlength _).ensures
    congr 1
    simp only [List.length_append, List.length_singleton]
    omega

lemma parseLongHeader_of_version_ne {version length : ℕ} {first : UInt8} {tail packet : Bytes}
    (hlt : version < 256 ^ 4)
    (hne : version ≠ quicV1) (h : Veiled first (toBytes 4 version ++ tail) length packet) (rest : Bytes)
    (header : LongHeader) : parseLongHeader (packet ++ rest) ≠ .ok header := by
  obtain ⟨mask, body, rfl, -⟩ := h
  intro hparse
  have hversion := (version_of_parseLongHeader hparse).2
  simp only [versionEnd, List.append_assoc, List.cons_append, List.take_succ_cons, List.drop_succ_cons,
    List.drop_zero, List.take_left' (length_toBytes 4 version), fromBytes_toBytes,
    Nat.mod_eq_of_lt hlt] at hversion
  exact hne hversion

lemma parseShortHeader_veiled {first : UInt8} {cid packet : Bytes} {length : ℕ} (hshort : isLong first = false)
    (hfixed : hasFixedBit first = true) (h : Veiled first cid length packet) (rest : Bytes) :
    parseShortHeader (packet ++ rest) cid.length = .ok ⟨cid, 1 + cid.length⟩ := by
  obtain ⟨mask, body, rfl, -⟩ := h
  have hshape : (first ^^^ (mask &&& Primitives.protectedBits first)) :: (cid ++ body) ++ rest =
      [first ^^^ (mask &&& Primitives.protectedBits first)] ++ (cid ++ (body ++ rest)) := by simp
  rw [hshape]
  apply Parser.run_eq_ok_of_ensures
  simp only [shortHeaderParser, ensures_flow]
  apply (reads_pullUint8 _ _).ensures
  simp only [isLong_masked, hasFixedBit_masked, hshort, hfixed]
  refine ⟨Bool.false_ne_true, fun _ => ⟨fun h => h trivial, fun _ => ?_⟩⟩
  apply (reads_pullBytes cid _).ensures
  rfl

end Headers

end Dsquic.Wire
