import Dsquic.Wire.Packet
import Dsquic.Wire.Reads

/-!
What a parser has consumed, from what it returns.
-/

namespace Dsquic.Wire

open Lib Buffer

lemma toBytes_fromBytes (data : Bytes) : toBytes data.length (fromBytes data) = data := by
  induction data using List.reverseRecOn with
  | nil => rfl
  | append_singleton data byte ih =>
    have hlt := byte.toNat_lt
    have hquot : (fromBytes data * 256 + byte.toNat) / 256 = fromBytes data := by omega
    have hbyte : UInt8.ofNat (fromBytes data * 256 + byte.toNat) = byte := by
      apply UInt8.toNat_inj.1
      rw [UInt8.toNat_ofNat']
      omega
    rw [fromBytes_append_singleton, List.length_append, List.length_singleton, toBytes, hquot, hbyte, ih]

namespace Parser

variable {α β : Type} {p : Parser α} {f : α → Parser β} {P : α → Bytes → Prop} {Q : β → Bytes → Prop}
  {E : Raised → Prop} {e : Raised}

def Retraces (p : Parser α) (P : α → Bytes → Prop) : Prop :=
  ∀ b, Ensures p b (fun a b' => ∃ data, b.rest = data ++ b'.rest ∧
    b'.position = b.position + data.length ∧ P a data)

lemma Retraces.pure {a : α} (h : P a []) : Retraces (Pure.pure a) P := fun _ => ⟨[], rfl, rfl, h⟩

lemma Retraces.bind (h : p.Retraces P)
    (hf : ∀ a data, P a data → (f a).Retraces fun b data' => Q b (data ++ data')) :
    (p >>= f).Retraces Q := by
  intro b
  rw [ensures_bind]
  apply (h b).imp_true
  rintro a b' ⟨data, hdata, hposition, ha⟩
  apply (hf a data ha b').imp_true
  rintro c b'' ⟨data', hdata', hposition', hc⟩
  refine ⟨data ++ data', ?_, ?_, hc⟩
  · rw [hdata, hdata', List.append_assoc]
  · rw [hposition', hposition, List.length_append, Nat.add_assoc]

lemma Retraces.mono {P' : α → Bytes → Prop} (h : p.Retraces P) (himp : ∀ a data, P a data → P' a data) :
    p.Retraces P' := by
  intro b
  apply (h b).imp_true
  rintro a b' ⟨data, hdata, hposition, ha⟩
  exact ⟨data, hdata, hposition, himp a data ha⟩

lemma Retraces.map {g : α → β} (h : p.Retraces fun a data => Q (g a) data) : (g <$> p).Retraces Q := by
  intro b
  rw [ensures_map]
  exact h b

lemma Retraces.raiseIf_bind {c : Prop} [Decidable c] {q : PUnit → Parser β}
    (h : ¬c → (q ⟨⟩).Retraces Q) : Retraces (raiseIf c e >>= q) Q := by
  intro b
  rw [ensures_bind, ensures_raiseIf]
  exact ⟨fun _ => trivial, fun hc => h hc b⟩

lemma Retraces.lift {x : Except Raised α} (h : ∀ a, x = .ok a → P a []) : Retraces (Lib.lift x) P := by
  intro b
  rw [ensures_lift]
  exact ⟨fun a ha => ⟨[], rfl, rfl, h a ha⟩, fun _ _ => trivial⟩

lemma Retraces.ensures (h : p.Retraces P) (hraises : Raises E p) (b : Buffer) :
    Ensures p b (fun a b' => ∃ data, b.rest = data ++ b'.rest ∧ P a data) fun e _ => E e := by
  apply ((h b).and (hraises b)).mono
  · rintro a b' ⟨⟨data, hdata, -, ha⟩, -⟩
    exact ⟨data, hdata, ha⟩
  · exact fun _ _ he => he.2

lemma of_run_eq_error {data : Bytes}
    (hp : Ensures p ⟨data, 0⟩ (fun _ _ => True) fun e _ => E e) (h : p.run data = .error e) : E e := by
  simp only [Parser.run] at h
  cases hrun : p ⟨data, 0⟩ with
  | ok b s => simp [hrun] at h
  | error e' s =>
    simp only [hrun, Except.error.injEq] at h
    exact h ▸ hp.of_error hrun

lemma retraces_pullBytes (length : ℕ) : (pullBytes length).Retraces fun a data => a = data ∧
    data.length = length := by
  intro b
  rw [ensures_pullBytes]
  refine ⟨fun _ => trivial, fun hlength => ⟨b.rest.take length, ?_, ?_, rfl, ?_⟩⟩
  · exact (List.take_append_drop length b.rest).symm
  · rw [List.length_take_of_le hlength]
  · rw [List.length_take_of_le hlength]

lemma retraces_pullUint8 : pullUint8.Retraces fun byte data => data = [byte] := by
  apply (retraces_pullBytes 1).bind
  rintro _ data ⟨rfl, hlength⟩
  obtain ⟨byte, rfl⟩ := List.length_eq_one_iff.1 hlength
  exact .pure (List.append_nil _)

end Parser

lemma retraces_pullUint (width : ℕ) : (pullUint width).Retraces fun value data => intToBytes value width =
    .ok data := by
  apply (Parser.retraces_pullBytes width).bind
  rintro _ data ⟨rfl, rfl⟩
  apply Parser.Retraces.pure
  rw [intToBytes, if_pos (fromBytes_lt _), toBytes_fromBytes, List.append_nil]

lemma decodes_pullUint {width value : ℕ} (h : value < 256 ^ width) (rest : Bytes) :
    (pullUint width).Decodes (intToBytes value width) rest value := by
  refine ⟨toBytes width value, if_pos h, ?_⟩
  have hbytes := reads_pullBytes (toBytes width value) ([] ++ rest)
  have hvalue : fromBytes (toBytes width value) = value := by rw [fromBytes_toBytes, Nat.mod_eq_of_lt h]
  rw [length_toBytes] at hbytes
  rw [← List.append_nil (toBytes width value)]
  refine hbytes.bind ?_
  rw [hvalue]
  exact .pure value rest

lemma decodes_bytes {length : ℕ} {data : Bytes} (h : data.length = length) (rest : Bytes) :
    (pullBytes length).Decodes (.ok data) rest data := ⟨data, rfl, h ▸ reads_pullBytes data rest⟩

lemma retraces_pullShort :
    pullShort.Retraces fun cid data => cid.length < 256 ∧ data = UInt8.ofNat cid.length :: cid := by
  apply Parser.retraces_pullUint8.bind
  rintro length _ rfl
  apply (Parser.retraces_pullBytes length.toNat).mono
  rintro _ data ⟨rfl, hlength⟩
  rw [hlength]
  exact ⟨length.toNat_lt, by rw [UInt8.ofNat_toNat, List.singleton_append]⟩

section Varints

variable {value form length : ℕ}

lemma retraces_pullVarint : pullVarint.Retraces fun value data => ∃ form length, form < 4 ∧ 2 ^ form = length + 1 ∧
    value < 64 * 256 ^ length ∧ data = toBytes (length + 1) (form * 64 * 256 ^ length + value) := by
  apply Parser.retraces_pullUint8.bind
  rintro first _ rfl
  apply (Parser.retraces_pullBytes _).bind
  rintro tail _ ⟨rfl, hlength⟩
  apply Parser.Retraces.pure
  have hfirst := first.toNat_lt
  obtain ⟨form, high, hform, hhigh, hsplit⟩ : ∃ form high, form < 4 ∧ high < 64 ∧ first.toNat = form * 64 + high :=
    ⟨first.toNat / 64, first.toNat % 64, by omega, by omega, by omega⟩
  rw [hsplit, varint_form hhigh, Nat.shiftLeft_eq, Nat.one_mul] at hlength
  rw [hsplit, varint_mask form hhigh, foldl_bytes]
  have htail := fromBytes_lt tail
  have hpos := Nat.two_pow_pos form
  have hbytes : fromBytes (first :: tail) = form * 64 * 256 ^ tail.length +
    (high * 256 ^ tail.length + fromBytes tail) := by
    have hfold := foldl_bytes tail first.toNat
    rw [hsplit, Nat.add_mul, Nat.add_assoc] at hfold
    rw [fromBytes, List.foldl_cons, Nat.zero_mul, Nat.zero_add, hsplit]
    exact hfold
  refine ⟨form, tail.length, hform, by omega, ?_, ?_⟩
  · calc high * 256 ^ tail.length + fromBytes tail < (high + 1) * 256 ^ tail.length := by
          rw [Nat.succ_mul]
          omega
      _ ≤ 64 * 256 ^ tail.length := Nat.mul_le_mul_right _ hhigh
  · rw [← hbytes, List.append_nil, List.singleton_append]
    exact (toBytes_fromBytes (first :: tail)).symm

lemma varintLength_le_of_form (hform : form < 4) (hlength : 2 ^ form = length + 1)
    (hvalue : value < 64 * 256 ^ length) :
    varintLength value ≤ length + 1 := by
  obtain rfl : length = 2 ^ form - 1 := by omega
  unfold varintLength
  interval_cases form
  · split_ifs <;> omega
  · split_ifs <;> omega
  · split_ifs <;> omega
  · split_ifs <;> omega

lemma length_le_of_pullVarint {data data' : Bytes} (hdata : encodeVarint value = .ok data)
    (h : pullVarint.run data' = .ok value) : data.length ≤ data'.length ∧
    (data'.length = data.length → data' = data) := by
  have hread : Ensures pullVarint ⟨data', 0⟩ fun value _ => ∃ form length back, form < 4 ∧ 2 ^ form = length + 1 ∧
      value < 64 * 256 ^ length ∧ data' = toBytes (length + 1) (form * 64 * 256 ^ length + value) ++ back := by
    apply (retraces_pullVarint ⟨data', 0⟩).imp_true
    rintro value b' ⟨front, hfront, -, form, length, hform, hlength, hvalue, rfl⟩
    exact ⟨form, length, b'.rest, hform, hlength, hvalue, hfront⟩
  obtain ⟨form, length, back, hform, hlength, hvalue, rfl⟩ := Parser.of_run_eq_ok hread h
  obtain ⟨form', length', hform', hlength', -, hencoded⟩ := encodeVarint_form (le_varintMax_of_encodeVarint hdata)
  have hshort := varintLength_le_of_form hform hlength hvalue
  have hdata' := length_encodeVarint hdata
  rw [List.length_append, length_toBytes, hdata']
  refine ⟨by omega, fun hsame => ?_⟩
  -- as short as the encoding, it is of the same form and nothing follows
  obtain rfl : back = [] := List.eq_nil_of_length_eq_zero (by omega)
  cases hdata.symm.trans hencoded
  rw [length_toBytes] at hdata'
  obtain rfl : length' = length := by omega
  obtain rfl : form' = form := Nat.pow_right_injective (le_refl 2) (hlength'.trans hlength.symm)
  exact List.append_nil _

/-- Each value is read back from its encoding, which is the only one that is as short; no other value is read. -/
theorem varint_codec :
    (∀ value ≤ varintMax, ∃ data, encodeVarint value = .ok data ∧
      (∀ suffix position, pullVarint ⟨data ++ suffix, position⟩ = .ok value ⟨suffix, position + data.length⟩) ∧
      ∀ data', pullVarint.run data' = .ok value →
        data.length ≤ data'.length ∧ (data'.length = data.length → data' = data)) ∧
    ∀ data value, pullVarint.run data = .ok value → value ≤ varintMax := by
  constructor
  · intro value hvalue
    obtain ⟨data, hdata⟩ := encodeVarint_isOk hvalue
    refine ⟨data, hdata, fun suffix position => ?_, fun data' h => length_le_of_pullVarint hdata h⟩
    exact eq_ok_of_ensures (reads_pullVarint hdata suffix position)
  · intro data value h
    have hle : Ensures pullVarint ⟨data, 0⟩ fun value _ => value ≤ varintMax :=
      (ensures_pullVarint ⟨data, 0⟩).imp_true (fun _ _ h => h.1)
    exact Parser.of_run_eq_ok (Q := (· ≤ varintMax)) hle h

end Varints

end Dsquic.Wire
