import Dsquic.Wire.Frames
import Mathlib.Data.List.Induction
import Mathlib.Data.Nat.Bitwise
import Mathlib.Tactic.IntervalCases
import Mathlib.Tactic.NormNum
import Mathlib.Tactic.Ring

/-!
Reading back what was encoded, and what any value that was read satisfies.
-/

namespace Dsquic.Wire

open Lib Buffer

section Integers

lemma toBytes_succ (length value : ℕ) :
    toBytes (length + 1) value = UInt8.ofNat (value / 256 ^ length) :: toBytes length value := by
  induction length generalizing value with
  | zero => simp [toBytes]
  | succ length ih =>
    rw [toBytes, ih, toBytes, Nat.div_div_eq_div_mul, Nat.pow_succ', List.cons_append]

lemma foldl_bytes (data : Bytes) (value : ℕ) :
    data.foldl (fun value byte => value * 256 + byte.toNat) value = value * 256 ^ data.length +
      fromBytes data := by
  induction data using List.reverseRecOn with
  | nil => simp [fromBytes]
  | append_singleton data byte ih =>
    rw [List.foldl_append, ih, fromBytes_append_singleton, List.length_append, List.length_singleton, Nat.pow_succ]
    simp only [List.foldl_cons, List.foldl_nil]
    ring

lemma fromBytes_lt (data : Bytes) : fromBytes data < 256 ^ data.length := by
  induction data using List.reverseRecOn with
  | nil => simp [fromBytes]
  | append_singleton data byte ih =>
    rw [fromBytes_append_singleton, List.length_append, List.length_singleton, Nat.pow_succ]
    have := byte.toNat_lt
    omega

end Integers

variable {part : Except Raised Bytes} {E : Raised → Buffer → Prop}

section Encoded

variable {parts parts' : List (Except Raised Bytes)} {data data' : Bytes}

lemma concatEncoded_singleton (part : Except Raised Bytes) : concatEncoded [part] = part := by
  cases part with
  | error e => rfl
  | ok data => exact congrArg Except.ok (List.append_nil data)

lemma concatEncoded_cons_ok : concatEncoded (part :: parts) = .ok data ↔
    ∃ first others, part = .ok first ∧ concatEncoded parts = .ok others ∧ data = first ++ others := by
  constructor
  · intro h
    obtain ⟨first, hfirst, h⟩ := bind_eq_ok.1 h
    obtain ⟨others, hothers, h⟩ := bind_eq_ok.1 h
    cases h
    exact ⟨first, others, hfirst, hothers, rfl⟩
  · rintro ⟨first, others, hfirst, hothers, rfl⟩
    rw [concatEncoded, hfirst, hothers]
    rfl

lemma concatEncoded_append_ok (h : concatEncoded parts = .ok data) (h' : concatEncoded parts' = .ok data') :
    concatEncoded (parts ++ parts') = .ok (data ++ data') := by
  induction parts generalizing data with
  | nil =>
    cases h
    exact h'
  | cons part parts ih =>
    obtain ⟨first, others, hfirst, hothers, rfl⟩ := concatEncoded_cons_ok.1 h
    rw [List.cons_append, List.append_assoc]
    exact concatEncoded_cons_ok.2 ⟨first, _, hfirst, ih hothers, rfl⟩

lemma ok_of_concatEncoded
    (h : concatEncoded parts = .ok data) (hpart : part ∈ parts) : ∃ first, part = .ok first := by
  induction parts generalizing data with
  | nil => cases hpart
  | cons head parts ih =>
    obtain ⟨first, others, hfirst, hothers, -⟩ := concatEncoded_cons_ok.1 h
    rcases List.mem_cons.1 hpart with rfl | hpart
    · exact ⟨first, hfirst⟩
    · exact ih hothers hpart

lemma concatEncoded_isOk (h : ∀ part ∈ parts, ∃ data, part = .ok data) :
    ∃ data, concatEncoded parts = .ok data := by
  induction parts with
  | nil => exact ⟨[], rfl⟩
  | cons part parts ih =>
    obtain ⟨first, hfirst⟩ := h part List.mem_cons_self
    obtain ⟨others, hothers⟩ := ih fun part hmem => h part (List.mem_cons_of_mem _ hmem)
    exact ⟨first ++ others, concatEncoded_cons_ok.2 ⟨first, others, hfirst, hothers, rfl⟩⟩

end Encoded

namespace Parser

variable {α β : Type} {p : Parser α} {f : α → Parser β} {a : α} {b : β} {rest data : Bytes}

def Reads (p : Parser α) (data rest : Bytes) (a : α) : Prop :=
  ∀ position, Ensures p ⟨data ++ rest, position⟩ (fun a' b => a' = a ∧ b = ⟨rest, position + data.length⟩)
    fun _ _ => False

def Decodes (p : Parser α) (encoded : Except Raised Bytes) (rest : Bytes) (a : α) : Prop :=
  ∃ data, encoded = .ok data ∧ p.Reads data rest a

lemma Reads.pure (a : α) (rest : Bytes) : Reads (Pure.pure a) [] rest a := fun _ => ⟨rfl, rfl⟩

lemma Reads.bind {data' : Bytes} (h : p.Reads data (data' ++ rest) a) (hf : (f a).Reads data' rest b) :
    (p >>= f).Reads (data ++ data') rest b := by
  intro position
  rw [ensures_bind, List.append_assoc]
  apply (h position).mono
  · rintro _ _ ⟨rfl, rfl⟩
    have hnext := hf (position + data.length)
    rwa [Nat.add_assoc, ← List.length_append] at hnext
  · exact fun _ _ hfalse => hfalse

lemma Reads.ensures {position : ℕ} {Q : α → Buffer → Prop} (h : p.Reads data rest a)
    (hQ : Q a ⟨rest, position + data.length⟩) : Ensures p ⟨data ++ rest, position⟩ Q E := by
  apply (h position).mono
  · rintro _ _ ⟨rfl, rfl⟩
    exact hQ
  · exact fun _ _ hfalse => hfalse.elim

lemma Reads.map (g : α → β) (h : p.Reads data rest a) : (g <$> p).Reads data rest (g a) := by
  intro position
  rw [ensures_map]
  exact (h position).mono (fun _ _ heq => ⟨congrArg g heq.1, heq.2⟩) fun _ _ hfalse => hfalse

lemma run_eq_of_ensures {result : Except Raised α}
    (h : Ensures p ⟨data, 0⟩ (fun a' _ => .ok a' = result) fun e _ => .error e = result) :
    p.run data = result := by
  simp only [Parser.run]
  cases hrun : p ⟨data, 0⟩ with
  | ok a' b => exact h.of_ok hrun
  | error e b => exact h.of_error hrun

lemma run_eq_ok_of_ensures (h : Ensures p ⟨data, 0⟩ (fun a' _ => a' = a) fun _ _ => False) : p.run data = .ok a :=
  run_eq_of_ensures (h.mono (fun _ _ heq => congrArg Except.ok heq) fun _ _ hfalse => hfalse.elim)

lemma Reads.run_eq_ok (h : p.Reads data [] a) : p.run data = .ok a := by
  have hread := h 0
  rw [List.append_nil] at hread
  exact run_eq_ok_of_ensures (hread.mono (fun _ _ heq => heq.1) fun _ _ hfalse => hfalse)

lemma Decodes.pure (a : α) (rest : Bytes) : Decodes (Pure.pure a) (concatEncoded []) rest a :=
  ⟨[], rfl, .pure a rest⟩

lemma Decodes.bind_append {parts parts' : List (Except Raised Bytes)}
    (h : ∀ rest, p.Decodes (concatEncoded parts) rest a) (hf : (f a).Decodes (concatEncoded parts') rest b) :
    (p >>= f).Decodes (concatEncoded (parts ++ parts')) rest b := by
  obtain ⟨data', hparts', hf⟩ := hf
  obtain ⟨data, hparts, h⟩ := h (data' ++ rest)
  exact ⟨data ++ data', concatEncoded_append_ok hparts hparts', h.bind hf⟩

lemma Decodes.bind {parts : List (Except Raised Bytes)}
    (h : ∀ rest, p.Decodes part rest a) (hf : (f a).Decodes (concatEncoded parts) rest b) :
    (p >>= f).Decodes (concatEncoded (part :: parts)) rest b := by
  have hone : ∀ rest, p.Decodes (concatEncoded [part]) rest a := by rwa [concatEncoded_singleton]
  exact Decodes.bind_append hone hf

variable {encoded : Except Raised Bytes} {q : PUnit → Parser β} {c : Prop} {e : Raised}

lemma Decodes.raiseIf_bind [Decidable c] (hc : ¬c) (h : (q ⟨⟩).Decodes encoded rest b) :
    Decodes (raiseIf c e >>= q) encoded rest b := by
  obtain ⟨data, hdata, h⟩ := h
  refine ⟨data, hdata, fun position => ?_⟩
  rw [ensures_bind, ensures_raiseIf]
  exact ⟨fun hc' => hc hc', fun _ => h position⟩

lemma Decodes.map (g : α → β) (h : p.Decodes encoded rest a) : (g <$> p).Decodes encoded rest (g a) := by
  obtain ⟨data, hdata, h⟩ := h
  exact ⟨data, hdata, h.map g⟩

lemma Decodes.bind_pure (g : α → β) (h : p.Decodes encoded rest a) :
    Decodes (p >>= fun a => Pure.pure (g a)) encoded rest (g a) := by
  obtain ⟨data, hdata, h⟩ := h
  refine ⟨data, hdata, ?_⟩
  rw [← List.append_nil data]
  exact h.bind (.pure _ _)

def Yields (p : Parser α) (size : ℕ) (P : α → Prop) : Prop :=
  ∀ b : Buffer, b.remaining ≤ size → Ensures p b (fun a b' => b'.remaining ≤ size ∧ P a)

variable {size : ℕ} {P : α → Prop} {Q : β → Prop}

lemma Yields.pure {a : α} (h : P a) : Yields (Pure.pure a) size P := fun _ hsize => ⟨hsize, h⟩

lemma Yields.bind (h : p.Yields size P) (hf : ∀ a, P a → (f a).Yields size Q) : (p >>= f).Yields size Q := by
  intro b hsize
  rw [ensures_bind]
  exact (h b hsize).imp_true fun a b' ha => hf a ha.2 b' ha.1

lemma Yields.map {g : α → β} (h : p.Yields size P) (hg : ∀ a, P a → Q (g a)) : (g <$> p).Yields size Q := by
  intro b hsize
  rw [ensures_map]
  exact (h b hsize).imp_true fun a b' ha => ⟨ha.1, hg a ha.2⟩

lemma Yields.ite [Decidable c] {q : Parser α} (hp : c → p.Yields size P) (hq : ¬c → q.Yields size P) :
    (if c then p else q).Yields size P := by
  split_ifs with hc
  · exact hp hc
  · exact hq hc

lemma Yields.raiseIf_bind [Decidable c] (h : ¬c → (q ⟨⟩).Yields size Q) : Yields (raiseIf c e >>= q) size Q := by
  intro b hsize
  rw [ensures_bind, ensures_raiseIf]
  exact ⟨fun _ => trivial, fun hc => h hc b hsize⟩

end Parser

section Pull

variable {data rest : Bytes} {value size : ℕ} {length : ℕ}

lemma ensures_pullBytes {b : Buffer} {Q : Bytes → Buffer → Prop} :
    Ensures (pullBytes length) b Q E ↔
      (b.remaining < length → E (.bufferRead s!"cannot pull {length} bytes, {b.remaining} remaining") b) ∧
      (length ≤ b.remaining → Q (b.rest.take length) ⟨b.rest.drop length, b.position + length⟩) := by
  simp only [pullBytes, ensures_flow, not_lt, gt_iff_lt]

lemma reads_pullBytes (data rest : Bytes) : (pullBytes data.length).Reads data rest data := by
  intro position
  rw [ensures_pullBytes]
  simp [Buffer.remaining]

lemma reads_pullUint8 (byte : UInt8) (rest : Bytes) : pullUint8.Reads [byte] rest byte := by
  have hbytes :=
    (reads_pullBytes [byte] ([] ++ rest)).bind (.pure byte rest) (f := fun data => pure (data.headD 0))
  exact hbytes

lemma varint_mask (form : ℕ) {high : ℕ} (hhigh : high < 64) : (form * 64 + high) &&& 0x3F = high := by
  rw [show 0x3F = 2 ^ 6 - 1 from rfl, Nat.and_two_pow_sub_one_eq_mod]
  omega

lemma varint_form {form high : ℕ} (hhigh : high < 64) : (form * 64 + high) >>> 6 = form := by
  rw [Nat.shiftRight_eq_div_pow]
  omega

lemma reads_pullVarint_form {form length : ℕ} (hform : form < 4) (hlength : 2 ^ form = length + 1)
    (hvalue : value < 64 * 256 ^ length) (rest : Bytes) :
    pullVarint.Reads (toBytes (length + 1) (form * 64 * 256 ^ length + value)) rest value := by
  have hpos : 0 < 256 ^ length := Nat.pow_pos (by decide)
  have hhigh : value / 256 ^ length < 64 := Nat.div_lt_of_lt_mul (by rwa [Nat.mul_comm])
  have hquot : (form * 64 * 256 ^ length + value) / 256 ^ length = form * 64 + value / 256 ^ length := by
    rw [Nat.mul_comm (form * 64), Nat.mul_add_div hpos]
  have hlow : fromBytes (toBytes length (form * 64 * 256 ^ length + value)) = value % 256 ^ length := by
    rw [fromBytes_toBytes, Nat.mul_comm (form * 64), Nat.mul_add_mod]
  have hfirst : (UInt8.ofNat (form * 64 + value / 256 ^ length)).toNat = form * 64 + value / 256 ^ length := by
    rw [UInt8.toNat_ofNat']
    exact Nat.mod_eq_of_lt (by omega)
  rw [toBytes_succ, hquot]
  apply (reads_pullUint8 _ _).bind
  simp only [hfirst, varint_form hhigh, varint_mask form hhigh, Nat.shiftLeft_eq, Nat.one_mul, hlength,
    Nat.add_sub_cancel]
  have hbytes := reads_pullBytes (toBytes length (form * 64 * 256 ^ length + value)) ([] ++ rest)
  rw [length_toBytes] at hbytes
  rw [← List.append_nil (toBytes length _)]
  apply hbytes.bind
  rw [foldl_bytes, length_toBytes, hlow, Nat.div_add_mod']
  exact .pure value rest

lemma or_high {bits : ℕ} (form : ℕ) (h : value < 2 ^ bits) :
    value ||| 2 ^ bits * form = form * 2 ^ bits + value := by
  rw [Nat.or_comm, ← Nat.two_pow_add_eq_or_of_lt h, Nat.mul_comm]

lemma encodeVarint_form (h : value ≤ varintMax) : ∃ form length, form < 4 ∧ 2 ^ form = length + 1 ∧
    value < 64 * 256 ^ length ∧
      encodeVarint value = .ok (toBytes (length + 1) (form * 64 * 256 ^ length + value)) := by
  simp only [encodeVarint]
  split_ifs with h1 h2 h4
  · exact ⟨0, 0, by decide, rfl, by omega, by simp⟩
  · refine ⟨1, 1, by decide, rfl, by omega, ?_⟩
    rw [show 0x4000 = 2 ^ 14 * 1 from rfl, or_high 1 (by omega)]
    norm_num
  · refine ⟨2, 3, by decide, rfl, by omega, ?_⟩
    rw [show 0x80000000 = 2 ^ 30 * 2 from rfl, or_high 2 (by omega)]
    norm_num
  · simp only [varintMax] at h
    refine ⟨3, 7, by decide, rfl, by omega, ?_⟩
    rw [show 0xC000000000000000 = 2 ^ 62 * 3 from rfl, or_high 3 (by omega)]
    norm_num

lemma decodes_pullVarint (h : value ≤ varintMax) (rest : Bytes) :
    pullVarint.Decodes (encodeVarint value) rest value := by
  obtain ⟨form, length, hform, hlength, hvalue, heq⟩ := encodeVarint_form h
  exact ⟨_, heq, reads_pullVarint_form hform hlength hvalue rest⟩

lemma le_varintMax_of_encodeVarint (h : encodeVarint value = .ok data) : value ≤ varintMax := by
  simp only [encodeVarint] at h
  split_ifs at h with h1 h2 h4 h8
  · exact h1.trans (by decide)
  · exact h2.trans (by decide)
  · exact h4.trans (by decide)
  · exact h8

lemma reads_pullVarint (h : encodeVarint value = .ok data) (rest : Bytes) : pullVarint.Reads data rest value := by
  obtain ⟨data', hdata, hreads⟩ := decodes_pullVarint (le_varintMax_of_encodeVarint h) rest
  cases h.symm.trans hdata
  exact hreads

lemma decodes_pullBytes (h : data.length = length) (rest : Bytes) :
    (pullBytes length).Decodes (concatEncoded [.ok data]) rest data := by
  rw [concatEncoded_singleton, ← h]
  exact ⟨data, rfl, reads_pullBytes data rest⟩

lemma decodes_pullLengthPrefixed (h : data.length ≤ varintMax) (rest : Bytes) :
    pullLengthPrefixed.Decodes (concatEncoded [encodeVarint data.length, .ok data]) rest data := by
  exact .bind (decodes_pullVarint h) (decodes_pullBytes rfl rest)

lemma yields_pullBytes (length size : ℕ) :
    (pullBytes length).Yields size fun data => data.length = length ∧ data.length ≤ size := by
  intro b hsize
  rw [ensures_pullBytes]
  refine ⟨fun _ => trivial, fun hlength => ?_⟩
  simp only [Buffer.remaining] at hsize hlength ⊢
  rw [List.length_drop, List.length_take_of_le hlength]
  omega

lemma yields_pullUint8 (size : ℕ) : pullUint8.Yields size fun _ => True :=
  (yields_pullBytes 1 size).bind fun _ _ => .pure trivial

lemma yields_pullRemaining (size : ℕ) : pullRemaining.Yields size fun data => data.length ≤ size := by
  intro b hsize
  simp only [pullRemaining, ensures_state]
  exact (yields_pullBytes b.remaining size b hsize).imp_true fun _ _ h => ⟨h.1, h.2.2⟩

lemma pullVarint_le (first : UInt8) {tail : Bytes} (h : tail.length = 2 ^ (first.toNat >>> 6) - 1) :
    tail.foldl (fun value byte => value * 256 + byte.toNat) (first.toNat &&& 0x3F) ≤ varintMax := by
  have hmask : first.toNat &&& 0x3F < 2 ^ 6 := Nat.and_lt_two_pow _ (show 0x3F < 2 ^ 6 by decide)
  have hform : first.toNat >>> 6 < 4 := by
    have := first.toNat_lt
    rw [Nat.shiftRight_eq_div_pow]
    omega
  have hlength : tail.length ≤ 7 := by
    rw [h]
    interval_cases first.toNat >>> 6 <;> decide
  have htail := fromBytes_lt tail
  have hpow : 256 ^ tail.length ≤ 256 ^ 7 := Nat.pow_le_pow_right (by decide) hlength
  have hhigh : ((first.toNat &&& 0x3F) + 1) * 256 ^ tail.length ≤ 2 ^ 6 * 256 ^ tail.length :=
    Nat.mul_le_mul_right _ hmask
  rw [foldl_bytes]
  rw [Nat.succ_mul] at hhigh
  simp only [varintMax]
  omega

lemma ensures_pullVarint (b : Buffer) :
    Ensures pullVarint b fun value b' => value ≤ varintMax ∧ b'.remaining < b.remaining ∧
      (b.rest.head? = some 0 → value = 0) ∧
      (b'.position = b.position + 1 → b.rest.head?.map UInt8.toNat = some value) := by
  simp only [pullVarint, pullUint8, ensures_state, ensures_pullBytes, Buffer.remaining, implies_true, true_and,
    List.length_drop, Nat.shiftLeft_eq, Nat.one_mul]
  intro hone hmore
  cases hrest : b.rest with
  | nil => simp [hrest] at hone
  | cons first tail =>
    simp only [hrest, List.take_succ_cons, List.take_zero, List.headD_cons, List.drop_succ_cons, List.drop_zero,
      List.length_cons, Nat.add_sub_cancel, List.head?_cons, Option.map_some] at hmore ⊢
    refine ⟨pullVarint_le first (List.length_take_of_le hmore), by omega, fun hzero => ?_, fun hposition => ?_⟩
    · obtain rfl : first = 0 := by simpa using hzero
      rfl
    have hlength : 2 ^ (first.toNat >>> 6) - 1 = 0 := by omega
    have hform : first.toNat >>> 6 = 0 := by
      by_contra hne
      have := Nat.one_lt_two_pow hne
      omega
    have hlt : first.toNat < 64 := by
      rw [Nat.shiftRight_eq_div_pow] at hform
      omega
    have hmask := varint_mask 0 hlt
    rw [Nat.zero_mul, Nat.zero_add] at hmask
    rw [hlength, List.take_zero, List.foldl_nil, hmask]

lemma yields_pullVarint (size : ℕ) : pullVarint.Yields size (· ≤ varintMax) := by
  intro b hsize
  exact (ensures_pullVarint b).imp_true fun _ _ h => ⟨h.2.1.le.trans hsize, h.1⟩

lemma yields_pullLengthPrefixed (size : ℕ) : pullLengthPrefixed.Yields size fun data => data.length ≤ varintMax :=
  (yields_pullVarint size).bind fun length hlength b hsize =>
    (yields_pullBytes length size b hsize).imp_true (fun _ _ h => ⟨h.1, h.2.1.le.trans hlength⟩)

end Pull

end Dsquic.Wire
