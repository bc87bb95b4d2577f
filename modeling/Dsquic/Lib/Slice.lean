import Mathlib.Data.List.TakeDrop
import Mathlib.Tactic.Common

/-!
Parts of a list by offset: a part that occurs there, and a part written there.
-/

namespace Dsquic.Lib

variable {α : Type*} {i : ℕ} {a b : ℕ}

/-- `part` is what `whole` holds from `offset` on, for as long as `part` lasts. -/
def IsSlice (whole : List α) (offset : ℕ) (part : List α) : Prop :=
  ∃ front back, whole = front ++ part ++ back ∧ front.length = offset

namespace IsSlice

variable {whole part : List α} {offset : ℕ}

lemma append (h : IsSlice whole offset part) (more : List α) : IsSlice (whole ++ more) offset part := by
  obtain ⟨front, back, rfl, hlen⟩ := h
  exact ⟨front, back ++ more, by simp only [List.append_assoc], hlen⟩

lemma stop_le (h : IsSlice whole offset part) : offset + part.length ≤ whole.length := by
  obtain ⟨front, back, rfl, rfl⟩ := h
  simp only [List.length_append]
  omega

lemma getElem? (h : IsSlice whole offset part) (hlo : offset ≤ i)
    (hhi : i < offset + part.length) : part[i - offset]? = whole[i]? := by
  obtain ⟨front, back, rfl, rfl⟩ := h
  rw [List.append_assoc, List.getElem?_append_right hlo, List.getElem?_append_left (by omega)]

lemma take_drop (h : offset ≤ whole.length) (n : ℕ) : IsSlice whole offset ((whole.drop offset).take n) :=
  ⟨whole.take offset, (whole.drop offset).drop n,
    by rw [List.append_assoc, List.take_append_drop, List.take_append_drop],
    by rw [List.length_take, Nat.min_eq_left h]⟩

lemma take (h : IsSlice whole offset part) (n : ℕ) : IsSlice whole offset (part.take n) := by
  obtain ⟨front, back, rfl, hlen⟩ := h
  refine ⟨front, part.drop n ++ back, ?_, hlen⟩
  rw [List.append_assoc, List.append_assoc, ← List.append_assoc (part.take n), List.take_append_drop]

lemma drop (h : IsSlice whole offset part) (n : ℕ) :
    IsSlice whole (offset + (part.take n).length) (part.drop n) := by
  obtain ⟨front, back, rfl, hlen⟩ := h
  refine ⟨front ++ part.take n, back, ?_, ?_⟩
  · rw [List.append_assoc front (part.take n), List.take_append_drop]
  · rw [List.length_append, hlen]

end IsSlice

/-- Overwrite `buffer` with `data` at `offset`, after extending it with `filler` to reach that far. -/
def splice (filler : α) (buffer : List α) (offset : ℕ) (data : List α) : List α :=
  let stop := offset + data.length
  let extended := buffer ++ List.replicate (stop - buffer.length) filler
  extended.take offset ++ data ++ extended.drop stop

section Splice

variable (filler : α) (buffer data : List α) (offset : ℕ)

lemma length_splice :
    (splice filler buffer offset data).length = max buffer.length (offset + data.length) := by
  simp only [splice, List.length_append, List.length_take, List.length_drop, List.length_replicate]
  omega

lemma splice_getElem?_inside (hlo : offset ≤ i) (hhi : i < offset + data.length) :
    (splice filler buffer offset data)[i]? = data[i - offset]? := by
  have hlen : ((buffer ++ List.replicate (offset + data.length - buffer.length) filler).take
      offset).length = offset := by
    simp only [List.length_take, List.length_append, List.length_replicate]
    omega
  rw [splice, List.append_assoc, List.getElem?_append_right (by omega), hlen, List.getElem?_append_left (by omega)]

lemma splice_getElem?_outside (hi : i < buffer.length) (hout : i < offset ∨ offset + data.length ≤ i) :
    (splice filler buffer offset data)[i]? = buffer[i]? := by
  have hlen : ((buffer ++ List.replicate (offset + data.length - buffer.length) filler).take
      offset).length = offset := by
    simp only [List.length_take, List.length_append, List.length_replicate]
    omega
  rcases hout with hlo | hhi
  · rw [splice, List.append_assoc, List.getElem?_append_left (by omega),
      List.getElem?_take_of_lt hlo, List.getElem?_append_left hi]
  · rw [splice, List.getElem?_append_right (by rw [List.length_append]; omega), List.length_append,
      hlen, List.getElem?_drop, Nat.add_sub_cancel' hhi, List.getElem?_append_left hi]

end Splice

lemma take_drop_congr {xs ys : List α} (h : ∀ i, a ≤ i → i < b → xs[i]? = ys[i]?) :
    (xs.take b).drop a = (ys.take b).drop a := by
  apply List.ext_getElem?
  intro i
  rw [List.getElem?_drop, List.getElem?_drop, List.getElem?_take, List.getElem?_take]
  split_ifs with hb
  · exact h _ (Nat.le_add_right a i) hb
  · rfl

lemma take_append_take_drop (xs : List α) (h : a ≤ b) :
    xs.take a ++ (xs.take b).drop a = xs.take b := by
  rw [← Nat.min_eq_left h, ← List.take_take, Nat.min_eq_left h, List.take_append_drop]

end Dsquic.Lib
