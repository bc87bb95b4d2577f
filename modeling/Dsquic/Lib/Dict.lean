import Mathlib.Algebra.BigOperators.Group.List.Basic
import Mathlib.Data.List.Nodup
import Mathlib.Tactic.Abel
import Mathlib.Algebra.BigOperators.Group.List.Lemmas
import Mathlib.Algebra.Order.BigOperators.Group.Finset

/-! Insertion-ordered dictionaries with unique keys. -/

namespace Dsquic.Lib

variable {κ ν : Type}

structure Dict (κ ν : Type) where
  items : List (κ × ν)
  nodup : (items.map Prod.fst).Nodup

namespace Dict

def empty : Dict κ ν := ⟨[], .nil⟩

instance : Inhabited (Dict κ ν) := ⟨empty⟩

def filter (d : Dict κ ν) (p : κ → ν → Bool) : Dict κ ν :=
  ⟨d.items.filter fun e => p e.1 e.2, d.nodup.sublist (List.filter_sublist.map _)⟩

def keys (d : Dict κ ν) : List κ := d.items.map Prod.fst

def values (d : Dict κ ν) : List ν := d.items.map Prod.snd

def mapValues (d : Dict κ ν) (f : ν → ν) : Dict κ ν :=
  ⟨d.items.map fun e => (e.1, f e.2), by
    rw [List.map_map]
    exact d.nodup⟩

variable {d : Dict κ ν} {v : ν} {p : κ → ν → Bool}

lemma mem_values : v ∈ d.values ↔ ∃ k, (k, v) ∈ d.items := by
  simp [values]

@[simp] lemma items_empty : (empty : Dict κ ν).items = [] := rfl

@[simp] lemma values_empty : (empty : Dict κ ν).values = [] := rfl

lemma mem_items_filter {e : κ × ν} :
    e ∈ (d.filter p).items ↔ e ∈ d.items ∧ p e.1 e.2 = true := List.mem_filter

lemma values_filter_perm (d : Dict κ ν) (p : κ → ν → Bool) :
    ((d.filter p).values ++ (d.filter fun k v => !p k v).values).Perm d.values := by
  have h := (List.filter_append_perm (fun e : κ × ν => p e.1 e.2) d.items).map Prod.snd
  rw [List.map_append] at h
  exact h

lemma values_filter (d : Dict κ ν) (p : ν → Bool) : (d.filter fun _ => p).values = d.values.filter p := by
  simp only [values, filter, List.filter_map, Function.comp_def]

variable [DecidableEq κ]

def lookup (k : κ) : List (κ × ν) → Option ν
  | [] => none
  | p :: rest => if p.1 = k then some p.2 else lookup k rest

def put (k : κ) (v : ν) : List (κ × ν) → List (κ × ν)
  | [] => [(k, v)]
  | p :: rest => if p.1 = k then (k, v) :: rest else p :: put k v rest

variable {l : List (κ × ν)}

lemma mem_keys_put {k j : κ} :
    j ∈ (put k v l).map Prod.fst ↔ j = k ∨ j ∈ l.map Prod.fst := by
  induction l with
  | nil => simp [put]
  | cons p rest ih =>
    rw [put]
    split
    · rename_i h
      simp [h]
    · rw [List.map_cons, List.mem_cons, ih, List.map_cons, List.mem_cons, or_left_comm]

variable {k : κ}

lemma nodup_put (h : (l.map Prod.fst).Nodup) : ((put k v l).map Prod.fst).Nodup := by
  induction l with
  | nil => simp [put]
  | cons p rest ih =>
    rw [List.map_cons, List.nodup_cons] at h
    rw [put]
    split
    · rename_i hk
      rw [List.map_cons, List.nodup_cons]
      exact ⟨hk ▸ h.1, h.2⟩
    · rename_i hk
      rw [List.map_cons, List.nodup_cons, mem_keys_put]
      exact ⟨not_or.mpr ⟨hk, h.1⟩, ih h.2⟩

def get? (d : Dict κ ν) (k : κ) : Option ν := lookup k d.items

def set (d : Dict κ ν) (k : κ) (v : ν) : Dict κ ν := ⟨put k v d.items, nodup_put d.nodup⟩

@[simp] lemma get?_empty (k : κ) : (empty : Dict κ ν).get? k = none := rfl

lemma lookup_eq_some_iff (h : (l.map Prod.fst).Nodup) :
    lookup k l = some v ↔ (k, v) ∈ l := by
  induction l with
  | nil => simp [lookup]
  | cons p rest ih =>
    rw [List.map_cons, List.nodup_cons] at h
    rw [lookup, List.mem_cons]
    split
    · rename_i hk
      have hn : (k, v) ∉ rest := fun hm => h.1 (hk ▸ List.mem_map_of_mem hm)
      simp only [Option.some.injEq, hn, or_false]
      constructor
      · rintro rfl
        rw [← hk]
      · rintro rfl
        rfl
    · rename_i hk
      have hne : (k, v) ≠ p := fun he => hk (he ▸ rfl)
      simp only [hne, false_or]
      exact ih h.2

lemma get?_eq_some_iff :
    d.get? k = some v ↔ (k, v) ∈ d.items := lookup_eq_some_iff d.nodup

lemma lookup_put (k j : κ) (v : ν) (l : List (κ × ν)) :
    lookup j (put k v l) = if j = k then some v else lookup j l := by
  induction l with
  | nil =>
    simp only [put, lookup, eq_comm (a := k)]
  | cons p rest ih =>
    rw [put]
    split
    · rename_i hp
      simp only [lookup, hp, eq_comm (a := k)]
      split <;> rfl
    · rename_i hp
      rw [lookup, lookup, ih]
      split
      · rename_i hj
        rw [if_neg fun he => hp (hj.trans he)]
      · rfl

@[simp] lemma get?_set (d : Dict κ ν) (k j : κ) (v : ν) :
    (d.set k v).get? j = if j = k then some v else d.get? j := lookup_put k j v d.items

lemma get?_filter_eq_some : (d.filter p).get? k = some v ↔ d.get? k = some v ∧ p k v = true := by
  rw [get?_eq_some_iff, get?_eq_some_iff, mem_items_filter]

lemma get?_eq_none_iff : d.get? k = none ↔ ∀ v, (k, v) ∉ d.items := by
  simp only [← get?_eq_some_iff]
  exact Option.eq_none_iff_forall_ne_some

lemma lookup_map (f : ν → ν) (k : κ) (l : List (κ × ν)) :
    lookup k (l.map fun e => (e.1, f e.2)) = (lookup k l).map f := by
  induction l with
  | nil => rfl
  | cons p rest ih =>
    rw [List.map_cons, lookup, lookup]
    split
    · rfl
    · exact ih

@[simp] lemma get?_mapValues (d : Dict κ ν) (f : ν → ν) (k : κ) :
    (d.mapValues f).get? k = (d.get? k).map f := lookup_map f k d.items

lemma put_fresh (v : ν) (h : lookup k l = none) : put k v l = l ++ [(k, v)] := by
  induction l with
  | nil => rfl
  | cons p rest ih =>
    rw [lookup] at h
    split at h
    · exact absurd h (by simp)
    · rename_i hp
      rw [put, if_neg hp, ih h, List.cons_append]

lemma values_set_fresh (v : ν) (h : d.get? k = none) : (d.set k v).values = d.values ++ [v] := by
  simp only [values, set, put_fresh v h, List.map_append, List.map_cons, List.map_nil]

lemma subperm_values_set (d : Dict κ ν) (k : κ) (v : ν) : (d.set k v).values.Subperm (v :: d.values) := by
  have hput : ∀ items : List (κ × ν), ((put k v items).map Prod.snd).Subperm (v :: items.map Prod.snd) := by
    intro items
    induction items with
    | nil => exact List.Subperm.refl _
    | cons item items ih =>
      rw [put]
      split_ifs
      · exact List.Sublist.subperm ((List.sublist_cons_self _ _).cons_cons v)
      · exact ((List.subperm_cons _).2 ih).trans (List.Perm.swap _ _ _).subperm
  exact hput d.items

section Total

variable {β : Type} [AddCommMonoid β] {f : κ → ν → β}

def total (d : Dict κ ν) (f : κ → ν → β) : β := (d.items.map fun e => f e.1 e.2).sum

omit [DecidableEq κ] in
@[simp] lemma total_empty (f : κ → ν → β) : (empty : Dict κ ν).total f = 0 := rfl

lemma total_set_fresh (v : ν) (f : κ → ν → β) (h : d.get? k = none) : (d.set k v).total f = d.total f + f k v := by
  obtain ⟨l, hl⟩ := d
  simp only [total, set, get?] at h ⊢
  clear hl
  induction l with
  | nil => simp [put]
  | cons p rest ih =>
    rw [lookup] at h
    split at h
    · exact absurd h (by simp)
    · rename_i hp
      rw [put, if_neg hp, List.map_cons, List.sum_cons, List.map_cons, List.sum_cons, ih h, add_assoc]

lemma total_set_of_get {w : ν} (v : ν) (f : κ → ν → β)
    (h : d.get? k = some w) : (d.set k v).total f + f k w = d.total f + f k v := by
  obtain ⟨l, hl⟩ := d
  simp only [total, set, get?] at h ⊢
  clear hl
  induction l with
  | nil => simp [lookup] at h
  | cons p rest ih =>
    rw [lookup] at h
    split at h
    · rename_i hp
      obtain rfl := Option.some.inj h
      rw [put, if_pos hp, List.map_cons, List.sum_cons, List.map_cons, List.sum_cons, hp]
      abel
    · rename_i hp
      rw [put, if_neg hp, List.map_cons, List.sum_cons, List.map_cons, List.sum_cons, add_assoc, ih h, add_assoc]

def share (d : Dict κ ν) (f : κ → ν → β) (k : κ) : β := (d.get? k).elim 0 (f k)

lemma total_eq_sum (d : Dict κ ν) (f : κ → ν → β) : d.total f = ∑ k ∈ d.keys.toFinset, d.share f k := by
  rw [keys, List.sum_toFinset _ d.nodup, total, List.map_map]
  refine congrArg List.sum (List.map_congr_left fun e he => ?_)
  have hget : d.get? e.1 = some e.2 := get?_eq_some_iff.2 he
  simp [share, hget]

lemma share_eq_zero (h : k ∉ d.keys) : d.share f k = 0 := by
  have hnone : d.get? k = none := get?_eq_none_iff.2 fun v hv => h (List.mem_map_of_mem hv)
  simp [share, hnone]

lemma total_le_total {μ : Type} [PartialOrder β] [IsOrderedAddMonoid β] {e : Dict κ μ}
    {g : κ → μ → β} (h : ∀ k, d.share f k ≤ e.share g k) : d.total f ≤ e.total g := by
  rw [total_eq_sum, total_eq_sum]
  calc ∑ k ∈ d.keys.toFinset, d.share f k
      = ∑ k ∈ d.keys.toFinset ∪ e.keys.toFinset, d.share f k :=
        Finset.sum_subset Finset.subset_union_left fun k _ hk =>
          share_eq_zero fun hmem => hk (List.mem_toFinset.2 hmem)
    _ ≤ ∑ k ∈ d.keys.toFinset ∪ e.keys.toFinset, e.share g k := Finset.sum_le_sum fun k _ => h k
    _ = ∑ k ∈ e.keys.toFinset, e.share g k :=
        (Finset.sum_subset Finset.subset_union_right fun k _ hk =>
          share_eq_zero fun hmem => hk (List.mem_toFinset.2 hmem)).symm

end Total

end Dict

end Dsquic.Lib
