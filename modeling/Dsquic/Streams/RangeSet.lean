import Mathlib.Data.List.Sort
import Mathlib.Order.MinMax
import Mathlib.Data.List.Pairwise
import Mathlib.Order.Bounds.Basic

/-! The merged half-open ranges of `streams.py`, over any linear order. -/

namespace Dsquic.Streams

variable {α : Type} [LinearOrder α]

def RangeLe (r s : α × α) : Prop := r.1 < s.1 ∨ r.1 = s.1 ∧ r.2 ≤ s.2

instance : DecidableRel (RangeLe (α := α)) := fun _ _ => inferInstanceAs (Decidable (_ ∨ _))

instance : Std.Total (RangeLe (α := α)) where
  total r s := by
    rcases lt_trichotomy r.1 s.1 with h | h | h
    · exact Or.inl (Or.inl h)
    · exact (le_total r.2 s.2).imp (fun hle => Or.inr ⟨h, hle⟩) fun hle => Or.inr ⟨h.symm, hle⟩
    · exact Or.inr (Or.inl h)

instance : IsTrans (α × α) RangeLe where
  trans r s t := by
    rintro (h | ⟨h, h'⟩) (k | ⟨k, k'⟩)
    · exact Or.inl (h.trans k)
    · exact Or.inl (k ▸ h)
    · exact Or.inl (h ▸ k)
    · exact Or.inr ⟨h.trans k, h'.trans k'⟩

lemma RangeLe.fst_le {r s : α × α} (h : RangeLe r s) : r.1 ≤ s.1 := by
  rcases h with h | h
  · exact h.le
  · exact h.1.le

def Apart (r s : α × α) : Prop := r.2 < s.1 ∨ s.2 < r.1

instance : Std.Symm (Apart (α := α)) := ⟨fun _ _ => Or.symm⟩

structure RangeSet (α : Type) [LinearOrder α] where
  ranges : List (α × α)
  nonempty : ∀ r ∈ ranges, r.1 < r.2
  separated : ranges.Pairwise fun r s => r.2 < s.1

namespace RangeSet

def empty : RangeSet α := ⟨[], by simp, .nil⟩

instance : Inhabited (RangeSet α) := ⟨empty⟩

instance : DecidableEq (RangeSet α) := fun a b =>
  decidable_of_iff (a.ranges = b.ranges) (by cases a; cases b; simp)

instance : Membership α (RangeSet α) where
  mem s x := ∃ r ∈ s.ranges, r.1 ≤ x ∧ x < r.2

variable {s : RangeSet α} {x : α}

lemma mem_def : x ∈ s ↔ ∃ r ∈ s.ranges, r.1 ≤ x ∧ x < r.2 := Iff.rfl

@[simp] lemma not_mem_empty (x : α) : x ∉ (empty : RangeSet α) := by simp [mem_def, empty]

def merge : List (α × α) → α → α → List (α × α) × α × α
  | [], start, stop => ([], start, stop)
  | r :: rest, start, stop =>
    if r.2 < start ∨ stop < r.1 then
      let m := merge rest start stop
      (r :: m.1, m.2)
    else merge rest (min start r.1) (max stop r.2)

lemma merge_sublist (rs : List (α × α)) (start stop : α) :
    (merge rs start stop).1.Sublist rs := by
  induction rs generalizing start stop with
  | nil => simp [merge]
  | cons r rest ih =>
    rw [merge]
    split
    · exact (ih start stop).cons_cons r
    · exact (ih _ _).cons r

lemma merge_widens (rs : List (α × α)) (start stop : α) :
    (merge rs start stop).2.1 ≤ start ∧ stop ≤ (merge rs start stop).2.2 := by
  induction rs generalizing start stop with
  | nil => simp [merge]
  | cons r rest ih =>
    rw [merge]
    split
    · exact ih start stop
    · have h := ih (min start r.1) (max stop r.2)
      exact ⟨h.1.trans (min_le_left _ _), (le_max_left _ _).trans h.2⟩

lemma merge_above (rs : List (α × α)) (start stop b : α) (hb : b < start)
    (hrs : ∀ r ∈ rs, b < r.1) : b < (merge rs start stop).2.1 := by
  induction rs generalizing start stop with
  | nil => simpa [merge] using hb
  | cons r rest ih =>
    rw [merge]
    have hrest : ∀ r' ∈ rest, b < r'.1 := fun r' hr' => hrs r' (List.mem_cons_of_mem _ hr')
    split
    · exact ih start stop hb hrest
    · exact ih _ _ (lt_min hb (hrs r List.mem_cons_self)) hrest

lemma merge_below (rs : List (α × α)) (start stop : α) (hrs : ∀ r ∈ rs, stop < r.1) :
    merge rs start stop = (rs, start, stop) := by
  induction rs with
  | nil => rfl
  | cons r rest ih =>
    rw [merge, if_pos (Or.inr (hrs r List.mem_cons_self)), ih fun r' hr' => hrs r' (List.mem_cons_of_mem _ hr')]

lemma merge_apart (rs : List (α × α)) (start stop : α) (hn : ∀ r ∈ rs, r.1 < r.2)
    (hs : rs.Pairwise fun r s => r.2 < s.1) :
    ∀ r ∈ (merge rs start stop).1,
      r.2 < (merge rs start stop).2.1 ∨ (merge rs start stop).2.2 < r.1 := by
  induction rs generalizing start stop with
  | nil => simp [merge]
  | cons r rest ih =>
    rw [List.pairwise_cons] at hs
    have hn' : ∀ r' ∈ rest, r'.1 < r'.2 := fun r' hr' => hn r' (List.mem_cons_of_mem _ hr')
    rw [merge]
    split
    · rename_i hr
      intro r' hr'
      rcases List.mem_cons.mp hr' with rfl | hr'
      · rcases hr with hr | hr
        · exact Or.inl (merge_above rest start stop _ hr hs.1)
        · have habove : ∀ s ∈ rest, stop < s.1 := fun s hs' =>
            hr.trans ((hn _ List.mem_cons_self).trans (hs.1 s hs'))
          rw [merge_below rest start stop habove]
          exact Or.inr hr
      · exact ih start stop hn' hs.2 r' hr'
    · exact ih _ _ hn' hs.2

lemma mem_merge (rs : List (α × α)) (start stop x : α) :
    ((∃ r ∈ (merge rs start stop).1, r.1 ≤ x ∧ x < r.2) ∨
        ((merge rs start stop).2.1 ≤ x ∧ x < (merge rs start stop).2.2)) ↔
      (∃ r ∈ rs, r.1 ≤ x ∧ x < r.2) ∨ (start ≤ x ∧ x < stop) := by
  induction rs generalizing start stop with
  | nil => simp [merge]
  | cons r rest ih =>
    rw [merge]
    split
    · simp only [List.exists_mem_cons_iff, or_assoc, ih start stop]
    · rename_i hr
      rw [not_or, not_lt, not_lt] at hr
      rw [ih, List.exists_mem_cons_iff, or_assoc, or_left_comm]
      refine or_congr_right ?_
      -- The two ranges touch, so their hull is their union.
      rw [min_le_iff, lt_max_iff]
      constructor
      · rintro ⟨h1 | h1, h2 | h2⟩
        · exact Or.inr ⟨h1, h2⟩
        · rcases lt_or_ge x stop with h | h
          · exact Or.inr ⟨h1, h⟩
          · exact Or.inl ⟨hr.2.trans h, h2⟩
        · rcases lt_or_ge x start with h | h
          · exact Or.inl ⟨h1, h.trans_le hr.1⟩
          · exact Or.inr ⟨h, h2⟩
        · exact Or.inl ⟨h1, h2⟩
      · rintro (⟨h1, h2⟩ | ⟨h1, h2⟩)
        · exact ⟨Or.inr h1, Or.inr h2⟩
        · exact ⟨Or.inl h1, Or.inl h2⟩

def addRanges (rs : List (α × α)) (start stop : α) : List (α × α) :=
  let m := merge rs start stop
  List.insertionSort RangeLe (m.1 ++ [m.2])

variable {rs : List (α × α)} {start stop : α} {r : α × α}

lemma mem_addRanges :
    r ∈ addRanges rs start stop ↔ r ∈ (merge rs start stop).1 ∨ r = (merge rs start stop).2 := by
  rw [addRanges, (List.perm_insertionSort _ _).mem_iff]
  simp

lemma addRanges_nonempty (h : start < stop)
    (hn : ∀ r ∈ rs, r.1 < r.2) : ∀ r ∈ addRanges rs start stop, r.1 < r.2 := by
  intro r hr
  rcases mem_addRanges.mp hr with hr | rfl
  · exact hn r ((merge_sublist rs start stop).subset hr)
  · have hw := merge_widens rs start stop
    exact hw.1.trans_lt (h.trans_le hw.2)

lemma addRanges_separated (h : start < stop) (hn : ∀ r ∈ rs, r.1 < r.2) (hs : rs.Pairwise fun r s => r.2 < s.1) :
    (addRanges rs start stop).Pairwise fun r s => r.2 < s.1 := by
  -- Apartness is symmetric, so it survives the sort; the sort then orients it.
  have hapart : (addRanges rs start stop).Pairwise Apart := by
    rw [addRanges, (List.perm_insertionSort _ _).pairwise_iff fun {_ _} hrs => hrs.symm, List.pairwise_append]
    refine ⟨(hs.sublist (merge_sublist rs start stop)).imp Or.inl, by simp, ?_⟩
    intro r hr s hm
    rw [List.mem_singleton] at hm
    subst hm
    exact merge_apart rs start stop hn hs r hr
  have hsorted : (addRanges rs start stop).Pairwise RangeLe := List.pairwise_insertionSort _ _
  refine (hapart.and hsorted).imp_of_mem ?_
  rintro r s hr hs' ⟨hrs | hrs, hle⟩
  · exact hrs
  · exact absurd ((addRanges_nonempty h hn s hs').trans hrs) (not_lt.mpr hle.fst_le)

def add (s : RangeSet α) (start stop : α) : RangeSet α :=
  if h : start < stop then
    ⟨addRanges s.ranges start stop, addRanges_nonempty h s.nonempty,
      addRanges_separated h s.nonempty s.separated⟩
  else s

@[simp] lemma mem_add {s : RangeSet α} {start stop x : α} :
    x ∈ s.add start stop ↔ x ∈ s ∨ (start ≤ x ∧ x < stop) := by
  rw [add]
  split
  · simp only [mem_def]
    rw [← mem_merge]
    constructor
    · rintro ⟨r, hr, hx⟩
      rcases mem_addRanges.mp hr with hr | rfl
      · exact Or.inl ⟨r, hr, hx⟩
      · exact Or.inr hx
    · rintro (⟨r, hr, hx⟩ | hx)
      · exact ⟨r, mem_addRanges.mpr (Or.inl hr), hx⟩
      · exact ⟨_, mem_addRanges.mpr (Or.inr rfl), hx⟩
  · rename_i h
    constructor
    · exact Or.inl
    · rintro (hx | ⟨h1, h2⟩)
      · exact hx
      · exact absurd (h1.trans_lt h2) h

def contiguousFrom (s : RangeSet α) (start : α) : α :=
  match s.ranges.find? fun r => decide (r.1 ≤ start ∧ start < r.2) with
  | some r => r.2
  | none => start

def covers (s : RangeSet α) (start stop : α) : Bool := decide (stop ≤ s.contiguousFrom start)

lemma contiguousFrom_cases (s : RangeSet α) (start : α) :
    (∃ r ∈ s.ranges, r.1 ≤ start ∧ start < r.2 ∧ s.contiguousFrom start = r.2) ∨
      (start ∉ s ∧ s.contiguousFrom start = start) := by
  rw [contiguousFrom]
  split
  · rename_i r hr
    have hp := List.find?_some hr
    rw [decide_eq_true_eq] at hp
    exact Or.inl ⟨r, List.mem_of_find?_eq_some hr, hp.1, hp.2, rfl⟩
  · rename_i hr
    refine Or.inr ⟨?_, rfl⟩
    rintro ⟨r, hm, hx⟩
    exact absurd (decide_eq_true hx) (List.find?_eq_none.mp hr r hm)

lemma le_contiguousFrom (s : RangeSet α) (start : α) : start ≤ s.contiguousFrom start := by
  rcases s.contiguousFrom_cases start with ⟨r, _, _, h, he⟩ | ⟨_, he⟩
  · exact he ▸ h.le
  · exact he.ge

lemma mem_of_lt_contiguousFrom {start x : α} (h : start ≤ x) (hx : x < s.contiguousFrom start) : x ∈ s := by
  rcases s.contiguousFrom_cases start with ⟨r, hr, hle, _, he⟩ | ⟨_, he⟩
  · exact ⟨r, hr, hle.trans h, he ▸ hx⟩
  · exact absurd h (not_le.mpr (he ▸ hx))

lemma apart (s : RangeSet α) {r r' : α × α} (hr : r ∈ s.ranges) (hr' : r' ∈ s.ranges) (hne : r ≠ r') :
    Apart r r' := by
  have hsym : s.ranges.Pairwise Apart := s.separated.imp Or.inl
  exact hsym.forall hr hr' hne

lemma end_not_mem (s : RangeSet α) (hr : r ∈ s.ranges) : r.2 ∉ s := by
  rintro ⟨r', hr', hle, hlt⟩
  rcases eq_or_ne r r' with rfl | hne
  · exact lt_irrefl _ hlt
  · rcases s.apart hr hr' hne with h | h
    · exact absurd h (not_lt.mpr hle)
    · exact absurd (h.trans (s.nonempty r hr)) (not_lt.mpr hlt.le)

lemma nodup (s : RangeSet α) : s.ranges.Nodup := by
  refine s.separated.imp_of_mem fun {r r'} hr _ hlt heq => ?_
  subst heq
  exact lt_asymm (s.nonempty r hr) hlt

lemma contiguousFrom_not_mem (s : RangeSet α) (start : α) : s.contiguousFrom start ∉ s := by
  rcases s.contiguousFrom_cases start with ⟨r, hr, _, _, he⟩ | ⟨hn, he⟩
  · rw [he]
    exact s.end_not_mem hr
  · rwa [he]

lemma contiguousFrom_ge (h : ∀ x, start ≤ x → x < stop → x ∈ s) : stop ≤ s.contiguousFrom start := by
  by_contra hlt
  exact s.contiguousFrom_not_mem start (h _ (s.le_contiguousFrom start) (not_le.mp hlt))

lemma covers_iff (s : RangeSet α) (start stop : α) :
    s.covers start stop = true ↔ ∀ x, start ≤ x → x < stop → x ∈ s := by
  rw [covers, decide_eq_true_eq]
  exact ⟨fun h x h1 h2 => mem_of_lt_contiguousFrom h1 (h2.trans_le h), contiguousFrom_ge⟩

lemma mem_ranges_iff :
    r ∈ s.ranges ↔ r.1 < r.2 ∧ (∀ x, r.1 ≤ x → x < r.2 → x ∈ s) ∧ r.2 ∉ s ∧ ∀ y < r.1, ∃ x, y ≤ x ∧
      x < r.1 ∧ x ∉ s := by
  constructor
  · intro hr
    have hinside : ∀ x, r.1 ≤ x → x < r.2 → x ∈ s := fun x h1 h2 => ⟨r, hr, h1, h2⟩
    refine ⟨s.nonempty r hr, hinside, s.end_not_mem hr, fun y hy => ?_⟩
    -- Either `y` is outside, or the end of its range is, which comes before the start of `r`.
    by_cases hmem : y ∈ s
    · obtain ⟨r', hr', h1, h2⟩ := hmem
      have hne : r ≠ r' := fun heq => absurd h1 (not_le.2 (heq ▸ hy))
      refine ⟨r'.2, h2.le, ?_, s.end_not_mem hr'⟩
      exact (s.apart hr hr' hne).resolve_left fun h =>
        absurd (h.trans_le h1) (not_lt.2 (hy.trans (s.nonempty r hr)).le)
    · exact ⟨y, le_rfl, hy, hmem⟩
  · rintro ⟨hne, hinside, hend, hstart⟩
    obtain ⟨r', hr', h1, h2⟩ := hinside r.1 le_rfl hne
    have hfst : r'.1 = r.1 := by
      refine le_antisymm h1 (not_lt.1 fun hlt => ?_)
      obtain ⟨x, hx, hx', hout⟩ := hstart r'.1 hlt
      exact hout ⟨r', hr', hx, hx'.trans h2⟩
    have hsnd : r'.2 = r.2 := by
      refine le_antisymm (not_lt.1 fun hlt => hend ⟨r', hr', h1.trans hne.le, hlt⟩) (not_lt.1 fun hlt => ?_)
      exact s.end_not_mem hr' (hinside r'.2 h2.le hlt)
    rwa [← Prod.ext hfst hsnd]

lemma eq_of_mem_iff {s t : RangeSet α} (h : ∀ x, x ∈ s ↔ x ∈ t) : s = t := by
  have hmem : ∀ r, r ∈ s.ranges ↔ r ∈ t.ranges := fun r => by simp only [mem_ranges_iff, h]
  have hperm : s.ranges.Perm t.ranges := (List.perm_ext_iff_of_nodup s.nodup t.nodup).2 hmem
  have hranges : s.ranges = t.ranges := by
    refine hperm.eq_of_pairwise (fun r r' hr hr' h1 h2 => ?_) s.separated t.separated
    exact absurd (h1.trans (t.nonempty r' hr')) (lt_asymm (h2.trans (s.nonempty r hr)))
  cases s
  cases t
  cases hranges
  rfl

def addAll (s : RangeSet α) (calls : List (α × α)) : RangeSet α :=
  calls.foldl (fun s call => s.add call.1 call.2) s

lemma mem_addAll {calls : List (α × α)} :
    x ∈ s.addAll calls ↔ x ∈ s ∨ ∃ call ∈ calls, call.1 ≤ x ∧ x < call.2 := by
  induction calls generalizing s with
  | nil => simp [addAll]
  | cons call calls ih =>
    rw [addAll, List.foldl_cons, ← addAll, ih, mem_add, or_assoc, List.exists_mem_cons_iff]

lemma isLeast_contiguousFrom (s : RangeSet α) (start : α) :
    IsLeast {x | start ≤ x ∧ x ∉ s} (s.contiguousFrom start) := by
  refine ⟨⟨s.le_contiguousFrom start, s.contiguousFrom_not_mem start⟩, ?_⟩
  rintro x ⟨hle, hout⟩
  exact not_lt.1 fun hlt => hout (mem_of_lt_contiguousFrom hle hlt)

theorem rangeSet_represents_union (calls : List (ℤ × ℤ)) :
    (∀ r ∈ (empty.addAll calls).ranges, r.1 < r.2) ∧
    (empty.addAll calls).ranges.Pairwise (fun r r' => r.2 < r'.1) ∧
    (∀ x, (∃ r ∈ (empty.addAll calls).ranges, r.1 ≤ x ∧ x < r.2) ↔ ∃ call ∈ calls, call.1 ≤ x ∧ x < call.2) ∧
    (∀ calls' : List (ℤ × ℤ), calls'.Perm calls → empty.addAll calls' = empty.addAll calls) ∧
    (∀ start, IsLeast {x | start ≤ x ∧ ¬∃ call ∈ calls, call.1 ≤ x ∧ x < call.2}
      ((empty.addAll calls).contiguousFrom start)) ∧
    ∀ start stop, (empty.addAll calls).covers start stop = true ↔
      ∀ x, start ≤ x → x < stop → ∃ call ∈ calls, call.1 ≤ x ∧ x < call.2 := by
  have hunion : ∀ calls x, x ∈ (empty : RangeSet ℤ).addAll calls ↔ ∃ call ∈ calls, call.1 ≤ x ∧ x < call.2 := by
    intro calls x
    rw [mem_addAll, or_iff_right (not_mem_empty x)]
  refine ⟨(empty.addAll calls).nonempty, (empty.addAll calls).separated, hunion calls, fun calls' hperm => ?_,
    fun start => ?_, fun start stop => ?_⟩
  · refine eq_of_mem_iff fun x => ?_
    simp only [hunion, hperm.mem_iff]
  · simp only [← hunion]
    exact isLeast_contiguousFrom _ start
  · simp only [← hunion]
    exact covers_iff _ start stop

end RangeSet

end Dsquic.Streams
