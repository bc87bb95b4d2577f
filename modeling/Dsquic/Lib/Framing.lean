import Dsquic.Lib.Effect
import Mathlib.Tactic.Common

/-!
Frames cut off the front of a buffer that is fed piece by piece, and consumed by a computation that may raise.
-/

namespace Dsquic.Lib

/-- How a frame is cut off the front of a buffer: what follows does not change the cut, and no cut is empty. -/
structure Framing (α : Type) where
  cut : List α → Option (List α × List α)
  cut_append : ∀ {buffer frame rest}, cut buffer = some (frame, rest) →
    ∀ more, cut (buffer ++ more) = some (frame, rest ++ more)
  cut_shrinks : ∀ {buffer frame rest}, cut buffer = some (frame, rest) → rest.length < buffer.length

namespace Framing

variable {α ε σ : Type} (framing : Framing α) (consume : List α → EStateM ε σ PUnit)

def drain : ℕ → EStateM ε (List α × σ) PUnit
  | 0 => pure ⟨⟩
  | fuel + 1 => do
    let s ← get
    match framing.cut s.1 with
    | none => pure ⟨⟩
    | some (frame, rest) => do
      set (rest, s.2)
      zoom Prod.snd (fun t s => (s.1, t)) (consume frame)
      drain fuel

def frames : ℕ → List α → List (List α)
  | 0, _ => []
  | fuel + 1, buffer =>
    match framing.cut buffer with
    | none => []
    | some (frame, rest) => frame :: frames fuel rest

def feed (data : List α) : EStateM ε (List α × σ) PUnit := do
  modify fun s => (s.1 ++ data, s.2)
  let s ← get
  drain framing consume s.1.length

lemma get_apply (s : σ) : (get : EStateM ε σ σ) s = .ok s s := rfl

lemma set_apply (s t : σ) : (set t : EStateM ε σ PUnit) s = .ok ⟨⟩ t := rfl

variable {framing consume} {buffer frame rest buffer' : List α} {t t' : σ} {e : ε} {n m : ℕ}

lemma drain_none (h : framing.cut buffer = none) : framing.drain consume n (buffer, t) = .ok ⟨⟩ (buffer, t) := by
  cases n with
  | zero => rfl
  | succ n => exact eq_ok_of_ensures (by simp [drain, h])

lemma drain_ok (h : framing.cut buffer = some (frame, rest)) (hconsume : consume frame t = .ok ⟨⟩ t') :
    framing.drain consume (n + 1) (buffer, t) = framing.drain consume n (rest, t') := by
  simp only [drain, bind, EStateM.bind, get_apply, h, set_apply, zoom, hconsume]

lemma drain_error (h : framing.cut buffer = some (frame, rest)) (hconsume : consume frame t = .error e t') :
    framing.drain consume (n + 1) (buffer, t) = .error e (rest, t') := by
  simp only [drain, bind, EStateM.bind, get_apply, h, set_apply, zoom, hconsume]

lemma drain_enough (hn : buffer.length ≤ n) (hm : buffer.length ≤ m) :
    framing.drain consume n (buffer, t) = framing.drain consume m (buffer, t) := by
  induction n generalizing m buffer t with
  | zero =>
    cases hcut : framing.cut buffer with
    | none => rw [drain_none hcut, drain_none hcut]
    | some cut => exact absurd (framing.cut_shrinks hcut) (by omega)
  | succ n ih =>
    cases hcut : framing.cut buffer with
    | none => rw [drain_none hcut, drain_none hcut]
    | some cut =>
      have hshort := framing.cut_shrinks hcut
      obtain ⟨m, rfl⟩ : ∃ k, m = k + 1 := ⟨m - 1, by omega⟩
      cases hconsume : consume cut.1 t with
      | ok u t' =>
        rw [drain_ok hcut hconsume, drain_ok hcut hconsume]
        exact ih (by omega) (by omega)
      | error e t' => rw [drain_error hcut hconsume, drain_error hcut hconsume]

lemma drain_append (hn : buffer.length ≤ n) (more : List α) (hm : (buffer ++ more).length ≤ m) :
    Ensures (framing.drain consume n) (buffer, t)
      (fun _ s' => ∀ k, (s'.1 ++ more).length ≤ k →
        framing.drain consume m (buffer ++ more, t) = framing.drain consume k (s'.1 ++ more, s'.2))
      fun e s' => framing.drain consume m (buffer ++ more, t) = .error e (s'.1 ++ more, s'.2) := by
  induction n generalizing m buffer t with
  | zero => exact fun k hk => drain_enough hm hk
  | succ n ih =>
    unfold Ensures
    cases hcut : framing.cut buffer with
    | none =>
      rw [drain_none hcut]
      exact fun k hk => drain_enough hm hk
    | some cut =>
      have hshort := framing.cut_shrinks hcut
      have happend := framing.cut_append hcut more
      rw [List.length_append] at hm
      obtain ⟨m, rfl⟩ : ∃ k, m = k + 1 := ⟨m - 1, by omega⟩
      cases hconsume : consume cut.1 t with
      | ok u t₁ =>
        rw [drain_ok hcut hconsume, drain_ok happend hconsume]
        refine ih (by omega) ?_
        rw [List.length_append]
        omega
      | error e t₁ =>
        rw [drain_error hcut hconsume]
        exact drain_error happend hconsume

variable {s : List α × σ}

lemma ensures_drain {I : σ → Prop} {E : ε → σ → Prop} (h : I s.2)
    (step : ∀ frame ∈ framing.frames n s.1, ∀ t, I t → Ensures (consume frame) t (fun _ => I) E) :
    Ensures (framing.drain consume n) s (fun _ s' => I s'.2) fun e s' => E e s'.2 := by
  induction n generalizing s with
  | zero => exact h
  | succ n ih =>
    simp only [drain, ensures_state]
    cases hcut : framing.cut s.1 with
    | none => exact h
    | some cut =>
      simp only [frames, hcut, List.forall_mem_cons] at step
      simp only [ensures_state]
      refine (step.1 s.2 h).mono (fun _ t ht => ?_) fun _ _ he => he
      exact ih ht step.2

lemma ensures_feed {I : σ → Prop} {E : ε → σ → Prop} (data : List α) (h : I s.2)
    (step : ∀ frame ∈ framing.frames (s.1 ++ data).length (s.1 ++ data), ∀ t, I t →
      Ensures (consume frame) t (fun _ => I) E) :
    Ensures (framing.feed consume data) s (fun _ s' => I s'.2) fun e s' => E e s'.2 :=
  ensures_drain (s := (s.1 ++ data, s.2)) h step

lemma feed_append (first more : List α) :
    Ensures (framing.feed consume first) s
      (fun _ s' => framing.feed consume (first ++ more) s = framing.feed consume more s')
      fun e s' => framing.feed consume (first ++ more) s = .error e (s'.1 ++ more, s'.2) := by
  have hwhole : framing.feed consume (first ++ more) s =
      framing.drain consume (s.1 ++ first ++ more).length (s.1 ++ first ++ more, s.2) := by
    rw [List.append_assoc]
    rfl
  rw [hwhole]
  exact (drain_append (Nat.le_refl _) more (Nat.le_refl _)).imp fun _ s' h => h _ (Nat.le_refl _)

/-- Fed in any number of parts, or in one: the same frames are consumed with the same outcome, up to an
exception. -/
lemma feed_flatten {parts : List (List α)} (hparts : parts ≠ []) :
    Ensures (each (framing.feed consume) parts) s (fun _ s' => framing.feed consume parts.flatten s = .ok ⟨⟩ s')
      fun e s' => ∃ front part back, parts = front ++ part :: back ∧
        framing.feed consume parts.flatten s = .error e (s'.1 ++ back.flatten, s'.2) := by
  induction parts generalizing s with
  | nil => exact absurd rfl hparts
  | cons part parts ih =>
    rw [each, ensures_bind, List.flatten_cons]
    refine ((feed_append part parts.flatten).and (ensures_self _ s)).mono ?_ ?_
    · rintro _ s₁ ⟨happend, hpart⟩
      rw [happend]
      cases parts with
      | nil =>
        rw [each, ensures_pure, ← happend, List.flatten_nil, List.append_nil]
        exact hpart
      | cons next parts =>
        refine (ih (List.cons_ne_nil _ _)).mono (fun _ _ h => h) ?_
        rintro e s' ⟨front, last, back, hsplit, herror⟩
        exact ⟨part :: front, last, back, congrArg (part :: ·) hsplit, herror⟩
    · rintro e s' ⟨herror, -⟩
      exact ⟨[], part, parts, rfl, herror⟩

end Framing

end Dsquic.Lib
