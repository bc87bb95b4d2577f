import Mathlib.Logic.Basic

/-!
Computations that mutate a state and may raise, the state surviving the exception, and a calculus of
postconditions for them: one for a normal return, one for a raised exception, which may do anything if none is
given. -/

namespace Dsquic.Lib

variable {ε σ τ α β : Type}

def Ensures (m : EStateM ε σ α) (s : σ) (Q : α → σ → Prop) (E : ε → σ → Prop := fun _ _ => True) : Prop :=
  match m s with
  | .ok a s' => Q a s'
  | .error e s' => E e s'

abbrev Always (m : EStateM ε σ α) (s : σ) (P : σ → Prop) : Prop := Ensures m s (fun _ => P) fun _ => P

variable {m : EStateM ε σ α} {P : σ → Prop} {e : ε} {s : σ}

section Rules

variable {Q : α → σ → Prop} {E : ε → σ → Prop} {s : σ}

instance [∀ a s', Decidable (Q a s')] [∀ e s', Decidable (E e s')] (m : EStateM ε σ α) :
    Decidable (Ensures m s Q E) :=
  match h : m s with
  | .ok a s' => decidable_of_iff (Q a s') (by simp [Ensures, h])
  | .error e s' => decidable_of_iff (E e s') (by simp [Ensures, h])

@[simp] lemma ensures_pure (a : α) : Ensures (pure a : EStateM ε σ α) s Q E ↔ Q a s := Iff.rfl

@[simp] lemma ensures_throw (e : ε) : Ensures (throw e : EStateM ε σ α) s Q E ↔ E e s := Iff.rfl

@[simp] lemma ensures_get {Q : σ → σ → Prop} :
    Ensures (get : EStateM ε σ σ) s Q E ↔ Q s s := Iff.rfl

@[simp] lemma ensures_set {Q : PUnit → σ → Prop} (s' : σ) :
    Ensures (set s' : EStateM ε σ PUnit) s Q E ↔ Q ⟨⟩ s' := Iff.rfl

@[simp] lemma ensures_modify {Q : PUnit → σ → Prop} (f : σ → σ) :
    Ensures (modify f : EStateM ε σ PUnit) s Q E ↔ Q ⟨⟩ (f s) := Iff.rfl

@[simp] lemma ensures_modifyGet (f : σ → α × σ) :
    Ensures (modifyGet f : EStateM ε σ α) s Q E ↔ Q (f s).1 (f s).2 := Iff.rfl

@[simp] lemma ensures_bind {R : β → σ → Prop} (m : EStateM ε σ α) (f : α → EStateM ε σ β) :
    Ensures (m >>= f) s R E ↔ Ensures m s (fun a s' => Ensures (f a) s' R E) E := by
  change (match EStateM.bind m f s with | .ok a s' => R a s' | .error e s' => E e s') ↔ _
  unfold Ensures EStateM.bind
  cases m s <;> rfl

@[simp] lemma ensures_map {R : β → σ → Prop} (m : EStateM ε σ α) (f : α → β) :
    Ensures (f <$> m) s R E ↔ Ensures m s (fun a => R (f a)) E := by
  change (match EStateM.map f m s with | .ok a s' => R a s' | .error e s' => E e s') ↔ _
  unfold Ensures EStateM.map
  cases m s <;> rfl

@[simp] lemma ensures_tryCatch (m : EStateM ε σ α) (handle : ε → EStateM ε σ α) :
    Ensures (tryCatch m handle) s Q E ↔ Ensures m s Q fun e s' => Ensures (handle e) s' Q E := by
  change (match EStateM.tryCatch m handle s with | .ok a s' => Q a s' | .error e s' => E e s') ↔ _
  unfold Ensures EStateM.tryCatch
  cases m s <;> rfl

lemma ensures_ite {p : Prop} [Decidable p] {m n : EStateM ε σ α} :
    Ensures (if p then m else n) s Q E ↔ (p → Ensures m s Q E) ∧ (¬p → Ensures n s Q E) := by
  by_cases h : p <;> simp [h]

variable {Q' : α → σ → Prop} {E' : ε → σ → Prop} {s' : σ} {a : α}

lemma Ensures.mono (h : Ensures m s Q E) (hQ : ∀ a s', Q a s' → Q' a s') (hE : ∀ e s', E e s' → E' e s') :
    Ensures m s Q' E' := by
  unfold Ensures at h ⊢
  cases hm : m s with
  | ok a s' => exact hQ a s' (by simpa [hm] using h)
  | error e s' => exact hE e s' (by simpa [hm] using h)

lemma Ensures.imp (h : Ensures m s Q E) (hQ : ∀ a s', Q a s' → Q' a s') :
    Ensures m s Q' E := h.mono hQ fun _ _ h => h

lemma Ensures.imp_true (h : Ensures m s Q E)
    (hQ : ∀ a s', Q a s' → Q' a s') : Ensures m s Q' := h.mono hQ fun _ _ _ => trivial

lemma Ensures.both {P P' : σ → Prop} (h : Always m s P) (hP : ∀ s', P s' → P' s') :
    Always m s P' := h.mono (fun _ => hP) fun _ => hP

lemma ensures_bind_of_forall {f : α → EStateM ε σ β} {R : β → σ → Prop}
    (h : ∀ a s', Ensures (f a) s' R) : Ensures (m >>= f) s R := by
  rw [ensures_bind]
  unfold Ensures
  cases m s with
  | ok a s' => exact h a s'
  | error e s' => trivial

lemma Ensures.bind_congr {f g : α → EStateM ε σ β} (h : Ensures m s Q E)
    (hfg : ∀ a s', Q a s' → f a s' = g a s') : (m >>= f) s = (m >>= g) s := by
  change EStateM.bind m f s = EStateM.bind m g s
  unfold Ensures at h
  unfold EStateM.bind
  cases hm : m s with
  | ok a s' => exact hfg a s' (by simpa [hm] using h)
  | error e s' => rfl

lemma Ensures.and (h : Ensures m s Q E) (h' : Ensures m s Q' E') :
    Ensures m s (fun a s' => Q a s' ∧ Q' a s') fun e s' => E e s' ∧ E' e s' := by
  unfold Ensures at *
  cases hm : m s <;> simp_all

lemma Ensures.of_ok (h : Ensures m s Q E) (hm : m s = .ok a s') : Q a s' := by
  simpa [Ensures, hm] using h

lemma Ensures.of_error (h : Ensures m s Q E) (hm : m s = .error e s') : E e s' := by
  simpa [Ensures, hm] using h

lemma ensures_of_eq_ok (h : m s = .ok a s') :
    Ensures m s Q E ↔ Q a s' := by
  simp [Ensures, h]

lemma eq_ok_of_ensures (h : Ensures m s (fun b t => b = a ∧ t = s') fun _ _ => False) : m s = .ok a s' := by
  unfold Ensures at h
  cases hm : m s <;> simp_all

lemma exists_of_ensures (h : Ensures m s Q fun _ _ => False) : ∃ a s', m s = .ok a s' ∧ Q a s' := by
  unfold Ensures at h
  cases hm : m s with
  | ok a s' => exact ⟨a, s', rfl, by rwa [hm] at h⟩
  | error e s' => simp [hm] at h

lemma ensures_self (m : EStateM ε σ α) (s : σ) :
    Ensures m s (fun a s' => m s = .ok a s') fun e s' => m s = .error e s' := by
  unfold Ensures
  cases h : m s <;> rfl

end Rules

def finalState (m : EStateM ε σ α) (s : σ) : σ :=
  match m s with
  | .ok _ s' => s'
  | .error _ s' => s'

lemma ensures_final_iff :
    Always m s P ↔ P (finalState m s) := by
  unfold Always Ensures finalState
  cases m s <;> rfl

lemma Ensures.final (h : Always m s P) : P (finalState m s) :=
  ensures_final_iff.1 h

def zoom (view : σ → τ) (put : τ → σ → σ) (m : EStateM ε τ α) : EStateM ε σ α := fun s =>
  match m (view s) with
  | .ok a t => .ok a (put t s)
  | .error e t => .error e (put t s)

@[simp] lemma ensures_zoom {view : σ → τ} {put : τ → σ → σ} {m : EStateM ε τ α} {s : σ}
    {Q : α → σ → Prop} {E : ε → σ → Prop} :
    Ensures (zoom view put m) s Q E ↔
      Ensures m (view s) (fun a t => Q a (put t s)) fun e t => E e (put t s) := by
  unfold Ensures zoom
  cases m (view s) <;> rfl

variable {x : Except ε α} {f : α → EStateM ε σ PUnit} {E : ε → σ → Prop}

lemma bind_eq_ok {f : α → Except ε β} {b : β} :
    x >>= f = .ok b ↔ ∃ a, x = .ok a ∧ f a = .ok b := by
  cases x with
  | ok a =>
    refine ⟨fun h => ⟨a, rfl, h⟩, ?_⟩
    rintro ⟨a', ha, h⟩
    cases ha
    exact h
  | error e =>
    refine ⟨fun h => ?_, ?_⟩
    · cases h
    · rintro ⟨a, ha, -⟩
      cases ha

lemma bind_eq_error {f : α → Except ε β} :
    x >>= f = .error e ↔ x = .error e ∨ ∃ a, x = .ok a ∧ f a = .error e := by
  cases x with
  | ok a =>
    refine ⟨fun h => .inr ⟨a, rfl, h⟩, ?_⟩
    rintro (h | ⟨a', ha, h⟩)
    · cases h
    · cases ha
      exact h
  | error e' =>
    constructor
    · rintro ⟨⟩
      exact .inl rfl
    · rintro (h | ⟨a, ha, -⟩)
      · cases h
        rfl
      · cases ha

def lift : Except ε α → EStateM ε σ α
  | .ok a => pure a
  | .error e => throw e

@[simp] lemma lift_ok (a : α) : (lift (.ok a) : EStateM ε σ α) = pure a := rfl

@[simp] lemma lift_error (e : ε) : (lift (.error e) : EStateM ε σ α) = throw e := rfl

lemma ensures_lift {Q : α → σ → Prop} :
    Ensures (lift x) s Q E ↔ (∀ a, x = .ok a → Q a s) ∧ ∀ e, x = .error e → E e s := by
  cases x <;> simp

/-- `if p: raise e` -/
def raiseIf (p : Prop) [Decidable p] (e : ε) : EStateM ε σ PUnit :=
  if p then throw e else pure ⟨⟩

@[simp] lemma ensures_raiseIf {p : Prop} [Decidable p] {e : ε} {s : σ} {Q : PUnit → σ → Prop}
    {E : ε → σ → Prop} : Ensures (raiseIf p e) s Q E ↔ (p → E e s) ∧ (¬p → Q ⟨⟩ s) := by
  by_cases h : p <;> simp [raiseIf, h]

/-- `if p: m` -/
def doIf (p : Prop) [Decidable p] (m : EStateM ε σ PUnit) : EStateM ε σ PUnit :=
  if p then m else pure ⟨⟩

@[simp] lemma ensures_doIf {p : Prop} [Decidable p] {m : EStateM ε σ PUnit} {s : σ}
    {Q : PUnit → σ → Prop} {E : ε → σ → Prop} :
    Ensures (doIf p m) s Q E ↔ (p → Ensures m s Q E) ∧ (¬p → Q ⟨⟩ s) := by
  by_cases h : p <;> simp [doIf, h]

-- the rules for one operation after another, and with them those for branches, each a single lemma for `simp`
lemma ensures_state : type_of% @ensures_pure ∧ type_of% @ensures_bind ∧ type_of% @ensures_get ∧
    type_of% @ensures_set ∧ type_of% @ensures_modify ∧ type_of% @ensures_modifyGet ∧ type_of% @ensures_zoom :=
  ⟨@ensures_pure, @ensures_bind, @ensures_get, @ensures_set, @ensures_modify, @ensures_modifyGet, @ensures_zoom⟩

lemma ensures_flow : type_of% @ensures_state ∧ type_of% @ensures_ite ∧ type_of% @ensures_raiseIf ∧
    type_of% @ensures_doIf ∧ type_of% @ensures_lift :=
  ⟨@ensures_state, @ensures_ite, @ensures_raiseIf, @ensures_doIf, @ensures_lift⟩

def each (body : α → EStateM ε σ PUnit) : List α → EStateM ε σ PUnit
  | [] => pure ⟨⟩
  | a :: as => do
    body a
    each body as

section Each

variable {body : α → EStateM ε σ PUnit} {a : α} {as : List α} {s s' : σ}

lemma each_cons_of_ok (h : body a s = .ok ⟨⟩ s') : each body (a :: as) s = each body as s' := by
  change EStateM.bind (body a) (fun _ => each body as) s = _
  rw [EStateM.bind, h]

lemma each_cons_of_error (h : body a s = .error e s') : each body (a :: as) s = .error e s' := by
  change EStateM.bind (body a) (fun _ => each body as) s = _
  rw [EStateM.bind, h]

lemma each_append_of_ok {front : List α} (h : each body front s = .ok ⟨⟩ s') :
    each body (front ++ as) s = each body as s' := by
  induction front generalizing s with
  | nil =>
    cases h
    rfl
  | cons a front ih =>
    cases hbody : body a s with
    | ok u s₁ =>
      rw [each_cons_of_ok hbody] at h
      rw [List.cons_append, each_cons_of_ok hbody]
      exact ih h
    | error e s₁ =>
      rw [each_cons_of_error hbody] at h
      cases h

lemma each_eq_zoom {view : σ → τ} {put : τ → σ → σ} {f : α → EStateM ε τ PUnit}
    (view_put : ∀ t s, view (put t s) = t) (put_put : ∀ t t' s, put t' (put t s) = put t' s)
    (hbody : ∀ a, body a = zoom view put (f a)) (has : as ≠ []) :
    each body as s = zoom view put (each f as) s := by
  induction as generalizing s with
  | nil => exact absurd rfl has
  | cons a as ih =>
    cases hf : f a (view s) with
    | ok u t =>
      have hzoom : body a s = .ok ⟨⟩ (put t s) := by rw [hbody, zoom, hf]
      rw [each_cons_of_ok hzoom, zoom, each_cons_of_ok hf]
      cases as with
      | nil => rfl
      | cons b bs =>
        rw [ih (List.cons_ne_nil b bs), zoom, view_put]
        simp only [put_put]
    | error e t =>
      have hzoom : body a s = .error e (put t s) := by rw [hbody, zoom, hf]
      rw [each_cons_of_error hzoom, zoom, each_cons_of_error hf]

end Each

lemma ensures_each {I : List α → σ → Prop} (step : ∀ a as s, I (a :: as) s → Ensures (f a) s (fun _ => I as) E)
    (as : List α) (s : σ) (h : I as s) : Ensures (each f as) s (fun _ => I []) E := by
  induction as generalizing s with
  | nil => simpa [each] using h
  | cons a as ih =>
    rw [each, ensures_bind]
    exact (step a as s h).mono (fun _ s' hs => ih s' hs) fun _ _ he => he

lemma ensures_each_flatMap {β : Type*} {items : α → List β} {R : List β → σ → σ → Prop}
    (refl : ∀ s, R [] s s) (trans : ∀ {bs bs' s s' s''}, R bs s s' → R bs' s' s'' → R (bs ++ bs') s s'')
    (as : List α) (step : ∀ a ∈ as, ∀ s, Ensures (f a) s (fun _ => R (items a) s)) (s : σ) :
    Ensures (each f as) s fun _ => R (as.flatMap items) s := by
  induction as generalizing s with
  | nil => exact refl s
  | cons a as ih =>
    rw [each, ensures_bind]
    refine (step a List.mem_cons_self s).mono (fun _ s₁ h₁ => ?_) fun _ _ h => h
    exact (ih (fun a ha => step a (List.mem_cons_of_mem _ ha)) s₁).mono (fun _ _ h₂ => trans h₁ h₂) fun _ _ h => h

end Dsquic.Lib
