import Mathlib.Data.List.Forall2

/-!
# When checked computations succeed

A sequence of checks succeeds exactly when each check does, and fails as the first one
does that fails.
-/

set_option autoImplicit false

namespace DeviceGraph.Checks

variable {ε ε' α β γ : Type}

@[simp] theorem bind_eq_ok_iff (x : Except ε α) (f : α → Except ε β) (b : β) :
    (x >>= f) = .ok b ↔ ∃ a, x = .ok a ∧ f a = .ok b := by
  cases x <;> simp [bind, Except.bind]

/-- Two computations that begin alike and succeed go on from the same value. -/
theorem bind_eq_ok_same {x : Except ε α} {f : α → Except ε β} {g : α → Except ε γ} {b : β} {c : γ}
    (hf : (x >>= f) = .ok b) (hg : (x >>= g) = .ok c) :
    ∃ a, x = .ok a ∧ f a = .ok b ∧ g a = .ok c := by
  obtain ⟨a, ha, hf⟩ := (bind_eq_ok_iff x f b).mp hf
  rw [ha] at hg
  exact ⟨a, ha, hf, hg⟩

@[simp] theorem map_eq_ok_iff (x : Except ε α) (f : α → β) (b : β) :
    f <$> x = .ok b ↔ ∃ a, x = .ok a ∧ f a = b := by
  cases x <;> simp [Functor.map, Except.map]

theorem map_eq_error_iff (x : Except ε α) (f : α → β) (e : ε) :
    f <$> x = .error e ↔ x = .error e := by
  cases x <;> simp [Functor.map, Except.map]

@[simp] theorem throw_ne_ok (e : ε) (a : α) : (throw e : Except ε α) ≠ .ok a := by
  intro h
  cases h

/-- What a check refuses does not hold of anything that passes it. -/
theorem not_of_guard {p : Prop} [Decidable p] {e : ε}
    (h : (if p then throw e else pure () : Except ε Unit) = .ok ()) : ¬ p := by
  intro hp
  rw [if_pos hp] at h
  exact throw_ne_ok e () h

@[simp] theorem pure_eq_ok_iff (a b : α) : (pure a : Except ε α) = .ok b ↔ a = b := by
  simp [pure, Except.pure]

@[simp] theorem mapError_eq_ok_iff (x : Except ε α) (f : ε → ε') (a : α) :
    x.mapError f = .ok a ↔ x = .ok a := by
  cases x with
  | error e => constructor <;> intro h <;> cases h
  | ok b =>
    have hb : (Except.ok b : Except ε α).mapError f = .ok b := rfl
    rw [hb, Except.ok.injEq, Except.ok.injEq]

theorem mapError_eq_error_iff (x : Except ε α) (f : ε → ε') (e' : ε') :
    x.mapError f = .error e' ↔ ∃ e, x = .error e ∧ f e = e' := by
  cases x with
  | error e =>
    constructor
    · exact fun h => ⟨e, rfl, Except.error.inj h⟩
    · rintro ⟨_, he, rfl⟩
      cases he
      rfl
  | ok a =>
    constructor
    · intro h
      cases h
    · rintro ⟨_, he, _⟩
      cases he

@[simp] theorem exists_unit_eq_ok_iff (x : Except ε Unit) : (∃ u, x = .ok u) ↔ x = .ok () :=
  ⟨fun ⟨_, h⟩ => h, fun h => ⟨(), h⟩⟩

@[simp] theorem forM_eq_ok_iff (f : α → Except ε Unit) (xs : List α) :
    forM xs f = .ok () ↔ ∀ x ∈ xs, f x = .ok () := by
  induction xs with
  | nil => simp
  | cons x xs ih => simp [ih]

/-- A check of a list fails as its first item does that fails. -/
theorem forM_eq_error_iff (f : α → Except ε Unit) (xs : List α) (e : ε) :
    forM xs f = .error e ↔ ∃ before x after, xs = before ++ x :: after ∧
      (∀ a ∈ before, f a = .ok ()) ∧ f x = .error e := by
  constructor
  · intro h
    induction xs with
    | nil => cases h
    | cons x xs ih =>
      rw [List.forM_cons] at h
      cases hx : f x with
      | error e' =>
        rw [hx] at h
        cases h
        exact ⟨[], x, xs, rfl, fun _ ha => absurd ha List.not_mem_nil, hx⟩
      | ok u =>
        rw [hx] at h
        obtain ⟨before, y, after, rfl, hbefore, hy⟩ := ih h
        exact ⟨x :: before, y, after, rfl, List.forall_mem_cons.mpr ⟨hx, hbefore⟩, hy⟩
  · rintro ⟨before, x, after, rfl, hbefore, hx⟩
    have hpass : forM before f = .ok () := (forM_eq_ok_iff f before).mpr hbefore
    rw [List.forM_append, hpass]
    show forM (x :: after) f = .error e
    rw [List.forM_cons, hx]
    rfl

/-! ## Lists -/

theorem mapM_eq_ok_iff (f : α → Except ε β) (xs : List α) (ys : List β) :
    xs.mapM f = .ok ys ↔ List.Forall₂ (fun x y => f x = .ok y) xs ys := by
  induction xs generalizing ys with
  | nil =>
    rw [List.mapM_nil, pure_eq_ok_iff, List.forall₂_nil_left_iff]
    exact eq_comm
  | cons x xs ih =>
    simp only [List.mapM_cons, bind_eq_ok_iff, pure_eq_ok_iff, ih, List.forall₂_cons_left_iff]
    constructor
    · rintro ⟨y, hy, rest, hrest, rfl⟩
      exact ⟨y, rest, hy, hrest, rfl⟩
    · rintro ⟨y, rest, hy, hrest, rfl⟩
      exact ⟨y, hy, rest, hrest, rfl⟩

theorem exists_mapM_iff (f : α → Except ε β) (xs : List α) :
    (∃ ys, xs.mapM f = .ok ys) ↔ ∀ x ∈ xs, ∃ y, f x = .ok y := by
  induction xs with
  | nil => exact ⟨fun _ _ hm => absurd hm List.not_mem_nil, fun _ => ⟨[], rfl⟩⟩
  | cons x xs ih =>
    rw [List.forall_mem_cons, ← ih]
    simp only [List.mapM_cons, bind_eq_ok_iff, pure_eq_ok_iff]
    constructor
    · rintro ⟨_, y, hy, rest, hrest, _⟩
      exact ⟨⟨y, hy⟩, rest, hrest⟩
    · rintro ⟨⟨y, hy⟩, rest, hrest⟩
      exact ⟨_, y, hy, rest, hrest, rfl⟩

/-- A computation along a list fails where one of its steps does. -/
theorem error_of_mapM {f : α → Except ε β} {xs : List α} {e : ε} (h : xs.mapM f = .error e) :
    ∃ x ∈ xs, f x = .error e := by
  induction xs with
  | nil => cases h
  | cons x xs ih =>
    rw [List.mapM_cons] at h
    cases hx : f x with
    | error e' =>
      rw [hx] at h
      cases h
      exact ⟨x, List.mem_cons_self, hx⟩
    | ok y =>
      rw [hx] at h
      cases hrest : xs.mapM f with
      | error e' =>
        rw [hrest] at h
        cases h
        obtain ⟨later, hm, hlater⟩ := ih hrest
        exact ⟨later, List.mem_cons_of_mem _ hm, hlater⟩
      | ok rest =>
        rw [hrest] at h
        cases h

/-- Reading and folding in one pass is reading all, and then folding. -/
theorem foldlM_map_eq (read : α → Except ε β) (step : γ → β → γ) (xs : List α) (c : γ) :
    xs.foldlM (fun c x => step c <$> read x) c =
      (fun ys => ys.foldl step c) <$> xs.mapM read := by
  induction xs generalizing c with
  | nil => rfl
  | cons x xs ih =>
    rw [List.foldlM_cons, List.mapM_cons]
    cases read x with
    | error e => rfl
    | ok y =>
      refine (ih (step c y)).trans ?_
      cases xs.mapM read <;> rfl

/-- What holds of every value that a computation gives holds of all that it gives along a list. -/
theorem forall_mem_of_mapM {f : α → Except ε β} {p : β → Prop} (h : ∀ a b, f a = .ok b → p b)
    {xs : List α} {ys : List β} (hm : xs.mapM f = .ok ys) : ∀ y ∈ ys, p y := by
  induction (mapM_eq_ok_iff f xs ys).mp hm with
  | nil => exact fun y hy => absurd hy List.not_mem_nil
  | cons hfirst hrest ih =>
    exact List.forall_mem_cons.mpr ⟨h _ _ hfirst, ih ((mapM_eq_ok_iff _ _ _).mpr hrest)⟩

/-- What every step keeps, the run over a list keeps. -/
theorem invariant_of_foldlM {f : β → α → Except ε β} {p : β → Prop}
    (h : ∀ b a c, p b → f b a = .ok c → p c) {xs : List α} {b c : β} (hb : p b)
    (hf : xs.foldlM f b = .ok c) : p c := by
  induction xs generalizing b with
  | nil =>
    rw [List.foldlM_nil, pure_eq_ok_iff] at hf
    exact hf ▸ hb
  | cons x xs ih =>
    rw [List.foldlM_cons, bind_eq_ok_iff] at hf
    obtain ⟨d, hd, hf⟩ := hf
    exact ih (h b x d hb hd) hf

end DeviceGraph.Checks
