import Mathlib.Data.List.Forall2

/-! Steps that may fail: a series of steps and its parts. -/
namespace ObjcAtlas
variable {ε ε' α β γ : Type}

/-- A sequence of steps succeeds only if its first step does. -/
theorem exists_of_bind_eq_ok {x : Except ε α} {k : α → Except ε β} {b : β} (h : x >>= k = .ok b) :
    ∃ a, x = .ok a ∧ k a = .ok b := by
  cases x with
  | error e => cases h
  | ok a => exact ⟨a, rfl, h⟩

theorem exists_bind_eq_ok_iff {x : Except ε α} {k : α → Except ε β} :
    (∃ b, x >>= k = .ok b) ↔ ∃ a, x = .ok a ∧ ∃ b, k a = .ok b := by
  cases x with
  | error e => exact iff_of_false nofun nofun
  | ok a => exact ⟨fun h => ⟨a, rfl, h⟩, fun ⟨_, ha, hb⟩ => Except.ok.inj ha ▸ hb⟩

theorem exists_bind_pure_eq_ok_iff {x : Except ε α} {f : α → β} :
    (∃ b, (x >>= fun a => pure (f a)) = .ok b) ↔ ∃ a, x = .ok a := by
  rw [exists_bind_eq_ok_iff]
  exact exists_congr fun a => and_iff_left ⟨f a, rfl⟩

/-- If a sequence of steps fails, the first step does or the rest after it. -/
theorem eq_error_or_of_bind_eq_error {x : Except ε α} {k : α → Except ε β} {e : ε} (h : x >>= k = .error e) :
    x = .error e ∨ ∃ a, x = .ok a ∧ k a = .error e := by
  cases x with
  | error e' => exact Or.inl (congrArg Except.error (Except.error.inj h))
  | ok a => exact Or.inr ⟨a, rfl, h⟩

/-- Telling a failure in other words makes no success of it. -/
theorem eq_ok_of_mapError_eq_ok {x : Except ε α} {tell : ε → ε'} {a : α} (h : x.mapError tell = .ok a) : x = .ok a := by
  cases x with
  | error e => cases h
  | ok b => exact congrArg Except.ok (Except.ok.inj h)

theorem forall₂_of_mapM_eq_ok {read : α → Except ε β} {xs : List α} {ys : List β} (h : xs.mapM read = .ok ys) :
    List.Forall₂ (fun x y => read x = .ok y) xs ys := by
  induction xs generalizing ys with
  | nil =>
    obtain rfl := Except.ok.inj h
    exact .nil
  | cons x xs ih =>
    rw [List.mapM_cons] at h
    obtain ⟨y, hy, h⟩ := exists_of_bind_eq_ok h
    obtain ⟨zs, hzs, h⟩ := exists_of_bind_eq_ok h
    obtain rfl := Except.ok.inj h
    exact .cons hy (ih hzs)

/-- A series fails exactly if one of its steps does. -/
theorem exists_mapM_eq_error_iff {read : α → Except ε β} {xs : List α} :
    (∃ e, xs.mapM read = .error e) ↔ ∃ x ∈ xs, ∃ e, read x = .error e := by
  induction xs with
  | nil => exact iff_of_false nofun (by simp)
  | cons x xs ih =>
    rw [List.mapM_cons, List.exists_mem_cons_iff, ← ih]
    constructor
    · rintro ⟨e, he⟩
      rcases eq_error_or_of_bind_eq_error he with hx | ⟨y, -, h⟩
      · exact Or.inl ⟨e, hx⟩
      · rcases eq_error_or_of_bind_eq_error h with hxs | ⟨ys, -, h⟩
        · exact Or.inr ⟨e, hxs⟩
        · cases h
    · rintro (⟨e, hx⟩ | ⟨e, hxs⟩)
      · exact ⟨e, by rw [hx]; rfl⟩
      · cases hx : read x with
        | error e' => exact ⟨e', rfl⟩
        | ok y => exact ⟨e, by rw [hxs]; rfl⟩

/-- A series succeeds exactly if all of its steps do. -/
theorem exists_mapM_eq_ok_iff {read : α → Except ε β} {xs : List α} :
    (∃ ys, xs.mapM read = .ok ys) ↔ ∀ x ∈ xs, ∃ y, read x = .ok y := by
  induction xs with
  | nil => exact iff_of_true ⟨[], rfl⟩ nofun
  | cons x xs ih =>
    rw [List.mapM_cons, List.forall_mem_cons, ← ih, exists_bind_eq_ok_iff]
    simp only [exists_bind_pure_eq_ok_iff, exists_and_right]

/-- If every step that succeeds has the value told by `value`, so has their series. -/
theorem eq_map_of_mapM_eq_ok {read : α → Except ε β} {value : α → β} (hvalue : ∀ x y, read x = .ok y → y = value x)
    {xs : List α} {ys : List β} (h : xs.mapM read = .ok ys) : ys = xs.map value := by
  have hread := forall₂_of_mapM_eq_ok h
  clear h
  induction hread with
  | nil => rfl
  | cons hy _ ih => rw [List.map_cons, ← hvalue _ _ hy, ih]

/-- Lists of steps with the same outcomes have the same outcome. -/
theorem mapM_eq_of_forall₂ {f : α → Except ε γ} {g : β → Except ε γ} {xs : List α} {ys : List β}
    (h : List.Forall₂ (fun x y => f x = g y) xs ys) : xs.mapM f = ys.mapM g := by
  induction h with
  | nil => rfl
  | cons hxy _ ih => rw [List.mapM_cons, List.mapM_cons, hxy, ih]

/-- Steps with known outcomes, one after another. -/
theorem mapM_eq_ok_of_forall₂ {f : α → Except ε β} {g : γ → β} {xs : List α} {ys : List γ}
    (h : List.Forall₂ (fun x y => f x = .ok (g y)) xs ys) : xs.mapM f = .ok (ys.map g) := by
  rw [mapM_eq_of_forall₂ h]
  exact List.mapM_pure

end ObjcAtlas
