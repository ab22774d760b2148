/-! Lists of keyed values in which each key stands once, in the order of first mention. -/
namespace ObjcAtlas.Keyed
variable {κ α : Type} [BEq κ] [LawfulBEq κ]

/-- Sets the value of a key: a known key keeps its place, a new one goes to the end. -/
def put (key : κ) (value : α) : List (κ × α) → List (κ × α)
  | [] => [(key, value)]
  | (k, v) :: rest => if k == key then (k, value) :: rest else (k, v) :: put key value rest

/-- Sets the pairs one after another, so that the last value of a key counts. -/
def ofPairs (pairs : List (κ × α)) : List (κ × α) := pairs.foldl (fun m p => put p.1 p.2 m) []

theorem lookup_put_self (key : κ) (value : α) (m : List (κ × α)) :
    (put key value m).lookup key = some value := by
  induction m with
  | nil => simp [put]
  | cons p rest ih =>
    obtain ⟨k, v⟩ := p
    by_cases h : k = key
    · subst h
      simp [put]
    · have hk : (k == key) = false := by simpa using h
      have hk' : (key == k) = false := by simpa using Ne.symm h
      simp only [put, hk, Bool.false_eq_true, if_false, List.lookup_cons, hk', ih]

theorem lookup_put_other {key other : κ} (h : other ≠ key) (value : α) (m : List (κ × α)) :
    (put key value m).lookup other = m.lookup other := by
  have hb : (other == key) = false := by simpa using h
  induction m with
  | nil => simp [put, List.lookup_cons, hb]
  | cons p rest ih =>
    obtain ⟨k, v⟩ := p
    by_cases hk : k = key
    · subst hk
      simp only [put, beq_self_eq_true, if_true, List.lookup_cons, hb]
    · have hk' : (k == key) = false := by simpa using hk
      simp only [put, hk', Bool.false_eq_true, if_false, List.lookup_cons, ih]

theorem lookup_put_eq_some_iff {key other : κ} {value v : α} {m : List (κ × α)} :
    (put key value m).lookup other = some v ↔ other = key ∧ v = value ∨ other ≠ key ∧ m.lookup other = some v := by
  by_cases h : other = key
  · subst h
    simp [lookup_put_self, eq_comm]
  · simp [lookup_put_other h, h]

theorem put_of_lookup_eq_none {key : κ} {m : List (κ × α)} (h : m.lookup key = none) (value : α) :
    put key value m = m ++ [(key, value)] := by
  induction m with
  | nil => rfl
  | cons p rest ih =>
    obtain ⟨k, v⟩ := p
    by_cases hk : k = key
    · subst hk
      simp at h
    · have hb : (key == k) = false := by simpa using Ne.symm hk
      have hb' : (k == key) = false := by simpa using hk
      rw [List.lookup_cons, hb] at h
      simp only [put, hb', Bool.false_eq_true, if_false, ih h, List.cons_append]

theorem put_put (key : κ) (v w : α) (m : List (κ × α)) : put key w (put key v m) = put key w m := by
  induction m with
  | nil => simp [put]
  | cons p rest ih =>
    obtain ⟨k, x⟩ := p
    by_cases h : k = key
    · simp [put, h]
    · have hk : (k == key) = false := by simpa using h
      simp only [put, hk, Bool.false_eq_true, if_false, ih]

/-- The order in which two keys are set does not matter if one of them has its place already. -/
theorem put_comm {key other : κ} (hne : key ≠ other) (v w : α) {m : List (κ × α)} (h : m.lookup other ≠ none) :
    put other w (put key v m) = put key v (put other w m) := by
  induction m with
  | nil => exact absurd rfl h
  | cons p rest ih =>
    obtain ⟨k, x⟩ := p
    by_cases hk : k = key
    · have ho : (key == other) = false := by simpa using hne
      simp [put, hk, ho]
    · have hk' : (k == key) = false := by simpa using hk
      by_cases ho : k = other
      · simp only [put, ho, beq_self_eq_true, if_true, ho ▸ hk', Bool.false_eq_true, if_false]
      · have ho' : (k == other) = false := by simpa using ho
        have hr : rest.lookup other ≠ none := by
          have hb : (other == k) = false := by simpa using Ne.symm ho
          simpa only [List.lookup_cons, hb] using h
        simp only [put, hk', ho', Bool.false_eq_true, if_false, ih hr]

section Values
variable {β : Type} (f : α → β) (key : κ) (m : List (κ × α))

omit [LawfulBEq κ] in
theorem lookup_map_values : (m.map fun e => (e.1, f e.2)).lookup key = (m.lookup key).map f := by
  induction m with
  | nil => rfl
  | cons e rest ih =>
    obtain ⟨k, v⟩ := e
    rw [List.map_cons, List.lookup_cons, List.lookup_cons, ih]
    cases key == k <;> rfl

omit [LawfulBEq κ] in
theorem put_map_values (value : α) :
    put key (f value) (m.map fun e => (e.1, f e.2)) = (put key value m).map fun e => (e.1, f e.2) := by
  induction m with
  | nil => rfl
  | cons e rest ih =>
    obtain ⟨k, v⟩ := e
    rw [List.map_cons, put, put, ih]
    split <;> rfl

end Values

/-- `x` is the last of `xs` whose key is `k`. -/
def IsLast {β : Type} (keyOf : β → κ) (k : κ) (xs : List β) (x : β) : Prop :=
  ∃ before after, xs = before ++ x :: after ∧ keyOf x = k ∧ ∀ y ∈ after, keyOf y ≠ k

omit [BEq κ] [LawfulBEq κ] in
theorem isLast_cons_iff {β : Type} {keyOf : β → κ} {k : κ} {x y : β} {xs : List β} :
    IsLast keyOf k (x :: xs) y ↔
      IsLast keyOf k xs y ∨ (x = y ∧ keyOf x = k ∧ ∀ z ∈ xs, keyOf z ≠ k) := by
  constructor
  · rintro ⟨before, after, hxs, hk, hafter⟩
    cases before with
    | nil =>
      obtain ⟨rfl, rfl⟩ := List.cons.inj hxs
      exact Or.inr ⟨rfl, hk, hafter⟩
    | cons z before =>
      exact Or.inl ⟨before, after, (List.cons.inj hxs).2, hk, hafter⟩
  · rintro (⟨before, after, rfl, hk, hafter⟩ | ⟨rfl, hk, hafter⟩)
    · exact ⟨x :: before, after, rfl, hk, hafter⟩
    · exact ⟨[], xs, rfl, hk, hafter⟩

/-- Setting pairs over a list that is there already: a key that is set takes its last value. -/
theorem lookup_foldl_put_iff {β : Type} (keyOf : β → κ) (f : β → α) (k : κ) (v : α) (xs : List β)
    (m : List (κ × α)) :
    ((xs.map fun x => (keyOf x, f x)).foldl (fun m p => put p.1 p.2 m) m).lookup k = some v ↔
      (∃ x, IsLast keyOf k xs x ∧ f x = v) ∨ ((∀ x ∈ xs, keyOf x ≠ k) ∧ m.lookup k = some v) := by
  induction xs generalizing m with
  | nil => simp [IsLast]
  | cons x xs ih =>
    simp only [List.map_cons, List.foldl_cons, ih, isLast_cons_iff, List.forall_mem_cons]
    by_cases hk : keyOf x = k
    · subst hk
      simp only [lookup_put_self, Option.some.injEq]
      constructor
      · rintro (⟨y, hy, rfl⟩ | ⟨hxs, rfl⟩)
        · exact Or.inl ⟨y, Or.inl hy, rfl⟩
        · exact Or.inl ⟨x, Or.inr ⟨rfl, trivial, hxs⟩, rfl⟩
      · rintro (⟨y, hy | ⟨rfl, -, hxs⟩, rfl⟩ | ⟨⟨hne, -⟩, -⟩)
        · exact Or.inl ⟨y, hy, rfl⟩
        · exact Or.inr ⟨hxs, rfl⟩
        · exact absurd rfl hne
    · have hm : (put (keyOf x) (f x) m).lookup k = m.lookup k := lookup_put_other (Ne.symm hk) _ _
      simp only [hm, hk, false_and, and_false, or_false, ne_eq, not_false_eq_true, true_and]

theorem lookup_ofPairs_iff {β : Type} (keyOf : β → κ) (f : β → α) (k : κ) (v : α) (xs : List β) :
    (ofPairs (xs.map fun x => (keyOf x, f x))).lookup k = some v ↔
      ∃ x, IsLast keyOf k xs x ∧ f x = v := by
  rw [ofPairs, lookup_foldl_put_iff]
  simp

end ObjcAtlas.Keyed
