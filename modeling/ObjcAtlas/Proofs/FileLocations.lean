import ObjcAtlas.Files.Tree

/-! Where a path leads is fixed by its components, whatever the tree holds. Making directories touches no file, and
a write changes the place that its path leads to and no other. -/
namespace ObjcAtlas

/-- The place one component further: `..` leads back. -/
def Location.enter (loc : Location) (c : String) : Location := if c = ".." then loc.dropLast else loc ++ [c]

/-- The place of a path; a relative one starts at `top`. -/
def Path.location (top : Location) (p : Path) : Location :=
  p.parts.foldl Location.enter (if p.root = "" then top else [])

theorem Path.location_append_name {name : String} (h : name ≠ "..") (top : Location) (p : Path) :
    (p ++ ⟨"", [name]⟩ : Path).location top = p.location top ++ [name] := by
  show (p.parts ++ [name]).foldl Location.enter (if p.root = "" then top else []) = _
  rw [List.foldl_append, List.foldl_cons, List.foldl_nil]
  simp only [Location.enter, h, if_false]
  rfl

namespace FileTree
variable {t u : FileTree}

@[simp] theorem workingDirectory_set (loc : Location) (n : Node) (t : FileTree) :
    (t.set loc n).workingDirectory = t.workingDirectory := rfl

theorem walk_ok {cs : List String} {start loc : Location} {n : Option Node} (h : t.walk start cs = .ok (loc, n)) :
    loc = cs.foldl Location.enter start ∧ n = t.node? loc := by
  induction cs generalizing start with
  | nil =>
    obtain ⟨rfl, rfl⟩ := Prod.mk.inj (Except.ok.inj h)
    exact ⟨rfl, rfl⟩
  | cons c cs ih =>
    rw [walk] at h
    split at h
    · cases h
    · cases h
    · rw [List.foldl_cons]
      by_cases hc : c = ".."
      · rw [if_pos hc] at h
        rw [show Location.enter start c = start.dropLast from if_pos hc]
        exact ih h
      · rw [if_neg hc] at h
        rw [show Location.enter start c = start ++ [c] from if_neg hc]
        split at h
        · cases h
        · exact ih h

theorem find_ok {p : Path} {loc : Location} {n : Option Node} (h : t.find p = .ok (loc, n)) :
    loc = p.location t.workingDirectory ∧ n = t.node? loc := by
  rw [find] at h
  split at h
  · cases h
  · split at h
    · cases h
    · exact walk_ok h

/-- A write puts a file in the place of its path, where no directory is. -/
theorem write_ok {p : Path} {content : ByteArray} (h : t.write p content = .ok u) :
    u = t.set (p.location t.workingDirectory) (.file content) ∧
      t.node? (p.location t.workingDirectory) ≠ some .directory := by
  rw [write] at h
  split at h
  · cases h
  · cases h
  · next loc n hne hf =>
    obtain ⟨rfl, rfl⟩ := find_ok hf
    exact ⟨(Except.ok.inj h).symm, hne⟩

theorem node?_write_self {p : Path} {content : ByteArray} (h : t.write p content = .ok u) :
    u.node? (p.location t.workingDirectory) = some (.file content) := by
  obtain ⟨rfl, hd⟩ := write_ok h
  have hne : p.location t.workingDirectory ≠ [] := fun he => hd (by rw [he]; rfl)
  rw [node?_set_self hne]

theorem node?_write_other {p : Path} {content : ByteArray} (h : t.write p content = .ok u) {loc : Location}
    (hl : p.location t.workingDirectory ≠ loc) : u.node? loc = t.node? loc := by
  obtain ⟨rfl, -⟩ := write_ok h
  exact node?_set_other hl.symm _ t

/-- A directory is made in the place of its path, where nothing is. -/
theorem makeDirectory_ok {p : Path} (h : t.makeDirectory p = .ok u) :
    t.find p = .ok (p.location t.workingDirectory, none) ∧ t.node? (p.location t.workingDirectory) = none ∧
      p.location t.workingDirectory ≠ [] ∧ u = t.set (p.location t.workingDirectory) .directory := by
  rw [makeDirectory] at h
  split at h
  · cases h
  · cases h
  · next loc hf =>
    obtain ⟨rfl, hn⟩ := find_ok hf
    have hne : p.location t.workingDirectory ≠ [] := fun he => by
      rw [he] at hn
      cases hn
    exact ⟨hf, hn.symm, hne, (Except.ok.inj h).symm⟩

/-- `u` is `t` with directories made where nothing was. -/
structure Gains (t u : FileTree) : Prop where
  top : u.workingDirectory = t.workingDirectory
  node : ∀ loc, u.node? loc = t.node? loc ∨ t.node? loc = none ∧ u.node? loc = some .directory

namespace Gains

theorem refl (t : FileTree) : Gains t t := ⟨rfl, fun _ => Or.inl rfl⟩

theorem trans {v : FileTree} (h : Gains t u) (h' : Gains u v) : Gains t v := by
  refine ⟨h'.top.trans h.top, fun loc => ?_⟩
  rcases h'.node loc with hv | ⟨hu, hv⟩
  · rw [hv]
    exact h.node loc
  · rcases h.node loc with ht | ⟨-, ht⟩
    · exact Or.inr ⟨ht ▸ hu, hv⟩
    · rw [hu] at ht
      cases ht

end Gains

theorem gains_makeDirectory {p : Path} (h : t.makeDirectory p = .ok u) : Gains t u := by
  obtain ⟨-, hn, hne, rfl⟩ := makeDirectory_ok h
  refine ⟨rfl, fun other => ?_⟩
  by_cases he : other = p.location t.workingDirectory
  · rw [he, node?_set_self hne]
    exact Or.inr ⟨hn, rfl⟩
  · exact Or.inl (node?_set_other he _ t)

theorem settle_induction {P : FileTree → Prop} (p : Path) {r : Except FileFault FileTree} (ht : P t)
    (hr : ∀ v, r = .ok v → P v) : P (t.settle p r).2 := by
  cases r with
  | ok v => exact hr v rfl
  | error f =>
    cases f
    case embeddedNull | notFound => exact ht
    all_goals
      simp only [settle]
      split <;> exact ht

/-- What is kept by each directory that is made on the way is kept by all of them, however many can be made. -/
theorem makeDirectories_induction {P : FileTree → Prop} (p : Path) (ht : P t)
    (step : ∀ u q v, P u → q.root = p.root → q.parts <+: p.parts → u.makeDirectory q = .ok v → P v) :
    P (t.makeDirectories p).2 := by
  have hs : ∀ u, P u → P (u.settle p (u.makeDirectory p)).2 := fun u hu =>
    settle_induction p hu fun v hv => step u p v hu rfl List.prefix_rfl hv
  have ht' := hs t ht
  rw [makeDirectories]
  split
  · split
    · exact ht
    · next hp =>
      have := Path.length_parts_parent_lt hp
      have hq : p.parent.parts <+: p.parts := List.dropLast_prefix p.parts
      have ih := makeDirectories_induction p.parent ht fun u q v hu hr hqp => step u q v hu hr (hqp.trans hq)
      generalize t.makeDirectories p.parent = r at ih ⊢
      obtain ⟨f | _, t'⟩ := r
      · exact ih
      · exact hs t' ih
  · exact ht'
termination_by p.parts.length

theorem gains_makeDirectories (t : FileTree) (p : Path) : Gains t (t.makeDirectories p).2 :=
  makeDirectories_induction p (.refl t) fun _ _ _ hu _ _ hv => hu.trans (gains_makeDirectory hv)

end FileTree
end ObjcAtlas
