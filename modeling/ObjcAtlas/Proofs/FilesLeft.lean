import ObjcAtlas.Proofs.FileLocations
import ObjcAtlas.Proofs.HeaderWriting

/-! What is left of headers that are written one after another: in each place the one written there last, and
elsewhere what was there before. -/
namespace ObjcAtlas

namespace Keyed
variable {κ κ' β γ : Type} {keyOf : β → κ} {k : κ} {xs : List β} {x : β}

theorem IsLast.mem (h : IsLast keyOf k xs x) : x ∈ xs := by
  obtain ⟨before, after, rfl, -, -⟩ := h
  exact List.mem_append_right before List.mem_cons_self

theorem IsLast.key_eq (h : IsLast keyOf k xs x) : keyOf x = k := by
  obtain ⟨-, -, -, hk, -⟩ := h
  exact hk

theorem IsLast.unique {y : β} (hx : IsLast keyOf k xs x) (hy : IsLast keyOf k xs y) : x = y := by
  induction xs with
  | nil => exact absurd hx.mem List.not_mem_nil
  | cons z zs ih =>
    rcases isLast_cons_iff.mp hx with hx | ⟨rfl, hk, hzs⟩
    · rcases isLast_cons_iff.mp hy with hy | ⟨rfl, -, hzs⟩
      · exact ih hx hy
      · exact absurd hx.key_eq (hzs x hx.mem)
    · rcases isLast_cons_iff.mp hy with hy | ⟨rfl, -, -⟩
      · exact absurd hy.key_eq (hzs y hy.mem)
      · rfl

/-- If a key occurs, one of its entries is the last. -/
theorem exists_isLast (h : ∃ x ∈ xs, keyOf x = k) : ∃ x, IsLast keyOf k xs x := by
  induction xs with
  | nil =>
    obtain ⟨x, hx, -⟩ := h
    cases hx
  | cons z zs ih =>
    by_cases hz : ∃ y ∈ zs, keyOf y = k
    · obtain ⟨y, hy⟩ := ih hz
      exact ⟨y, isLast_cons_iff.mpr (Or.inl hy)⟩
    · have hzs : ∀ y ∈ zs, keyOf y ≠ k := fun y hy hk => hz ⟨y, hy, hk⟩
      obtain ⟨x, hx, hk⟩ := h
      rcases List.mem_cons.mp hx with rfl | hx
      · exact ⟨x, isLast_cons_iff.mpr (Or.inr ⟨rfl, hk, hzs⟩)⟩
      · exact absurd hk (hzs x hx)

theorem isLast_map_iff {f : β → γ} {key : γ → κ} {y : γ} :
    IsLast key k (xs.map f) y ↔ ∃ x, IsLast (fun b => key (f b)) k xs x ∧ f x = y := by
  induction xs with
  | nil => simp [IsLast]
  | cons z zs ih =>
    rw [List.map_cons, isLast_cons_iff, ih]
    simp only [isLast_cons_iff, List.forall_mem_map, or_and_right, exists_or]
    apply or_congr_right
    constructor
    · rintro ⟨rfl, hk, hzs⟩
      exact ⟨z, ⟨rfl, hk, hzs⟩, rfl⟩
    · rintro ⟨x, ⟨rfl, hk, hzs⟩, rfl⟩
      exact ⟨rfl, hk, hzs⟩

/-- The last entry of a key is also the last of its own kind, by any key of that kind that determines the first. -/
theorem IsLast.filterMap {pick : β → Option γ} {key : γ → κ'} {y : γ} (h : IsLast keyOf k xs x)
    (hx : pick x = some y) (hkey : ∀ z ∈ xs, ∀ c, pick z = some c → key c = key y → keyOf z = k) :
    IsLast key (key y) (xs.filterMap pick) y := by
  obtain ⟨before, after, rfl, hk, hafter⟩ := h
  refine ⟨before.filterMap pick, after.filterMap pick, ?_, rfl, ?_⟩
  · rw [List.filterMap_append, List.filterMap_cons_some hx]
  · intro c hc he
    obtain ⟨z, hz, hzc⟩ := List.mem_filterMap.mp hc
    exact hafter z hz (hkey z (List.mem_append_right _ (List.mem_cons_of_mem _ hz)) c hzc he)

end Keyed

namespace FileTree

/-- `u` is what headers written in order leave of `t`. -/
structure Holds (style : Header.Style) (hs : List Header) (t u : FileTree) : Prop where
  top : u.workingDirectory = t.workingDirectory
  last : ∀ loc h, Keyed.IsLast (fun h : Header => h.path.location t.workingDirectory) loc hs h →
    u.node? loc = some (.file (h.text style).toUTF8)
  other : ∀ loc, (∀ h ∈ hs, h.path.location t.workingDirectory ≠ loc) →
    u.node? loc = t.node? loc ∨ t.node? loc = none ∧ u.node? loc = some .directory

theorem Written.holds {style : Header.Style} {hs : List Header} {t u : FileTree} (h : Written style hs t u) :
    Holds style hs t u := by
  induction h with
  | done t => exact ⟨rfl, fun loc h hl => absurd hl.mem List.not_mem_nil, fun loc _ => Or.inl rfl⟩
  | @directories hs t u p hu ih =>
    have hg := gains_makeDirectories t p
    have htop : (t.makeDirectories p).2.workingDirectory = t.workingDirectory := hg.top
    refine ⟨ih.top.trans htop, fun loc h hl => ih.last loc h (htop ▸ hl), fun loc hl => ?_⟩
    have ho := ih.other loc (htop ▸ hl)
    rcases hg.node loc with he | ⟨hn, hd⟩
    · rwa [he] at ho
    · rcases ho with he | ⟨he, -⟩
      · exact Or.inr ⟨hn, he.trans hd⟩
      · rw [hd] at he
        cases he
  | @header h hs t v u hv hu ih =>
    have htop : v.workingDirectory = t.workingDirectory := by rw [(write_ok hv).1, workingDirectory_set]
    refine ⟨ih.top.trans htop, fun loc k hk => ?_, fun loc hl => ?_⟩
    · rcases Keyed.isLast_cons_iff.mp hk with hk | ⟨rfl, rfl, hlater⟩
      · exact ih.last loc k (htop ▸ hk)
      · have hw := node?_write_self hv
        rcases ih.other (h.path.location t.workingDirectory) (by rwa [htop]) with he | ⟨hn, -⟩
        · exact he.trans hw
        · rw [hw] at hn
          cases hn
    · obtain ⟨hh, hhs⟩ := List.forall_mem_cons.mp hl
      rw [← node?_write_other hv hh]
      exact ih.other loc (htop ▸ hhs)

/-- Whatever was written, a file is in its place. -/
theorem Holds.exists_file {style : Header.Style} {hs : List Header} {t u : FileTree} (h : Holds style hs t u)
    {k : Header} (hk : k ∈ hs) : ∃ content, u.node? (k.path.location t.workingDirectory) = some (.file content) := by
  obtain ⟨l, hl⟩ : ∃ l, Keyed.IsLast (fun h : Header => h.path.location t.workingDirectory)
      (k.path.location t.workingDirectory) hs l := Keyed.exists_isLast ⟨k, hk, rfl⟩
  exact ⟨_, h.last _ l hl⟩

end FileTree
end ObjcAtlas
