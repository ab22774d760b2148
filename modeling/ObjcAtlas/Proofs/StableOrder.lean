import Mathlib.Data.List.Basic
import Mathlib.Data.String.Basic
import ObjcAtlas.Entity.Order

/-! Lists that differ only in how entries of different keys are mixed. Sorting by the key, which leaves entries of
one key as they stand, makes them equal. -/
namespace ObjcAtlas
variable {α κ : Type} [DecidableEq κ]

/-- The same entries, those of one key in the same order. -/
structure Rearranged (key : α → κ) (xs ys : List α) : Prop where
  perm : xs.Perm ys
  order : ∀ k, xs.filter (key · = k) = ys.filter (key · = k)

theorem Rearranged.refl (key : α → κ) (xs : List α) : Rearranged key xs xs := ⟨.refl xs, fun _ => rfl⟩

/-- Neighbours of different keys can be exchanged. -/
theorem Rearranged.swap {key : α → κ} {x y : α} (h : key x ≠ key y) (xs : List α) :
    Rearranged key (x :: y :: xs) (y :: x :: xs) := by
  refine ⟨.swap y x xs, fun k => ?_⟩
  by_cases hx : key x = k
  · have hy : key y ≠ k := fun hy => h (hx.trans hy.symm)
    simp [hx, hy]
  · simp [List.filter_cons, hx]

/-- A total order of entries in which exactly those of one key are level. -/
structure OrdersBy (key : α → κ) (le : α → α → Bool) : Prop where
  trans : ∀ a b c, le a b → le b c → le a c
  total : ∀ a b, le a b || le b a
  level : ∀ a b, le a b ∧ le b a ↔ key a = key b

namespace OrdersBy
variable {key : α → κ} {le : α → α → Bool}

/-- Sorting keeps the entries of each key in order. -/
theorem filter_mergeSort (h : OrdersBy key le) (k : κ) (xs : List α) :
    (xs.mergeSort le).filter (key · = k) = xs.filter (key · = k) := by
  have hsorted : (xs.filter (key · = k)).Pairwise fun a b => le a b := by
    apply List.pairwise_of_forall_mem_list
    intro a ha b hb
    have ha' := (List.mem_filter.mp ha).2
    have hb' := (List.mem_filter.mp hb).2
    simp only [decide_eq_true_eq] at ha' hb'
    exact ((h.level a b).mpr (ha'.trans hb'.symm)).1
  have hsub := List.sublist_mergeSort h.trans h.total hsorted List.filter_sublist
  have hfilter := hsub.filter (key · = k)
  rw [List.filter_filter] at hfilter
  simp only [Bool.and_self] at hfilter
  exact (hfilter.eq_of_length ((List.mergeSort_perm xs le).filter _).length_eq.symm).symm

/-- Sorting rearranges. -/
theorem rearranged_mergeSort (h : OrdersBy key le) (xs : List α) : Rearranged key xs (xs.mergeSort le) :=
  ⟨(List.mergeSort_perm xs le).symm, fun k => (h.filter_mergeSort k xs).symm⟩

omit [DecidableEq κ] in
theorem pairwise_mergeSort (h : OrdersBy key le) (xs : List α) : (xs.mergeSort le).Pairwise fun a b => le a b :=
  List.pairwise_mergeSort h.trans h.total xs

/-- Sorted lists that agree on the entries of each key are equal. -/
theorem eq_of_filter_eq (h : OrdersBy key le) {xs ys : List α} (hx : xs.Pairwise fun a b => le a b)
    (hy : ys.Pairwise fun a b => le a b) (hf : ∀ k, xs.filter (key · = k) = ys.filter (key · = k)) : xs = ys := by
  induction xs generalizing ys with
  | nil =>
    cases ys with
    | nil => rfl
    | cons y ys => simpa using hf (key y)
  | cons x xs ih =>
    cases ys with
    | nil => simpa using hf (key x)
    | cons y ys =>
      obtain ⟨hxs, hx'⟩ := List.pairwise_cons.mp hx
      obtain ⟨hys, hy'⟩ := List.pairwise_cons.mp hy
      have hxm : x ∈ y :: ys := by
        have hm : x ∈ (x :: xs).filter (key · = key x) := by simp
        rw [hf] at hm
        exact (List.mem_filter.mp hm).1
      have hym : y ∈ x :: xs := by
        have hm : y ∈ (y :: ys).filter (key · = key y) := by simp
        rw [← hf] at hm
        exact (List.mem_filter.mp hm).1
      have hxy : key x = key y := by
        rcases List.mem_cons.mp hxm with rfl | hxm
        · rfl
        · rcases List.mem_cons.mp hym with rfl | hym
          · rfl
          · exact (h.level x y).mp ⟨hxs y hym, hys x hxm⟩
      have hhead : x = y := by
        have hk := hf (key x)
        rw [List.filter_cons_of_pos (by simp), List.filter_cons_of_pos (by simp [hxy])] at hk
        exact (List.cons.inj hk).1
      subst hhead
      congr 1
      refine ih hx' hy' fun k => ?_
      have hk := hf k
      by_cases hxk : key x = k
      · rw [List.filter_cons_of_pos (by simpa using hxk), List.filter_cons_of_pos (by simpa using hxk)] at hk
        exact (List.cons.inj hk).2
      · rwa [List.filter_cons_of_neg (by simpa using hxk), List.filter_cons_of_neg (by simpa using hxk)] at hk

theorem mergeSort_eq (h : OrdersBy key le) {xs ys : List α} (hr : Rearranged key xs ys) :
    xs.mergeSort le = ys.mergeSort le := by
  refine h.eq_of_filter_eq (h.pairwise_mergeSort xs) (h.pairwise_mergeSort ys) fun k => ?_
  rw [h.filter_mergeSort, h.filter_mergeSort, hr.order]

end OrdersBy

/-- Order by a key, where the keys have an order of their own. -/
theorem ordersBy_le {β : Type} [LinearOrder β] (key : α → β) : OrdersBy key fun a b => decide (key a ≤ key b) where
  trans a b c hab hbc := by
    simp only [decide_eq_true_eq] at *
    exact hab.trans hbc
  total a b := by
    simpa only [Bool.or_eq_true, decide_eq_true_eq] using le_total (key a) (key b)
  level a b := by
    simp only [decide_eq_true_eq]
    exact le_antisymm_iff.symm

/-- Order by name, and by something else where names agree. -/
theorem ordersBy_name_then {β : Type} [LinearOrder β] (name : α → String) (other : α → β) :
    OrdersBy (fun a => (name a, other a)) fun a b =>
      name a < name b || (name a == name b && decide (other a ≤ other b)) where
  trans a b c hab hbc := by
    simp only [Bool.or_eq_true, Bool.and_eq_true, decide_eq_true_eq, beq_iff_eq] at *
    rcases hab with hab | ⟨hab, hab'⟩
    · rcases hbc with hbc | ⟨hbc, -⟩
      · exact Or.inl (hab.trans hbc)
      · exact Or.inl (hbc ▸ hab)
    · rcases hbc with hbc | ⟨hbc, hbc'⟩
      · exact Or.inl (hab ▸ hbc)
      · exact Or.inr ⟨hab.trans hbc, hab'.trans hbc'⟩
  total a b := by
    simp only [Bool.or_eq_true, Bool.and_eq_true, decide_eq_true_eq, beq_iff_eq]
    rcases lt_trichotomy (name a) (name b) with h | h | h
    · exact Or.inl (Or.inl h)
    · rcases le_total (other a) (other b) with h' | h'
      · exact Or.inl (Or.inr ⟨h, h'⟩)
      · exact Or.inr (Or.inr ⟨h.symm, h'⟩)
    · exact Or.inr (Or.inl h)
  level a b := by
    simp only [Bool.or_eq_true, Bool.and_eq_true, decide_eq_true_eq, beq_iff_eq, Prod.mk.injEq]
    constructor
    · rintro ⟨hab | ⟨hab, hab'⟩, hba | ⟨hba, hba'⟩⟩
      · exact absurd hba (lt_asymm hab)
      · exact absurd hba.symm hab.ne
      · exact absurd hab.symm hba.ne
      · exact ⟨hab, le_antisymm hab' hba'⟩
    · rintro ⟨hn, ho⟩
      exact ⟨Or.inr ⟨hn, ho.le⟩, Or.inr ⟨hn.symm, ho.ge⟩⟩

/-- What classes, protocols and categories are ordered by. -/
abbrev ObjcClass.key (c : ObjcClass) : String := c.name
abbrev ObjcProtocol.key (p : ObjcProtocol) : String × Int := (p.name, p.identity)
abbrev Category.key (k : Category) : String × String := (k.name, k.className.getD "")

theorem ObjcClass.sorted_eq {cs ds : List ObjcClass} (h : Rearranged key cs ds) : sorted cs = sorted ds :=
  (ordersBy_le ObjcClass.name).mergeSort_eq h

theorem ObjcProtocol.sorted_eq {ps qs : List ObjcProtocol} (h : Rearranged key ps qs) : sorted ps = sorted qs :=
  (ordersBy_name_then ObjcProtocol.name ObjcProtocol.identity).mergeSort_eq h

theorem Category.sorted_eq {ks ls : List Category} (h : Rearranged key ks ls) : sorted ks = sorted ls :=
  (ordersBy_name_then Category.name fun k => k.className.getD "").mergeSort_eq h

end ObjcAtlas
