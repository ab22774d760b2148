import Mathlib.Data.String.Basic
import ObjcAtlas.FoundationIndex

/-! Names in ascending order: strictly ascending, and so fixed by which names there are and searched by halving. -/
namespace ObjcAtlas.Text

theorem dropRepeats_pairwise {xs : List String} (h : xs.Pairwise (· ≤ ·)) :
    (dropRepeats xs).Pairwise (· < ·) := by
  induction xs with
  | nil => exact .nil
  | cons x xs ih =>
    obtain ⟨hle, hxs⟩ := List.pairwise_cons.mp h
    have ht := ih hxs
    cases hd : dropRepeats xs with
    | nil =>
      simp only [dropRepeats, hd]
      exact List.pairwise_singleton ..
    | cons y ys =>
      rw [hd] at ht
      have hy : y ∈ xs := (mem_dropRepeats xs).mp (by rw [hd]; exact List.mem_cons_self)
      simp only [dropRepeats, hd]
      split
      · exact ht
      · next hne =>
        have hlt : x < y := lt_of_le_of_ne (hle y hy) hne
        refine List.pairwise_cons.mpr ⟨?_, ht⟩
        intro z hz
        rcases List.mem_cons.mp hz with rfl | hz
        · exact hlt
        · exact hlt.trans ((List.pairwise_cons.mp ht).1 z hz)

theorem ascending_pairwise (names : List String) : (ascending names).Pairwise (· < ·) := by
  have h : (names.mergeSort fun a b => decide (a ≤ b)).Pairwise fun a b => decide (a ≤ b) = true := by
    apply List.pairwise_mergeSort
    · intro a b c hab hbc
      simp only [decide_eq_true_eq] at *
      exact hab.trans hbc
    · intro a b
      simpa only [Bool.or_eq_true, decide_eq_true_eq] using le_total a b
  exact dropRepeats_pairwise (h.imp fun hab => of_decide_eq_true hab)

/-- A strictly ascending list is determined by its members. -/
theorem eq_of_mem_iff_of_pairwise {xs ys : List String} (hx : xs.Pairwise (· < ·))
    (hy : ys.Pairwise (· < ·)) (h : ∀ n, n ∈ xs ↔ n ∈ ys) : xs = ys := by
  have hp : xs.Perm ys :=
    (List.perm_ext_iff_of_nodup (hx.imp fun hab => hab.ne) (hy.imp fun hab => hab.ne)).mpr h
  exact hp.eq_of_pairwise (fun a b _ _ hab hba => absurd hba (lt_asymm hab)) hx hy

theorem ascending_eq_of_mem_iff {names xs : List String} (hx : xs.Pairwise (· < ·)) (h : ∀ n, n ∈ names ↔ n ∈ xs) :
    ascending names = xs :=
  eq_of_mem_iff_of_pairwise (ascending_pairwise names) hx fun n => (mem_ascending names).trans (h n)

theorem ascending_eq_self {xs : List String} (h : xs.Pairwise (· < ·)) : ascending xs = xs :=
  ascending_eq_of_mem_iff h fun _ => Iff.rfl

section Search
variable {names : List String} {name : String}

theorem getElem_le_of_pairwise (hnames : names.Pairwise (· < ·)) {i j : Nat} (hij : i ≤ j) (hj : j < names.length) :
    names[i] ≤ names[j] := by
  rcases Nat.lt_or_eq_of_le hij with hlt | rfl
  · exact (List.pairwise_iff_getElem.mp hnames i j (by omega) hj hlt).le
  · exact le_refl _

/-- The names before the place found are smaller and those from it on are not, if this holds of the names outside the
part that is searched. -/
theorem position_spec (hnames : names.Pairwise (· < ·)) {low high : Nat} (h : high ≤ names.length) (hle : low ≤ high)
    (hbefore : ∀ i (hi : i < names.length), i < low → names[i] < name)
    (hafter : ∀ i (hi : i < names.length), high ≤ i → ¬ names[i] < name) :
    (∀ i (hi : i < names.length), i < position names name low high h → names[i] < name) ∧
      ∀ i (hi : i < names.length), position names name low high h ≤ i → ¬ names[i] < name := by
  fun_induction position names name low high h with
  | case1 low high h hlt hmiddle ih =>
    refine ih (by omega) (fun i hi hlow => ?_) hafter
    exact (getElem_le_of_pairwise hnames (by omega) (by omega)).trans_lt hmiddle
  | case2 low high h hlt hmiddle ih =>
    refine ih (by omega) hbefore (fun i hi hhigh hless => ?_)
    exact hmiddle ((getElem_le_of_pairwise hnames hhigh hi).trans_lt hless)
  | case3 low high h hlt =>
    obtain rfl : low = high := by omega
    exact ⟨hbefore, hafter⟩

theorem isListed_iff (hnames : names.Pairwise (· < ·)) : isListed names name = true ↔ name ∈ names := by
  have hnone : ∀ i (hi : i < names.length), i < 0 → names[i] < name := fun _ _ hi => absurd hi (Nat.not_lt_zero _)
  have hend : ∀ i (hi : i < names.length), names.length ≤ i → ¬ names[i] < name :=
    fun _ hi hle => absurd hi (Nat.not_lt.mpr hle)
  obtain ⟨hbefore, hafter⟩ := position_spec hnames (Nat.le_refl _) (Nat.zero_le _) hnone hend
  rw [isListed, beq_iff_eq]
  generalize position names name 0 names.length (Nat.le_refl _) = place at hbefore hafter
  constructor
  · exact List.mem_of_getElem?
  · intro hmem
    obtain ⟨i, hi, rfl⟩ := List.getElem_of_mem hmem
    have hle : place ≤ i := by
      by_contra hlt
      exact lt_irrefl _ (hbefore i hi (by omega))
    have hge : ¬ place < i := by
      intro hlt
      exact hafter place (by omega) (Nat.le_refl place) (List.pairwise_iff_getElem.mp hnames place i (by omega) hi hlt)
    rw [show place = i by omega, List.getElem?_eq_getElem hi]

end Search

end ObjcAtlas.Text
