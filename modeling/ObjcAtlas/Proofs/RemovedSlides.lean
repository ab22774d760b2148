import Mathlib.Data.Set.Finite.Lattice
import Mathlib.Data.Set.Finite.List
import ObjcAtlas.Proofs.BatchLookups

/-! Look-ups with a slide against look-ups of the addresses less the slide. They agree for slides that are not negative;
a negative one is not removed at all. -/
namespace ObjcAtlas.SharedCache
variable {c : SharedCache} {slide other a b : Int} {addresses : List Int}

theorem unslide_eq (slide a : Int) : unslide slide a = a - max slide 0 := by
  unfold unslide
  split <;> omega

theorem unslide_zero (a : Int) : unslide 0 a = a := by simp [unslide]

section SameAddress

/-! All that a look-up knows of its address is what is left of it without the slide. -/

theorem isMapped_congr (h : unslide slide a = unslide other b) : c.isMapped slide a = c.isMapped other b := by
  rw [isMapped, isMapped, h]

theorem homeName_congr (h : unslide slide a = unslide other b) : c.homeName slide a = c.homeName other b := by
  rw [homeName, homeName, h]

theorem lookup_congr (h : unslide slide a = unslide other b) : c.lookup slide a = c.lookup other b := by
  rw [lookup, lookup, h]

theorem found?_congr (h : unslide slide a = unslide other b) : c.found? slide a = c.found? other b := by
  rw [found?, found?, lookup_congr h]

theorem lookupAll_map {f : Int → Int} (h : ∀ a, unslide slide a = unslide other (f a)) :
    c.lookupAll slide addresses = c.lookupAll other (addresses.map f) := by
  have hmapped : (fun b => !c.isMapped other b) ∘ f = fun a => !c.isMapped slide a := by
    funext a
    simp [isMapped_congr (h a)]
  have hname : c.homeName other ∘ f = c.homeName slide := by
    funext a
    simp [homeName_congr (h a)]
  have hfound : c.found? other ∘ f = c.found? slide := by
    funext a
    simp [found?_congr (h a)]
  have hgroup (name : String) : (fun b => c.homeName other b == name) ∘ f = fun a => c.homeName slide a == name := by
    rw [← hname]
    rfl
  have hall : c.foundByImage slide addresses = c.foundByImage other (addresses.map f) := by
    simp only [foundByImage, List.map_map, hname, List.filter_map, hgroup, List.filterMap_map, hfound]
  rw [lookupAll_eq, lookupAll_eq, List.find?_map, hmapped, hall]
  cases addresses.find? fun a => !c.isMapped slide a with
  | none => rfl
  | some a => simp [h a]

end SameAddress

theorem lookupAll_cons_of_not_isMapped (h : c.isMapped slide a = false) (rest : List Int) :
    c.lookupAll slide (a :: rest) = .error (.addressUnmapped (unslide slide a)) := by
  rw [lookupAll_eq, List.find?_cons_of_pos (by simp [h])]

/-- Far enough up there are no images. -/
theorem exists_not_isMapped (c : SharedCache) : ∃ top, ∀ a, top ≤ a → c.isMapped 0 a = false := by
  obtain ⟨top, htop⟩ := (List.finite_toSet (c.images.map CacheImage.stop)).bddAbove
  refine ⟨top, fun a ha => ?_⟩
  rw [isMapped, unslide_zero, List.any_eq_false]
  intro i hi
  have hstop : i.stop ≤ top := htop (List.mem_map_of_mem hi)
  have hbeyond : ¬ a < i.stop := by omega
  simp [CacheImage.contains, hbeyond]

/-- Beyond all images each address fails in its own words, so that a slide that is left in place shows. -/
theorem exists_slide_kept (c : SharedCache) (h : slide < 0) : ∃ a, c.isMapped slide a = false ∧
    c.isMapped 0 (a - slide) = false ∧ unslide slide a ≠ unslide 0 (a - slide) := by
  obtain ⟨top, htop⟩ := c.exists_not_isMapped
  have hkept : unslide slide top = top := by
    rw [unslide_eq]
    omega
  refine ⟨top, ?_, htop _ (by omega), ?_⟩
  · rw [isMapped_congr (hkept.trans (unslide_zero top).symm)]
    exact htop top le_rfl
  · rw [hkept, unslide_zero]
    omega

/-- Look-ups with a slide are look-ups of the addresses less the slide if the slide is not negative; a negative slide
is taken for none. -/
theorem lookups_unslid (c : SharedCache) (slide : Int) :
    (∀ a, c.lookup slide a = c.lookup 0 (a - max slide 0)) ∧
    (∀ addresses, c.lookupAll slide addresses = c.lookupAll 0 (addresses.map (· - max slide 0))) ∧
    ((∀ a, c.lookup slide a = c.lookup 0 (a - slide)) ↔ 0 ≤ slide) ∧
    ((∀ addresses, c.lookupAll slide addresses = c.lookupAll 0 (addresses.map (· - slide))) ↔ 0 ≤ slide) := by
  have hsame : ∀ a, unslide slide a = unslide 0 (a - max slide 0) := fun a => by rw [unslide_eq, unslide_zero]
  refine ⟨fun a => lookup_congr (hsame a), fun addresses => lookupAll_map hsame, ?single, ?batch⟩
  case single =>
    constructor
    · intro hall
      by_contra hneg
      obtain ⟨a, hleft, hright, hne⟩ := c.exists_slide_kept (not_le.mp hneg)
      have h := hall a
      rw [lookup_of_not_isMapped hleft, lookup_of_not_isMapped hright] at h
      exact hne (by simpa using h)
    · intro hslide a
      rw [lookup_congr (hsame a), max_eq_left hslide]
  case batch =>
    constructor
    · intro hall
      by_contra hneg
      obtain ⟨a, hleft, hright, hne⟩ := c.exists_slide_kept (not_le.mp hneg)
      have h := hall [a]
      rw [List.map_singleton, lookupAll_cons_of_not_isMapped hleft, lookupAll_cons_of_not_isMapped hright] at h
      exact hne (by simpa using h)
    · intro hslide addresses
      rw [lookupAll_map hsame, max_eq_left hslide]

/-- Sixteen below zero is a slide that an address of zero keeps, so that the first mill is missed. -/
theorem not_all_slides_removed : ¬ ∀ (c : SharedCache) (text : String) (slide : Int), Address.parse text = .ok slide →
    (∀ a, c.lookup slide a = c.lookup 0 (a - slide)) ∧
    ∀ addresses, c.lookupAll slide addresses = c.lookupAll 0 (addresses.map (· - slide)) := by
  intro hall
  have hparse : Address.parse "-16" = .ok (-16) := rfl
  have hkept : scattered.lookup (-16) 0 = .error (.addressUnmapped 0) := rfl
  have hmoved : scattered.lookup 0 (0 - -16) = .ok (some ⟨16, 16, 48, "spin", "Mill"⟩) := rfl
  have h := (hall scattered "-16" (-16) hparse).1 0
  rw [hkept, hmoved] at h
  cases h

end ObjcAtlas.SharedCache
