import ObjcAtlas.Proofs.HeaderSources
import ObjcAtlas.Proofs.NullPaths
import ObjcAtlas.Proofs.ReadableRecords

/-! Headers that cannot be written whatever the files are like. A module is read as a whole before any header is
written, but the flaw of a header shows only at its turn: what comes before it is left behind. -/
namespace ObjcAtlas
open ObjcAtlas.Module (Item)

namespace Job
variable {style : Header.Style} {mode : Int} {h : Header} {s t : Session} {e : Failure}

end Job

namespace Declaration

theorem exists_ofProperty_iff {p : Property} : (∃ line, ofProperty p = .ok line) ↔ p.type ≠ none := by
  rw [ofProperty]
  cases p.type <;> simp

theorem exists_ofIvar_iff {v : Ivar} : (∃ line, ofIvar v = .ok line) ↔ v.type ≠ none := by
  rw [ofIvar]
  cases v.type <;> simp

theorem exists_propertyBlock_iff {ps : List Property} :
    (∃ block, propertyBlock ps = .ok block) ↔ ∀ p ∈ ps, p.type ≠ none := by
  cases ps with
  | nil => exact iff_of_true ⟨[], rfl⟩ nofun
  | cons p ps =>
    rw [propertyBlock, exists_bind_pure_eq_ok_iff, exists_mapM_eq_ok_iff]
    · exact forall₂_congr fun _ _ => exists_ofProperty_iff
    · nofun

theorem exists_opening_iff {header : String} {vs : List Ivar} :
    (∃ top, opening header vs = .ok top) ↔ ∀ v ∈ vs, v.type ≠ none := by
  cases vs with
  | nil => exact iff_of_true ⟨[header], rfl⟩ nofun
  | cons v vs =>
    rw [opening, exists_bind_pure_eq_ok_iff, exists_mapM_eq_ok_iff]
    · exact forall₂_congr fun _ _ => exists_ofIvar_iff
    · nofun

theorem exists_ofClass_iff {c : ObjcClass} : (∃ text, ofClass c = .ok text) ↔
    (∀ v ∈ c.ivars, v.type ≠ none) ∧ ∀ p ∈ c.properties, p.type ≠ none := by
  rw [ofClass, exists_bind_eq_ok_iff]
  simp only [exists_bind_pure_eq_ok_iff, exists_and_right]
  exact and_congr exists_opening_iff exists_propertyBlock_iff

theorem exists_ofProtocol_iff {p : ObjcProtocol} :
    (∃ text, ofProtocol p = .ok text) ↔ ∀ q ∈ p.properties, q.type ≠ none := by
  rw [ofProtocol, exists_bind_pure_eq_ok_iff]
  exact exists_propertyBlock_iff

theorem exists_ofCategory_iff {k : Category} :
    (∃ text, ofCategory k = .ok text) ↔ ∀ q ∈ k.properties, q.type ≠ none := by
  rw [ofCategory, exists_bind_pure_eq_ok_iff]
  exact exists_propertyBlock_iff

end Declaration

namespace Entity

end Entity

namespace Generator
variable (g : Generator) (f : FoundationIndex)

section StopsAt
variable {g f} {m : Module} {before : List Item} {x : Item} {e : Failure} {ys : List Path} {s t u : Session}

end StopsAt

section Module
variable {g f} {b : Binary} {m : Module} {e : Failure} {s t : Session}

end Module

/-! A class and a category of it that has a property without a type. -/
section Untyped

end Untyped
end Generator
end ObjcAtlas
