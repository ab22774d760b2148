import ObjcAtlas.Proofs.HeaderForms
import ObjcAtlas.Proofs.ModuleEntities
import ObjcAtlas.Proofs.TextPieces

/-! Names without a slash. Each is one component of a path, so that a header lies in the directory of its module
under its file name. -/
namespace ObjcAtlas
open ObjcAtlas.Module (Item)

namespace Path

/-- A name that leads nowhere else than into a directory. -/
def IsComponent (s : String) : Prop := '/' ∉ s.toList

instance : DecidablePred IsComponent := fun s => inferInstanceAs (Decidable ('/' ∉ s.toList))

theorem isComponent_append {a b : String} (ha : IsComponent a) (hb : IsComponent b) : IsComponent (a ++ b) := by
  rw [IsComponent, String.toList_append, List.mem_append]
  exact not_or.mpr ⟨ha, hb⟩

/-- The empty name and the dot vanish, any other name stays. -/
theorem ofString_of_isComponent {s : String} (h : IsComponent s) :
    ofString s = ⟨"", if s = "" ∨ s = "." then [] else [s]⟩ := by
  have hr : rootOf s.toList = "" := by
    rw [IsComponent] at h
    rw [rootOf]
    cases hs : s.toList with
    | nil => rfl
    | cons c cs =>
      have hc : (c == '/') = false := by
        rw [hs] at h
        simpa using Ne.symm (List.ne_and_not_mem_of_not_mem_cons h).1
      rw [List.takeWhile_cons, hc]
      rfl
  rw [ofString, hr, Text.fields_of_not_mem h, List.map_singleton, String.ofList_toList, List.filter_singleton]
  by_cases hs : s = "" ∨ s = "."
  · rcases hs with rfl | rfl <;> rfl
  · obtain ⟨he, hd⟩ := not_or.mp hs
    simp [he, hd]

theorem ofString_fileName {s : String} (h : IsComponent s) : ofString (s ++ ".h") = ⟨"", [s ++ ".h"]⟩ := by
  have hl := String.length_append (s := s) (t := ".h")
  have h2 : ".h".length = 2 := rfl
  rw [ofString_of_isComponent (isComponent_append h (by decide)), if_neg]
  rintro (he | he)
  · rw [he] at hl
    have : "".length = 0 := rfl
    omega
  · rw [he] at hl
    have : ".".length = 1 := rfl
    omega

theorem append_name (p : Path) (n : String) : p ++ ⟨"", [n]⟩ = ⟨p.root, p.parts ++ [n]⟩ := rfl

theorem name_append_name (p : Path) (n : String) : (p ++ ⟨"", [n]⟩ : Path).name = n := by
  rw [append_name, name, List.getLastD_concat]

theorem append_name_inj {p q : Path} {m n : String} : p ++ ⟨"", [m]⟩ = q ++ ⟨"", [n]⟩ ↔ p = q ∧ m = n := by
  rw [append_name, append_name, mk.injEq, List.append_singleton_inj, ← and_assoc]
  cases p
  cases q
  rw [mk.injEq]

end Path
open ObjcAtlas.Path (IsComponent isComponent_append)

namespace Generator
variable (g : Generator) (f : FoundationIndex)

/-- Nothing that a path of the module's headers is made of has a slash. -/
structure PlainNames (m : Module) : Prop where
  module : IsComponent m.name
  suffix : IsComponent g.settings.umbrellaSuffix
  entity : ∀ e ∈ m.entities f, IsComponent e.name
  base : ∀ k ∈ m.categories, ∀ base, k.className = some base → IsComponent base

namespace PlainNames
variable {g f} {m : Module} (h : g.PlainNames f m)
include h

theorem entity_stem {e : Entity} (he : e ∈ m.entities f) : IsComponent e.form.stem := by
  have hn := h.entity e he
  cases e with
  | ofClass c => exact hn
  | ofProtocol p => exact isComponent_append hn (by decide)
  | ofCategory k =>
    rw [Entity.form]
    split
    · next base hb =>
      have hk : k ∈ m.categories := by simpa [Module.entities] using he
      have hbase := h.base k hk base (Entity.nonemptyText?_eq_some_iff.mp hb).1
      exact isComponent_append (isComponent_append hbase (by decide)) hn
    · exact hn

theorem entityPath_eq_append {e : Entity} (he : e ∈ m.entities f) :
    g.entityPath m e = g.directory m ++ ⟨"", [e.fileName]⟩ := by
  rw [entityPath, ← e.form_fileName, HeaderName.Form.fileName_eq, Path.ofString_fileName (h.entity_stem he)]

/-- The umbrella lists the file names. -/
theorem emitted_eq : g.emitted f m = (m.entities f).map Entity.fileName := by
  refine List.map_congr_left fun e he => ?_
  rw [h.entityPath_eq_append he, Path.name_append_name]

theorem stem {x : Item} (hx : x ∈ m.items f) : IsComponent (g.form f m x).stem := by
  cases x with
  | entity e => exact h.entity_stem (Module.entity_mem_items_iff.mp hx)
  | umbrella =>
    show IsComponent (HeaderName.umbrella m.name (g.emitted f m) g.settings.umbrellaSuffix)
    rw [HeaderName.umbrella]
    split
    · exact isComponent_append h.module h.suffix
    · exact h.module

/-- A header lies in the directory of its module. -/
theorem itemPath_eq {x : Item} (hx : x ∈ m.items f) :
    g.directory m ++ Path.ofString (g.form f m x).fileName = g.directory m ++ ⟨"", [(g.form f m x).fileName]⟩ := by
  rw [HeaderName.Form.fileName_eq, Path.ofString_fileName (h.stem hx)]

end PlainNames
end Generator
end ObjcAtlas
