import ObjcAtlas.Declaration
import ObjcAtlas.Entity.Basic
import ObjcAtlas.Proofs.ReferenceSurvival

/-! Names that the declaration of a class shows where its imports are not gathered, in the types that methods return.
Such a name is provided if a member that is walked refers to it as well. -/
namespace ObjcAtlas

open TypeEncoding (references)

/-- The methods in the header of a class, without those that the compiler made. -/
def ObjcClass.declaredMethods (c : ObjcClass) : List Method :=
  c.classMethods ++ c.withoutSynthesized.instanceMethods

namespace Scope
variable {s : Scope} {e : Entity} {r : TypeReference}

/-- Whether an entity refers to something of its binary that is written to the header `header`. -/
def Includes (s : Scope) (e : Entity) (header : String) : Prop :=
  (∃ r, e.Refers r ∧ s.Defines r ∧ r.header = header) ∧ ¬ s.foundation.contains (HeaderName.entity header)

theorem mem_locals_iff {h : String} : h ∈ (s.ofEntity e).locals ↔ s.Includes e h := by
  rw [(s.resolves_ofEntity e).mem_locals, Includes]
  simp only [eq_comm]

theorem and_or_iff_of_not {p q d l : Prop} (hq : ¬ q) : p ∧ ¬ d ∧ ¬ q ∧ ¬ l ∨ l ↔ p ∧ ¬ d ∨ l := by
  by_cases hl : l
  · simp [hl]
  · simp [hl, hq]

/-- What imports provide, wherever the name stands: what the entity refers to, and what shares a file with that. -/
theorem carries_iff (hf : ¬ s.foundation.Supplies r) :
    (s.ofEntity e).Carries r ↔ e.Refers r ∧ ¬ s.Defines r ∨ s.Includes e r.header := by
  have hi := s.resolves_ofEntity e
  cases r with
  | toClass n =>
    rw [Imports.Carries, hi.mem_classes, mem_locals_iff]
    exact and_or_iff_of_not hf
  | toProtocol n =>
    rw [Imports.Carries, hi.mem_protocols, mem_locals_iff]
    exact and_or_iff_of_not hf

/-- A name in a type that a method returns is provided exactly if a walked member refers to it, or to what shares its
file. -/
theorem ofClass_carries_unwalked (s : Scope) (c : ObjcClass) :
    ∀ m ∈ c.declaredMethods, ∀ r ∈ references .declaration (Declaration.returnText m),
      ¬ s.foundation.Supplies r → ¬ s.Hides r →
        ((s.ofClass c).Carries r ↔ Entity.Refers (.ofClass c) r ∨ s.Includes (.ofClass c) r.header) := by
  intro m _ r _ hs hh
  rw [show s.ofClass c = s.ofEntity (.ofClass c) from rfl]
  constructor
  · intro hc
    exact ((carries_iff hs).mp hc).imp_left And.left
  · rintro (hr | hl)
    · exact (s.carries_ofEntity_iff hr hs).mpr hh
    · exact (carries_iff hs).mpr (Or.inr hl)

/-! A class with a method that returns a foreign class. -/
section Makers

def makers : Scope where
  foundation := {}
  classNames := ["B"]
  protocolNames := []
  rootClass := "NSObject"
  rootFramework := "Foundation"

def make : Method := { name := "make", returnType := some "Foo *" }

/-- A property has the foreign class as well. -/
def openMaker : ObjcClass where
  name := "B"
  properties := [{ name := "last", type := some "Foo *" }]
  instanceMethods := [make]

theorem openMaker_carries_unwalked : (makers.ofClass openMaker).Carries (.toClass "Foo") := by
  have hh : ¬ makers.Hides (.toClass "Foo") := by
    rintro ⟨-, ⟨m, -, hm⟩ | ⟨-, hp⟩⟩
    · cases hm
    · cases hp
  refine (ofClass_carries_unwalked makers openMaker make (by decide) (.toClass "Foo") (by decide) nofun hh).mpr ?_
  exact Or.inl (.property (List.mem_singleton.mpr rfl) rfl (by decide))

/-- No walked member has it. -/
def closedMaker : ObjcClass where
  name := "B"
  instanceMethods := [make]

/-- The imports of a class need not provide what its methods return. -/
theorem not_all_declared_names_carried :
    ¬ ∀ (s : Scope) (c : ObjcClass), ∀ m ∈ c.declaredMethods,
      ∀ r ∈ references .declaration (Declaration.returnText m),
        ¬ s.foundation.Supplies r → (s.ofClass c).Carries r := by
  intro h
  have hnone : ∀ r, ¬ (makers.ofClass closedMaker).Carries r :=
    makers.not_carries_of_references_eq_nil (e := .ofClass closedMaker) rfl
  exact hnone _ (h makers closedMaker make (by decide) (.toClass "Foo") (by decide) nofun)

end Makers

end Scope
end ObjcAtlas
