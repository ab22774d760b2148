import ObjcAtlas.Proofs.HeaderNames
import ObjcAtlas.Proofs.ImportResolution

/-! Which references an entity's imports still carry after normalization. A header of the same binary is left out
by its bare name, which no longer tells a class from a protocol, so a reference can be lost. -/
namespace ObjcAtlas

/-- Whether imports provide what is referred to: its header or its name in advance. -/
def Imports.Carries (i : Imports) : TypeReference → Prop
  | .toClass n => n ∈ i.classes ∨ HeaderName.ofClass n ∈ i.locals
  | .toProtocol n => n ∈ i.protocols ∨ HeaderName.ofProtocol n ∈ i.locals

/-- Whether the foundation has the class or protocol that is referred to. -/
def FoundationIndex.Supplies (f : FoundationIndex) : TypeReference → Prop
  | .toClass n => f.hasClass n
  | .toProtocol n => f.hasProtocol n

namespace Scope

/-- An entity of the binary whose header goes by the name of an entity of another kind in the foundation. -/
def Hides (s : Scope) : TypeReference → Prop
  | .toClass n => n ∈ s.classNames ∧
      ((∃ m, n = m ++ "-Protocol" ∧ s.foundation.contains m) ∨
        (∀ m, n ≠ m ++ "-Protocol") ∧ s.foundation.hasProtocol n)
  | .toProtocol n => n ∈ s.protocolNames ∧ s.foundation.hasClass n

theorem hides_iff {s : Scope} {r : TypeReference} (hr : ¬ s.foundation.Supplies r) :
    s.Hides r ↔ s.Defines r ∧ s.foundation.contains (HeaderName.entity r.header) := by
  cases r with
  | toClass n =>
    apply and_congr_right
    intro _
    by_cases hn : ∃ m, n = m ++ "-Protocol"
    · obtain ⟨m, rfl⟩ := hn
      simp [TypeReference.header, HeaderName.entity_ofClass_append, String.append_left_inj]
    · have hn' : ∀ m, n ≠ m ++ "-Protocol" := fun m h => hn ⟨m, h⟩
      have hc : s.foundation.hasClass n = false := by simpa [FoundationIndex.Supplies] using hr
      simp [TypeReference.header, HeaderName.entity_ofClass hn', FoundationIndex.contains, hn', hc]
  | toProtocol n =>
    have hp : s.foundation.hasProtocol n = false := by simpa [FoundationIndex.Supplies] using hr
    simp [Hides, Defines, TypeReference.header, HeaderName.entity_ofProtocol, FoundationIndex.contains, hp]

/-- A header of the binary that normalization keeps carries the reference to its entity. -/
theorem Resolves.header_mem_locals {s : Scope} {e : Entity} {i : Imports} {r : TypeReference}
    (hi : s.Resolves e i) (hr : e.Refers r) (hd : s.Defines r)
    (hn : ¬ s.foundation.contains (HeaderName.entity r.header)) : r.header ∈ i.locals :=
  (hi.mem_locals _).mpr ⟨⟨r, hr, hd, rfl⟩, hn⟩

/-- Of the references that the foundation does not supply exactly the hidden ones are lost. -/
theorem carries_ofEntity_iff (s : Scope) {e : Entity} {r : TypeReference} (hr : e.Refers r)
    (hf : ¬ s.foundation.Supplies r) : (s.ofEntity e).Carries r ↔ ¬ s.Hides r := by
  have hi := s.resolves_ofEntity e
  rw [hides_iff hf]
  constructor
  · rintro hc ⟨hd, hn⟩
    have hl : r.header ∉ (s.ofEntity e).locals := fun h => ((hi.mem_locals _).mp h).2 hn
    cases r with
    | toClass n => exact hc.elim (fun h => ((hi.mem_classes n).mp h).2.1 hd) hl
    | toProtocol n => exact hc.elim (fun h => ((hi.mem_protocols n).mp h).2.1 hd) hl
  · intro h
    by_cases hd : s.Defines r
    · have hl := hi.header_mem_locals hr hd fun hn => h ⟨hd, hn⟩
      cases r with
      | toClass n => exact Or.inr hl
      | toProtocol n => exact Or.inr hl
    · cases r with
      | toClass n =>
        by_cases hl : HeaderName.ofClass n ∈ (s.ofEntity e).locals
        · exact Or.inr hl
        · exact Or.inl ((hi.mem_classes n).mpr ⟨hr, hd, hf, hl⟩)
      | toProtocol n =>
        by_cases hl : HeaderName.ofProtocol n ∈ (s.ofEntity e).locals
        · exact Or.inr hl
        · exact Or.inl ((hi.mem_protocols n).mpr ⟨hr, hd, hf, hl⟩)

/-- An entity that refers to nothing has nothing provided. -/
theorem not_carries_of_references_eq_nil (s : Scope) {e : Entity} (he : e.references = []) (r : TypeReference) :
    ¬ (s.ofEntity e).Carries r := by
  have hi := s.resolves_ofEntity e
  have hno : ∀ r, ¬ e.Refers r := by
    intro r
    rw [← Entity.mem_references_iff, he]
    exact List.not_mem_nil
  have hl : ∀ h, h ∉ (s.ofEntity e).locals := by
    intro h hl
    obtain ⟨⟨r, hr, -⟩, -⟩ := (hi.mem_locals h).mp hl
    exact hno r hr
  cases r with
  | toClass n => exact fun hc => hc.elim (fun h => hno _ ((hi.mem_classes n).mp h).1) (hl _)
  | toProtocol n => exact fun hc => hc.elim (fun h => hno _ ((hi.mem_protocols n).mp h).1) (hl _)

/-- A binary with a class `Spin` where the foundation has a protocol of that name. -/
def namesake : Scope where
  foundation := { protocols := ["Spin"] }
  classNames := ["Spin"]
  protocolNames := []
  rootClass := "NSObject"
  rootFramework := "Foundation"

def extensionOfNamesake : Entity := .ofCategory { name := "Extras", className := some "Spin" }

theorem namesake_loses_extended_class :
    extensionOfNamesake.Refers (.toClass "Spin") ∧ ¬ namesake.foundation.Supplies (.toClass "Spin") ∧
      ¬ (namesake.ofEntity extensionOfNamesake).Carries (.toClass "Spin") := by
  have hr : extensionOfNamesake.Refers (.toClass "Spin") := .extended rfl (by decide)
  have hf : ¬ namesake.foundation.Supplies (.toClass "Spin") :=
    show ¬ namesake.foundation.hasClass "Spin" = true by decide
  have hm : ∀ m, "Spin" ≠ m ++ "-Protocol" := by
    intro m h
    have hl := congrArg String.length h
    simp only [String.length_append] at hl
    have : "Spin".length = 4 := rfl
    have : "-Protocol".length = 9 := rfl
    omega
  have hh : namesake.Hides (.toClass "Spin") := ⟨List.mem_singleton.mpr rfl, Or.inr ⟨hm, by decide⟩⟩
  exact ⟨hr, hf, fun hc => (carries_ofEntity_iff namesake hr hf).mp hc hh⟩

/-- References are lost that neither the foundation supplies nor the imports carry. -/
theorem not_all_references_carried :
    ¬ ∀ (s : Scope) (e : Entity) (r : TypeReference), e.Refers r → ¬ s.foundation.Supplies r →
      (s.ofEntity e).Carries r := by
  intro h
  have hi := namesake.resolves_ofEntity extensionOfNamesake
  have hc := h namesake extensionOfNamesake (.toClass "Spin") (.extended rfl (by decide))
    (show ¬ namesake.foundation.hasClass "Spin" = true by decide)
  rcases hc with hc | hl
  · exact ((hi.mem_classes "Spin").mp hc).2.1 (List.mem_singleton.mpr rfl)
  · exact ((hi.mem_locals _).mp hl).2 (by decide)

end Scope
end ObjcAtlas
