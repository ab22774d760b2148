import ObjcAtlas.Header

/-! File names of headers read backwards: which entity a file name belongs to. A class can be named like the header
of a protocol. -/
namespace ObjcAtlas

theorem Text.dropSuffix?_eq_some_iff {suffix s t : String} :
    Text.dropSuffix? suffix s = some t ↔ s = t ++ suffix := by
  rw [← String.toList_inj, String.toList_append]
  simp only [Text.dropSuffix?, Option.ite_none_right_eq_some, Option.some.injEq]
  constructor
  · rintro ⟨⟨-, hdrop⟩, rfl⟩
    have h := List.take_append_drop (s.toList.length - suffix.toList.length) s.toList
    rw [hdrop] at h
    rw [String.toList_ofList, h]
  · intro h
    simp [h, String.ofList_toList]

namespace HeaderName

theorem entity_ofProtocol (n : String) : entity (ofProtocol n) = n := by
  have h : Text.dropSuffix? "-Protocol.h" (ofProtocol n) = some n := Text.dropSuffix?_eq_some_iff.mpr rfl
  simp only [entity, h]

/-- A class may be named like the header of a protocol; its file then seems to belong to that protocol. -/
theorem entity_ofClass_append (n : String) : entity (ofClass (n ++ "-Protocol")) = n := by
  have h : Text.dropSuffix? "-Protocol.h" (ofClass (n ++ "-Protocol")) = some n :=
    Text.dropSuffix?_eq_some_iff.mpr (by rw [ofClass, String.append_assoc]; rfl)
  simp only [entity, h]

theorem entity_ofClass {n : String} (hn : ∀ m, n ≠ m ++ "-Protocol") : entity (ofClass n) = n := by
  have hp : Text.dropSuffix? "-Protocol.h" (ofClass n) = none := by
    cases h : Text.dropSuffix? "-Protocol.h" (ofClass n) with
    | none => rfl
    | some m =>
      have he : n ++ ".h" = (m ++ "-Protocol") ++ ".h" := by
        rw [String.append_assoc]
        exact Text.dropSuffix?_eq_some_iff.mp h
      exact absurd ((String.append_left_inj _).mp he) (hn m)
  have hc : Text.dropSuffix? ".h" (ofClass n) = some n := Text.dropSuffix?_eq_some_iff.mpr rfl
  simp only [entity, hp, hc, Option.getD_some]

end HeaderName
end ObjcAtlas
