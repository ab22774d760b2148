import ObjcAtlas.Proofs.FileLocations
import ObjcAtlas.Proofs.TextPieces

/-! A null character in a path and nothing else makes it name nothing. -/
namespace ObjcAtlas

namespace Path

/-- The path has a null character. -/
def HasNull (p : Path) : Prop := '\x00' ∈ p.toString.toList

instance : DecidablePred HasNull := fun p => inferInstanceAs (Decidable ('\x00' ∈ p.toString.toList))

end Path

namespace FileTree
variable {t : FileTree} {p : Path}

theorem walk_ne_embeddedNull {cs : List String} {start : Location} : t.walk start cs ≠ .error .embeddedNull := by
  induction cs generalizing start with
  | nil => rintro ⟨⟩
  | cons c cs ih =>
    rw [walk]
    split
    · rintro ⟨⟩
    · rintro ⟨⟩
    · split
      · exact ih
      · split
        · rintro ⟨⟩
        · exact ih

theorem find_eq_embeddedNull_iff : t.find p = .error .embeddedNull ↔ p.HasNull := by
  rw [find, String.contains_char_eq, Path.HasNull]
  by_cases h : '\x00' ∈ p.toString.toList
  · simp [h]
  · simp only [h, decide_false, Bool.false_eq_true, if_false, iff_false]
    split
    · rintro ⟨⟩
    · exact walk_ne_embeddedNull

theorem read_eq_embeddedNull_iff : t.read p = .error .embeddedNull ↔ p.HasNull := by
  rw [← find_eq_embeddedNull_iff (t := t), read]
  split
  · next hf => simp [hf]
  · next hf => simp [hf]
  · next hf => simp [hf]
  · next hf => simp [hf]

end FileTree
end ObjcAtlas
