import ObjcAtlas.Declaration
import ObjcAtlas.Proofs.DecodingSteps
import ObjcAtlas.Proofs.ReferenceSurvival

/-! Encodings that wrap a pointer to an object of a class in qualifiers, pointers and arrays. Read as a declaration
each of them names the class; as a reference only the bare pointer does. -/
namespace ObjcAtlas

theorem Text.ne_nil_of_isIdentifier {cs : List Char} (h : isIdentifier cs = true) : cs ≠ [] := by
  rintro rfl
  cases h

theorem Text.not_mem_of_isIdentifier {cs : List Char} {c : Char} (h : isIdentifier cs = true)
    (hs : isIdentifierStart c = false) (hp : isIdentifierPart c = false) : c ∉ cs := by
  cases cs with
  | nil => exact List.not_mem_nil
  | cons d ds =>
    rw [isIdentifier, Bool.and_eq_true, List.all_eq_true] at h
    rw [List.mem_cons]
    rintro (rfl | hc)
    · exact absurd h.1 (by simp [hs])
    · exact absurd (h.2 c hc) (by simp [hp])

namespace TypeEncoding

/-- The encoding of a pointer to an object of a class. -/
def objectEncoding (n : List Char) : List Char := '@' :: '"' :: n ++ ['"']

/-- The encodings around a pointer to an object of the class `n`, with the declarators that they stand for. -/
inductive Wraps (n : List Char) : List Char → Declarator → Prop
  | object : Wraps n (objectEncoding n) ⟨n ++ [' ', '*'], []⟩
  | qualified {c : Char} {word : String} {e : List Char} {d : Declarator} (hc : qualifier? c = some word)
      (h : Wraps n e d) : Wraps n (c :: e) ⟨word.toList ++ ' ' :: d.base, d.suffix⟩
  | pointer {e : List Char} {d : Declarator} (h : Wraps n e d) : Wraps n ('^' :: e) ⟨d.base ++ ['*'], d.suffix⟩
  | array {bound e : List Char} {d : Declarator} (hb : ∀ c ∈ bound, Text.isDigit c = true) (h : Wraps n e d) :
      Wraps n ('[' :: bound ++ e ++ [']']) ⟨d.base, '[' :: bound ++ ']' :: d.suffix⟩

/-- Words that qualify, the class, and stars: one for the object and one for each further pointer. -/
def Declarator.PointsTo (d : Declarator) (n : List Char) : Prop :=
  ∃ (words : List String) (stars : Nat), (∀ w ∈ words, ∃ c, qualifier? c = some w) ∧
    d.base = (words.flatMap fun w => w.toList ++ [' ']) ++ n ++ ' ' :: '*' :: List.replicate stars '*'

section Wrapped
variable {n e : List Char} {d : Declarator}

theorem Wraps.pointsTo (h : Wraps n e d) : d.PointsTo n := by
  induction h with
  | object => exact ⟨[], 0, nofun, by simp⟩
  | @qualified c word e d hc h ih =>
    obtain ⟨words, stars, hw, hd⟩ := ih
    refine ⟨word :: words, stars, ?_, ?_⟩
    · rw [List.forall_mem_cons]
      exact ⟨⟨c, hc⟩, hw⟩
    · simp [hd]
  | pointer h ih =>
    obtain ⟨words, stars, hw, hd⟩ := ih
    refine ⟨words, stars + 1, hw, ?_⟩
    rw [hd, List.replicate_succ']
    simp
  | array hb h ih => exact ih

theorem Declarator.PointsTo.endsWithStar (h : d.PointsTo n) : endsWithStar d.base = true := by
  obtain ⟨words, stars, -, hd⟩ := h
  have hstars : '*' :: List.replicate stars '*' = List.replicate stars '*' ++ ['*'] := by
    rw [← List.replicate_succ, List.replicate_succ']
  rw [hd, hstars, ← List.cons_append, ← List.append_assoc, TypeEncoding.endsWithStar, List.getLast?_concat]
  rfl

/-- No encoding starts with a digit, so the bound of an array around it ends before it. -/
theorem Wraps.exists_cons (h : Wraps n e d) : ∃ c cs, e = c :: cs ∧ Text.isDigit c = false := by
  cases h with
  | object => exact ⟨_, _, rfl, by decide⟩
  | qualified hc h => exact ⟨_, _, rfl, isDigit_of_qualifier? hc⟩
  | pointer h => exact ⟨_, _, rfl, by decide⟩
  | array hb h => exact ⟨_, _, rfl, by decide⟩

/-- What an identifier does not contain, as the encodings around it need those characters. -/
theorem not_mem_identifier (hn : Text.isIdentifier n = true) :
    '"' ∉ n ∧ '<' ∉ n ∧ '>' ∉ n ∧ '*' ∉ n ∧ '-' ∉ n := by
  refine ⟨?_, ?_, ?_, ?_, ?_⟩
  all_goals exact Text.not_mem_of_isIdentifier hn (by decide) (by decide)

/-- The decoder reads a wrapped pointer as its declarator and leaves what follows. -/
theorem decode_append (hn : Text.isIdentifier n = true) (h : Wraps n e d) (rest : List Char) :
    decode none (e ++ rest) = (d, rest) := by
  induction h generalizing rest with
  | object =>
    obtain ⟨hq, hl, -, hs, -⟩ := not_mem_identifier hn
    have hne := Text.ne_nil_of_isIdentifier hn
    have he : objectEncoding n ++ rest = '@' :: '"' :: (n ++ '"' :: rest) := by simp [objectEncoding]
    rw [he, decode_object, object_quoted hq, quotedWords_of_not_mem hne hl, pointerTo_of_not_mem hs]
  | qualified hc h ih => exact decode_qualifier hc (ih rest)
  | pointer h ih =>
    rw [List.cons_append, decode_pointer (ih rest), pointerTo, if_pos h.pointsTo.endsWithStar]
  | @array bound e d hb h ih =>
    obtain ⟨c, cs, rfl, hc⟩ := h.exists_cons
    have he : '[' :: bound ++ c :: cs ++ [']'] ++ rest = '[' :: (bound ++ c :: (cs ++ ']' :: rest)) := by simp
    rw [he]
    exact decode_array hb hc (ih (']' :: rest))

/-- An encoding has the characters of its parts only. -/
theorem Wraps.not_mem {a : Char} (h : Wraps n e d) (hn : a ∉ n) (ha : a ∉ ['@', '"', '^', '[', ']'])
    (hq : qualifier? a = none) (hd : Text.isDigit a = false) : a ∉ e := by
  simp only [List.mem_cons, List.not_mem_nil, or_false, not_or] at ha
  induction h with
  | object => simp [objectEncoding, hn, ha]
  | @qualified c word e d hc h ih =>
    have hac : a ≠ c := by
      rintro rfl
      rw [hq] at hc
      cases hc
    simp [hac, ih]
  | pointer h ih => simp [ha, ih]
  | array hb h ih =>
    have hbound : a ∉ _ := fun hm => absurd (hb a hm) (by simp [hd])
    simp [hbound, ha, ih]

/-- Only the bare pointer is taken for a class. -/
theorem Wraps.objectPointer?_eq (h : Wraps n e d) (hn : n ≠ []) :
    objectPointer? e = if e = objectEncoding n then some n else none := by
  cases h with
  | object => simp [objectPointer?, objectEncoding, nonempty?, hn]
  | @qualified c word e d hc h =>
    have hne : c ≠ '@' := by
      rintro rfl
      cases hc
    simp [objectPointer?, objectEncoding, hne]
  | pointer h => simp [objectPointer?, objectEncoding]
  | array hb h => simp [objectPointer?, objectEncoding]

theorem classReference?_runtime (cs : List Char) : classReference? .runtime cs = objectPointer? cs := by
  rw [classReference?]
  cases objectPointer? cs with
  | none => rfl
  | some name => rfl

theorem references_runtime_eq {n encoding : String} (hn : Text.isIdentifier n.toList = true)
    (h : Wraps n.toList encoding.toList d) :
    references .runtime encoding = if encoding = "@\"" ++ n ++ "\"" then [.toClass n] else [] := by
  obtain ⟨-, hl, hr, -, -⟩ := not_mem_identifier hn
  have hbrackets : (encoding.toList.contains '<' || encoding.toList.contains '>') = false := by
    have hl' := h.not_mem hl (by decide) rfl (by decide)
    have hr' := h.not_mem hr (by decide) rfl (by decide)
    simp [hl', hr']
  have hne := Text.ne_nil_of_isIdentifier hn
  have he : encoding.toList = objectEncoding n.toList ↔ encoding = "@\"" ++ n ++ "\"" := by
    rw [← String.toList_inj]
    simp [objectEncoding]
  rw [references, hbrackets, if_neg Bool.false_ne_true, classReference?_runtime, h.objectPointer?_eq hne]
  simp only [he]
  split
  · simp
  · rfl

/-- A class in neither list of the foundation is carried for an instance variable that points to an object of it. -/
theorem carries_of_ivar {s : Scope} {c : ObjcClass} {v : Ivar} {n : String} (hn : Text.isIdentifier n.toList = true)
    (hv : v ∈ c.ivars) (ht : v.type = some ("@\"" ++ n ++ "\"")) (hf : ¬ s.foundation.contains n) :
    (s.ofClass c).Carries (.toClass n) := by
  have hw : Wraps n.toList ("@\"" ++ n ++ "\"").toList ⟨n.toList ++ [' ', '*'], []⟩ := by
    have he : ("@\"" ++ n ++ "\"").toList = objectEncoding n.toList := by simp [objectEncoding]
    rw [he]
    exact .object
  have hr : Entity.Refers (.ofClass c) (.toClass n) := by
    apply Entity.Refers.ivar hv ht
    rw [references_runtime_eq hn hw, if_pos rfl]
    exact List.mem_singleton.mpr rfl
  rw [FoundationIndex.contains, Bool.or_eq_true, not_or] at hf
  refine (s.carries_ofEntity_iff hr hf.1).mpr ?_
  rintro ⟨-, ⟨m, rfl, -⟩ | ⟨-, hp⟩⟩
  -- an identifier has no hyphen, so it is not named like the header of a protocol
  · exact (not_mem_identifier hn).2.2.2.2 (by simp)
  · exact hf.2 hp

/-- A wrapped pointer declares a pointer to its class, but only the bare one refers to the class; so a class in neither
list of the foundation is carried for an instance variable that has it for its type without anything around it. -/
theorem Wraps.declares_and_refers {n encoding : String} (hn : Text.isIdentifier n.toList = true)
    (h : Wraps n.toList encoding.toList d) :
    (∀ name, declaration encoding name = String.ofList (d.base ++ name.toList ++ d.suffix)) ∧ d.PointsTo n.toList ∧
    references .runtime encoding = (if encoding = "@\"" ++ n ++ "\"" then [.toClass n] else []) ∧
    ∀ (s : Scope) (c : ObjcClass), ∀ v ∈ c.ivars, v.type = some ("@\"" ++ n ++ "\"") → ¬ s.foundation.contains n →
      (s.ofClass c).Carries (.toClass n) := by
  have hd : declarator encoding = d := by
    have hread := decode_append hn h []
    rw [List.append_nil] at hread
    rw [declarator, hread]
  refine ⟨?_, h.pointsTo, references_runtime_eq hn h, ?_⟩
  · intro name
    simp [declaration, hd, h.pointsTo.endsWithStar]
  · intro s c v hv ht hf
    exact carries_of_ivar hn hv ht hf

end Wrapped

/-! An array of constant pointers to objects, and an instance variable with a pointer to an object pointer. -/
section Fleet

theorem wraps_fleet : Wraps "Spin".toList "r^[4@\"Spin\"]".toList ⟨"const Spin **".toList, "[4]".toList⟩ := by
  have hdigit : ∀ c ∈ ['4'], Text.isDigit c = true := List.forall_mem_singleton.mpr rfl
  have harray : Wraps "Spin".toList "[4@\"Spin\"]".toList ⟨"Spin *".toList, "[4]".toList⟩ := .array hdigit .object
  have hconst : qualifier? 'r' = some "const" := rfl
  exact .qualified hconst (.pointer harray)

theorem fleet_declares_and_refers :
    Text.isIdentifier "Spin".toList = true ∧
    Wraps "Spin".toList "r^[4@\"Spin\"]".toList ⟨"const Spin **".toList, "[4]".toList⟩ ∧
    declaration "r^[4@\"Spin\"]" "fleet" = "const Spin **fleet[4]" ∧
    references .runtime "r^[4@\"Spin\"]" = [] := by
  have hn : Text.isIdentifier "Spin".toList = true := by decide
  obtain ⟨hdeclared, -, hreferences, -⟩ := Wraps.declares_and_refers hn wraps_fleet
  refine ⟨hn, wraps_fleet, ?_, ?_⟩
  · rw [hdeclared]
    rfl
  · rw [hreferences, if_neg (by decide)]

def indirect : ObjcClass where
  name := "A"
  ivars := [{ name := "slot", type := some "^@\"Spin\"" }]

def hangar : Scope where
  foundation := {}
  classNames := ["A"]
  protocolNames := []
  rootClass := "NSObject"
  rootFramework := "Foundation"

theorem not_all_declared_pointers_refer :
    (¬ ∀ (n encoding : String) (d : Declarator), Text.isIdentifier n.toList = true →
      Wraps n.toList encoding.toList d → references .runtime encoding = [.toClass n]) ∧
    ¬ ∀ (n encoding : String) (d : Declarator) (s : Scope) (c : ObjcClass), Text.isIdentifier n.toList = true →
      Wraps n.toList encoding.toList d → ∀ v ∈ c.ivars, v.type = some encoding → ¬ s.foundation.contains n →
        (s.ofClass c).Carries (.toClass n) := by
  have hw : Wraps "Spin".toList "^@\"Spin\"".toList ⟨"Spin **".toList, []⟩ := .pointer .object
  constructor
  · intro h
    have hr := h "Spin" _ _ (by decide) hw
    exact absurd hr (by decide)
  · intro h
    have hc := h "Spin" _ _ hangar indirect (by decide) hw _ (List.mem_singleton.mpr rfl) rfl (by decide)
    exact hangar.not_carries_of_references_eq_nil (e := .ofClass indirect) (by decide) _ hc

end Fleet
end TypeEncoding
end ObjcAtlas
