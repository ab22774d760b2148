import Mathlib.Data.List.Basic
import ObjcAtlas.Proofs.DecodingSteps
import ObjcAtlas.Proofs.TextPieces

/-! Types made of scalars, pointers and arrays, and their declarations. A declaration tells the scalar, how many pointers
there are and the bounds, but not how pointers and arrays are nested. -/
namespace ObjcAtlas.TypeEncoding

/-- The letters of the arithmetic types. -/
def scalarCodes : List Char := ['c', 'i', 's', 'l', 'q', 'C', 'I', 'S', 'L', 'Q', 'f', 'd', 'D', 'B']

/-- A type made of scalars, pointers and arrays; the bound of an array is written in digits. -/
inductive Shape where
  | scalar (code : Char) (hc : code ∈ scalarCodes)
  | pointer (target : Shape)
  | array (bound : List Char) (hb : ∀ c ∈ bound, Text.isDigit c = true) (element : Shape)

namespace Shape

def encoding : Shape → List Char
  | scalar code _ => [code]
  | pointer t => '^' :: t.encoding
  | array bound _ t => '[' :: (bound ++ t.encoding ++ [']'])

/-- The letter of the scalar that a type is made from. -/
def code : Shape → Char
  | scalar c _ => c
  | pointer t => t.code
  | array _ _ t => t.code

def pointers : Shape → Nat
  | scalar _ _ => 0
  | pointer t => t.pointers + 1
  | array _ _ t => t.pointers

/-- The bounds, outermost first. -/
def bounds : Shape → List (List Char)
  | scalar _ _ => []
  | pointer t => t.bounds
  | array bound _ t => bound :: t.bounds

end Shape

/-- The word for a scalar. -/
def scalarWord (code : Char) : List Char := ((simpleType? code).getD "").toList

/-- A word with stars. -/
def starred (word : List Char) : Nat → List Char
  | 0 => word
  | n + 1 => word ++ ' ' :: List.replicate (n + 1) '*'

/-- Bounds in their brackets. -/
def bracketed : List (List Char) → List Char
  | [] => []
  | bound :: rest => '[' :: bound ++ ']' :: bracketed rest

/-- Characters that stand in bounds and their brackets. -/
def inBounds (c : Char) : Bool := Text.isDigit c || c == '[' || c == ']'

section Scalars
variable {c : Char}

-- on `∀ c` itself `decide` would go through all characters; a `List.Forall` is about the letters alone
theorem scalar_not_step : ∀ c ∈ scalarCodes,
    Text.isDigit c = false ∧ qualifier? c = none ∧ c ≠ '^' ∧ c ≠ '[' := by
  rw [← List.forall_iff_forall_mem]
  decide

theorem scalar_simple : ∀ c ∈ scalarCodes,
    c ≠ '@' ∧ c ≠ '\x7b' ∧ c ≠ '(' ∧ c ≠ 'b' ∧ (simpleType? c).isSome = true := by
  rw [← List.forall_iff_forall_mem]
  decide

theorem scalarWord_inj : ∀ c ∈ scalarCodes, ∀ c' ∈ scalarCodes, scalarWord c = scalarWord c' → c = c' := by
  simp only [← List.forall_iff_forall_mem]
  decide

theorem scalarWord_apart : ∀ c ∈ scalarCodes, ∀ a ∈ scalarWord c, inBounds a = false ∧ a ≠ '*' := by
  simp only [← List.forall_iff_forall_mem]
  decide

theorem decode_scalar (hc : c ∈ scalarCodes) (cs : List Char) : decode none (c :: cs) = (⟨scalarWord c, []⟩, cs) := by
  obtain ⟨-, hq, hp, ha⟩ := scalar_not_step c hc
  obtain ⟨hat, hbrace, hparen, hb, hsome⟩ := scalar_simple c hc
  obtain ⟨word, hword⟩ := Option.isSome_iff_exists.mp hsome
  rw [decode_leaf hq hp ha]
  simp [leaf, hat, hbrace, hparen, hb, hword, scalarWord]

theorem endsWithStar_starred_succ (word : List Char) (n : Nat) : endsWithStar (starred word (n + 1)) = true := by
  rw [starred, List.replicate_succ', ← List.cons_append, ← List.append_assoc, endsWithStar, List.getLast?_concat]
  rfl

theorem pointerTo_starred {word : List Char} (hw : '*' ∉ word) (n : Nat) :
    pointerTo (starred word n) = starred word (n + 1) := by
  cases n with
  | zero => rw [starred, pointerTo_of_not_mem hw, starred, List.replicate_one]
  | succ n =>
    have hstars : List.replicate (n + 2) '*' = List.replicate (n + 1) '*' ++ ['*'] := List.replicate_succ'
    rw [pointerTo, if_pos (endsWithStar_starred_succ word n), starred, starred, hstars]
    simp

/-- Before a name a word without stars is followed by a blank. -/
theorem starred_spaced {word : List Char} (hw : '*' ∉ word) (n : Nat) :
    starred word n ++ (if endsWithStar (starred word n) then [] else [' ']) =
      word ++ ' ' :: List.replicate n '*' := by
  cases n with
  | zero => simp [starred, endsWithStar_of_not_mem hw]
  | succ n => rw [if_pos (endsWithStar_starred_succ word n), List.append_nil, starred]

end Scalars

namespace Shape
variable {t u : Shape}

theorem code_mem (t : Shape) : t.code ∈ scalarCodes := by
  induction t with
  | scalar c hc => exact hc
  | pointer t ih => exact ih
  | array bound hb t ih => exact ih

theorem star_not_mem (t : Shape) : '*' ∉ scalarWord t.code := by
  intro h
  exact (scalarWord_apart _ t.code_mem _ h).2 rfl

theorem isDigit_of_mem_bounds (t : Shape) : ∀ b ∈ t.bounds, ∀ a ∈ b, Text.isDigit a = true := by
  induction t with
  | scalar c hc => exact nofun
  | pointer t ih => exact ih
  | array bound hb t ih => exact List.forall_mem_cons.mpr ⟨hb, ih⟩

theorem exists_encoding_cons (t : Shape) : ∃ c cs, t.encoding = c :: cs ∧ Text.isDigit c = false := by
  cases t with
  | scalar c hc => exact ⟨c, [], rfl, (scalar_not_step c hc).1⟩
  | pointer t => exact ⟨_, _, rfl, by decide⟩
  | array bound hb t => exact ⟨_, _, rfl, by decide⟩

/-- The decoder reads one type and leaves what follows; it counts pointers and collects bounds. -/
theorem decode_encoding (t : Shape) (rest : List Char) :
    decode none (t.encoding ++ rest) = (⟨starred (scalarWord t.code) t.pointers, bracketed t.bounds⟩, rest) := by
  induction t generalizing rest with
  | scalar c hc => exact decode_scalar hc rest
  | pointer t ih =>
    rw [encoding, List.cons_append, decode_pointer (ih rest), pointerTo_starred t.star_not_mem]
    rfl
  | array bound hb t ih =>
    obtain ⟨c, cs, he, hc⟩ := t.exists_encoding_cons
    have hread := ih (']' :: rest)
    rw [he, List.cons_append] at hread
    have hcons : (array bound hb t).encoding ++ rest = '[' :: (bound ++ c :: (cs ++ ']' :: rest)) := by
      simp [encoding, he]
    rw [hcons, decode_array hb hc hread]
    simp [bracketed, bounds, code, pointers]

/-- What stands before the name in a declaration: the word for the scalar and the stars. -/
def front (t : Shape) : List Char := scalarWord t.code ++ ' ' :: List.replicate t.pointers '*'

theorem declaration_encoding (t : Shape) (name : String) :
    (declaration (String.ofList t.encoding) name).toList = t.front ++ name.toList ++ bracketed t.bounds := by
  have hread := t.decode_encoding []
  rw [List.append_nil] at hread
  simp only [declaration, declarator, String.toList_ofList, hread, starred_spaced t.star_not_mem, front]

end Shape

theorem inBounds_of_mem_bracketed {bs : List (List Char)} (hb : ∀ b ∈ bs, ∀ a ∈ b, Text.isDigit a = true) :
    ∀ a ∈ bracketed bs, inBounds a = true := by
  induction bs with
  | nil => exact nofun
  | cons b bs ih =>
    obtain ⟨hb, hbs⟩ := List.forall_mem_cons.mp hb
    have hdigits : ∀ a ∈ b, inBounds a = true := by
      intro a ha
      rw [inBounds, hb a ha]
      rfl
    intro a ha
    simp only [bracketed, List.cons_append, List.mem_cons, List.mem_append] at ha
    rcases ha with rfl | ha | rfl | ha
    · rfl
    · exact hdigits a ha
    · rfl
    · exact ih hbs a ha

theorem bracketed_inj {bs cs : List (List Char)} (hb : ∀ b ∈ bs, ∀ a ∈ b, Text.isDigit a = true)
    (hc : ∀ b ∈ cs, ∀ a ∈ b, Text.isDigit a = true) (h : bracketed bs = bracketed cs) : bs = cs := by
  have hclose : ∀ {b : List Char}, (∀ a ∈ b, Text.isDigit a = true) → ']' ∉ b := by
    intro b hb hm
    exact absurd (hb _ hm) (by decide)
  induction bs generalizing cs with
  | nil =>
    cases cs with
    | nil => rfl
    | cons c cs => cases h
  | cons b bs ih =>
    cases cs with
    | nil => cases h
    | cons c cs =>
      obtain ⟨hb, hbs⟩ := List.forall_mem_cons.mp hb
      obtain ⟨hc, hcs⟩ := List.forall_mem_cons.mp hc
      have ht : b ++ ']' :: bracketed bs = c ++ ']' :: bracketed cs := (List.cons.inj h).2
      obtain ⟨rfl, hr⟩ := Text.append_separator_inj (hclose hb) (hclose hc) ht
      rw [ih hbs hcs hr]

namespace Shape

theorem filter_front (t : Shape) : t.front.filter (fun a => !inBounds a) = t.front := by
  rw [List.filter_eq_self]
  intro a ha
  rw [Bool.not_eq_true']
  rcases List.mem_append.mp ha with ha | ha
  · exact (scalarWord_apart _ t.code_mem a ha).1
  · rcases List.mem_cons.mp ha with rfl | ha
    · decide
    · rw [List.eq_of_mem_replicate ha]
      decide

/-- The word has no stars, so that it and their number can be told. -/
theorem eq_of_front_eq {t u : Shape} (h : t.front = u.front) : t.code = u.code ∧ t.pointers = u.pointers := by
  have hcount : ∀ v : Shape, v.front.count '*' = v.pointers := by
    intro v
    simp [front, List.count_append, List.count_eq_zero_of_not_mem v.star_not_mem]
  have hp : t.pointers = u.pointers := by rw [← hcount t, h, hcount u]
  rw [front, front, hp] at h
  exact ⟨scalarWord_inj _ t.code_mem _ u.code_mem (List.append_cancel_right h), hp⟩

theorem filter_bracketed (t : Shape) : (bracketed t.bounds).filter (fun a => !inBounds a) = [] := by
  rw [List.filter_eq_nil_iff]
  intro a ha
  simp [inBounds_of_mem_bracketed t.isDigit_of_mem_bounds a ha]

/-- Without the bounds and their brackets, whatever the name has of them, the declarations begin alike. -/
theorem eq_of_declaration_eq {t u : Shape} {name : String}
    (h : declaration (String.ofList t.encoding) name = declaration (String.ofList u.encoding) name) :
    t.code = u.code ∧ t.pointers = u.pointers ∧ t.bounds = u.bounds := by
  rw [← String.toList_inj, declaration_encoding, declaration_encoding] at h
  have hfilter := congrArg (List.filter fun a => !inBounds a) h
  simp only [List.filter_append, filter_front, filter_bracketed, List.append_nil] at hfilter
  have hfront := List.append_cancel_right hfilter
  rw [hfront] at h
  obtain ⟨hc, hp⟩ := eq_of_front_eq hfront
  exact ⟨hc, hp, bracketed_inj t.isDigit_of_mem_bounds u.isDigit_of_mem_bounds (List.append_cancel_left h)⟩

/-- No pointer leads to an array. -/
def Direct : Shape → Prop
  | scalar _ _ => True
  | pointer t => t.bounds = []
  | array _ _ t => t.Direct

theorem direct_of_bounds {t : Shape} (h : t.bounds = []) : t.Direct := by
  cases t with
  | scalar c hc => trivial
  | pointer t => exact h
  | array bound hb t => cases h

theorem Direct.eq {t u : Shape} (ht : t.Direct) (hu : u.Direct) (hc : t.code = u.code) (hp : t.pointers = u.pointers)
    (hb : t.bounds = u.bounds) : t = u := by
  induction t generalizing u with
  | scalar c hc =>
    cases u with
    | scalar c' hc' =>
      obtain rfl : c = c' := hc
      rfl
    | pointer u => cases hp
    | array bound hb u => cases hb
  | pointer t ih =>
    have hnil : t.bounds = [] := ht
    cases u with
    | scalar c' hc' => cases hp
    | pointer u =>
      have hnil' : u.bounds = [] := hu
      rw [ih (direct_of_bounds hnil) (direct_of_bounds hnil') hc (Nat.succ.inj hp) hb]
    | array bound hb' u =>
      rw [show t.pointer.bounds = [] from hnil] at hb
      cases hb
  | array bound hd t ih =>
    cases u with
    | scalar c' hc' => cases hb
    | pointer u =>
      rw [show u.pointer.bounds = [] from hu] at hb
      cases hb
    | array bound' hd' u =>
      have hu' : u.Direct := hu
      obtain ⟨rfl, htail⟩ := List.cons.inj hb
      rw [ih ht hu' hc hp htail]

/-- Two types are declared by one text exactly if they have the same scalar, as many pointers and the same bounds in
order, however these are nested. So the text tells those types apart in which no pointer leads to an array. -/
theorem declaration_eq_iff (t u : Shape) (name : String) :
    (declaration (String.ofList t.encoding) name = declaration (String.ofList u.encoding) name ↔
      t.code = u.code ∧ t.pointers = u.pointers ∧ t.bounds = u.bounds) ∧
    (t.Direct → u.Direct →
      declaration (String.ofList t.encoding) name = declaration (String.ofList u.encoding) name → t = u) := by
  constructor
  · constructor
    · exact eq_of_declaration_eq
    · rintro ⟨hc, hp, hb⟩
      rw [← String.toList_inj, declaration_encoding, declaration_encoding, front, front, hc, hp, hb]
  · intro ht hu h
    obtain ⟨hc, hp, hb⟩ := eq_of_declaration_eq h
    exact ht.eq hu hc hp hb

/-! Pointers to an array and arrays of pointers. -/
section Quads

theorem isDigit_four : ∀ c ∈ ['4'], Text.isDigit c = true := by
  rw [← List.forall_iff_forall_mem]
  decide

def quad : Shape := .array ['4'] isDigit_four (.scalar 'i' (by decide))

def pointerToQuad : Shape := .pointer quad

def quadOfPointers : Shape := .array ['4'] isDigit_four (.pointer (.scalar 'i' (by decide)))

/-- An array of pointers is told from the array itself. -/
theorem quadOfPointers_told :
    quadOfPointers.Direct ∧ quad.Direct ∧
    declaration (String.ofList quadOfPointers.encoding) "x" ≠ declaration (String.ofList quad.encoding) "x" := by
  have hp : quadOfPointers.Direct := rfl
  have hq : quad.Direct := trivial
  refine ⟨hp, hq, ?_⟩
  intro h
  cases (declaration_eq_iff quadOfPointers quad "x").2 hp hq h

/-- A pointer to an array is declared like an array of pointers. -/
theorem not_all_shapes_told :
    declaration "^[4i]" "x" = "int *x[4]" ∧ declaration "[4^i]" "x" = "int *x[4]" ∧
    ¬ ∀ (t u : Shape) (name : String),
      declaration (String.ofList t.encoding) name = declaration (String.ofList u.encoding) name → t = u := by
  refine ⟨rfl, rfl, ?_⟩
  intro h
  cases h pointerToQuad quadOfPointers "x" rfl

end Quads

end Shape

end ObjcAtlas.TypeEncoding
