/-! Names in ascending order by code point, each once, and the search for a name among them. The classes and protocols
of the system frameworks, which every header may use without naming them, are kept so. -/
namespace ObjcAtlas

namespace Text

/-- Removes what repeats its predecessor. -/
def dropRepeats : List String → List String
  | [] => []
  | x :: xs =>
    match dropRepeats xs with
    | [] => [x]
    | y :: ys => if x = y then y :: ys else x :: y :: ys

/-- The distinct names in ascending order. -/
def ascending (names : List String) : List String :=
  dropRepeats (names.mergeSort fun a b => decide (a ≤ b))

/-- Where a name stands among ascending names, or where it would stand: the search halves the part from `low` to
`high`. -/
@[semireducible] def position (names : List String) (name : String) (low high : Nat) (h : high ≤ names.length) : Nat :=
  if _ : low < high then
    if names[(low + high) / 2] < name then position names name ((low + high) / 2 + 1) high h
    else position names name low ((low + high) / 2) (by omega)
  else low
termination_by high - low

/-- Whether a name is one of the ascending names. -/
def isListed (names : List String) (name : String) : Bool :=
  names[position names name 0 names.length (Nat.le_refl _)]? == some name

theorem mem_dropRepeats {n : String} (xs : List String) : n ∈ dropRepeats xs ↔ n ∈ xs := by
  induction xs with
  | nil => simp [dropRepeats]
  | cons x xs ih =>
    cases h : dropRepeats xs with
    | nil => rw [h] at ih; simp [dropRepeats, h, ← ih]
    | cons y ys =>
      rw [h] at ih
      by_cases e : x = y
      · subst e; simp [dropRepeats, h, ← ih]
      · simp only [dropRepeats, h, e, if_false, List.mem_cons, ← ih]

/-- Sorting keeps the names. -/
theorem mem_ascending {n : String} (names : List String) : n ∈ ascending names ↔ n ∈ names := by
  simp [ascending, mem_dropRepeats]

end Text

/-- Both lists are ascending and without repetition; an empty index suppresses nothing. -/
structure FoundationIndex where
  classes : List String := []
  protocols : List String := []
  deriving DecidableEq

namespace FoundationIndex

def ofNames (classes protocols : List String) : FoundationIndex :=
  ⟨Text.ascending classes, Text.ascending protocols⟩

def hasClass (f : FoundationIndex) (name : String) : Bool := Text.isListed f.classes name

def hasProtocol (f : FoundationIndex) (name : String) : Bool := Text.isListed f.protocols name

/-- Whether the name is that of a system class or protocol. -/
def contains (f : FoundationIndex) (name : String) : Bool := f.hasClass name || f.hasProtocol name

def size (f : FoundationIndex) : Nat := f.classes.length + f.protocols.length

end FoundationIndex
end ObjcAtlas
