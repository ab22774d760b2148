import ObjcAtlas.Text.Basic

/-! Paths as text: empty and `.` components vanish, `..` stays. -/
namespace ObjcAtlas

/-- A path; `root` is empty for a relative one, else one slash or exactly two. -/
structure Path where
  root : String := ""
  parts : List String := []
  deriving DecidableEq

namespace Path

/-- Exactly two leading slashes are kept apart from one; more count as one. -/
def rootOf (cs : List Char) : String :=
  match (cs.takeWhile (· == '/')).length with
  | 0 => ""
  | 2 => "//"
  | _ => "/"

def ofString (s : String) : Path :=
  { root := rootOf s.toList
    parts := ((Text.fields '/' s.toList).map String.ofList).filter fun c => c ≠ "" ∧ c ≠ "." }

/-- The empty relative path is written as a dot. -/
def toString (p : Path) : String :=
  if p.root = "" ∧ p.parts = [] then "." else p.root ++ Text.joinWith "/" p.parts

instance : ToString Path := ⟨toString⟩

/-- Resolution of a path against another one; an absolute path stays itself. -/
def append (p q : Path) : Path := if q.root = "" then ⟨p.root, p.parts ++ q.parts⟩ else q

instance : Append Path := ⟨append⟩

/-- The last component, empty if there is none. -/
def name (p : Path) : String := p.parts.getLastD ""

/-- The path without its last component. -/
def parent (p : Path) : Path := ⟨p.root, p.parts.dropLast⟩

theorem length_parts_parent_lt {p : Path} (h : p.parts ≠ []) :
    p.parent.parts.length < p.parts.length := by
  have := List.length_pos_iff.2 h
  simp only [parent, List.length_dropLast]
  omega

/-- The name without its extension; a dot at either end of the name starts none. -/
def stem (p : Path) : String :=
  let cs := p.name.toList
  let ext := cs.reverse.takeWhile (· != '.')
  let front := (cs.reverse.drop ext.length).drop 1
  if ext.isEmpty || front.isEmpty then p.name else String.ofList front.reverse

/-- The last component of a path given as text. -/
def baseName (s : String) : String := (ofString s).name

end Path
end ObjcAtlas
