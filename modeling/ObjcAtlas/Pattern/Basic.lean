import ObjcAtlas.Pattern.Letters

/-! Patterns: regular expressions with groups, back-references, assertions, and greedy, lazy and possessive
repetition. -/
namespace ObjcAtlas

namespace Pattern

/-- A place that takes no character. -/
inductive Anchor where
  | textStart
  | lineStart
  | textEnd
  /-- The end of the text, or the place before a line feed that ends it. -/
  | lastLineEnd
  | lineEnd
  /-- A place between a word and something else; with `within` false, a place that is none. -/
  | wordEdge (ascii within : Bool)
  deriving DecidableEq

/-- Which numbers of repetitions are tried first; a possessive one gives nothing back. -/
inductive Greed where
  | greedy
  | lazy
  | possessive
  deriving DecidableEq

end Pattern

inductive Pattern where
  | empty
  | letter (l : Pattern.Letters)
  | anchor (a : Pattern.Anchor)
  | sequence (first second : Pattern)
  | choice (first second : Pattern)
  /-- `most` is none for no bound. -/
  | repetition (greed : Pattern.Greed) (least : Nat) (most : Option Nat) (body : Pattern)
  | group (number : Nat) (body : Pattern)
  /-- The text of an earlier group once more. -/
  | again (number : Nat) (ignoreCase ascii : Bool)
  /-- Only the first way in which the body matches counts. -/
  | atomic (body : Pattern)
  | ahead (holds : Bool) (body : Pattern)
  | behind (holds : Bool) (width : Nat) (body : Pattern)
  /-- Goes by whether a group has matched. -/
  | ifGroup (number : Nat) (yes no : Pattern)
  deriving DecidableEq, Inhabited

namespace Pattern

/-- The least and greatest number of characters that a pattern takes. -/
structure Width where
  least : Nat
  greatest : Nat
  deriving DecidableEq

/-- Widths are not told apart from here on. -/
def widthLimit : Nat := 0x10000000000000000

def Width.capped (w : Width) : Width := ⟨min w.least widthLimit, min w.greatest widthLimit⟩

def Width.add (v w : Width) : Width := Width.capped ⟨v.least + w.least, v.greatest + w.greatest⟩

/-- The width of either of two patterns. -/
def Width.either (v w : Width) : Width := ⟨min v.least w.least, max v.greatest w.greatest⟩

def Width.times (w : Width) (least : Nat) (most : Option Nat) : Width :=
  Width.capped ⟨w.least * least, match most with
    | some m => w.greatest * m
    | none => if w.greatest = 0 then 0 else widthLimit⟩

/-- The width of a pattern, given those of the groups that it refers to. -/
def width (groups : List (Nat × Width)) : Pattern → Width
  | .empty | .anchor _ | .ahead _ _ | .behind _ _ _ => ⟨0, 0⟩
  | .letter _ => ⟨1, 1⟩
  | .sequence p q => (p.width groups).add (q.width groups)
  | .choice p q => (p.width groups).either (q.width groups)
  | .repetition _ least most p => (p.width groups).times least most
  | .group _ p | .atomic p => p.width groups
  | .again n _ _ => (groups.lookup n).getD ⟨0, 0⟩
  | .ifGroup _ p q => (p.width groups).either (q.width groups)

/-- Whether a pattern repeats anything. -/
def hasRepetition : Pattern → Bool
  | .empty | .letter _ | .anchor _ | .again _ _ _ => false
  | .repetition _ _ _ _ => true
  | .sequence p q | .choice p q | .ifGroup _ p q => p.hasRepetition || q.hasRepetition
  | .group _ p | .atomic p | .ahead _ p | .behind _ _ p => p.hasRepetition

/-- The patterns one after another. -/
def ofList : List Pattern → Pattern
  | [] => .empty
  | [p] => p
  | p :: ps => .sequence p (ofList ps)

/-- The patterns as alternatives, the first ones tried first. -/
def ofChoices : List Pattern → Pattern
  | [] => .empty
  | [p] => p
  | p :: ps => .choice p (ofChoices ps)

end Pattern
end ObjcAtlas
