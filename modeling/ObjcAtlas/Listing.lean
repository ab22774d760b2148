import ObjcAtlas.Declaration
import ObjcAtlas.Entity.Order
import ObjcAtlas.ImportedLibraries
import ObjcAtlas.Pattern.Reader
import ObjcAtlas.Pattern.Search

/-! Listings of a binary and its libraries: every entity, or those of one kind whose names match, as declarations
or as one line each. -/
namespace ObjcAtlas

inductive EntityKind where
  | ofClass
  | ofProtocol
  | ofCategory
  deriving DecidableEq

/-- A binary with the libraries that are listed after it. -/
structure Listing where
  binary : Binary
  dependencies : List Binary := []

namespace Listing

/-- A listing of a binary and, if asked for, of all libraries that it imports. -/
def prepare (binary : Binary) (withImported : Bool) : Job Listing := do
  return ⟨binary, ← binary.dependencies withImported fun _ => true⟩

def binaries (l : Listing) : List Binary := l.binary :: l.dependencies

/-- The text of an entity: its declaration if that is asked for, else its summary. -/
def entry {α : Type} (declared : α → Except MissingType String) (summary : α → String) (long : Bool) (a : α) :
    Except Failure String :=
  if long then (declared a).mapError .missingType else .ok (summary a)

def classEntry : Bool → ObjcClass → Except Failure String :=
  entry Declaration.ofClass Declaration.summaryOfClass

def protocolEntry : Bool → ObjcProtocol → Except Failure String :=
  entry Declaration.ofProtocol Declaration.summaryOfProtocol

def categoryEntry : Bool → Category → Except Failure String :=
  entry Declaration.ofCategory Declaration.summaryOfCategory

/-- The protocols of a binary in order, each identity once. -/
def orderedProtocols (ps : List ObjcProtocol) : List ObjcProtocol :=
  ObjcProtocol.distinct {} (ObjcProtocol.sorted ps)

/-- The entities of one binary: protocols, classes, categories. -/
def entriesOf (long : Bool) (b : Binary) : Except Failure (List String) := do
  let protocols ← b.protocols
  let classes ← b.classes
  let categories ← b.categories
  let protocolTexts ← (orderedProtocols protocols).mapM (protocolEntry long)
  let classTexts ← (ObjcClass.sorted classes).mapM (classEntry long)
  let categoryTexts ← (Category.sorted categories).mapM (categoryEntry long)
  return protocolTexts ++ classTexts ++ categoryTexts

/-- Every entity of every binary. -/
def all (long : Bool) (l : Listing) : Except Failure (List String) :=
  return (← l.binaries.mapM (entriesOf long)).flatten

/-- Entities by name, those of one name as they stand, of which only matching ones are shown. -/
def matching {α : Type} (name : α → String) (isMatch : String → Bool) (xs : List α) : List α :=
  (xs.mergeSort fun a b => decide (name a ≤ name b)).filter fun a => isMatch (name a)

/-- The entities of one kind in one binary whose names match. -/
def matchesOf (kind : EntityKind) (isMatch : String → Bool) (long : Bool) (b : Binary) :
    Except Failure (List String) :=
  match kind with
  | .ofClass => do
    (matching (·.name) isMatch (← b.classes)).mapM (classEntry long)
  | .ofProtocol => do
    (matching (·.name) isMatch (orderedProtocols (← b.protocols))).mapM (protocolEntry long)
  | .ofCategory => do
    (matching (·.name) isMatch (Category.sorted (← b.categories))).mapM (categoryEntry long)

/-- The pattern that a filter for names denotes. -/
def pattern (text : String) : Except Failure Pattern :=
  match Pattern.read text with
  | .ok p => .ok p
  | .error .malformed => .error (.configuration (.badPattern text))
  | .error .countTooLarge => .error .countOutOfRange
  | .error .modeConflict => .error .patternModes
  | .error .numeralTooLong => .error .numeralTooLong

/-- The entities of one kind whose names match, binary by binary. -/
def ofKind (kind : EntityKind) (isMatch : String → Bool) (long : Bool) (l : Listing) :
    Except Failure (List String) :=
  return (← l.binaries.mapM (matchesOf kind isMatch long)).flatten

/-- The entities of one kind in whose names a pattern occurs; the pattern is read before any binary. -/
def filtered (kind : EntityKind) (text : String) (long : Bool) (l : Listing) :
    Except Failure (List String) := do
  let p ← pattern text
  l.ofKind kind p.occursIn long

end Listing
end ObjcAtlas
