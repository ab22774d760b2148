import ObjcAtlas.Entity.Record
import ObjcAtlas.Failure

/-! The metadata document of one binary. -/
namespace ObjcAtlas

/-- A binary: the name it is shown under and the fields of its metadata document. -/
structure Binary where
  name : String
  fields : List (String × Document)

namespace Document

/-- The document in a file. `unreadable` is the fault for a file that cannot be opened or is no JSON. -/
def load (t : FileTree) (p : Path) (unreadable : MetadataFault) : Except Failure Document :=
  match t.read p with
  | .error .embeddedNull => .error (.file .embeddedNull)
  | .error _ => .error (.metadata unreadable)
  | .ok content =>
    match String.fromUTF8? content with
    | none => .error .undecodable
    | some source =>
      match Document.read source with
      | .ok d => .ok d
      | .error .malformed => .error (.metadata unreadable)
      | .error .numeralTooLong => .error .numeralTooLong

end Document

namespace Binary

/-- The binary of a document, shown under `name` or, if that is empty, under the document's own name. -/
def ofDocument (name : String) : Document → Except Failure Binary
  | .object fields =>
    let own := match fields.lookup "name" with
      | some d => d.display
      | none => "unknown"
    .ok ⟨if name.isEmpty then own else name, fields⟩
  | _ => .error (.metadata .notObject)

/-- The binary of a document file; a document without a name is shown under the file's stem. -/
def load (t : FileTree) (p : Path) : Except Failure Binary := do
  let b ← ofDocument "" (← Document.load t p (.unreadable p))
  match b.fields.lookup "name" with
  | some d => return if d.isBlankValue then { b with name := p.stem } else b
  | none => return { b with name := p.stem }

def document (b : Binary) : Document := .object b.fields

/-- The object that holds the Objective-C sections, if there is one. -/
def sections? (b : Binary) : Option (List (String × Document)) :=
  match b.fields.lookup "objc" with
  | some (.object sections) => some sections
  | _ => none

def hasMetadata (b : Binary) : Bool := b.sections?.isSome

/-- The install name, if it is given and not blank. -/
def installName? (b : Binary) : Except Failure (Option String) :=
  (b.document.fieldOr Document.asNonblankText none "dylib_id").mapError .value

def buildVersions (b : Binary) : Except Failure (List String) :=
  (b.document.fieldTexts "build_versions").mapError .value

def sourceVersion (b : Binary) : String :=
  match b.fields.lookup "source_version" with
  | some d => d.display
  | none => ""

def importedLibraries (b : Binary) : Except Failure (List String) :=
  (b.document.fieldTexts "imported_libraries").mapError .value

/-- A fault in a section names the section, but for an infinite number, which no rule accounts for. -/
def sectionFailure (b : Binary) (name : String) : Document.Fault → Failure
  | .infiniteNumeral => .value .infiniteNumeral
  | fault => .metadata (.badSection b.name name fault)

/-- The entities of a section. -/
def section? {α : Type} (b : Binary) (name : String) (read : Document → Except Document.Fault α) :
    Except Failure (List α) :=
  match b.sections?.bind (·.lookup name) with
  | none => .error (.sectionMissing b.name name)
  | some d => (do (← d.items).mapM read).mapError (b.sectionFailure name)

def classes? (b : Binary) : Except Failure (List ObjcClass) := b.section? "classes" ObjcClass.ofRecord

def protocols? (b : Binary) : Except Failure (List ObjcProtocol) :=
  b.section? "protocols" ObjcProtocol.ofRecord

def categories? (b : Binary) : Except Failure (List Category) :=
  b.section? "categories" Category.ofRecord

end Binary

/-- A missing section counts as an empty one. -/
def presentSection {α : Type} : Except Failure (List α) → Except Failure (List α)
  | .error (.sectionMissing _ _) => .ok []
  | r => r

namespace Binary

def classes (b : Binary) : Except Failure (List ObjcClass) := presentSection b.classes?
def protocols (b : Binary) : Except Failure (List ObjcProtocol) := presentSection b.protocols?
def categories (b : Binary) : Except Failure (List Category) := presentSection b.categories?

end Binary
end ObjcAtlas
