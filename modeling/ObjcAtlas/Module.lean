import ObjcAtlas.Declaration
import ObjcAtlas.Dependencies
import ObjcAtlas.Entity.Basic
import ObjcAtlas.Entity.Order
import ObjcAtlas.Environment
import ObjcAtlas.Header
import ObjcAtlas.Metadata

/-! A module: the entities of one binary in order, and the headers drafted for them. -/
namespace ObjcAtlas

structure Module where
  name : String
  buildVersions : List String := []
  sourceVersion : String := ""
  classes : List ObjcClass := []
  protocols : List ObjcProtocol := []
  categories : List Category := []
  deriving DecidableEq

/-- A header before it is placed: its file, the name that guards it, and its content. The declaration may lack a
type that the metadata leaves out. -/
structure Draft where
  fileName : String
  name : String
  imports : Imports
  body : Except MissingType String

namespace Module

/-- A module is named by the install name of its binary, else by the binary itself. -/
def nameFor (b : Binary) : Option String → String
  | some installName => HeaderName.module installName
  | none => b.name

/-- Reads all of a binary before any header is drafted. -/
def ofBinary (b : Binary) : Except Failure Module := do
  let installName ← b.installName?
  let buildVersions ← b.buildVersions
  let classes ← b.classes
  let protocols ← b.protocols
  let categories ← b.categories
  return { name := nameFor b installName
           buildVersions
           sourceVersion := b.sourceVersion
           classes := ObjcClass.sorted classes
           protocols := ObjcProtocol.sorted protocols
           categories := Category.sorted categories }

/-- What the imports of a module's entities depend on. -/
def scope (s : Settings) (f : FoundationIndex) (m : Module) : Scope where
  foundation := f
  classNames := m.classes.map (·.name)
  protocolNames := m.protocols.map (·.name)
  rootClass := s.rootClass
  rootFramework := s.rootFramework

def imports (s : Settings) (f : FoundationIndex) (m : Module) : ModuleImports :=
  (m.scope s f).ofModule m.classes m.protocols m.categories

def draftOfClass (i : ModuleImports) (c : ObjcClass) : Draft :=
  ⟨HeaderName.ofClass c.name, c.name, i.forClass c.name, Declaration.ofClass c.withoutSynthesized⟩

def draftOfProtocol (i : ModuleImports) (p : ObjcProtocol) : Draft :=
  ⟨HeaderName.ofProtocol p.name, p.name, i.forProtocol p.identity, Declaration.ofProtocol p⟩

def draftOfCategory (i : ModuleImports) (c : Category) : Draft :=
  ⟨HeaderName.ofCategory c, c.name, i.forCategory c.headerStem, Declaration.ofCategory c⟩

/-- The headers of a module: classes, protocols, categories. -/
def drafts (s : Settings) (f : FoundationIndex) (m : Module) : List Draft :=
  let i := m.imports s f
  m.classes.map (draftOfClass i) ++
  (ObjcProtocol.distinct f m.protocols).map (draftOfProtocol i) ++
  m.categories.map (draftOfCategory i)

end Module
end ObjcAtlas
