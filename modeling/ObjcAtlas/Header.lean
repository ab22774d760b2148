import ObjcAtlas.Entity.Basic
import ObjcAtlas.Files.Path
import ObjcAtlas.FoundationIndex

/-! Headers: which file an entity is written to and which entity a file name belongs to, what a header brings in, and
its text. -/
namespace ObjcAtlas

namespace HeaderName

def ofClass (name : String) : String := name ++ ".h"

def ofProtocol (name : String) : String := name ++ "-Protocol.h"

def ofCategory (c : Category) : String := c.headerStem ++ ".h"

/-- The entity that a local header is named after. -/
def entity (header : String) : String :=
  match Text.dropSuffix? "-Protocol.h" header with
  | some name => name
  | none => (Text.dropSuffix? ".h" header).getD header

/-- The name of an umbrella header; a suffix keeps it apart from an emitted header of that name. -/
def umbrella (module : String) (emitted : List String) (suffix : String) : String :=
  if emitted.contains (module ++ ".h") then module ++ suffix else module

/-- The module of a library: the last component of its install name. -/
def module (installName : String) : String := Path.baseName installName

/-- The directory of a module's headers. -/
def directory (output : Path) (module : String) : Path := output ++ Path.ofString module

/-- The name that guards a header against being read twice. -/
def guard (name : String) : String := Text.replaceChar '-' '_' name

end HeaderName

/-- Frameworks, headers of the same module, and names declared in advance. -/
structure Imports where
  frameworks : List String := []
  locals : List String := []
  classes : List String := []
  protocols : List String := []
  deriving DecidableEq

namespace Imports

def isEmpty (i : Imports) : Bool :=
  i.frameworks.isEmpty && i.locals.isEmpty && i.classes.isEmpty && i.protocols.isEmpty

def append (i j : Imports) : Imports :=
  ⟨i.frameworks ++ j.frameworks, i.locals ++ j.locals, i.classes ++ j.classes, i.protocols ++ j.protocols⟩

instance : Append Imports := ⟨append⟩

/-- Ascending and distinct, without what the foundation index makes available; a name whose header is
included is not also declared in advance. -/
def normalize (f : FoundationIndex) (i : Imports) : Imports :=
  let locals := (Text.ascending i.locals).filter fun h => !f.contains (HeaderName.entity h)
  { frameworks := Text.ascending i.frameworks
    locals
    classes := (Text.ascending i.classes).filter fun n =>
      !f.hasClass n && !locals.contains (HeaderName.ofClass n)
    protocols := (Text.ascending i.protocols).filter fun n =>
      !f.hasProtocol n && !locals.contains (HeaderName.ofProtocol n) }

end Imports
structure Header where
  path : Path
  toolVersion : String
  buildVersions : List String
  sourceVersion : String
  name : String
  body : String
  imports : Imports := {}
  isUmbrella : Bool := false

namespace Header

/-- What the headers of one run have in common. -/
structure Style where
  toolName : String
  rootFramework : String

def bannerLines (s : Style) (h : Header) : List String :=
  ["//", "//   Generated by " ++ s.toolName ++ " (" ++ h.toolVersion ++ ")", "//"] ++
  h.buildVersions.map ("//    - LC_BUILD_VERSION:  " ++ ·) ++
  ["//    - LC_SOURCE_VERSION: " ++ h.sourceVersion, "//"]

def guardLines (h : Header) : List String :=
  ["#ifndef " ++ HeaderName.guard h.name ++ "_h", "#define " ++ HeaderName.guard h.name ++ "_h"]

/-- An umbrella imports no framework; any other header starts with the root one. -/
def frameworkLines (s : Style) (h : Header) : List String :=
  if h.isUmbrella then []
  else (s.rootFramework :: h.imports.frameworks.filter (· ≠ s.rootFramework)).map
    fun f => "@import " ++ f ++ ";"

/-- Lines with an empty one after them, nothing for none. -/
def paragraph (ls : List String) : List String := if ls.isEmpty then [] else ls ++ [""]

def localLines (h : Header) : List String :=
  h.imports.locals.map fun l => "#include \"" ++ l ++ "\""

/-- A declaration of names in advance, nothing for none. -/
def advance (keyword : String) : List String → List String
  | [] => []
  | names => [keyword ++ " " ++ Text.joinWith ", " names ++ ";"]

def advanceLines (h : Header) : List String :=
  advance "@class" h.imports.classes ++ advance "@protocol" h.imports.protocols

def lines (s : Style) (h : Header) : List String :=
  bannerLines s h ++ guardLines h ++ frameworkLines s h ++ [""] ++
  paragraph (localLines h) ++ paragraph (advanceLines h) ++
  [h.body, "#endif /* " ++ HeaderName.guard h.name ++ "_h */"]

def text (s : Style) (h : Header) : String := Text.joinWith "\n" (h.lines s) ++ "\n"

end Header
end ObjcAtlas
