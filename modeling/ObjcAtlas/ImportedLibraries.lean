import ObjcAtlas.Environment
import ObjcAtlas.FoundationIndex
import ObjcAtlas.Session
import ObjcAtlas.Text.Basic

/-! Binaries taken from the session's shared cache: the libraries that a binary imports, and the system images
whose names need no import. -/
namespace ObjcAtlas

/-- Whether the name of a library marks it as a private framework. -/
def Settings.isPrivate (s : Settings) (library : String) : Bool :=
  Text.isInfix s.privateMarker.toList library.toList

/-- The imported libraries of a binary that are wanted. -/
def Binary.loadImported (b : Binary) (wanted : String → Bool) : Job (List Binary) := do
  let libraries ← Job.ofExcept b.importedLibraries
  let loaded ← (libraries.filter wanted).mapM Job.image
  Job.log (.librariesLoaded loaded.length b.name)
  return loaded

/-- The binaries processed along with `b`, which must have metadata. Only a shared cache can supply any. -/
def Binary.dependencies (b : Binary) (withImported : Bool) (wanted : String → Bool) : Job (List Binary) := do
  if !b.hasMetadata then throw (.noMetadata b.name)
  if withImported then
    if (← get).cache.isNone then throw (.configuration .cacheRequired)
    b.loadImported wanted
  else return []

namespace FoundationIndex

/-- The class and protocol names of one image. -/
def imageNames (image : String) : Job (List String × List String) := do
  let b ← Job.image image
  let classes ← Job.ofExcept b.classes
  let protocols ← Job.ofExcept b.protocols
  return (classes.map (·.name), protocols.map (·.name))

/-- The names of the given images. Without a shared cache the index is empty. -/
def scan (images : List String) : Job FoundationIndex :=
  Job.reportingFailure "build_foundation_index" do
    if (← get).cache.isNone then return {}
    let names ← images.mapM imageNames
    let index := ofNames (names.flatMap (·.1)) (names.flatMap (·.2))
    Job.log (.indexBuilt index.classes.length index.protocols.length)
    return index

end FoundationIndex
end ObjcAtlas
