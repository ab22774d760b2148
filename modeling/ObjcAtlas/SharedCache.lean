import ObjcAtlas.Metadata

/-! A shared cache: its images with their address ranges, functions and metadata, and a table of symbols. -/
namespace ObjcAtlas
open Document (Fault)

/-- A half-open range of addresses. -/
structure FunctionRange where
  start : Int
  stop : Int
  name : String := ""
  deriving DecidableEq

def FunctionRange.contains (f : FunctionRange) (a : Int) : Bool := f.start ≤ a && a < f.stop

/-- An image mapped into the cache; its functions are in order of their starts. -/
structure CacheImage where
  name : String
  start : Int
  stop : Int
  functions : List FunctionRange := []
  deriving DecidableEq

namespace CacheImage

def contains (i : CacheImage) (a : Int) : Bool := i.start ≤ a && a < i.stop

def functionAt? (i : CacheImage) (a : Int) : Option FunctionRange := i.functions.find? (·.contains a)

end CacheImage

namespace FunctionRange

/-- Orders functions by start and leaves those with one start as they are. -/
def sorted (fs : List FunctionRange) : List FunctionRange := fs.mergeSort fun f g => decide (f.start ≤ g.start)

def ofRecord (d : Document) : Except Fault FunctionRange := do
  let start ← (← d.field "start").integer
  let stop ← (← d.field "end").integer
  let name := match ← d.field? "name" with
    | some n => n.display
    | none => ""
  return { start, stop, name }

end FunctionRange

/-- An address that may be left out counts as zero. -/
def Document.addressField (key : String) (d : Document) : Except Fault Int := do
  match ← d.field? key with
  | some v => v.integer
  | none => return 0

def CacheImage.ofRecord (d : Document) : Except Fault CacheImage := do
  let functions ← d.records FunctionRange.ofRecord "functions"
  let name := (← d.field "name").display
  let start ← d.addressField "start"
  let stop ← d.addressField "end"
  return { name, start, stop, functions := FunctionRange.sorted functions }

/-- Symbols by address; of spellings of one address the last counts. -/
def readSymbols (d : Document) : Except Fault (List (Int × String)) := do
  match ← d.field? "symbols" with
  | none => return []
  | some (.object fields) =>
    let pairs ← fields.mapM fun (key, name) => do
      return (← (Document.text key).integer, name.display)
    return Keyed.ofPairs pairs
  | some _ => .error .notRecord

/-- A cache with the binaries of its images loaded so far, by image name in the order of loading. -/
structure SharedCache where
  base : Path
  records : List Document
  images : List CacheImage
  symbols : List (Int × String)
  loaded : List (String × Binary) := []

namespace SharedCache

def cacheFailure : Fault → Failure
  | .infiniteNumeral => .value .infiniteNumeral
  | fault => .metadata (.cache fault)

/-- The cache of a document; metadata files are found from `base`. -/
def ofDocument (base : Path) (d : Document) : Except Failure SharedCache :=
  Except.mapError cacheFailure do
    let records ← d.fieldItems "images"
    let images ← records.mapM CacheImage.ofRecord
    let symbols ← readSymbols d
    return { base, records, images, symbols }

/-- The cache of a document file; metadata files are found beside it. -/
def load (t : FileTree) (p : Path) : Except Failure SharedCache := do
  match ← Document.load t p (.unreadableCache p) with
  | .object fields => ofDocument p.parent (.object fields)
  | _ => .error (.metadata (.cacheNotObject p))

/-- The name and record of the image of exactly this name. -/
def exactRecord? (name : String) : List Document → Option (String × Document)
  | [] => none
  | d :: ds =>
    match d.field "name" with
    | .ok (.text n) => if n = name then some (n, d) else exactRecord? name ds
    | _ => exactRecord? name ds

/-- The first image whose name ends in the same component. An image name that is no text is a fault. -/
def baseRecord? (base : String) : List Document → Except Failure (Option (String × Document))
  | [] => .ok none
  | d :: ds =>
    match d.field "name" with
    | .ok (.text n) => if Path.baseName n = base then .ok (some (n, d)) else baseRecord? base ds
    | _ => .error (.value .wrongKind)

/-- The image that a name stands for: the one so named, else the first with the same last component. -/
def findRecord (c : SharedCache) (name : String) : Except Failure (String × Document) := do
  match exactRecord? name c.records with
  | some r => return r
  | none =>
    match ← baseRecord? (Path.baseName name) c.records with
    | some r => return r
    | none => .error (.imageMissing name)

/-- The binary of an image record: its own metadata, those of a file, or none. -/
def readBinary (t : FileTree) (base : Path) (imageName : String) (record : Document) : Except Failure Binary :=
  let shown := Path.baseName imageName
  match record.field? "metadata" with
  | .ok (some (.object fields)) => Binary.ofDocument shown (.object fields)
  | .ok (some .null) | .ok none | .error _ => Binary.ofDocument shown (.object [("name", .text shown)])
  | .ok (some d) => Binary.load t (base ++ Path.ofString d.display)

/-- The binary of an image, loaded at first use. -/
def image (t : FileTree) (name : String) (c : SharedCache) : Except Failure Binary × SharedCache :=
  match c.findRecord name with
  | .error f => (.error f, c)
  | .ok (imageName, record) =>
    match c.loaded.lookup imageName with
    | some b => (.ok b, c)
    | none =>
      match readBinary t c.base imageName record with
      | .error f => (.error f, c)
      | .ok b => (.ok b, { c with loaded := Keyed.put imageName b c.loaded })

/-- The first image that contains an address. -/
def imageAt (c : SharedCache) (a : Int) : Except Failure CacheImage :=
  match c.images.find? (·.contains a) with
  | some i => .ok i
  | none => .error (.addressUnmapped a)

def symbolAt? (c : SharedCache) (a : Int) : Option String := c.symbols.lookup a

end SharedCache
end ObjcAtlas
