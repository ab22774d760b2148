import ObjcAtlas.ImportedLibraries
import ObjcAtlas.Module
import ObjcAtlas.Progress

/-! Generation of headers: every module's entities and an umbrella that imports them, written below an output
directory. -/
namespace ObjcAtlas

/-- Modes that a file system accepts, as 32-bit integers. -/
def isMode (mode : Int) : Bool := -0x80000000 ≤ mode && mode ≤ 0x7fffffff

/-- A fault that a write accounts for; a null character in a path is no such one. -/
def writeFailure (p : Path) : FileFault → Failure
  | .embeddedNull => .file .embeddedNull
  | _ => .headerUnwritable p

namespace Job

/-- Makes the directory that is to hold the file at `p`. -/
def prepareDirectory (mode : Int) (p : Path) : Job Unit := do
  let s ← get
  if p.parent.toString.contains '\x00' then throw (.file .embeddedNull)
  if !isMode mode then throw .modeOutOfRange
  let (outcome, tree) := s.tree.makeDirectories p.parent
  set { s with tree }
  ofExcept (outcome.mapError (writeFailure p))

/-- Replaces the content of the file at `p`. -/
def writeText (p : Path) (text : String) : Job Unit := do
  let s ← get
  match s.tree.write p text.toUTF8 with
  | .ok tree => set { s with tree }
  | .error fault => throw (writeFailure p fault)

/-- Writes a header, making the directories above it. -/
def writeHeader (style : Header.Style) (mode : Int) (h : Header) : Job Path := do
  prepareDirectory mode h.path
  log (.creating h.path)
  writeText h.path (h.text style)
  return h.path

end Job

/-- The headers written for one module, and its umbrella if there are any. -/
structure ModuleResult where
  module : String
  headers : List Path := []
  umbrella : Option Path := none
  deriving DecidableEq

/-- A binary with the libraries to be processed before it. -/
structure Generator where
  settings : Settings
  output : Path
  toolVersion : String
  binary : Binary
  dependencies : List Binary := []

namespace Generator

/-- A generator for a binary and, if asked for, the private frameworks that it imports. -/
def prepare (settings : Settings) (output : Path) (toolVersion : String) (binary : Binary)
    (withImported : Bool) : Job Generator := do
  let dependencies ← binary.dependencies withImported settings.isPrivate
  return { settings, output, toolVersion, binary, dependencies }

def style (g : Generator) : Header.Style := ⟨g.settings.toolName, g.settings.rootFramework⟩

def directory (g : Generator) (m : Module) : Path := HeaderName.directory g.output m.name

/-- A draft as a header of its module. -/
def header (g : Generator) (m : Module) (d : Draft) (body : String) : Header where
  path := g.directory m ++ Path.ofString d.fileName
  toolVersion := g.toolVersion
  buildVersions := m.buildVersions
  sourceVersion := m.sourceVersion
  name := d.name
  body
  imports := d.imports

/-- The umbrella over headers with the given file names. -/
def umbrella (g : Generator) (m : Module) (emitted : List String) : Header :=
  let name := HeaderName.umbrella m.name emitted g.settings.umbrellaSuffix
  { path := g.directory m ++ Path.ofString (name ++ ".h")
    toolVersion := g.toolVersion
    buildVersions := m.buildVersions
    sourceVersion := m.sourceVersion
    name
    body := Declaration.lines (emitted.map fun n => "#import \"" ++ n ++ "\"")
    isUmbrella := true }

def writeHeader (g : Generator) (h : Header) : Job Path :=
  Job.writeHeader g.style g.settings.directoryMode h

/-- Writes the header of a draft and counts it. -/
def emit (g : Generator) (m : Module) (d : Draft) : Job Path := do
  let body ← Job.ofExcept (d.body.mapError .missingType)
  let path ← g.writeHeader (g.header m d body)
  Job.countHeader
  return path

/-- Writes the headers of drafts and, if there are any, the umbrella over them. -/
def emitAll (g : Generator) (m : Module) (drafts : List Draft) : Job ModuleResult := do
  let headers ← drafts.mapM (g.emit m)
  if headers.isEmpty then return { module := m.name }
  let umbrella ← g.writeHeader (g.umbrella m (headers.map (·.name)))
  return { module := m.name, headers, umbrella := some umbrella }

/-- Writes all headers of one binary, nothing for one without metadata. -/
def writeModule (g : Generator) (f : FoundationIndex) (b : Binary) : Job (Option ModuleResult) := do
  if !b.hasMetadata then
    Job.log (.moduleSkipped b.name)
    return none
  let m ← Job.ofExcept (Module.ofBinary b)
  return some (← Job.module m.name (g.emitAll m (m.drafts g.settings f)))

/-- Writes the headers of all dependencies, then those of the binary itself. -/
def run (g : Generator) : Job (FoundationIndex × List ModuleResult) :=
  Job.reportingFailure "ObjcHeaderGenerator.generate" do
    let f ← Job.operation "foundation index" (FoundationIndex.scan foundationImages)
    let results ← (g.dependencies ++ [g.binary]).mapM (g.writeModule f)
    Job.reportSummary
    return (f, results.filterMap id)

end Generator
end ObjcAtlas
