import ObjcAtlas.CommandLine.Outcome

/-! The part of the world that a run depends on: the locations it looks at and the variables it asks for. Who
knows what is there need know nothing else. -/
namespace ObjcAtlas

/-- The locations that components lead through, from a location on. -/
def trail : Location → List String → List Location
  | _, [] => []
  | loc, c :: cs =>
    let next := if c = ".." then loc.dropLast else loc ++ [c]
    next :: trail next cs

/-- The locations that a path leads through. -/
def FileTree.trailOf (t : FileTree) (p : Path) : List Location :=
  trail (if p.root = "" then t.workingDirectory else []) p.parts

/-- The metadata files that the images of a cache name. -/
def SharedCache.metadataPaths (c : SharedCache) : List Path :=
  c.records.filterMap fun record =>
    match record.field? "metadata" with
    | .ok (some (.object _)) | .ok (some .null) | .ok none | .error _ => none
    | .ok (some d) => some (c.base ++ Path.ofString d.display)

/-- The files that a request reads whatever the configuration is. -/
def Command.ownInputs : Command → List Path
  | .lookup r => r.cache :: r.input.toList
  | _ => []

/-- The files that an invocation reads, as far as what is known of the files tells them. -/
def Invocation.inputs (t : FileTree) (env : Environment) (i : Invocation) : List Path :=
  Configuration.assignmentsPath :: i.command.ownInputs ++
    match Configuration.load t env Configuration.assignmentsPath i.overrides with
    | .ok (c, _) => c.binary.toList ++ c.cache.toList
    | .error _ => []

namespace Outcome

/-- The locations that an outcome depends on: those of what is read, and those of what is made. -/
def footprint (t : FileTree) (env : Environment) (args : List String) (o : Outcome) : List Location :=
  let read := match Invocation.read args with
    | .ok i => i.inputs t env
    | .error _ => []
  let linked := match o.session.cache with
    | some c => c.metadataPaths
    | none => []
  (read ++ linked).flatMap t.trailOf ++ o.session.tree.nodes.map (·.1)

end Outcome

/-- The variables that configuration and settings ask for. -/
def askedVariables : List String :=
  ["BINARY_PATH", "OUTPUT_DIR", "SHARED_CACHE_PATH", "VERBOSE", "LOG_DIR"] ++
    ["TOOL_NAME", "PRIVATE_FRAMEWORK_MARKER", "ROOT_CLASS", "ROOT_FRAMEWORK", "DIRECTORY_MODE",
      "UMBRELLA_SUFFIX"].map ("OBJC_" ++ ·)

namespace EnvironmentFile

def Piece.name? : Piece → Option String
  | .text _ => none
  | .variable name _ => some (String.ofList name)

/-- The variables that a file assigns or refers to. -/
def mentioned (text : String) : List String :=
  (read text).flatMap fun (key, value) =>
    let cs := (value.getD "").toList
    key :: (pieces cs.length cs).filterMap Piece.name?

end EnvironmentFile
end ObjcAtlas
