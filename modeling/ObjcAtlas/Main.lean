import ObjcAtlas.CommandLine.Footprint

/-! The program: it looks at the files that a run depends on, and brings about what becomes of the run. -/
namespace ObjcAtlas.Program

def usage : String :=
  "usage: objc-atlas [-v] headers [BINARY] [-o DIR] [--shared-cache FILE] [--deps]\n" ++
  "       objc-atlas [-v] dump [BINARY] [--class REGEX | --proto REGEX | --cat REGEX] [--long]\n" ++
  "                  [--shared-cache FILE] [--deps]\n" ++
  "       objc-atlas [-v] a2f CACHE [ADDRESS] [--slide N] [--in FILE] [--out FILE]"

def hostName (loc : Location) : String := "/" ++ Text.joinWith "/" loc

/-- What is at a location of the file system. -/
def probe (loc : Location) : IO (Option Node) := do
  try return some (.file (← IO.FS.readBinFile (hostName loc)))
  catch
    | .inappropriateType .. => return some .directory
    | _ => return none

/-- Adds to a tree what is at some locations; there is nothing below what is no directory. -/
def explore (t : FileTree) : List Location → IO FileTree
  | [] => return t
  | loc :: rest => do
    if (t.node? loc).isNone && t.node? loc.dropLast = some .directory then
      match ← probe loc with
      | some n => explore (t.set loc n) rest
      | none => explore t rest
    else explore t rest

/-- Carries out a command line on what is known of the files, and again as often as it leads to more of them. -/
def settle (logName : String) (env : Environment) (args : List String) : Nat → FileTree → IO (FileTree × Outcome)
  | 0, t => return (t, Outcome.ofArguments logName t env args)
  | rounds + 1, t => do
    let o := Outcome.ofArguments logName t env args
    let known ← explore t (o.footprint t env args)
    if known.nodes.length = t.nodes.length then return (t, o)
    else settle logName env args rounds known

/-- The tree of which only the way to the working directory is known. -/
def startingTree : IO FileTree := do
  let here := (Path.ofString (← IO.currentDir).toString).parts
  let above := (List.range here.length).map fun n => (here.take (n + 1), Node.directory)
  return { nodes := above, workingDirectory := here }

/-- The variables that are set, of those that a run may ask for. -/
def environment : IO Environment := do
  let file ← try IO.FS.readFile Configuration.assignmentsPath.toString catch _ => pure ""
  let names := (askedVariables ++ EnvironmentFile.mentioned file).eraseDups
  names.filterMapM fun name => do return (← IO.getEnv name).map fun value => (name, value)

/-- Makes the directories and files of a tree that are not in the first one. -/
def bringAbout (before after : FileTree) : IO Unit :=
  after.nodes.forM fun (loc, n) => do
    if before.node? loc ≠ some n then
      match n with
      | .directory => IO.FS.createDirAll (hostName loc)
      | .file content => IO.FS.writeBinFile (hostName loc) content

/-- The lines of a journal; debugging ones only if they are asked for. -/
def lines (elapsed : String) (verbose : Bool) (journal : List Event) : List String :=
  (journal.filter fun e => verbose || e.level ≠ .debug).map fun e => e.level.label ++ ": " ++ e.message elapsed

/-- Prints what a run printed and reported, and completes its log. -/
def tell (elapsed : String) (o : Outcome) : IO Unit := do
  IO.print o.session.output
  match o.complaint with
  | some fault => IO.eprintln ("Configuration error: " ++ fault.message)
  | none => (lines elapsed o.verbose o.session.journal).forM fun line => IO.eprintln line
  match o.log with
  | some p =>
    if o.session.tree.isFile p matches .ok true then
      IO.FS.writeFile p.toString (Text.joinWith "\n" (lines elapsed true o.session.journal) ++ "\n")
  | none => return

/-- The status of the program. -/
def status (args : List String) : Ending → IO UInt32
  | .failed failure => do
    IO.eprintln failure.text
    return 1
  | .exit code => do
    match Invocation.read args with
    | .error .help => IO.println usage
    | .error .invalid => IO.eprintln usage
    | .ok _ => return UInt32.ofNat code
    return UInt32.ofNat code

def run (args : List String) : IO UInt32 := do
  let started ← IO.monoMsNow
  let env ← environment
  let (before, o) ← settle ("objc_reconstructor_" ++ toString started ++ ".log") env args 1000 (← startingTree)
  bringAbout before o.session.tree
  let elapsed := toString ((← IO.monoMsNow) - started) ++ "ms"
  tell elapsed o
  status args o.ending

end ObjcAtlas.Program

def main (args : List String) : IO UInt32 := ObjcAtlas.Program.run args
