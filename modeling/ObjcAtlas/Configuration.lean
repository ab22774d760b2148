import ObjcAtlas.Environment
import ObjcAtlas.Failure
import ObjcAtlas.Text.Case
import ObjcAtlas.Text.Utf8

/-! The configuration of a run: taken from the environment and a file of assignments, changed by arguments, and
checked against the files that it names. -/
namespace ObjcAtlas

structure Configuration where
  binary : Option Path := none
  output : Path := Path.ofString "output"
  cache : Option Path := none
  verbose : Bool := false
  /-- Where logs are kept, if they are. -/
  logs : Option Path := some (Path.ofString "logs")
  toolVersion : String := ObjcAtlas.toolVersion
  deriving DecidableEq

/-- Why a run cannot be configured. -/
inductive SetupFault where
  | noBinary
  | binaryMissing (path : Path)
  | notFile (path : Path)
  | cacheMissing (path : Path)
  | undecodable (fault : Text.Utf8Fault)
  /-- No variable can be set to text with a null character. -/
  | nullInVariable
  | badVariableName
  deriving DecidableEq

def SetupFault.message : SetupFault → String
  | .noBinary => "No binary given (argument or BINARY_PATH)"
  | .binaryMissing path => "Binary not found: " ++ path.toString
  | .notFile path => "Not a file: " ++ path.toString
  | .cacheMissing path => "Shared cache not found: " ++ path.toString
  | .undecodable fault => fault.message
  | .nullInVariable => "embedded null byte"
  | .badVariableName => "illegal environment variable name"

/-- A run that cannot be set up: by what its configuration says, or by a fault of a file. -/
inductive SetupFailure where
  | setup (fault : SetupFault)
  | file (fault : FileFault)
  deriving DecidableEq

/-- The arguments that take precedence over the environment. -/
structure Overrides where
  binary : Option Path := none
  output : Option Path := none
  cache : Option Path := none
  verbose : Option Bool := none

namespace Configuration

/-- An empty path counts as none. -/
def path? (s : Option String) : Option Path := (nonemptyText? s).map Path.ofString

/-- The words that mean yes, in any case. -/
def isYes (s : String) : Bool :=
  ["true", "1", "yes"].contains (String.ofList (s.toList.flatMap Text.lower))

def ofEnvironment (env : Environment) : Configuration where
  binary := path? (env.lookup "BINARY_PATH")
  output := Path.ofString ((env.lookup "OUTPUT_DIR").getD "output")
  cache := path? (env.lookup "SHARED_CACHE_PATH")
  verbose := isYes ((env.lookup "VERBOSE").getD "false")
  logs := path? (some ((env.lookup "LOG_DIR").getD "logs"))

def override (o : Overrides) (c : Configuration) : Configuration :=
  { c with
    binary := o.binary <|> c.binary
    output := o.output.getD c.output
    cache := o.cache <|> c.cache
    verbose := o.verbose.getD c.verbose }

/-- What is wrong with a variable that is to be set. -/
def variableFault? (key value : String) : Option SetupFault :=
  if key.contains '\x00' || value.contains '\x00' then some .nullInVariable
  else if key.contains '=' then some .badVariableName
  else none

/-- The environment with the variables that a file adds. -/
def extend (env : Environment) (content : ByteArray) : Except SetupFailure Environment :=
  match Text.Utf8.fault? content, String.fromUTF8? content with
  | none, some text =>
    let added := EnvironmentFile.additions env text
    match added.findSome? fun (key, value) => variableFault? key value with
    | some fault => .error (.setup fault)
    | none => .ok (env ++ added)
  | some fault, _ => .error (.setup (.undecodable fault))
  | none, none => .ok env

/-- The file of assignments that is used if no other is named. -/
def assignmentsPath : Path := Path.ofString ".env"

/-- The environment with the assignments of a file, if there is such a file. -/
def loadEnvironment (t : FileTree) (env : Environment) (file : Path) : Except SetupFailure Environment := do
  if ← (t.isFile file).mapError .file then
    extend env (← (t.read file).mapError .file)
  else return env

/-- The configuration for some arguments, and the environment that it leaves. -/
def load (t : FileTree) (env : Environment) (file : Path) (o : Overrides) :
    Except SetupFailure (Configuration × Environment) := do
  let env ← loadEnvironment t env file
  return ((ofEnvironment env).override o, env)

/-- The binary must be a file. -/
def checkBinary (t : FileTree) : Option Path → Except SetupFailure Unit
  | none => .error (.setup .noBinary)
  | some p => do
    if !(← (t.exists? p).mapError .file) then throw (.setup (.binaryMissing p))
    if !(← (t.isFile p).mapError .file) then throw (.setup (.notFile p))

/-- The shared cache, if there is to be one, must be a file. -/
def checkCache (t : FileTree) : Option Path → Except SetupFailure Unit
  | none => .ok ()
  | some p => do
    if !(← (t.isFile p).mapError .file) then throw (.setup (.cacheMissing p))

def check (t : FileTree) (needsBinary : Bool) (c : Configuration) : Except SetupFailure Unit := do
  if needsBinary then checkBinary t c.binary
  checkCache t c.cache

end Configuration
end ObjcAtlas
