import ObjcAtlas.CommandLine.Arguments
import ObjcAtlas.Files.Path
import ObjcAtlas.Listing

/-! What a command line asks for: one of three commands with its options. -/
namespace ObjcAtlas

/-- Write the headers of a binary. -/
structure HeadersRequest where
  binary : Option Path := none
  output : Option Path := none
  cache : Option Path := none
  withImported : Bool := false
  deriving DecidableEq

/-- List the entities of a binary, all of them or those of one kind whose names match. -/
structure DumpRequest where
  binary : Option Path := none
  filter : Option (EntityKind × String) := none
  long : Bool := false
  cache : Option Path := none
  withImported : Bool := false
  deriving DecidableEq

/-- Find the functions of one address, or of those in a file. -/
structure LookupRequest where
  cache : Path
  address : Option String := none
  slide : String := "0"
  input : Option Path := none
  output : Option Path := none
  deriving DecidableEq

inductive Command where
  | headers (request : HeadersRequest)
  | dump (request : DumpRequest)
  | lookup (request : LookupRequest)
  deriving DecidableEq

structure Invocation where
  verbose : Bool := false
  command : Command
  deriving DecidableEq

namespace Invocation
open Arguments

/-- What options and places stand for. -/
inductive Key where
  | help
  | verbose
  | command
  | binary
  | output
  | cache
  | withImported
  | filter (kind : EntityKind)
  | long
  | address
  | slide
  | input
  deriving DecidableEq

def helpSwitch : Switch Key := { names := ["-h", "--help"], key := .help }

def commonRules : Rules Key where
  help := .help
  switches := [helpSwitch, { names := ["-v", "--verbose"], key := .verbose }]
  places := [⟨.command, .all⟩]

/-- The options that say which other libraries are used. -/
def librarySwitches : List (Switch Key) :=
  [{ names := ["--shared-cache"], key := .cache, takesValue := true },
   { names := ["--deps"], key := .withImported }]

def headersRules : Rules Key where
  help := .help
  switches := [helpSwitch, { names := ["-o", "--output"], key := .output, takesValue := true }] ++
    librarySwitches
  places := [⟨.binary, .atMostOne⟩]

def dumpRules : Rules Key where
  help := .help
  switches := [helpSwitch,
    { names := ["--class"], key := .filter .ofClass, takesValue := true },
    { names := ["--proto"], key := .filter .ofProtocol, takesValue := true },
    { names := ["--cat"], key := .filter .ofCategory, takesValue := true },
    { names := ["--long"], key := .long }] ++ librarySwitches
  places := [⟨.binary, .atMostOne⟩]
  exclusive := [.filter .ofClass, .filter .ofProtocol, .filter .ofCategory]

def lookupRules : Rules Key where
  help := .help
  switches := [helpSwitch,
    { names := ["--slide"], key := .slide, takesValue := true },
    { names := ["--in"], key := .input, takesValue := true },
    { names := ["--out"], key := .output, takesValue := true }]
  places := [⟨.cache, .one⟩, ⟨.address, .atMostOne⟩]

def path? (g : Given Key) (key : Key) : Option Path := (g.value? key).map Path.ofString

/-- The filter of the first kind that has one; the rules admit only one kind. -/
def filter? (g : Given Key) : Option (EntityKind × String) :=
  [.ofClass, .ofProtocol, .ofCategory].findSome? fun kind => (g.value? (.filter kind)).map fun p => (kind, p)

def headersOf (g : Given Key) : HeadersRequest where
  binary := path? g .binary
  output := path? g .output
  cache := path? g .cache
  withImported := g.has .withImported

def dumpOf (g : Given Key) : DumpRequest where
  binary := path? g .binary
  filter := filter? g
  long := g.has .long
  cache := path? g .cache
  withImported := g.has .withImported

def lookupOf (cache : Path) (g : Given Key) : LookupRequest where
  cache
  address := g.value? .address
  slide := (g.value? .slide).getD "0"
  input := path? g .input
  output := path? g .output

/-- The command of a name with the words after it, and whether something was left over. -/
def readCommand (name : String) (rest : List String) : Except Refusal (Command × Bool) :=
  match name with
  | "headers" => do
    let g ← headersRules.read rest
    return (.headers (headersOf g), g.leftover)
  | "dump" => do
    let g ← dumpRules.read rest
    return (.dump (dumpOf g), g.leftover)
  | "a2f" => do
    let g ← lookupRules.read rest
    match path? g .cache with
    | some cache => return (.lookup (lookupOf cache g), g.leftover)
    | none => .error .invalid
  | _ => .error .invalid

/-- Reads a command line. A request for help is met before words that are left over are refused. -/
def read (args : List String) : Except Refusal Invocation := do
  let g ← commonRules.read args
  match g.taken.lookup .command with
  | some (name :: rest) =>
    let (command, leftover) ← readCommand name rest
    if g.leftover || leftover then .error .invalid
    else return { verbose := g.has .verbose, command }
  | _ => .error .invalid

end Invocation

/-- The status that a program ends with when it refuses its arguments, or only gives help. -/
def Arguments.Refusal.status : Arguments.Refusal → Nat
  | .help => 0
  | .invalid => 2

end ObjcAtlas
