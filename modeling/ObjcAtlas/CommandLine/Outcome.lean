import ObjcAtlas.AddressLookup
import ObjcAtlas.CommandLine.Invocation
import ObjcAtlas.Configuration
import ObjcAtlas.Generation

/-! Commands carried out on a tree of files, and what becomes of them: the status, what was printed, reported and
written. -/
namespace ObjcAtlas
namespace Job

def makeDirectories (p : Path) : Job Unit := do
  let s ← get
  let (made, tree) := s.tree.makeDirectories p
  set { s with tree }
  ofExcept (made.mapError .file)

def writeFile (p : Path) (text : String) : Job Unit := do
  let s ← get
  set { s with tree := ← ofExcept ((s.tree.write p text.toUTF8).mapError .file) }

def loadBinary (p : Path) : Job Binary := do ofExcept (Binary.load (← get).tree p)

/-- Opens a cache that stays open for the rest of the run. -/
def openCache (p : Path) : Job SharedCache := do
  let c ← ofExcept (SharedCache.load (← get).tree p)
  log (.cacheLoaded p c.images.length)
  modify fun s => { s with cache := some c }
  return c

/-- Makes the directory of logs and an empty log in it. -/
def openLog (name : String) (logs : Path) : Job Unit := do
  makeDirectories logs
  writeFile (logs ++ Path.ofString name) ""

/-- Opens the binary and the cache that a configuration names; one that has been checked names a binary. -/
def openInputs (c : Configuration) : Job (Option Binary) := do
  let binary ← c.binary.mapM loadBinary
  let _ ← c.cache.mapM openCache
  return binary

/-- The status of a job: zero, or one after a failure that the tool declares, which is reported. -/
def status (job : Job Unit) : Job Nat := do
  match ← job.attempt with
  | .ok _ => return 0
  | .error f =>
    if f.isDeclared then
      log (.commandFailed f)
      return 1
    else throw f

end Job

/-- Reports a module's headers and umbrella. -/
def ModuleResult.report (r : ModuleResult) : Job Unit := do
  Job.log (.moduleResult r.module r.headers.length)
  match r.umbrella with
  | some p => Job.log (.umbrellaResult p)
  | none => return

def HeadersRequest.run (settings : Settings) (c : Configuration) (r : HeadersRequest) : Job Unit := do
  let some binary ← Job.openInputs c | return
  Job.makeDirectories c.output
  let g ← Generator.prepare settings c.output c.toolVersion binary r.withImported
  let (_, results) ← g.run
  Job.log .rule
  Job.log .summaryTitle
  Job.log .rule
  results.forM ModuleResult.report

/-- What is listed; entities that a filter selects are always listed in full. -/
def DumpRequest.entries (l : Listing) (r : DumpRequest) : Except Failure (List String) :=
  match r.filter with
  | some (kind, pattern) => l.filtered kind pattern true
  | none => l.all r.long

def DumpRequest.run (c : Configuration) (r : DumpRequest) : Job Unit := do
  let some binary ← Job.openInputs c | return
  let l ← Listing.prepare binary r.withImported
  (← Job.ofExcept (r.entries l)).forM fun e => Job.print (e ++ "\n")

namespace LookupRequest

def readFailure (p : Path) : FileFault → Failure
  | .embeddedNull => .file .embeddedNull
  | _ => .configuration (.unreadableAddresses p)

/-- Puts out matches; if one has a number that is too long, what stands before it. -/
def tellAll (put : String → Job Unit) (found : List FunctionMatch) : Job Unit :=
  match FunctionMatch.writeAll found with
  | .ok text => put text
  | .error failure => do
    put (FunctionMatch.writtenUntilFault found)
    throw failure

/-- Finds the functions of all addresses in a file, and prints or writes them. -/
def runBatch (c : SharedCache) (slide : Int) (input : Path) (output : Option Path) : Job Unit := do
  let content ← Job.ofExcept (((← get).tree.read input).mapError (readFailure input))
  let addresses ← Job.ofExcept (Address.readBytes content)
  let found ← Job.ofExcept (c.lookupAll slide addresses)
  Job.log (.addressesResolved found.length addresses.length)
  match output with
  | none => tellAll Job.print found
  | some p =>
    tellAll (Job.writeFile p) found
    Job.log (.resultsWritten p)

/-- Finds the function of one address, and describes it. -/
def runSingle (c : SharedCache) (slide : Int) (text : String) : Job Unit := do
  let address ← Job.ofExcept (Address.parse text)
  match ← Job.ofExcept (c.lookup slide address) with
  | none => Job.log (.outsideFunctions (SharedCache.unslide slide address))
  | some m => Job.print ((← Job.ofExcept (m.describe address)) ++ "\n")

def run (r : LookupRequest) : Job Unit := do
  if r.input.isNone && r.address.isNone then throw (.configuration .noAddress)
  let c ← Job.openCache r.cache
  let slide ← Job.ofExcept (Address.parse r.slide)
  match r.input, r.address with
  | some input, _ => runBatch c slide input r.output
  | none, some text => runSingle c slide text
  | none, none => return

end LookupRequest

namespace Command

def needsBinary : Command → Bool
  | .lookup _ => false
  | _ => true

/-- The paths that take precedence over the environment; a look-up names none of them. -/
def overrides : Command → Overrides
  | .headers r => { binary := r.binary, output := r.output, cache := r.cache }
  | .dump r => { binary := r.binary, cache := r.cache }
  | .lookup _ => {}

def run (settings : Settings) (c : Configuration) : Command → Job Unit
  | .headers r => r.run settings c
  | .dump r => r.run c
  | .lookup r => r.run

end Command

namespace Invocation

def overrides (i : Invocation) : Overrides :=
  { i.command.overrides with verbose := if i.verbose then some true else none }

/-- The checked configuration of a run, and the environment that it leaves. -/
def configure (t : FileTree) (env : Environment) (i : Invocation) :
    Except SetupFailure (Configuration × Environment) := do
  let (c, env) ← Configuration.load t env Configuration.assignmentsPath i.overrides
  c.check t i.command.needsBinary
  return (c, env)

/-- The job of a run with its logs; its value is the status. -/
def job (logName : String) (settings : Settings) (c : Configuration) (i : Invocation) : Job Nat :=
  Job.reportingFailure "main" <| Job.status do
    let _ ← c.logs.mapM (Job.openLog logName)
    i.command.run settings c

end Invocation

inductive Ending where
  | exit (status : Nat)
  /-- A failure that the tool does not declare. -/
  | failed (failure : Failure)
  deriving DecidableEq

structure Outcome where
  ending : Ending
  session : Session
  /-- What is wrong with the configuration; nothing is reported then, for there are no logs yet. -/
  complaint : Option SetupFault := none
  /-- The log that the run keeps. -/
  log : Option Path := none
  verbose : Bool := false

namespace Outcome

def ofInvocation (logName : String) (t : FileTree) (env : Environment) (i : Invocation) : Outcome :=
  match i.configure t env with
  | .error (.setup fault) => { ending := .exit 1, session := { tree := t }, complaint := some fault }
  | .error (.file fault) => { ending := .failed (.file fault), session := { tree := t } }
  | .ok (c, env) =>
    let (result, session) := (i.job logName (Settings.ofEnvironment env) c).runOn { tree := t }
    let ending := match result with
      | .ok status => .exit status
      | .error failure => .failed failure
    { ending, session, log := c.logs.map (· ++ Path.ofString logName), verbose := c.verbose }

/-- What becomes of a command line. -/
def ofArguments (logName : String) (t : FileTree) (env : Environment) (args : List String) : Outcome :=
  match Invocation.read args with
  | .ok i => ofInvocation logName t env i
  | .error refusal => { ending := .exit refusal.status, session := { tree := t } }

/-- A refused command line changes no file. -/
theorem tree_of_refused {args : List String} {refusal : Arguments.Refusal} (h : Invocation.read args = .error refusal)
    (logName : String) (t : FileTree) (env : Environment) :
    (ofArguments logName t env args).session.tree = t := by
  simp only [ofArguments, h]

/-- Nothing is written before the configuration has been checked. -/
theorem tree_of_not_configured {i : Invocation} {t : FileTree} {env : Environment} {failure : SetupFailure}
    (h : i.configure t env = .error failure) (logName : String) : (ofInvocation logName t env i).session.tree = t := by
  cases failure <;> simp only [ofInvocation, h]

end Outcome
end ObjcAtlas
