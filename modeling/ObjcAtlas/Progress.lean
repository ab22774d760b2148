import ObjcAtlas.Session

/-! Tracked work: operations and modules as brackets around a job, counted headers, and scripts of such steps. -/
namespace ObjcAtlas
namespace Job

/-- Takes the innermost operation off the stack; there must be one. -/
def popOperation : Job Unit := do
  let s ← get
  if s.progress.operations.isEmpty then throw .noOperation
  else modifyProgress fun p => { p with operations := p.operations.dropLast }

/-- A job as a named operation: on the stack while it runs, its end reported either way. -/
def operation {α : Type} (name : String) (body : Job α) : Job α := do
  modifyProgress fun p => { p with operations := p.operations ++ [name] }
  log (.operationStarted name)
  let outcome ← body.attempt
  match outcome with
  | .ok _ => log (.operationCompleted name)
  | .error f => log (.operationFailed name f)
  popOperation
  ofExcept outcome

/-- A job as the work on one module: the module is counted and the headers written meanwhile reported. -/
def module {α : Type} (name : String) (body : Job α) : Job α := do
  modifyProgress fun p => { p with modules := p.modules + 1 }
  let before := (← get).progress
  log (.moduleStarted before.modules name)
  match ← body.attempt with
  | .ok a =>
    let after := (← get).progress
    log (.moduleCompleted name ((after.headers : Int) - before.headers))
    return a
  | .error f =>
    log (.moduleFailed name f)
    throw f

def countHeader : Job Unit := modifyProgress fun p => { p with headers := p.headers + 1 }

def reportSummary : Job Unit := do
  let p := (← get).progress
  log (.summary p.modules p.headers)

/-- Forgets all progress, also the operations under way. -/
def resetProgress : Job Unit := modifyProgress fun _ => {}

def mark (label : String) : Job Unit := modify fun s => { s with marks := s.marks ++ [(label, s.progress)] }

end Job

/-- A step of tracked work. -/
inductive Step where
  | operation (name : String) (body : List Step)
  | module (name : String) (body : List Step)
  | count (times : Nat)
  | reset
  | report
  /-- Fails with a look-up of a missing key. -/
  | fail (key : String)
  /-- Goes on when the body fails with a look-up of a missing key. -/
  | recover (body : List Step)
  deriving Inhabited

namespace Step

/-- Calls `countHeader` the given number of times. -/
def countTimes : Nat → Job Unit
  | 0 => return
  | n + 1 => do
    Job.countHeader
    countTimes n

/-- Runs a job; a look-up of a missing key does not count as its failure. -/
def recovering (body : Job Unit) : Job Unit := do
  match ← body.attempt with
  | .error (.missing _) => return
  | r => Job.ofExcept r

mutual
/-- Runs a step and leaves a mark when it completes. -/
def run : Step → Job Unit
  | .operation name body => do
    Job.operation name (runAll body)
    Job.mark "operation"
  | .module name body => do
    Job.module name (runAll body)
    Job.mark "module"
  | .count times => do
    countTimes times
    Job.mark "count"
  | .reset => do
    Job.resetProgress
    Job.mark "reset"
  | .report => do
    Job.reportSummary
    Job.mark "report"
  | .fail key => throw (.missing key)
  | .recover body => do
    recovering (runAll body)
    Job.mark "try"
def runAll : List Step → Job Unit
  | [] => return
  | s :: rest => do
    run s
    runAll rest
end

end Step
end ObjcAtlas
