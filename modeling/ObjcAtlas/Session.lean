import ObjcAtlas.Journal
import ObjcAtlas.SharedCache

/-! The state that a run changes, and jobs: steps that change it and may fail. What a job did before it
failed stays done. -/
namespace ObjcAtlas

/-- How far a run has come: modules begun, headers written, and the operations under way, innermost last. -/
structure Progress where
  modules : Nat := 0
  headers : Nat := 0
  operations : List String := []
  deriving DecidableEq

structure Session where
  tree : FileTree := {}
  journal : List Event := []
  progress : Progress := {}
  cache : Option SharedCache := none
  output : String := ""
  /-- Progress after each step of a script, under the step's label. -/
  marks : List (String × Progress) := []

abbrev Job (α : Type) := ExceptT Failure (StateM Session) α

namespace Job

/-- Runs a job on a session: its outcome and the session it leaves. -/
def runOn {α : Type} (job : Job α) (s : Session) : Except Failure α × Session := StateT.run (ExceptT.run job) s

/-- The outcome of a job as a value. -/
def attempt {α : Type} (job : Job α) : Job (Except Failure α) := ExceptT.lift (ExceptT.run job)

/-- Goes on with the value of an outcome, or fails as it did. -/
def ofExcept {α : Type} : Except Failure α → Job α
  | .ok a => pure a
  | .error f => throw f

def log (e : Event) : Job Unit := modify fun s => { s with journal := s.journal ++ [e] }

def print (text : String) : Job Unit := modify fun s => { s with output := s.output ++ text }

def modifyProgress (f : Progress → Progress) : Job Unit :=
  modify fun s => { s with progress := f s.progress }

/-- The binary of an image of the session's cache. -/
def image (name : String) : Job Binary := do
  let s ← get
  match s.cache with
  | none => throw (.imageMissing name)
  | some c =>
    let (r, c') := c.image s.tree name
    set { s with cache := some c' }
    ofExcept r

/-- Reports the failure of a job before it fails with it. -/
def reportingFailure {α : Type} (function : String) (job : Job α) : Job α := do
  match ← job.attempt with
  | .ok a => return a
  | .error f =>
    log (.callFailed function f)
    throw f

end Job
end ObjcAtlas
