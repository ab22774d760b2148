import Mathlib.Control.Lawful
import ObjcAtlas.Progress

/-! Runs of jobs step by step: the outcome and the session of a job from those of its parts. -/
namespace ObjcAtlas.Job
variable {α β : Type}

/-- What a job does after another one has ended. -/
def continueWith (k : α → Job β) : Except Failure α × Session → Except Failure β × Session
  | (.ok a, s) => (k a).runOn s
  | (.error f, s) => (.error f, s)

@[simp] theorem continueWith_ok (k : α → Job β) (a : α) (s : Session) :
    continueWith k (.ok a, s) = (k a).runOn s := rfl

@[simp] theorem continueWith_error (k : α → Job β) (f : Failure) (s : Session) :
    continueWith k (.error f, s) = (.error f, s) := rfl

@[simp] theorem runOn_pure (a : α) (s : Session) : (pure a : Job α).runOn s = (.ok a, s) := rfl

@[simp] theorem runOn_throw (f : Failure) (s : Session) : (throw f : Job α).runOn s = (.error f, s) := rfl

@[simp] theorem runOn_get (s : Session) : (get : Job Session).runOn s = (.ok s, s) := rfl

@[simp] theorem runOn_set (t s : Session) : (set t : Job Unit).runOn s = (.ok (), t) := rfl

@[simp] theorem runOn_attempt (j : Job α) (s : Session) :
    j.attempt.runOn s = (.ok (j.runOn s).1, (j.runOn s).2) := rfl

@[simp] theorem runOn_ofExcept (r : Except Failure α) (s : Session) : (ofExcept r).runOn s = (r, s) := by
  cases r <;> rfl

@[simp] theorem runOn_bind (j : Job α) (k : α → Job β) (s : Session) :
    (j >>= k).runOn s = continueWith k (j.runOn s) := by
  show StateT.run (ExceptT.run (j >>= k)) s = _
  rw [ExceptT.run_bind, StateT.run_bind]
  show _ = continueWith k (StateT.run (ExceptT.run j) s)
  rcases StateT.run (ExceptT.run j) s with ⟨a | f, t⟩ <;> rfl

theorem runOn_bind_congr {j : Job α} {s t : Session} (h : j.runOn s = j.runOn t) (k : α → Job β) :
    (j >>= k).runOn s = (j >>= k).runOn t := by
  rw [runOn_bind, runOn_bind, h]

@[simp] theorem runOn_log (e : Event) (s : Session) :
    (log e).runOn s = (.ok (), { s with journal := s.journal ++ [e] }) := rfl

@[simp] theorem runOn_modifyProgress (f : Progress → Progress) (s : Session) :
    (modifyProgress f).runOn s = (.ok (), { s with progress := f s.progress }) := rfl

/-- The session in which the work on a module starts. -/
def beginModule (name : String) (s : Session) : Session :=
  { s with journal := s.journal ++ [.moduleStarted (s.progress.modules + 1) name]
           progress := { s.progress with modules := s.progress.modules + 1 } }

/-- What is reported at the end of a module that began at the given progress. -/
def moduleEnd (name : String) (before : Progress) : Except Failure α × Session → Event
  | (.ok _, s) => .moduleCompleted name ((s.progress.headers : Int) - before.headers)
  | (.error f, _) => .moduleFailed name f

theorem runOn_module (name : String) (body : Job α) (s : Session) :
    (Job.module name body).runOn s =
      ((body.runOn (beginModule name s)).1,
        { (body.runOn (beginModule name s)).2 with
          journal := (body.runOn (beginModule name s)).2.journal ++
            [moduleEnd name s.progress (body.runOn (beginModule name s))] }) := by
  simp only [Job.module, beginModule, runOn_bind, runOn_modifyProgress, runOn_get, runOn_log, runOn_attempt,
    continueWith_ok]
  rcases body.runOn _ with ⟨a | f, t⟩ <;> rfl

/-- A job that does not miss any files goes on as with them. -/
theorem runOn_module_congr {body : Job α} {t : FileTree} (name : String) (s : Session)
    (h : body.runOn (beginModule name s) = body.runOn { beginModule name s with tree := t }) :
    (Job.module name body).runOn s = (Job.module name body).runOn { s with tree := t } := by
  have hbegin : beginModule name { s with tree := t } = { beginModule name s with tree := t } := rfl
  rw [runOn_module, runOn_module, hbegin, h]

/-- The session in which the work on an operation starts. -/
def beginOperation (name : String) (s : Session) : Session :=
  { s with journal := s.journal ++ [.operationStarted name]
           progress := { s.progress with operations := s.progress.operations ++ [name] } }

/-- What is reported at the end of an operation. -/
def operationEnd (name : String) : Except Failure α → Event
  | .ok _ => .operationCompleted name
  | .error f => .operationFailed name f

theorem runOn_popOperation (s : Session) : popOperation.runOn s =
    if s.progress.operations.isEmpty then (.error .noOperation, s)
    else (.ok (), { s with progress := { s.progress with operations := s.progress.operations.dropLast } }) := by
  simp only [popOperation, runOn_bind, runOn_get, continueWith_ok]
  split <;> rfl

theorem runOn_popOperation_nil {s : Session} (h : s.progress.operations = []) :
    popOperation.runOn s = (.error .noOperation, s) := by
  rw [runOn_popOperation, h]
  rfl

theorem runOn_popOperation_append {s : Session} {operations : List String} {name : String}
    (h : s.progress.operations = operations ++ [name]) :
    popOperation.runOn s = (.ok (), { s with progress := { s.progress with operations } }) := by
  rw [runOn_popOperation, h, List.dropLast_concat, if_neg (by simp)]

theorem runOn_operation (name : String) (body : Job α) (s : Session) :
    (Job.operation name body).runOn s =
      continueWith (fun _ => ofExcept (body.runOn (beginOperation name s)).1)
        (popOperation.runOn { (body.runOn (beginOperation name s)).2 with
          journal := (body.runOn (beginOperation name s)).2.journal ++
            [operationEnd name (body.runOn (beginOperation name s)).1] }) := by
  simp only [Job.operation, beginOperation, runOn_bind, runOn_modifyProgress, runOn_log, runOn_attempt,
    continueWith_ok]
  obtain ⟨f | a, t⟩ := body.runOn _
  · simp only [runOn_bind, runOn_log, continueWith_ok, operationEnd]
  · simp only [runOn_bind, runOn_log, continueWith_ok, operationEnd]

theorem runOn_reportingFailure (function : String) (body : Job α) (s : Session) :
    (Job.reportingFailure function body).runOn s =
      match body.runOn s with
      | (.ok a, t) => (.ok a, t)
      | (.error f, t) => (.error f, { t with journal := t.journal ++ [.callFailed function f] }) := by
  simp only [Job.reportingFailure, runOn_bind, runOn_attempt, continueWith_ok]
  obtain ⟨f | a, t⟩ := body.runOn s <;> rfl

/-- Taking an image changes the cache only. -/
theorem runOn_image (name : String) (s : Session) : (image name).runOn s =
    match s.cache with
    | none => (.error (.imageMissing name), s)
    | some c => ((c.image s.tree name).1, { s with cache := some (c.image s.tree name).2 }) := by
  simp only [image, runOn_bind, runOn_get, continueWith_ok]
  cases s.cache with
  | none => rfl
  | some c => simp only [runOn_bind, runOn_set, continueWith_ok, runOn_ofExcept]

end ObjcAtlas.Job
