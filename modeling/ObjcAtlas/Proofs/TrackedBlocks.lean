import Mathlib.Data.List.DropRight
import ObjcAtlas.Proofs.JobRuns

/-! Tracked work as brackets. What a job does to the progress is told by the calls that it makes, and a block is left
with the outcome of its body, the operations that were under way before it, and the headers counted in it, unless the
progress was reset inside: then an operation finds nothing to end. -/
namespace ObjcAtlas

/-- A call that changes the progress for good. -/
inductive Call where
  | module
  | header
  | reset
  deriving DecidableEq

/-- The calls that a job makes and how it ends. -/
structure Course where
  calls : List Call
  outcome : Except Failure Unit

namespace Progress

def after (p : Progress) : Call → Progress
  | .module => { p with modules := p.modules + 1 }
  | .header => { p with headers := p.headers + 1 }
  | .reset => {}

def afterAll (p : Progress) (calls : List Call) : Progress := calls.foldl after p

section Calls
variable {calls : List Call} {p : Progress}

@[simp] theorem afterAll_nil (p : Progress) : p.afterAll [] = p := rfl

@[simp] theorem afterAll_cons (p : Progress) (c : Call) (calls : List Call) :
    p.afterAll (c :: calls) = (p.after c).afterAll calls := rfl

@[simp] theorem afterAll_append (p : Progress) (calls more : List Call) :
    p.afterAll (calls ++ more) = (p.afterAll calls).afterAll more := List.foldl_append

/-- A reset forgets what was before. -/
theorem afterAll_eq_of_reset (h : .reset ∈ calls) (p q : Progress) : p.afterAll calls = q.afterAll calls := by
  obtain ⟨before, since, rfl⟩ := List.append_of_mem h
  rw [afterAll_append, afterAll_append]
  rfl

/-- Calls but for a reset leave the operations alone. -/
theorem afterAll_withOperations (h : .reset ∉ calls) (p : Progress) (operations : List String) :
    { p with operations }.afterAll calls = { p.afterAll calls with operations } := by
  induction calls generalizing p with
  | nil => rfl
  | cons c calls ih =>
    obtain ⟨hc, hcalls⟩ := not_or.mp (mt List.mem_cons.mpr h)
    cases c with
    | module => exact ih hcalls (p.after .module)
    | header => exact ih hcalls (p.after .header)
    | reset => exact absurd rfl hc

theorem operations_afterAll (p : Progress) (calls : List Call) :
    (p.afterAll calls).operations = if .reset ∈ calls then [] else p.operations := by
  induction calls generalizing p with
  | nil => rfl
  | cons c calls ih => cases c <;> simp [ih, after]

/-- An operation that ends takes its name off the stack again. -/
theorem afterAll_entered (h : .reset ∉ calls) (p : Progress) (name : String) :
    { { p with operations := p.operations ++ [name] }.afterAll calls with operations := p.operations } =
      p.afterAll calls := by
  have hsame : (p.afterAll calls).operations = p.operations := by rw [operations_afterAll, if_neg h]
  rw [afterAll_withOperations h, ← hsame]

/-- The calls since the last reset, or all if there is none. -/
def sinceReset (calls : List Call) : List Call := calls.rtakeWhile (· ≠ .reset)

theorem headers_afterAll (p : Progress) (calls : List Call) :
    (p.afterAll calls).headers = (if .reset ∈ calls then 0 else p.headers) + (sinceReset calls).count .header := by
  induction calls using List.reverseRecOn with
  | nil => rfl
  | append_singleton calls c ih =>
    rw [sinceReset] at ih
    cases c <;> simp [sinceReset, after, ih, Nat.add_assoc]

theorem sinceReset_eq_self (h : .reset ∉ calls) : sinceReset calls = calls := by
  rw [sinceReset, List.rtakeWhile_eq_self_iff]
  intro c hc
  have hne : c ≠ .reset := by
    rintro rfl
    exact h hc
  simpa using hne

end Calls

end Progress

namespace Course
variable {c d : Course}

def followedBy (c d : Course) : Course :=
  match c.outcome with
  | .ok _ => ⟨c.calls ++ d.calls, d.outcome⟩
  | .error _ => c

def handledBy (c : Course) (handler : Failure → Course) : Course :=
  match c.outcome with
  | .ok _ => c
  | .error f => ⟨c.calls ++ (handler f).calls, (handler f).outcome⟩

/-- An operation that finds itself gone from the stack fails. -/
def inOperation (c : Course) : Course := ⟨c.calls, if .reset ∈ c.calls then .error .noOperation else c.outcome⟩

def inModule (c : Course) : Course := ⟨.module :: c.calls, c.outcome⟩

/-- How many headers a module is said to have, begun when so many were counted. -/
def written (c : Course) (before : Nat) : Int :=
  if .reset ∈ c.calls then ((Progress.sinceReset c.calls).count .header : Int) - before else c.calls.count .header

/-- What is said of a module at its end. -/
def report (c : Course) (name : String) (before : Nat) : Event :=
  match c.outcome with
  | .ok _ => .moduleCompleted name (c.written before)
  | .error f => .moduleFailed name f

theorem written_eq (c : Course) (p : Progress) :
    c.written p.headers = ((p.afterAll c.calls).headers : Int) - p.headers := by
  rw [written, Progress.headers_afterAll]
  split
  · rw [Nat.zero_add]
  · next h =>
    rw [Progress.sinceReset_eq_self h]
    omega

/-- After a reset the headers are counted right only if there are none from before it. -/
theorem written_eq_count_iff (c : Course) (before : Nat) :
    c.written before = c.calls.count .header ↔ .reset ∉ c.calls ∨
      before = 0 ∧ (Progress.sinceReset c.calls).count .header = c.calls.count .header := by
  have hle : (Progress.sinceReset c.calls).count .header ≤ c.calls.count .header :=
    (List.rtakeWhile_suffix ..).sublist.count_le _
  rw [written]
  split
  · next h =>
    simp only [h, not_true_eq_false, false_or]
    omega
  · next h => simp [h]

end Course

namespace Job
variable {j k : Job Unit} {c d : Course} {s : Session}

/-- A job and, if it fails, what is to be done then. -/
def handling (body : Job Unit) (handler : Failure → Job Unit) : Job Unit := do
  match ← body.attempt with
  | .ok _ => return
  | .error f => handler f

/-- Jobs put together from the calls of a tracker, with failures of any kind anywhere. -/
inductive Tracked : Job Unit → Course → Prop
  | done : Tracked (pure ()) ⟨[], .ok ()⟩
  | header : Tracked countHeader ⟨[.header], .ok ()⟩
  | reset : Tracked resetProgress ⟨[.reset], .ok ()⟩
  | report : Tracked reportSummary ⟨[], .ok ()⟩
  | mark (label : String) : Tracked (mark label) ⟨[], .ok ()⟩
  | fail (f : Failure) : Tracked (throw f) ⟨[], .error f⟩
  | seq {j k : Job Unit} {c d : Course} (hj : Tracked j c) (hk : Tracked k d) : Tracked (do j; k) (c.followedBy d)
  | handling {j : Job Unit} {k : Failure → Job Unit} {c : Course} {d : Failure → Course} (hj : Tracked j c)
      (hk : ∀ f, Tracked (k f) (d f)) : Tracked (handling j k) (c.handledBy d)
  | operation {j : Job Unit} {c : Course} (name : String) (hj : Tracked j c) :
      Tracked (operation name j) c.inOperation
  | module {j : Job Unit} {c : Course} (name : String) (hj : Tracked j c) : Tracked (module name j) c.inModule

/-- The job ends as the course does, and its calls are all that becomes of the progress. -/
def Follows (j : Job Unit) (c : Course) : Prop :=
  ∀ s, (j.runOn s).1 = c.outcome ∧ (j.runOn s).2.progress = s.progress.afterAll c.calls

namespace Follows

theorem seq (hj : j.Follows c) (hk : k.Follows d) : Follows (do j; k) (c.followedBy d) := by
  intro s
  obtain ⟨ho, hp⟩ := hj s
  rw [runOn_bind, Course.followedBy, ← ho]
  generalize j.runOn s = r at ho hp ⊢
  obtain ⟨f | a, t⟩ := r
  · exact ⟨ho, hp⟩
  · obtain ⟨ho', hp'⟩ := hk t
    exact ⟨ho', by rw [continueWith_ok, hp', hp, Progress.afterAll_append]⟩

theorem handling {k : Failure → Job Unit} {d : Failure → Course} (hj : j.Follows c) (hk : ∀ f, (k f).Follows (d f)) :
    Follows (handling j k) (c.handledBy d) := by
  intro s
  obtain ⟨ho, hp⟩ := hj s
  rw [Job.handling, runOn_bind, runOn_attempt, continueWith_ok, Course.handledBy, ← ho]
  generalize j.runOn s = r at ho hp ⊢
  obtain ⟨f | a, t⟩ := r
  · obtain ⟨ho', hp'⟩ := hk f t
    exact ⟨ho', by rw [hp', hp, Progress.afterAll_append]⟩
  · exact ⟨ho, hp⟩

theorem operation (name : String) (hj : j.Follows c) : Follows (operation name j) c.inOperation := by
  intro s
  obtain ⟨ho, hp⟩ := hj (beginOperation name s)
  have hoperations := Progress.operations_afterAll (beginOperation name s).progress c.calls
  rw [← hp] at hoperations
  rw [runOn_operation]
  by_cases hreset : .reset ∈ c.calls
  · -- the stack is empty, and what was before the reset does not matter
    rw [if_pos hreset] at hoperations
    rw [runOn_popOperation_nil, Course.inOperation, if_pos hreset]
    · exact ⟨rfl, hp.trans (Progress.afterAll_eq_of_reset hreset _ _)⟩
    · exact hoperations
  · rw [if_neg hreset] at hoperations
    rw [runOn_popOperation_append, Course.inOperation, if_neg hreset, continueWith_ok, runOn_ofExcept]
    · refine ⟨ho, ?_⟩
      rw [← Progress.afterAll_entered hreset s.progress name]
      exact congrArg (fun p : Progress => { p with operations := s.progress.operations }) hp
    · exact hoperations

theorem module (name : String) (hj : j.Follows c) : Follows (module name j) c.inModule := by
  intro s
  obtain ⟨ho, hp⟩ := hj (beginModule name s)
  rw [runOn_module]
  exact ⟨ho, hp⟩

end Follows

theorem Tracked.follows (h : Tracked j c) : j.Follows c := by
  induction h with
  | done => exact fun _ => ⟨rfl, rfl⟩
  | header => exact fun _ => ⟨rfl, rfl⟩
  | reset => exact fun _ => ⟨rfl, rfl⟩
  | report => exact fun _ => ⟨rfl, rfl⟩
  | mark label => exact fun _ => ⟨rfl, rfl⟩
  | fail f => exact fun _ => ⟨rfl, rfl⟩
  | seq _ _ hj hk => exact hj.seq hk
  | handling _ _ hj hk => exact hj.handling hk
  | operation name _ hj => exact hj.operation name
  | module name _ hj => exact hj.module name

section Blocks
variable {body : Job Unit} (h : Tracked body c) (name : String) (s : Session)
include h

theorem Tracked.fst_runOn_operation : ((Job.operation name body).runOn s).1 =
    if .reset ∈ c.calls then .error .noOperation else (body.runOn (beginOperation name s)).1 := by
  rw [(h.follows.operation name s).1, (h.follows (beginOperation name s)).1]
  rfl

theorem Tracked.operations_runOn_operation : ((Job.operation name body).runOn s).2.progress.operations =
    if .reset ∈ c.calls then [] else s.progress.operations := by
  rw [(h.follows.operation name s).2]
  exact Progress.operations_afterAll _ _

theorem Tracked.getLast?_journal_runOn_module :
    ((Job.module name body).runOn s).2.journal.getLast? = some (c.report name s.progress.headers) := by
  obtain ⟨houtcome, hprogress⟩ := h.follows (beginModule name s)
  have hwritten := c.written_eq (beginModule name s).progress
  rw [← hprogress] at hwritten
  rw [runOn_module, List.getLast?_concat, Course.report, ← houtcome]
  generalize body.runOn (beginModule name s) = r at hwritten
  obtain ⟨f | _, t⟩ := r
  · rfl
  · exact congrArg (fun n => some (Event.moduleCompleted name n)) hwritten.symm

end Blocks

end Job

namespace Step
open Job (Tracked)

theorem tracked_countTimes (n : Nat) : ∃ c, Tracked (countTimes n) c := by
  induction n with
  | zero => exact ⟨_, .done⟩
  | succ n ih =>
    obtain ⟨c, h⟩ := ih
    exact ⟨_, .seq .header h⟩

/-- Goes on after a look-up of a missing key and fails with every other failure. -/
def unlessMissing : Failure → Job Unit
  | .missing _ => pure ()
  | f => throw f

theorem recovering_eq (body : Job Unit) : recovering body = Job.handling body unlessMissing := by
  rw [recovering, Job.handling]
  refine bind_congr fun r => ?_
  cases r with
  | ok _ => rfl
  | error f => cases f <;> rfl

theorem tracked_recovering {body : Job Unit} {c : Course} (h : Tracked body c) : ∃ d, Tracked (recovering body) d := by
  have hhandler : ∀ f, ∃ d, Tracked (unlessMissing f) d := by
    intro f
    fun_cases unlessMissing f with
    | case1 => exact ⟨_, .done⟩
    | case2 f => exact ⟨_, .fail f⟩
  choose d hd using hhandler
  rw [recovering_eq]
  exact ⟨_, h.handling hd⟩

mutual
/-- Every script is put together from the calls of a tracker. -/
theorem exists_tracked_run : ∀ step : Step, ∃ c, Tracked (run step) c
  | .operation name body => by
    obtain ⟨c, h⟩ := exists_tracked_runAll body
    exact ⟨_, .seq (.operation name h) (.mark _)⟩
  | .module name body => by
    obtain ⟨c, h⟩ := exists_tracked_runAll body
    exact ⟨_, .seq (.module name h) (.mark _)⟩
  | .count times => by
    obtain ⟨c, h⟩ := tracked_countTimes times
    exact ⟨_, .seq h (.mark _)⟩
  | .reset => ⟨_, .seq .reset (.mark _)⟩
  | .report => ⟨_, .seq .report (.mark _)⟩
  | .fail key => ⟨_, .fail (.missing key)⟩
  | .recover body => by
    obtain ⟨c, h⟩ := exists_tracked_runAll body
    obtain ⟨d, h⟩ := tracked_recovering h
    exact ⟨_, .seq h (.mark _)⟩
theorem exists_tracked_runAll : ∀ steps : List Step, ∃ c, Tracked (runAll steps) c
  | [] => ⟨_, .done⟩
  | step :: steps => by
    obtain ⟨c, h⟩ := exists_tracked_run step
    obtain ⟨d, hrest⟩ := exists_tracked_runAll steps
    exact ⟨_, .seq h hrest⟩
end

/-- All scripts are made of blocks that are left with the outcome of the body and the operations of before, where a
module is said to have as many headers as were counted in it, unless there was a reset in the block. Then an operation
fails for want of itself and leaves no operation, and headers from before the reset are missing from the count. -/
theorem blocks_bracketed (name : String) (s : Session) :
    (∀ steps : List Step, ∃ c, Tracked (runAll steps) c) ∧
    ∀ body c, Tracked body c →
      ((Job.operation name body).runOn s).1 =
        (if .reset ∈ c.calls then .error .noOperation else (body.runOn (Job.beginOperation name s)).1) ∧
      ((Job.operation name body).runOn s).2.progress.operations =
        (if .reset ∈ c.calls then [] else s.progress.operations) ∧
      ((Job.module name body).runOn s).1 = (body.runOn (Job.beginModule name s)).1 ∧
      ((Job.module name body).runOn s).2.journal.getLast? = some (c.report name s.progress.headers) ∧
      (c.written s.progress.headers = c.calls.count .header ↔ .reset ∉ c.calls ∨
        s.progress.headers = 0 ∧ (Progress.sinceReset c.calls).count .header = c.calls.count .header) := by
  refine ⟨exists_tracked_runAll, fun body c h => ⟨h.fst_runOn_operation name s, h.operations_runOn_operation name s, ?_,
    h.getLast?_journal_runOn_module name s, c.written_eq_count_iff _⟩⟩
  rw [Job.runOn_module]

theorem blocks_bracketed_reset :
    Tracked (do Job.countHeader; Job.resetProgress) ⟨[.header, .reset], .ok ()⟩ ∧
    ((Job.operation "a" (do Job.countHeader; Job.resetProgress)).runOn {}).1 = .error .noOperation ∧
    ((Job.module "m" (do Job.countHeader; Job.resetProgress)).runOn
      { progress := { headers := 3 } }).2.journal.getLast? = some (.moduleCompleted "m" (-3)) := by
  have h : Tracked (do Job.countHeader; Job.resetProgress) ⟨[.header, .reset], .ok ()⟩ := .seq .header .reset
  have hoperation := (blocks_bracketed "a" {}).2 _ _ h
  have hmodule := (blocks_bracketed "m" { progress := { headers := 3 } }).2 _ _ h
  exact ⟨h, hoperation.1, hmodule.2.2.2.1⟩

/-- The operation that was under way is gone after a reset, so that leaving it fails although its body does not. -/
theorem not_all_bracketed : ¬ ∀ (name : String) (body : List Step) (s : Session),
    ((Job.operation name (runAll body)).runOn s).1 = ((runAll body).runOn (Job.beginOperation name s)).1 := by
  intro h
  have hreset := h "a" [.reset] {}
  cases hreset

end Step

end ObjcAtlas
