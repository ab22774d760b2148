import ObjcAtlas.Proofs.HeaderWriting

/-! What a whole run writes, however it ends: after a look at the system images, which changes no file, the headers
of one binary after another. -/
namespace ObjcAtlas
open ObjcAtlas.Module (Item)

namespace Job
variable {α β : Type}

/-- The job changes no file. -/
def KeepsTree (job : Job α) : Prop := ∀ s, (job.runOn s).2.tree = s.tree

theorem KeepsTree.bind {job : Job α} {k : α → Job β} (h : KeepsTree job) (hk : ∀ a, KeepsTree (k a)) :
    KeepsTree (job >>= k) := by
  intro s
  have hs := h s
  rw [runOn_bind]
  generalize job.runOn s = r at hs ⊢
  obtain ⟨fault | a, t⟩ := r
  · exact hs
  · exact (hk a t).trans hs

theorem keepsTree_pure (a : α) : KeepsTree (pure a) := fun _ => rfl

theorem keepsTree_throw (f : Failure) : KeepsTree (throw f : Job α) := fun _ => rfl

theorem keepsTree_get : KeepsTree get := fun _ => rfl

theorem keepsTree_log (e : Event) : KeepsTree (log e) := fun _ => rfl

theorem keepsTree_modifyProgress (f : Progress → Progress) : KeepsTree (modifyProgress f) := fun _ => rfl

theorem keepsTree_reportSummary : KeepsTree reportSummary := fun _ => rfl

theorem keepsTree_ofExcept (r : Except Failure α) : KeepsTree (ofExcept r) := by
  intro s
  rw [runOn_ofExcept]

theorem KeepsTree.attempt {job : Job α} (h : KeepsTree job) : KeepsTree job.attempt := by
  intro s
  rw [runOn_attempt]
  exact h s

theorem keepsTree_mapM {job : α → Job β} (xs : List α) (h : ∀ x, KeepsTree (job x)) :
    KeepsTree (xs.mapM job) := by
  induction xs with
  | nil => exact keepsTree_pure []
  | cons x xs ih =>
    rw [List.mapM_cons]
    exact (h x).bind fun a => ih.bind fun as => keepsTree_pure _

theorem KeepsTree.reportingFailure {job : Job α} (function : String) (h : KeepsTree job) :
    KeepsTree (Job.reportingFailure function job) := by
  refine h.attempt.bind fun r => ?_
  cases r with
  | ok a => exact keepsTree_pure a
  | error f => exact (keepsTree_log _).bind fun _ => keepsTree_throw f

theorem keepsTree_popOperation : KeepsTree popOperation := by
  refine keepsTree_get.bind fun s => ?_
  split
  · exact keepsTree_throw .noOperation
  · exact keepsTree_modifyProgress _

theorem KeepsTree.operation {job : Job α} (name : String) (h : KeepsTree job) :
    KeepsTree (Job.operation name job) := by
  refine (keepsTree_modifyProgress _).bind fun _ => (keepsTree_log _).bind fun _ => h.attempt.bind fun r => ?_
  cases r with
  | ok a => exact (keepsTree_log _).bind fun _ => keepsTree_popOperation.bind fun _ => keepsTree_ofExcept _
  | error f => exact (keepsTree_log _).bind fun _ => keepsTree_popOperation.bind fun _ => keepsTree_ofExcept _

/-- Loading an image changes the cache only. -/
theorem keepsTree_image (name : String) : KeepsTree (image name) := by
  intro s
  simp only [image, runOn_bind, runOn_get, continueWith_ok]
  cases s.cache with
  | none => rfl
  | some c =>
    simp only [runOn_bind, runOn_set, continueWith_ok, runOn_ofExcept]

/-- A report of failures writes nothing. -/
theorem emits_reportingFailure {ι : Type} {style : Header.Style} {R : ι → Header → Prop} {xs : List ι} {a : α}
    {body : Job α} {s : Session} (function : String) (h : Emits style R xs a s (body.runOn s)) :
    Emits style R xs a s ((Job.reportingFailure function body).runOn s) := by
  simp only [Job.reportingFailure, runOn_bind, runOn_attempt, continueWith_ok]
  generalize body.runOn s = r at h ⊢
  cases h with
  | all ws hx hR ht => exact .all ws hx hR ht
  | part ws hx hR ht => exact .part ws hx hR ht

end Job

theorem FoundationIndex.keepsTree_scan (images : List String) : Job.KeepsTree (scan images) := by
  refine Job.KeepsTree.reportingFailure _ (Job.keepsTree_get.bind fun s => ?_)
  split
  · exact Job.keepsTree_pure _
  · refine (Job.keepsTree_mapM images fun name => ?_).bind fun names =>
      (Job.keepsTree_log _).bind fun _ => Job.keepsTree_pure _
    exact (Job.keepsTree_image name).bind fun b => (Job.keepsTree_ofExcept b.classes).bind fun cs =>
      (Job.keepsTree_ofExcept b.protocols).bind fun ps => Job.keepsTree_pure _

namespace Generator
variable (g : Generator)

/-- The look at the system images that a run begins with. -/
def scan : Job FoundationIndex := Job.operation "foundation index" (FoundationIndex.scan foundationImages)

/-- The names that a run leaves out; none if they cannot be found out, in which case nothing is written. -/
def indexOn (s : Session) : FoundationIndex :=
  match (scan.runOn s).1 with
  | .ok f => f
  | .error _ => {}

/-- The binaries of a run in their order. -/
def binaries : List Binary := g.dependencies ++ [g.binary]

/-- The headers of a run, each with its binary. -/
def items (f : FoundationIndex) : List (Binary × Item) :=
  g.binaries.flatMap fun b => (b.items f).map fun x => (b, x)

/-- What a run does once it knows what to leave out. -/
def runWith (f : FoundationIndex) : Job (FoundationIndex × List ModuleResult) := do
  let results ← g.binaries.mapM (g.writeModule f)
  Job.reportSummary
  return (f, results.filterMap id)

/-- What a complete run reports. -/
def results (f : FoundationIndex) : FoundationIndex × List ModuleResult :=
  (f, (g.binaries.map fun b => b.module?.map (g.resultOf f)).filterMap id)

theorem emits_runWith (f : FoundationIndex) (s : Session) :
    Job.Emits g.style (fun x : Binary × Item => g.RendersOf f x.1 x.2) (g.items f) (g.results f) s
      ((g.runWith f).runOn s) := by
  rw [runWith, Job.runOn_bind]
  refine (Job.emits_mapM g.binaries (fun b t => (g.emits_writeModule f b t).map (fun x => (b, x))
    fun x h hx => hx) s).beforeSilent fun t => ?_
  exact .silent _ rfl

theorem emits_run (s : Session) : Job.Emits g.style (fun x : Binary × Item => g.RendersOf (indexOn s) x.1 x.2)
    (g.items (indexOn s)) (g.results (indexOn s)) s (g.run.runOn s) := by
  -- the look at the system images comes first and writes nothing
  have hscan : Job.Emits g.style (fun x : Binary × Item => g.RendersOf (indexOn s) x.1 x.2) [] (indexOn s) s
      (scan.runOn s) := by
    have ht : (scan.runOn s).2.tree = s.tree := (FoundationIndex.keepsTree_scan _).operation _ s
    rw [indexOn]
    generalize scan.runOn s = r at ht ⊢
    obtain ⟨fault | f, t⟩ := r
    · exact .failed ht
    · exact .silent _ ht
  refine Job.emits_reportingFailure _ ?_
  rw [Job.runOn_bind]
  exact hscan.afterSilent fun t => g.emits_runWith (indexOn s) t

/-- The run on `s` writes these headers for these items and no other. -/
structure RunWrites (s : Session) (ws : List ((Binary × Item) × Header)) : Prop where
  rendered : ∀ w ∈ ws, g.RendersOf (indexOn s) w.1.1 w.1.2 w.2
  first : ws.map (·.1) <+: g.items (indexOn s)
  all : ∀ r, (g.run.runOn s).1 = .ok r → ws.map (·.1) = g.items (indexOn s)
  written : FileTree.Written g.style (ws.map (·.2)) s.tree (g.run.runOn s).2.tree

variable {g} in
theorem RunWrites.mem_binaries {s : Session} {ws : List ((Binary × Item) × Header)} (h : g.RunWrites s ws)
    {w : (Binary × Item) × Header} (hw : w ∈ ws) : w.1.1 ∈ g.binaries := by
  have hi : w.1 ∈ g.items (indexOn s) := h.first.subset (List.mem_map_of_mem hw)
  obtain ⟨b, hb, hbw⟩ := List.mem_flatMap.mp hi
  obtain ⟨x, -, hbx⟩ := List.mem_map.mp hbw
  rwa [← hbx]

theorem exists_runWrites (s : Session) : ∃ ws, g.RunWrites s ws := by
  obtain ⟨ws, hR, hx, hall, hw⟩ := (g.emits_run s).exists_written
  exact ⟨ws, hR, hx, fun r hr => (hall r hr).1, hw⟩

end Generator
end ObjcAtlas
