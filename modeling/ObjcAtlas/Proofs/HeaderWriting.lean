import ObjcAtlas.Generation
import ObjcAtlas.Proofs.ImportResolution
import ObjcAtlas.Proofs.JobRuns

/-! What generation writes for one binary, however it ends: the headers of the entities in order, then the
umbrella, each as a text at its path. -/
namespace ObjcAtlas

/-- `u` arises from `t` when the headers are written in order, with directories made in between. -/
inductive FileTree.Written (style : Header.Style) : List Header → FileTree → FileTree → Prop
  | done (t : FileTree) : Written style [] t t
  | directories {hs : List Header} {t u : FileTree} (p : Path)
      (hu : Written style hs (t.makeDirectories p).2 u) : Written style hs t u
  | header {h : Header} {hs : List Header} {t v u : FileTree}
      (hv : t.write h.path (h.text style).toUTF8 = .ok v) (hu : Written style hs v u) :
      Written style (h :: hs) t u

theorem FileTree.Written.append {style : Header.Style} {hs hs' : List Header} {t u v : FileTree}
    (h : Written style hs t u) (h' : Written style hs' u v) : Written style (hs ++ hs') t v := by
  induction h with
  | done t => exact h'
  | directories p _ ih => exact .directories p (ih h')
  | header hv _ ih => exact .header hv (ih h')

/-- Nothing is to be made where there is a directory. -/
theorem FileTree.makeDirectories_of_find {t : FileTree} {p : Path} {loc : Location}
    (h : t.find p = .ok (loc, some .directory)) : t.makeDirectories p = (.ok (), t) := by
  have hm : t.makeDirectory p = .error .alreadyExists := by rw [makeDirectory, h]
  have hd : t.isDirectory p = true := by rw [isDirectory, nodeAt, h]
  rw [makeDirectories, hm]
  simp only [settle, hd, if_true]

theorem FileTree.write_of_find {t : FileTree} {p : Path} {loc : Location} {n : Option Node} (content : ByteArray)
    (h : t.find p = .ok (loc, n)) (hn : n ≠ some .directory) :
    t.write p content = .ok (t.set loc (.file content)) := by
  rw [write, h]
  split <;> simp_all

namespace Entity

def draft (i : ModuleImports) : Entity → Draft
  | .ofClass c => Module.draftOfClass i c
  | .ofProtocol p => Module.draftOfProtocol i p
  | .ofCategory k => Module.draftOfCategory i k

def fileName : Entity → String
  | .ofClass c => HeaderName.ofClass c.name
  | .ofProtocol p => HeaderName.ofProtocol p.name
  | .ofCategory k => HeaderName.ofCategory k

def name : Entity → String
  | .ofClass c => c.name
  | .ofProtocol p => p.name
  | .ofCategory k => k.name

@[simp] theorem draft_fileName (i : ModuleImports) (e : Entity) : (e.draft i).fileName = e.fileName := by
  cases e <;> rfl

@[simp] theorem draft_name (i : ModuleImports) (e : Entity) : (e.draft i).name = e.name := by
  cases e <;> rfl

end Entity

namespace Module

/-- The entities of a module that get a header, in the order of writing. -/
def entities (f : FoundationIndex) (m : Module) : List Entity :=
  m.classes.map .ofClass ++ (ObjcProtocol.distinct f m.protocols).map .ofProtocol ++ m.categories.map .ofCategory

theorem drafts_eq (s : Settings) (f : FoundationIndex) (m : Module) :
    m.drafts s f = (m.entities f).map (Entity.draft (m.imports s f)) := by
  simp only [drafts, entities, List.map_append, List.map_map]
  rfl

/-- What a header is for: one entity, or all headers of the module. -/
inductive Item where
  | entity (e : Entity)
  | umbrella

/-- The headers of a module: those of its entities and, if there are any, the umbrella. -/
def items (f : FoundationIndex) (m : Module) : List Item :=
  if m.entities f = [] then [] else (m.entities f).map .entity ++ [.umbrella]

end Module
open ObjcAtlas.Module (Item)

namespace Binary

/-- The module of a binary that has metadata and can be read. -/
def module? (b : Binary) : Option Module :=
  if b.hasMetadata then (Module.ofBinary b).toOption else none

def items (f : FoundationIndex) (b : Binary) : List Item :=
  match b.module? with
  | some m => m.items f
  | none => []

end Binary

namespace Generator
variable (g : Generator) (f : FoundationIndex)

def entityPath (m : Module) (e : Entity) : Path := g.directory m ++ Path.ofString e.fileName

/-- The file names of the entities' headers as the umbrella lists them. -/
def emitted (m : Module) : List String := (m.entities f).map fun e => (g.entityPath m e).name

/-- The header for an item; that of an entity needs all types of its declaration. -/
inductive Renders (m : Module) : Item → Header → Prop
  | entity {e : Entity} {body : String} (hb : (e.draft (m.imports g.settings f)).body = .ok body) :
      Renders m (.entity e) (g.header m (e.draft (m.imports g.settings f)) body)
  | umbrella : Renders m .umbrella (g.umbrella m (g.emitted f m))

def RendersOf (b : Binary) (x : Item) (h : Header) : Prop := ∃ m, b.module? = some m ∧ g.Renders f m x h

end Generator

namespace Job

theorem runOn_prepareDirectory (mode : Int) (p : Path) (s : Session) :
    (prepareDirectory mode p).runOn s =
      if p.parent.toString.contains '\x00' then (.error (.file .embeddedNull), s)
      else if !isMode mode then (.error .modeOutOfRange, s)
      else ((s.tree.makeDirectories p.parent).1.mapError (writeFailure p),
        { s with tree := (s.tree.makeDirectories p.parent).2 }) := by
  simp only [prepareDirectory, runOn_bind, runOn_get, continueWith_ok]
  split
  · simp
  · split <;> simp

theorem runOn_writeText (p : Path) (text : String) (s : Session) :
    (writeText p text).runOn s =
      match s.tree.write p text.toUTF8 with
      | .ok tree => (.ok (), { s with tree })
      | .error fault => (.error (writeFailure p fault), s) := by
  simp only [writeText, runOn_bind, runOn_get, continueWith_ok]
  cases s.tree.write p text.toUTF8 with
  | ok tree => exact runOn_set _ s
  | error fault => exact runOn_throw _ s

theorem runOn_prepareDirectory_of_find {mode : Int} {p : Path} {s : Session} {dir : Location} (hm : isMode mode)
    (hp : '\x00' ∉ p.parent.toString.toList) (hd : s.tree.find p.parent = .ok (dir, some .directory)) :
    (prepareDirectory mode p).runOn s = (.ok (), s) := by
  rw [runOn_prepareDirectory, String.contains_char_eq, FileTree.makeDirectories_of_find hd]
  simp [hm, hp, Except.mapError]

/-- A header can be written into a directory unless a directory is in its place. -/
theorem runOn_writeHeader {style : Header.Style} {mode : Int} {h : Header} {s : Session} {dir loc : Location}
    {n : Option Node} (hm : isMode mode) (hp : '\x00' ∉ h.path.parent.toString.toList)
    (hd : s.tree.find h.path.parent = .ok (dir, some .directory)) (hf : s.tree.find h.path = .ok (loc, n))
    (hn : n ≠ some .directory) :
    (writeHeader style mode h).runOn s =
      (.ok h.path, { s with tree := s.tree.set loc (.file (h.text style).toUTF8)
                            journal := s.journal ++ [.creating h.path] }) := by
  rw [writeHeader, runOn_bind, runOn_prepareDirectory_of_find hm hp hd, continueWith_ok, runOn_bind, runOn_log,
    continueWith_ok, runOn_bind, runOn_writeText, FileTree.write_of_find _ hf hn]
  rfl

section Endings
variable {ι α β : Type} {style : Header.Style} {R : ι → Header → Prop}

/-- How a job ends that writes headers for `xs`: with `a` after all of them, or with a failure after the first
few. -/
inductive Emits (style : Header.Style) (R : ι → Header → Prop) (xs : List ι) (a : α) (s : Session) :
    Except Failure α × Session → Prop
  | all (ws : List (ι × Header)) {t : Session} (hx : ws.map (·.1) = xs) (hR : ∀ w ∈ ws, R w.1 w.2)
      (ht : FileTree.Written style (ws.map (·.2)) s.tree t.tree) : Emits style R xs a s (.ok a, t)
  | part (ws : List (ι × Header)) {f : Failure} {t : Session} (hx : ws.map (·.1) <+: xs)
      (hR : ∀ w ∈ ws, R w.1 w.2) (ht : FileTree.Written style (ws.map (·.2)) s.tree t.tree) :
      Emits style R xs a s (.error f, t)

theorem Emits.exists_written {xs : List ι} {a : α} {s : Session} {r : Except Failure α × Session}
    (h : Emits style R xs a s r) : ∃ ws : List (ι × Header), (∀ w ∈ ws, R w.1 w.2) ∧ ws.map (·.1) <+: xs ∧
      (∀ a', r.1 = .ok a' → ws.map (·.1) = xs ∧ a' = a) ∧
      FileTree.Written style (ws.map (·.2)) s.tree r.2.tree := by
  cases h with
  | all ws hx hR ht => exact ⟨ws, hR, hx ▸ List.prefix_rfl, fun _ h => ⟨hx, (Except.ok.inj h).symm⟩, ht⟩
  | part ws hx hR ht => exact ⟨ws, hR, hx, nofun, ht⟩

theorem Emits.silent (a : α) {s t : Session} (h : t.tree = s.tree) :
    Emits style R [] a s (.ok a, t) :=
  .all [] rfl (by simp) (h ▸ .done _)

theorem Emits.failed {xs : List ι} {a : α} {f : Failure} {s t : Session} (h : t.tree = s.tree) :
    Emits style R xs a s (.error f, t) :=
  .part [] List.nil_prefix (by simp) (h ▸ .done _)

/-- A job after another one writes its headers after those of the other. -/
theorem Emits.continueWith {xs ys : List ι} {a : α} {b : β} {s : Session} {r : Except Failure α × Session}
    {k : α → Job β} (h : Emits style R xs a s r) (hk : ∀ t, Emits style R ys b t ((k a).runOn t)) :
    Emits style R (xs ++ ys) b s (continueWith k r) := by
  cases h with
  | @all ws t hx hR ht =>
    rw [continueWith_ok]
    have h' := hk t
    generalize (k a).runOn t = r' at h' ⊢
    cases h' with
    | all ws' hx' hR' ht' =>
      refine .all (ws ++ ws') ?_ ?_ ?_
      · rw [List.map_append, hx, hx']
      · exact List.forall_mem_append.mpr ⟨hR, hR'⟩
      · rw [List.map_append]
        exact ht.append ht'
    | part ws' hx' hR' ht' =>
      refine .part (ws ++ ws') ?_ ?_ ?_
      · rw [List.map_append, hx]
        exact (List.prefix_append_right_inj xs).mpr hx'
      · exact List.forall_mem_append.mpr ⟨hR, hR'⟩
      · rw [List.map_append]
        exact ht.append ht'
  | part ws hx hR ht =>
    rw [continueWith_error]
    exact .part ws (hx.trans (List.prefix_append xs ys)) hR ht

theorem Emits.beforeSilent {xs : List ι} {a : α} {b : β} {s : Session} {r : Except Failure α × Session}
    {k : α → Job β} (h : Emits style R xs a s r) (hk : ∀ t, Emits style R [] b t ((k a).runOn t)) :
    Emits style R xs b s (Job.continueWith k r) := by
  simpa only [List.append_nil] using h.continueWith hk

theorem Emits.afterSilent {xs : List ι} {a : α} {b : β} {s : Session} {r : Except Failure α × Session}
    {k : α → Job β} (h : Emits style R [] a s r) (hk : ∀ t, Emits style R xs b t ((k a).runOn t)) :
    Emits style R xs b s (Job.continueWith k r) :=
  h.continueWith hk

/-- The items of a job as parts of larger ones. -/
theorem Emits.map {κ : Type} {Q : κ → Header → Prop} {xs : List ι} {a : α} {s : Session}
    {r : Except Failure α × Session} (h : Emits style R xs a s r) (label : ι → κ)
    (hQ : ∀ x k, R x k → Q (label x) k) : Emits style Q (xs.map label) a s r := by
  cases h with
  | all ws hx hR ht =>
    refine .all (ws.map fun w => (label w.1, w.2)) ?_ (List.forall_mem_map.mpr fun w hw => hQ _ _ (hR w hw)) ?_
    · simp only [← hx, List.map_map, Function.comp_def]
    · simpa only [List.map_map, Function.comp_def] using ht
  | part ws hx hR ht =>
    refine .part (ws.map fun w => (label w.1, w.2)) ?_ (List.forall_mem_map.mpr fun w hw => hQ _ _ (hR w hw)) ?_
    · simpa only [List.map_map, Function.comp_def] using hx.map label
    · simpa only [List.map_map, Function.comp_def] using ht

theorem emits_mapM {γ : Type} {job : γ → Job α} {value : γ → α} {items : γ → List ι} (xs : List γ)
    (h : ∀ x s, Emits style R (items x) (value x) s ((job x).runOn s)) (s : Session) :
    Emits style R (xs.flatMap items) (xs.map value) s ((xs.mapM job).runOn s) := by
  induction xs generalizing s with
  | nil => exact .silent [] rfl
  | cons x xs ih =>
    rw [List.mapM_cons, runOn_bind]
    refine (h x s).continueWith fun t => ?_
    rw [runOn_bind]
    exact (ih t).beforeSilent fun u => .silent _ rfl

theorem emits_log (e : Event) (s : Session) : Emits style R [] () s ((log e).runOn s) := .silent () rfl

theorem emits_prepareDirectory (mode : Int) (p : Path) (s : Session) :
    Emits style R [] () s ((prepareDirectory mode p).runOn s) := by
  rw [runOn_prepareDirectory]
  split
  · exact .failed rfl
  · split
    · exact .failed rfl
    · cases (s.tree.makeDirectories p.parent).1 with
      | ok _ => exact .all [] rfl (by simp) (.directories p.parent (.done _))
      | error f => exact .part [] List.nil_prefix (by simp) (.directories p.parent (.done _))

theorem emits_writeText {x : ι} {h : Header} (hx : R x h) (s : Session) :
    Emits style R [x] () s ((writeText h.path (h.text style)).runOn s) := by
  rw [runOn_writeText]
  cases hw : s.tree.write h.path (h.text style).toUTF8 with
  | ok t => exact .all [(x, h)] rfl (by simpa using hx) (.header hw (.done _))
  | error f => exact .failed rfl

theorem emits_writeHeader (mode : Int) {x : ι} {h : Header} (hx : R x h) (s : Session) :
    Emits style R [x] h.path s ((writeHeader style mode h).runOn s) := by
  rw [writeHeader, runOn_bind]
  refine (emits_prepareDirectory mode h.path s).afterSilent fun t => ?_
  rw [runOn_bind]
  refine (emits_log (.creating h.path) t).afterSilent fun u => ?_
  rw [runOn_bind]
  exact (emits_writeText hx u).beforeSilent fun v => .silent h.path rfl

/-- A module's brackets write nothing themselves. -/
theorem emits_module (name : String) {xs : List ι} {a : α} {body : Job α}
    (h : ∀ s, Emits style R xs a s (body.runOn s)) (s : Session) :
    Emits style R xs a s ((Job.module name body).runOn s) := by
  rw [runOn_module]
  have hb := h (beginModule name s)
  generalize body.runOn (beginModule name s) = r at hb ⊢
  cases hb with
  | all ws hx hR ht => exact .all ws hx hR ht
  | part ws hx hR ht => exact .part ws hx hR ht

end Endings
end Job

namespace Generator
variable (g : Generator) (f : FoundationIndex)

theorem header_path (m : Module) (e : Entity) (i : ModuleImports) (body : String) :
    (g.header m (e.draft i) body).path = g.entityPath m e := by
  simp only [header, entityPath, Entity.draft_fileName]

theorem emits_emit (m : Module) (e : Entity) (s : Session) :
    Job.Emits g.style (g.Renders f m) [.entity e] (g.entityPath m e) s
      ((g.emit m (e.draft (m.imports g.settings f))).runOn s) := by
  rw [emit, Job.runOn_bind, Job.runOn_ofExcept]
  cases hb : (e.draft (m.imports g.settings f)).body with
  | error missing => exact .failed rfl
  | ok body =>
    have hr : g.Renders f m (.entity e) (g.header m (e.draft (m.imports g.settings f)) body) := .entity hb
    simp only [Except.mapError, Job.continueWith_ok, Job.runOn_bind]
    refine (Job.emits_writeHeader g.settings.directoryMode hr s).beforeSilent fun t => ?_
    rw [header_path]
    exact .silent _ rfl

/-- What the headers of a module are reported as. -/
def resultOf (m : Module) : ModuleResult :=
  if m.entities f = [] then { module := m.name }
  else { module := m.name
         headers := (m.entities f).map (g.entityPath m)
         umbrella := some (g.umbrella m (g.emitted f m)).path }

theorem emits_emitAll (m : Module) (s : Session) :
    Job.Emits g.style (g.Renders f m) (m.items f) (g.resultOf f m) s
      ((g.emitAll m (m.drafts g.settings f)).runOn s) := by
  have h := Job.emits_mapM (m.entities f) (g.emits_emit f m) s
  rw [← List.map_eq_flatMap] at h
  rw [Module.drafts_eq]
  simp only [emitAll, List.mapM_map, Job.runOn_bind]
  by_cases hm : m.entities f = []
  · simp only [Module.items, resultOf, hm, if_true]
    rw [hm] at h
    exact h.beforeSilent fun t => .silent _ rfl
  · simp only [Module.items, resultOf, hm, if_false]
    refine h.continueWith fun t => ?_
    rw [if_neg (by simpa using hm), List.map_map, Job.runOn_bind]
    exact (Job.emits_writeHeader g.settings.directoryMode .umbrella t).beforeSilent fun u => .silent _ rfl

theorem emits_writeModule (b : Binary) (s : Session) :
    Job.Emits g.style (g.RendersOf f b) (b.items f) (b.module?.map (g.resultOf f)) s
      ((g.writeModule f b).runOn s) := by
  rw [writeModule]
  by_cases hb : b.hasMetadata
  · simp only [hb, Bool.not_true, Bool.false_eq_true, if_false, Job.runOn_bind, Job.runOn_ofExcept]
    cases hm : Module.ofBinary b with
    | error fault => exact .failed rfl
    | ok m =>
      have hm' : b.module? = some m := by simp only [Binary.module?, hb, if_true, hm, Except.toOption]
      have h : Job.Emits g.style (g.RendersOf f b) ((m.items f).map id) (g.resultOf f m) s _ :=
        (Job.emits_module m.name (g.emits_emitAll f m) s).map id fun x k hk => ⟨m, hm', hk⟩
      rw [List.map_id] at h
      simp only [Binary.items, hm', Job.continueWith_ok, Job.runOn_bind]
      exact h.beforeSilent fun t => .silent _ rfl
  · have hm : b.module? = none := by simp only [Binary.module?, hb, Bool.false_eq_true, if_false]
    simp only [Binary.items, hm, hb, Bool.not_false, if_true, Job.runOn_bind]
    exact .silent none rfl

/-- The run on `s` writes these headers for these items and no other. -/
structure Writes (b : Binary) (s : Session) (ws : List (Item × Header)) : Prop where
  rendered : ∀ w ∈ ws, g.RendersOf f b w.1 w.2
  first : ws.map (·.1) <+: b.items f
  all : ∀ r, ((g.writeModule f b).runOn s).1 = .ok r → ws.map (·.1) = b.items f
  written : FileTree.Written g.style (ws.map (·.2)) s.tree ((g.writeModule f b).runOn s).2.tree

section Writes
variable {g f} {b : Binary} {s : Session} {ws : List (Item × Header)} {m : Module}

theorem Writes.renders (h : g.Writes f b s ws) (hm : b.module? = some m) {w : Item × Header} (hw : w ∈ ws) :
    g.Renders f m w.1 w.2 := by
  obtain ⟨m', hm', hr⟩ := h.rendered w hw
  obtain rfl : m = m' := Option.some.inj (hm.symm.trans hm')
  exact hr

theorem Writes.mem_items (h : g.Writes f b s ws) (hm : b.module? = some m) {w : Item × Header} (hw : w ∈ ws) :
    w.1 ∈ m.items f := by
  have hi : w.1 ∈ b.items f := h.first.subset (List.mem_map_of_mem hw)
  rwa [Binary.items, hm] at hi

end Writes

theorem exists_writes (b : Binary) (s : Session) : ∃ ws, g.Writes f b s ws := by
  obtain ⟨ws, hR, hx, hall, hw⟩ := (g.emits_writeModule f b s).exists_written
  exact ⟨ws, hR, hx, fun r hr => (hall r hr).1, hw⟩

end Generator
end ObjcAtlas
