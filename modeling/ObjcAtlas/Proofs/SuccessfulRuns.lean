import ObjcAtlas.Proofs.HeaderForms
import ObjcAtlas.Proofs.ModuleEntities
import ObjcAtlas.Proofs.RunWriting

/-! When the headers of a binary are all written: every declaration has its types, and every header has a directory
to go to with no directory in its own place. -/
namespace ObjcAtlas
open ObjcAtlas.Module (Item)

namespace FileTree

/-- A file can be written at the path: its directory is there, and the path leads to no other one. -/
def Accepts (t : FileTree) (p : Path) : Prop :=
  (∃ dir, t.find p.parent = .ok (dir, some .directory)) ∧ ∃ loc n, t.find p = .ok (loc, n) ∧ n ≠ some .directory

variable {t : FileTree} {place : Location}

/-- Where no directory is, a new file bars no way. -/
theorem walk_set (hp : t.node? place ≠ some .directory) (content : ByteArray) {cs : List String}
    {start loc : Location} {n : Option Node} (h : t.walk start cs = .ok (loc, n)) :
    (t.set place (.file content)).walk start cs = .ok (loc, (t.set place (.file content)).node? loc) := by
  induction cs generalizing start with
  | nil =>
    obtain ⟨rfl, -⟩ := Prod.mk.inj (Except.ok.inj h)
    rfl
  | cons c cs ih =>
    rw [walk] at h ⊢
    cases hs : t.node? start with
    | none => simp [hs] at h
    | some node =>
      cases node with
      | file _ => simp [hs] at h
      | directory =>
        have hne : start ≠ place := fun he => hp (he ▸ hs)
        simp only [hs] at h
        simp only [node?_set_other hne, hs]
        split at h
        · next hc => simpa only [hc, if_true] using ih h
        · next hc =>
          split at h
          · cases h
          · next hl => simpa only [hc, hl, if_false] using ih h

theorem find_set (hp : t.node? place ≠ some .directory) (content : ByteArray) {p : Path} {loc : Location}
    {n : Option Node} (h : t.find p = .ok (loc, n)) :
    (t.set place (.file content)).find p = .ok (loc, (t.set place (.file content)).node? loc) := by
  rw [find] at h ⊢
  split at h
  · cases h
  · next h₁ =>
    split at h
    · cases h
    · next h₂ =>
      rw [if_neg h₁, if_neg h₂]
      exact walk_set hp content h

/-- In `u` every path leads where it did in `t`, and to a directory only where it did. -/
def KeepsWays (t u : FileTree) : Prop :=
  ∀ p loc n, t.find p = .ok (loc, n) → ∃ n', u.find p = .ok (loc, n') ∧ (n' = some .directory ↔ n = some .directory)

theorem KeepsWays.refl (t : FileTree) : KeepsWays t t := fun _ _ n h => ⟨n, h, Iff.rfl⟩

theorem KeepsWays.trans {u v : FileTree} (h : KeepsWays t u) (h' : KeepsWays u v) : KeepsWays t v := by
  intro p loc n hn
  obtain ⟨n', hn', hd⟩ := h p loc n hn
  obtain ⟨n'', hn'', hd'⟩ := h' p loc n' hn'
  exact ⟨n'', hn'', hd'.trans hd⟩

theorem keepsWays_set (hp : t.node? place ≠ some .directory) (content : ByteArray) :
    KeepsWays t (t.set place (.file content)) := by
  intro p loc n hf
  obtain ⟨-, rfl⟩ := find_ok hf
  refine ⟨_, find_set hp content hf, ?_⟩
  have hr : place ≠ [] := fun he => hp (he ▸ rfl)
  by_cases he : loc = place
  · subst he
    rw [node?_set_self hr]
    exact iff_of_false (by simp) hp
  · rw [node?_set_other he]

theorem Accepts.mono {u : FileTree} {p : Path} (h : t.Accepts p) (hu : KeepsWays t u) : u.Accepts p := by
  obtain ⟨⟨dir, hd⟩, loc, n, hf, hn⟩ := h
  obtain ⟨d, hd', hdir⟩ := hu _ _ _ hd
  obtain ⟨n', hf', hn'⟩ := hu _ _ _ hf
  exact ⟨⟨dir, hdir.mpr rfl ▸ hd'⟩, loc, n', hf', fun he => hn (hn'.mp he)⟩

/-- The way to a directory leads on to the names in it. -/
theorem walk_append_name {start dir : Location} {cs : List String} {n : String}
    (h : t.walk start cs = .ok (dir, some .directory)) (hn : n ≠ "..") (hs : n.utf8ByteSize ≤ componentLimit) :
    t.walk start (cs ++ [n]) = .ok (dir ++ [n], t.node? (dir ++ [n])) := by
  induction cs generalizing start with
  | nil =>
    obtain ⟨rfl, hd⟩ := Prod.mk.inj (Except.ok.inj h)
    simp only [List.nil_append, walk, hd, hn, if_false, if_neg (Nat.not_lt.mpr hs)]
  | cons c cs ih =>
    rw [walk] at h
    rw [List.cons_append, walk]
    cases hd : t.node? start with
    | none => simp [hd] at h
    | some node =>
      cases node with
      | file _ => simp [hd] at h
      | directory =>
        simp only [hd] at h
        dsimp only
        split at h
        · next hc => simpa only [hc, if_true] using ih h
        · next hc =>
          split at h
          · cases h
          · next hl => simpa only [hc, hl, if_false] using ih h

theorem find_append_name {p : Path} {dir : Location} {n : String} (hd : t.find p = .ok (dir, some .directory))
    (hn : n ≠ "..") (hs : n.utf8ByteSize ≤ componentLimit)
    (hnull : '\x00' ∉ (p ++ ⟨"", [n]⟩ : Path).toString.toList)
    (hl : (p ++ ⟨"", [n]⟩ : Path).toString.utf8ByteSize ≤ pathLimit) :
    t.find (p ++ ⟨"", [n]⟩) = .ok (dir ++ [n], t.node? (dir ++ [n])) := by
  rw [find] at hd
  split at hd
  · cases hd
  · split at hd
    · cases hd
    · rw [find, String.contains_char_eq, if_neg (by simpa using hnull), if_neg (Nat.not_lt.mpr hl)]
      exact walk_append_name hd hn hs

theorem find_top (ht : t.workingDirectory = []) : t.find {} = .ok ([], some .directory) := by
  simp only [find, String.contains_char_eq, walk, ht]
  rfl

theorem accepts_append_name {p : Path} {dir : Location} {n : String} (hd : t.find p = .ok (dir, some .directory))
    (hn : n ≠ "..") (hs : n.utf8ByteSize ≤ componentLimit)
    (hnull : '\x00' ∉ (p ++ ⟨"", [n]⟩ : Path).toString.toList)
    (hl : (p ++ ⟨"", [n]⟩ : Path).toString.utf8ByteSize ≤ pathLimit) (hf : t.node? (dir ++ [n]) ≠ some .directory) :
    t.Accepts (p ++ ⟨"", [n]⟩) := by
  have hp : (p ++ ⟨"", [n]⟩ : Path).parent = p := by
    show (⟨p.root, (p.parts ++ [n]).dropLast⟩ : Path) = p
    rw [List.dropLast_concat]
  exact ⟨⟨dir, hp.symm ▸ hd⟩, _, _, find_append_name hd hn hs hnull hl, hf⟩

theorem no_null_of_find {p : Path} {r : Location × Option Node} (h : t.find p = .ok r) :
    '\x00' ∉ p.toString.toList := by
  rw [find, String.contains_char_eq] at h
  split at h
  · cases h
  · next hn => simpa using hn

end FileTree

namespace Job

/-- A header cannot be written where a directory is. -/
theorem runOn_writeHeader_of_directory {style : Header.Style} {mode : Int} {h : Header} {s : Session}
    {dir loc : Location} (hm : isMode mode) (hd : s.tree.find h.path.parent = .ok (dir, some .directory))
    (hf : s.tree.find h.path = .ok (loc, some .directory)) :
    (writeHeader style mode h).runOn s =
      (.error (.headerUnwritable h.path), { s with journal := s.journal ++ [.creating h.path] }) := by
  have hw : s.tree.write h.path (h.text style).toUTF8 = .error .isDirectory := by rw [FileTree.write, hf]
  rw [writeHeader, runOn_bind, runOn_prepareDirectory_of_find hm (FileTree.no_null_of_find hd) hd, continueWith_ok,
    runOn_bind, runOn_log, continueWith_ok, runOn_bind, runOn_writeText, hw]
  rfl

/-- A job that succeeds and bars no way. -/
def Succeeds {α : Type} (job : Job α) (a : α) (s : Session) : Prop :=
  ∃ t, job.runOn s = (.ok a, t) ∧ s.tree.KeepsWays t.tree

theorem Succeeds.bind {α β : Type} {job : Job α} {k : α → Job β} {a : α} {b : β} {s : Session}
    (h : Succeeds job a s) (hk : ∀ t, s.tree.KeepsWays t.tree → Succeeds (k a) b t) :
    Succeeds (job >>= k) b s := by
  obtain ⟨t, ht, hst⟩ := h
  obtain ⟨u, hu, htu⟩ := hk t hst
  refine ⟨u, ?_, hst.trans htu⟩
  rw [runOn_bind, ht, continueWith_ok, hu]

theorem succeeds_pure {α : Type} (a : α) (s : Session) : Succeeds (pure a) a s := ⟨s, rfl, .refl s.tree⟩

/-- What the jobs need of the files is still there when those before have succeeded. -/
theorem succeeds_mapM {α β : Type} {job : α → Job β} {value : α → β} (need : α → FileTree → Prop)
    (hmono : ∀ x t u, need x t → FileTree.KeepsWays t u → need x u) {xs : List α}
    (h : ∀ x ∈ xs, ∀ s : Session, need x s.tree → Succeeds (job x) (value x) s) {s : Session}
    (hs : ∀ x ∈ xs, need x s.tree) : Succeeds (xs.mapM job) (xs.map value) s := by
  induction xs generalizing s with
  | nil => exact succeeds_pure [] s
  | cons x xs ih =>
    obtain ⟨hx, hxs⟩ := List.forall_mem_cons.mp h
    obtain ⟨sx, sxs⟩ := List.forall_mem_cons.mp hs
    rw [List.mapM_cons]
    refine (hx s sx).bind fun t ht => ?_
    exact (ih hxs fun y hy => hmono _ _ _ (sxs y hy) ht).bind fun u _ => succeeds_pure _ u

theorem succeeds_writeHeader {style : Header.Style} {mode : Int} {h : Header} {s : Session} (hm : isMode mode)
    (hs : s.tree.Accepts h.path) : Succeeds (writeHeader style mode h) h.path s := by
  obtain ⟨⟨dir, hd⟩, loc, n, hf, hn⟩ := hs
  refine ⟨_, runOn_writeHeader hm (FileTree.no_null_of_find hd) hd hf hn, ?_⟩
  obtain ⟨-, rfl⟩ := FileTree.find_ok hf
  exact FileTree.keepsWays_set hn _

theorem Succeeds.module {α : Type} {body : Job α} {a : α} (name : String) {s : Session}
    (h : ∀ t : Session, t.tree = s.tree → Succeeds body a t) : Succeeds (Job.module name body) a s := by
  obtain ⟨t, ht, hst⟩ := h (beginModule name s) rfl
  refine ⟨_, by rw [runOn_module, ht], ?_⟩
  exact hst

theorem Succeeds.reportingFailure {α : Type} {body : Job α} {a : α} (function : String) {s : Session}
    (h : Succeeds body a s) : Succeeds (Job.reportingFailure function body) a s := by
  obtain ⟨t, ht, hst⟩ := h
  refine ⟨t, ?_, hst⟩
  rw [Job.reportingFailure, runOn_bind, runOn_attempt, ht]
  rfl

end Job

namespace Generator
variable (g : Generator) (f : FoundationIndex)

/-- The path of the header for an item. -/
def itemPath (m : Module) (x : Item) : Path := g.directory m ++ Path.ofString (g.form f m x).fileName

/-- All that a module's headers need. -/
structure CanWrite (m : Module) (t : FileTree) : Prop where
  mode : isMode g.settings.directoryMode
  typed : ∀ e ∈ m.entities f, ∃ body, (e.draft (m.imports g.settings f)).body = .ok body
  accepted : ∀ x ∈ m.items f, t.Accepts (g.itemPath f m x)

variable {g f} in
theorem CanWrite.mono {m : Module} {t u : FileTree} (h : g.CanWrite f m t) (hu : t.KeepsWays u) :
    g.CanWrite f m u :=
  { h with accepted := fun x hx => (h.accepted x hx).mono hu }

theorem entityPath_eq (m : Module) (e : Entity) : g.entityPath m e = g.itemPath f m (.entity e) := by
  rw [entityPath, itemPath, form, e.form_fileName]

/-- Writes the header for an item. -/
def emitItem (m : Module) : Item → Job Path
  | .entity e => g.emit m (e.draft (m.imports g.settings f))
  | .umbrella => g.writeHeader (g.umbrella m (g.emitted f m))

theorem emits_emitItem (m : Module) (x : Item) (s : Session) :
    Job.Emits g.style (g.Renders f m) [x] (g.itemPath f m x) s ((g.emitItem f m x).runOn s) := by
  cases x with
  | entity e =>
    rw [← entityPath_eq]
    exact g.emits_emit f m e s
  | umbrella => exact Job.emits_writeHeader g.settings.directoryMode Renders.umbrella s

/-- All headers of a module are written item by item. -/
theorem runOn_emitAll (m : Module) (s : Session) : (g.emitAll m (m.drafts g.settings f)).runOn s =
    Job.continueWith (fun _ => pure (g.resultOf f m)) (((m.items f).mapM (g.emitItem f m)).runOn s) := by
  have hpaths := (Job.emits_mapM (m.entities f) (g.emits_emit f m) s).exists_written
  have hentity : ∀ e, g.emitItem f m (.entity e) = g.emit m (e.draft (m.imports g.settings f)) := fun _ => rfl
  rw [Module.drafts_eq, emitAll, List.mapM_map, Job.runOn_bind, Module.items, resultOf]
  by_cases hm : m.entities f = []
  · simp only [hm, if_true]
    rfl
  · simp only [hm, if_false, List.mapM_append, List.mapM_map, Job.runOn_bind, Function.comp_def, hentity]
    generalize Job.runOn (List.mapM _ (m.entities f)) s = r at hpaths ⊢
    obtain ⟨fault | headers, t⟩ := r
    · rfl
    · -- the umbrella is named after the paths that the headers before it have been written to
      obtain ⟨ws, -, -, hall, -⟩ := hpaths
      obtain rfl := (hall headers rfl).2
      have humbrella := (g.emits_emitItem f m .umbrella t).exists_written
      have hu : g.emitItem f m .umbrella = g.writeHeader (g.umbrella m (g.emitted f m)) := rfl
      rw [Job.continueWith_ok, Job.continueWith_ok, if_neg (by simpa using hm), List.map_map, List.mapM_cons,
        List.mapM_nil, hu]
      rw [hu] at humbrella
      simp only [Job.runOn_bind]
      change Job.continueWith _ ((g.writeHeader (g.umbrella m (g.emitted f m))).runOn t) = _
      generalize (g.writeHeader (g.umbrella m (g.emitted f m))).runOn t = r at humbrella ⊢
      obtain ⟨fault | path, u⟩ := r
      · rfl
      · obtain ⟨ws', -, -, hpath, -⟩ := humbrella
        rw [(hpath path rfl).2]
        rfl

theorem succeeds_emit {m : Module} {e : Entity} {s : Session} {body : String} (hm : isMode g.settings.directoryMode)
    (hb : (e.draft (m.imports g.settings f)).body = .ok body) (hs : s.tree.Accepts (g.entityPath m e)) :
    Job.Succeeds (g.emit m (e.draft (m.imports g.settings f))) (g.entityPath m e) s := by
  rw [← g.header_path m e (m.imports g.settings f) body] at hs ⊢
  rw [emit, hb]
  refine (Job.succeeds_pure body s : Job.Succeeds (Job.ofExcept (.ok body)) body s).bind fun t ht => ?_
  refine (Job.succeeds_writeHeader hm (hs.mono ht)).bind fun u hu => ?_
  have hc : Job.Succeeds Job.countHeader () u := ⟨_, rfl, .refl u.tree⟩
  exact hc.bind fun v _ => Job.succeeds_pure _ v

/-- An entity's header cannot be written where a directory is. -/
theorem runOn_emit_of_directory {m : Module} {e : Entity} {s : Session} {body : String} {dir loc : Location}
    (hm : isMode g.settings.directoryMode) (hb : (e.draft (m.imports g.settings f)).body = .ok body)
    (hd : s.tree.find (g.entityPath m e).parent = .ok (dir, some .directory))
    (hf : s.tree.find (g.entityPath m e) = .ok (loc, some .directory)) :
    ∃ t, (g.emit m (e.draft (m.imports g.settings f))).runOn s =
      (.error (.headerUnwritable (g.entityPath m e)), t) ∧ t.tree = s.tree := by
  rw [← g.header_path m e (m.imports g.settings f) body] at hd hf ⊢
  have hw := @Job.runOn_writeHeader_of_directory g.style _ _ _ _ _ hm hd hf
  rw [emit, hb, Job.runOn_bind, Job.runOn_ofExcept]
  simp only [Except.mapError, Job.continueWith_ok, Job.runOn_bind, writeHeader, hw, Job.continueWith_error]
  exact ⟨_, rfl, rfl⟩

theorem succeeds_emitItem {m : Module} {x : Item} {s : Session} (hm : isMode g.settings.directoryMode)
    (hb : ∀ e, x = .entity e → ∃ body, (e.draft (m.imports g.settings f)).body = .ok body)
    (hs : s.tree.Accepts (g.itemPath f m x)) : Job.Succeeds (g.emitItem f m x) (g.itemPath f m x) s := by
  cases x with
  | entity e =>
    obtain ⟨body, hb⟩ := hb e rfl
    rw [← entityPath_eq] at hs ⊢
    exact g.succeeds_emit f hm hb hs
  | umbrella => exact Job.succeeds_writeHeader hm hs

theorem succeeds_emitAll {m : Module} {s : Session} (h : g.CanWrite f m s.tree) :
    Job.Succeeds (g.emitAll m (m.drafts g.settings f)) (g.resultOf f m) s := by
  have hitems : Job.Succeeds ((m.items f).mapM (g.emitItem f m)) ((m.items f).map (g.itemPath f m)) s := by
    refine Job.succeeds_mapM (fun x t => t.Accepts (g.itemPath f m x)) (fun _ _ _ h hu => h.mono hu)
      (fun x hx t ht => ?_) h.accepted
    refine g.succeeds_emitItem f h.mode (fun e he => ?_) ht
    exact h.typed e (Module.entity_mem_items_iff.mp (he ▸ hx))
  obtain ⟨t, ht, hst⟩ := hitems
  refine ⟨t, ?_, hst⟩
  rw [runOn_emitAll, ht]
  rfl

theorem runOn_writeModule {b : Binary} {m : Module} (hm : b.module? = some m) (s : Session) :
    (g.writeModule f b).runOn s = Job.continueWith (fun r => pure (some r))
      ((Job.module m.name (g.emitAll m (m.drafts g.settings f))).runOn s) := by
  obtain ⟨hb, ho⟩ := Binary.module?_eq_some_iff.mp hm
  rw [writeModule, hb, ho]
  simp only [Bool.not_true, Bool.false_eq_true, if_false, Job.runOn_bind, Job.runOn_ofExcept, Job.continueWith_ok]

/-- Then all headers of the binary are written. -/
theorem succeeds_writeModule {b : Binary} {m : Module} {s : Session} (hm : b.module? = some m)
    (h : g.CanWrite f m s.tree) : Job.Succeeds (g.writeModule f b) (some (g.resultOf f m)) s := by
  have hemit : Job.Succeeds (Job.module m.name (g.emitAll m (m.drafts g.settings f))) (g.resultOf f m) s :=
    .module m.name fun t ht => g.succeeds_emitAll f { h with accepted := fun x hx => ht ▸ h.accepted x hx }
  obtain ⟨t, ht, hst⟩ := hemit
  exact ⟨t, by rw [g.runOn_writeModule f hm, ht]; rfl, hst⟩

/-- A run succeeds that finds its index and can write all headers of its binaries. -/
theorem succeeds_run {s : Session} (hs : Job.Succeeds scan f s)
    (h : ∀ b ∈ g.binaries, ∃ m, b.module? = some m ∧ g.CanWrite f m s.tree) :
    Job.Succeeds g.run (g.results f) s := by
  refine Job.Succeeds.reportingFailure _ (hs.bind fun t ht => ?_)
  have hmodules : Job.Succeeds (g.binaries.mapM (g.writeModule f))
      (g.binaries.map fun b => b.module?.map (g.resultOf f)) t := by
    refine Job.succeeds_mapM (fun b u => ∃ m, b.module? = some m ∧ g.CanWrite f m u) ?_ ?_ ?_
    · rintro b u v ⟨m, hm, hu⟩ huv
      exact ⟨m, hm, hu.mono huv⟩
    · rintro b - u ⟨m, hm, hu⟩
      rw [hm]
      exact g.succeeds_writeModule f hm hu
    · intro b hb
      obtain ⟨m, hm, hc⟩ := h b hb
      exact ⟨m, hm, hc.mono ht⟩
  refine hmodules.bind fun u _ => ?_
  have hreport : Job.Succeeds Job.reportSummary () u := ⟨_, rfl, .refl u.tree⟩
  exact hreport.bind fun v _ => Job.succeeds_pure _ v

/-- A generator for one binary that writes below the working directory. -/
def plain (b : Binary) : Generator where
  settings := {}
  output := {}
  toolVersion := ""
  binary := b

/-- The module `M` has a directory, and no other one is in it. -/
structure Ready (t : FileTree) : Prop where
  top : t.workingDirectory = []
  directory : t.node? ["M"] = some .directory
  files : ∀ n, t.node? ["M", n] ≠ some .directory

theorem Ready.find_directory {t : FileTree} (ht : Ready t) :
    t.find ⟨"", ["M"]⟩ = .ok (["M"], some .directory) := by
  have hr : t.node? [] = some .directory := rfl
  simp only [FileTree.find, String.contains_char_eq, FileTree.walk, ht.top, hr, ht.directory, List.nil_append,
    if_true]
  rfl

def filesOnly : Session where
  tree := { nodes := [(["M"], .directory)] }

theorem ready_filesOnly : Ready filesOnly.tree := by
  refine ⟨rfl, rfl, fun n => ?_⟩
  simp [FileTree.node?, filesOnly, List.lookup_cons]

/-- A file name that can stand in the directory of the module `M`. -/
def Fits (n : String) : Prop :=
  Path.ofString n = ⟨"", [n]⟩ ∧ n ≠ ".." ∧ n.utf8ByteSize ≤ FileTree.componentLimit ∧
    '\x00' ∉ (⟨"", ["M", n]⟩ : Path).toString.toList ∧
    (⟨"", ["M", n]⟩ : Path).toString.utf8ByteSize ≤ FileTree.pathLimit

instance : DecidablePred Fits := fun _ => inferInstanceAs (Decidable (_ ∧ _))

theorem Ready.accepts {b : Binary} {f : FoundationIndex} {m : Module} {t : FileTree} (ht : Ready t) (hm : m.name = "M")
    {x : Item} (hx : Fits ((plain b).form f m x).fileName) : t.Accepts ((plain b).itemPath f m x) := by
  obtain ⟨hn, hup, hs, hnull, hl⟩ := hx
  rw [itemPath, hn, Generator.directory, hm]
  exact FileTree.accepts_append_name (p := ⟨"", ["M"]⟩) ht.find_directory hup hs hnull hl (ht.files _)

/-- Where the directory holds files only, all headers of the module can be written. -/
theorem Ready.canWrite {b : Binary} {f : FoundationIndex} {m : Module} {t : FileTree} (ht : Ready t) (hm : m.name = "M")
    (hfits : ∀ x ∈ m.items f, Fits ((plain b).form f m x).fileName)
    (htyped : ∀ e ∈ m.entities f, ∃ body, (e.draft (m.imports (plain b).settings f)).body = .ok body) :
    (plain b).CanWrite f m t :=
  ⟨rfl, htyped, fun x hx => ht.accepts hm (hfits x hx)⟩

end Generator
end ObjcAtlas
