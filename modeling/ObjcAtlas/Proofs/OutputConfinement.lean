import Mathlib.Data.Fintype.EquivFin
import ObjcAtlas.Proofs.InwardPaths
import ObjcAtlas.Proofs.SharedPaths

/-! What a run changes lies below its output directory as long as no name leads upwards. The output directory and
those above it are made if need be. -/
namespace ObjcAtlas
open ObjcAtlas.Module (Item)

namespace FileTree
variable {files dirs : Location → Prop} {t u v : FileTree}

/-- `u` differs from `t` in places of `files` at most, and in places of `dirs` where a directory has been made. -/
structure ChangesWithin (files dirs : Location → Prop) (t u : FileTree) : Prop where
  top : u.workingDirectory = t.workingDirectory
  node : ∀ loc, u.node? loc = t.node? loc ∨ files loc ∨
    dirs loc ∧ t.node? loc = none ∧ u.node? loc = some .directory

namespace ChangesWithin

theorem refl (t : FileTree) : ChangesWithin files dirs t t := ⟨rfl, fun _ => Or.inl rfl⟩

theorem trans (h : ChangesWithin files dirs t u) (h' : ChangesWithin files dirs u v) :
    ChangesWithin files dirs t v := by
  refine ⟨h'.top.trans h.top, fun loc => ?_⟩
  rcases h'.node loc with hv | hf | ⟨hd, hu, hv⟩
  · rw [hv]
    exact h.node loc
  · exact Or.inr (Or.inl hf)
  · rcases h.node loc with ht | hf | ⟨-, -, ht⟩
    · exact Or.inr (Or.inr ⟨hd, ht ▸ hu, hv⟩)
    · exact Or.inr (Or.inl hf)
    · rw [hu] at ht
      cases ht

end ChangesWithin

theorem changesWithin_write {p : Path} {content : ByteArray} (h : t.write p content = .ok u)
    (hp : files (p.location t.workingDirectory)) : ChangesWithin files dirs t u := by
  obtain ⟨rfl, -⟩ := write_ok h
  refine ⟨rfl, fun loc => ?_⟩
  by_cases hl : loc = p.location t.workingDirectory
  · exact Or.inr (Or.inl (hl ▸ hp))
  · exact Or.inl (node?_set_other hl _ t)

theorem changesWithin_makeDirectory {p : Path} (h : t.makeDirectory p = .ok u)
    (hp : dirs (p.location t.workingDirectory)) : ChangesWithin files dirs t u := by
  obtain ⟨-, hn, hne, rfl⟩ := makeDirectory_ok h
  refine ⟨rfl, fun loc => ?_⟩
  by_cases hl : loc = p.location t.workingDirectory
  · rw [hl, node?_set_self hne]
    exact Or.inr (Or.inr ⟨hp, hn, rfl⟩)
  · exact Or.inl (node?_set_other hl _ t)

theorem changesWithin_makeDirectories {p : Path}
    (hp : ∀ q : Path, q.root = p.root → q.parts <+: p.parts → dirs (q.location t.workingDirectory)) :
    ChangesWithin files dirs t (t.makeDirectories p).2 :=
  makeDirectories_induction p (.refl t) fun _ q _ hu hr hq hv =>
    hu.trans (changesWithin_makeDirectory hv (hu.top ▸ hp q hr hq))

theorem makeDirectories_of_ok {p : Path} (h : t.makeDirectory p = .ok u) : t.makeDirectories p = (.ok (), u) := by
  rw [makeDirectories, h]
  rfl

theorem makeDirectories_of_missing {p : Path} (h : t.makeDirectory p = .error .notFound) (hp : p.parts ≠ [])
    (hu : t.makeDirectories p.parent = (.ok (), u)) : t.makeDirectories p = u.settle p (u.makeDirectory p) := by
  rw [makeDirectories, h]
  simp only [hp, dif_neg, not_false_eq_true, hu]

end FileTree

namespace Job
variable {α β : Type} {files dirs : Location → Prop} {top : Location} {job : Job α}

/-- Starting in the working directory `top`, the job changes files within these places only. -/
def ChangesWithin (top : Location) (files dirs : Location → Prop) (job : Job α) : Prop :=
  ∀ s : Session, s.tree.workingDirectory = top → s.tree.ChangesWithin files dirs (job.runOn s).2.tree

theorem KeepsTree.changesWithin (h : KeepsTree job) : ChangesWithin top files dirs job := by
  intro s _
  rw [h s]
  exact .refl s.tree

/-- The job after another one needs to be looked at for those values only that the other one ends with. -/
theorem ChangesWithin.bind {k : α → Job β} (h : ChangesWithin top files dirs job)
    (hk : ∀ (s : Session) a, s.tree.workingDirectory = top → (job.runOn s).1 = .ok a →
      ChangesWithin top files dirs (k a)) :
    ChangesWithin top files dirs (job >>= k) := by
  intro s hs
  have hj := h s hs
  have hk := hk s
  rw [runOn_bind]
  generalize job.runOn s = r at hj hk ⊢
  obtain ⟨fault | a, t⟩ := r
  · exact hj
  · exact hj.trans (hk a hs rfl t (hj.top.trans hs))

theorem changesWithin_mapM {job : α → Job β} {xs : List α} (h : ∀ x ∈ xs, ChangesWithin top files dirs (job x)) :
    ChangesWithin top files dirs (xs.mapM job) := by
  induction xs with
  | nil => exact (keepsTree_pure []).changesWithin
  | cons x xs ih =>
    obtain ⟨hx, hxs⟩ := List.forall_mem_cons.mp h
    rw [List.mapM_cons]
    exact hx.bind fun _ y _ _ => (ih hxs).bind fun _ ys _ _ => (keepsTree_pure _).changesWithin

theorem ChangesWithin.module (name : String) (h : ChangesWithin top files dirs job) :
    ChangesWithin top files dirs (Job.module name job) := by
  intro s hs
  rw [runOn_module]
  exact h (beginModule name s) hs

theorem changesWithin_writeHeader (style : Header.Style) (mode : Int) (h : Header) (hf : files (h.path.location top))
    (hd : ∀ q : Path, q.root = h.path.root → q.parts <+: h.path.parts → dirs (q.location top)) :
    ChangesWithin top files dirs (writeHeader style mode h) := by
  have hprepare : ChangesWithin top files dirs (prepareDirectory mode h.path) := by
    rintro s rfl
    rw [runOn_prepareDirectory]
    split
    · exact .refl s.tree
    · split
      · exact .refl s.tree
      · refine FileTree.changesWithin_makeDirectories fun q hr hq => hd q hr (hq.trans ?_)
        exact List.dropLast_prefix h.path.parts
  have hwrite : ChangesWithin top files dirs (writeText h.path (h.text style)) := by
    rintro s rfl
    rw [runOn_writeText]
    split
    · next hw => exact FileTree.changesWithin_write hw hf
    · exact .refl s.tree
  exact hprepare.bind fun _ _ _ _ => (keepsTree_log _).changesWithin.bind fun _ _ _ _ =>
    hwrite.bind fun _ _ _ _ => (keepsTree_pure _).changesWithin

end Job

namespace Generator
variable (g : Generator) (f : FoundationIndex)

/-- The names from which the module's headers get their places never lead upwards. -/
structure InwardNames (m : Module) : Prop where
  module : (Path.ofString m.name).Inward
  files : ∀ x ∈ m.items f, (Path.ofString (g.form f m x).fileName).Inward

/-- Names without a slash never do, except for the directory above. -/
theorem PlainNames.inwardNames {g : Generator} {f : FoundationIndex} {m : Module} (h : g.PlainNames f m)
    (hm : m.name ≠ "..") : g.InwardNames f m := by
  refine ⟨Path.inward_of_isComponent h.module hm, fun x hx => ?_⟩
  have hne := (g.form f m x).fileName_ne_parent
  rw [HeaderName.Form.fileName_eq] at hne ⊢
  rw [Path.ofString_fileName (h.stem hx)]
  exact ⟨rfl, by simp [Path.stays, hne]⟩

/-- The places below the output directory. -/
def Below (top : Location) (loc : Location) : Prop := g.output.location top <+: loc

instance (top loc : Location) : Decidable (g.Below top loc) := inferInstanceAs (Decidable (_ <+: _))

/-- The places that the output path leads through on its way. -/
def OnTheWay (top : Location) (loc : Location) : Prop :=
  ∃ q : Path, q.root = g.output.root ∧ q.parts <+: g.output.parts ∧ q.location top = loc

/-- The job changes nothing but what is below the output directory, where it may make that directory first. -/
def Confined {α : Type} (top : Location) (job : Job α) : Prop :=
  job.ChangesWithin top (g.Below top) fun loc => g.Below top loc ∨ g.OnTheWay top loc

section Confined
variable {g f} {m : Module} {top : Location} (h : g.InwardNames f m)
include h

theorem InwardNames.confined_writeHeader {x : Item} (hx : x ∈ m.items f) {k : Header}
    (hk : k.path = g.itemPath f m x) : g.Confined top (g.writeHeader k) := by
  have hin : (Path.ofString m.name ++ Path.ofString (g.form f m x).fileName).Inward := h.module.append (h.files x hx)
  have hpath : k.path = g.output ++ (Path.ofString m.name ++ Path.ofString (g.form f m x).fileName) := by
    rw [hk, itemPath, directory, HeaderName.directory, Path.append_assoc (h.files x hx).1]
  refine Job.changesWithin_writeHeader _ _ k ?_ fun q hr hq => ?_
  · rw [hpath]
    exact hin.prefix_location top g.output
  · rw [hpath] at hr hq
    rcases hin.prefix_or top (hr.trans (Path.root_append hin.1 _)) hq with ho | hb
    · exact Or.inr ⟨q, hr.trans (Path.root_append hin.1 _), ho, rfl⟩
    · exact Or.inl hb

theorem InwardNames.confined_emitItem {x : Item} (hx : x ∈ m.items f) : g.Confined top (g.emitItem f m x) := by
  cases x with
  | entity e =>
    refine (Job.keepsTree_ofExcept _).changesWithin.bind fun _ body _ _ => ?_
    have hp : (g.header m (e.draft (m.imports g.settings f)) body).path = g.itemPath f m (.entity e) := by
      rw [header_path, entityPath_eq]
    refine (h.confined_writeHeader hx hp).bind fun _ _ _ _ => ?_
    exact (Job.keepsTree_modifyProgress _).changesWithin.bind fun _ _ _ _ => (Job.keepsTree_pure _).changesWithin
  | umbrella => exact h.confined_writeHeader hx rfl

theorem InwardNames.confined_emitAll : g.Confined top (g.emitAll m (m.drafts g.settings f)) := by
  intro s hs
  have hitems := Job.changesWithin_mapM (fun x hx => h.confined_emitItem hx) s hs
  rw [runOn_emitAll]
  generalize Job.runOn (List.mapM _ (m.items f)) s = r at hitems ⊢
  obtain ⟨fault | _, t⟩ := r
  · exact hitems
  · exact hitems

end Confined

variable {g f} in
theorem confined_writeModule {b : Binary} {top : Location} (h : ∀ m, b.module? = some m → g.InwardNames f m) :
    g.Confined top (g.writeModule f b) := by
  rw [writeModule]
  by_cases hb : b.hasMetadata
  · simp only [hb, Bool.not_true, Bool.false_eq_true, if_false]
    refine (Job.keepsTree_ofExcept _).changesWithin.bind fun s m _ hm => ?_
    rw [Job.runOn_ofExcept] at hm
    have hm' : b.module? = some m := Binary.module?_eq_some_iff.mpr ⟨hb, hm⟩
    exact ((h m hm').confined_emitAll.module m.name).bind fun _ _ _ _ => (Job.keepsTree_pure _).changesWithin
  · simp only [hb, Bool.not_false, if_true]
    exact (Job.keepsTree_log _).changesWithin.bind fun _ _ _ _ => (Job.keepsTree_pure _).changesWithin

theorem confined_runWith {top : Location} (h : ∀ b ∈ g.binaries, ∀ m, b.module? = some m → g.InwardNames f m) :
    g.Confined top (g.runWith f) :=
  (Job.changesWithin_mapM fun b hb => confined_writeModule (h b hb)).bind fun _ _ _ _ =>
    Job.keepsTree_reportSummary.changesWithin.bind fun _ _ _ _ => (Job.keepsTree_pure _).changesWithin

theorem tree_run (s : Session) : (g.run.runOn s).2.tree = (Job.continueWith g.runWith (scan.runOn s)).2.tree := by
  have hrun : g.run.runOn s = (Job.reportingFailure "ObjcHeaderGenerator.generate" (scan >>= g.runWith)).runOn s := rfl
  rw [hrun, Job.runOn_reportingFailure, ← Job.runOn_bind]
  split
  · next hr => rw [hr]
  · next hr => rw [hr]

theorem changesWithin_run (s : Session)
    (h : ∀ b ∈ g.binaries, ∀ m, b.module? = some m → g.InwardNames (indexOn s) m) :
    s.tree.ChangesWithin (g.Below s.tree.workingDirectory)
      (fun loc => g.Below s.tree.workingDirectory loc ∨ g.OnTheWay s.tree.workingDirectory loc)
      (g.run.runOn s).2.tree := by
  have ht : (scan.runOn s).2.tree = s.tree := (FoundationIndex.keepsTree_scan _).operation _ s
  rw [tree_run]
  rw [indexOn] at h
  generalize scan.runOn s = r at ht h ⊢
  obtain ⟨fault | f, t⟩ := r
  · rw [Job.continueWith_error, ht]
    exact .refl s.tree
  · rw [Job.continueWith_ok, ← ht]
    exact g.confined_runWith f h t rfl

/-- However a run ends, each of its headers lies in the directory of its module and that one in the output directory,
and nothing else changes but for directories that are made on the way to it. -/
theorem exists_runWrites_below (s : Session)
    (h : ∀ b ∈ g.binaries, ∀ m, b.module? = some m → g.InwardNames (indexOn s) m) :
    (∃ ws, g.RunWrites s ws ∧ ∀ w ∈ ws, ∀ m, w.1.1.module? = some m →
      g.Below s.tree.workingDirectory ((g.directory m).location s.tree.workingDirectory) ∧
      (g.directory m).location s.tree.workingDirectory <+: w.2.path.location s.tree.workingDirectory) ∧
    ∀ loc, (g.run.runOn s).2.tree.node? loc ≠ s.tree.node? loc → g.Below s.tree.workingDirectory loc ∨
      g.OnTheWay s.tree.workingDirectory loc ∧ s.tree.node? loc = none ∧
        (g.run.runOn s).2.tree.node? loc = some .directory := by
  constructor
  · obtain ⟨ws, hws⟩ := g.exists_runWrites s
    refine ⟨ws, hws, fun w hw m hm => ?_⟩
    have hb : w.1.1 ∈ g.binaries := hws.mem_binaries hw
    have hin := h _ hb m hm
    obtain ⟨hx, hp⟩ := hws.form hw hm
    refine ⟨hin.module.prefix_location _ g.output, ?_⟩
    rw [hp]
    exact (hin.files _ hx).prefix_location _ (g.directory m)
  · intro loc hloc
    rcases (g.changesWithin_run s h).node loc with he | hf | ⟨hb | hway, hn, hd⟩
    · exact absurd he hloc
    · exact Or.inl hf
    · exact Or.inl hb
    · exact Or.inr ⟨hway, hn, hd⟩

end Generator

/-! The condition on the names is needed: one that leads upwards leads out of some directory. -/
namespace Path

theorem mem_of_mem_foldl_enter {cs : List String} {loc : Location} {x : String}
    (h : x ∈ cs.foldl Location.enter loc) : x ∈ loc ∨ x ∈ cs := by
  induction cs generalizing loc with
  | nil => exact Or.inl h
  | cons c cs ih =>
    have henter : x ∈ loc.enter c → x ∈ loc ∨ x = c := by
      rw [Location.enter]
      split
      · exact fun hl => Or.inl ((List.dropLast_sublist loc).mem hl)
      · exact fun hl => by simpa using hl
    rcases ih h with hl | hcs
    · rcases henter hl with hl | rfl
      · exact Or.inl hl
      · exact Or.inr List.mem_cons_self
    · exact Or.inr (List.mem_cons_of_mem c hcs)

/-- Components that lead above the place where they start leave its name behind. -/
theorem mem_of_not_stays {cs : List String} {d : Nat} (h : ¬ stays d cs) {name : String} {down : Location}
    (hd : down.length = d) {x : String} (hx : x ∈ cs.foldl Location.enter (name :: down)) : x ∈ down ∨ x ∈ cs := by
  fun_induction stays d cs generalizing down with
  | case1 => exact absurd rfl h
  | case2 cs =>
    rw [List.length_eq_zero_iff.mp hd, List.foldl_cons, Location.enter, if_pos rfl] at hx
    exact Or.inr (List.mem_cons_of_mem ".." ((mem_of_mem_foldl_enter hx).resolve_left List.not_mem_nil))
  | case3 cs d ih =>
    have hne : down ≠ [] := List.ne_nil_of_length_eq_add_one hd
    rw [List.foldl_cons, Location.enter, if_pos rfl, List.dropLast_cons_of_ne_nil hne] at hx
    rcases ih h (by rw [List.length_dropLast, hd, Nat.succ_sub_one]) hx with hl | hcs
    · exact Or.inl ((List.dropLast_sublist down).mem hl)
    · exact Or.inr (List.mem_cons_of_mem ".." hcs)
  | case4 d c cs hc ih =>
    rw [List.foldl_cons, Location.enter, if_neg hc, List.cons_append] at hx
    rcases ih h (by rw [List.length_append, hd, List.length_singleton]) hx with hl | hcs
    · rcases List.mem_append.mp hl with hl | hl
      · exact Or.inl hl
      · exact Or.inr (List.mem_singleton.mp hl ▸ List.mem_cons_self)
    · exact Or.inr (List.mem_cons_of_mem c hcs)

/-- Exactly the inward paths lead below every directory. -/
theorem inward_iff {q : Path} : q.Inward ↔ ∀ top p, p.location top <+: (p ++ q).location top := by
  refine ⟨Inward.prefix_location, fun h => ?_⟩
  -- a directory whose name the path does not have is left behind by a path that leads upwards
  obtain ⟨name, hname⟩ := Infinite.exists_notMem_finset (q.parts.toFinset ∪ {".."})
  obtain ⟨hup, hq⟩ : name ≠ ".." ∧ name ∉ q.parts := by simpa using hname
  have hdir : (⟨"", [name]⟩ : Path).location [] = [name] := if_neg hup
  have hmem : name ∈ ((⟨"", [name]⟩ : Path) ++ q).location [] := by
    have hp := h [] ⟨"", [name]⟩
    rw [hdir] at hp
    exact hp.subset List.mem_cons_self
  by_cases hr : q.root = ""
  · rw [location_append hr, hdir] at hmem
    refine ⟨hr, ?_⟩
    by_contra hs
    exact hq ((mem_of_not_stays hs rfl hmem).resolve_left List.not_mem_nil)
  · have habs : (⟨"", [name]⟩ : Path) ++ q = q := if_neg hr
    rw [habs, location, if_neg hr] at hmem
    exact absurd ((mem_of_mem_foldl_enter hmem).resolve_left List.not_mem_nil) hq

end Path

/-- A module's headers have their directory below the output directory, whatever that is, exactly if its name never
leads upwards. -/
theorem HeaderName.inward_iff_directory {name : String} :
    (Path.ofString name).Inward ↔ ∀ top output, output.location top <+: (directory output name).location top :=
  Path.inward_iff

namespace Generator

/-- A generator for one binary that writes below this directory. -/
def plainBelow (output : List String) (b : Binary) : Generator := { plain b with output := ⟨"", output⟩ }

theorem inwardNames_spins (b : Binary) (hb : b ∈ (plainBelow ["a", "out"] spins).binaries) (m : Module)
    (hm : b.module? = some m) : (plainBelow ["a", "out"] spins).InwardNames (indexOn {}) m := by
  obtain rfl : b = spins := List.mem_singleton.mp hb
  obtain rfl : spinModule = m := Option.some.inj (module?_spins.symm.trans hm)
  have hplain : (plainBelow ["a", "out"] spins).PlainNames (indexOn {}) spinModule := by
    refine ⟨by decide, by decide, ?_, ?_⟩
    · exact List.forall_mem_cons.mpr ⟨by decide, List.forall_mem_singleton.mpr (by decide)⟩
    · exact List.forall_mem_singleton.mpr nofun
  exact hplain.inwardNames (by decide)

/-- Also where neither the output directory nor the one above it is there yet. -/
theorem spins_below :
    (∀ b ∈ (plainBelow ["a", "out"] spins).binaries, ∀ m, b.module? = some m →
      (plainBelow ["a", "out"] spins).InwardNames (indexOn {}) m) ∧
    (∃ ws, (plainBelow ["a", "out"] spins).RunWrites {} ws ∧ ∀ w ∈ ws, ∀ m, w.1.1.module? = some m →
      (plainBelow ["a", "out"] spins).Below [] (((plainBelow ["a", "out"] spins).directory m).location []) ∧
      ((plainBelow ["a", "out"] spins).directory m).location [] <+: w.2.path.location []) ∧
    ∀ loc, ((plainBelow ["a", "out"] spins).run.runOn {}).2.tree.node? loc ≠ ({} : FileTree).node? loc →
      (plainBelow ["a", "out"] spins).Below [] loc ∨
      (plainBelow ["a", "out"] spins).OnTheWay [] loc ∧ ({} : FileTree).node? loc = none ∧
        ((plainBelow ["a", "out"] spins).run.runOn {}).2.tree.node? loc = some .directory :=
  ⟨inwardNames_spins, exists_runWrites_below _ {} inwardNames_spins⟩

/-! A binary whose headers go to the directory above the output directory. -/
section Climber

def climber : Binary where
  name := "M"
  fields := [("dylib_id", .text "/usr/lib/.."), ("objc", .object [
    ("classes", .list [.object [("name", .text "Spin")]])])]

def climbingModule : Module where
  name := ".."
  classes := [{ name := "Spin" }]

theorem module?_climber : climber.module? = some climbingModule := by
  rw [climber.module?_of_sections (some "/usr/lib/..") [] [{ name := "Spin" }] [] [] ⟨rfl, rfl, rfl, rfl, rfl, rfl⟩]
  simp only [ObjcClass.sorted, ObjcProtocol.sorted, Category.sorted, List.mergeSort_singleton, List.mergeSort_nil]
  rfl

/-- The directories that the output path needs. -/
def climbed : FileTree where
  nodes := [(["a"], .directory), (["a", "out"], .directory)]

theorem makeDirectories_climber : ({} : FileTree).makeDirectories ⟨"", ["a", "out", ".."]⟩ = (.ok (), climbed) := by
  have h₁ : ({} : FileTree).makeDirectory ⟨"", ["a"]⟩ = .ok { nodes := [(["a"], .directory)] } := by
    simp only [FileTree.makeDirectory, FileTree.find, String.contains_char_eq]
    rfl
  have h₂ : ({} : FileTree).makeDirectory ⟨"", ["a", "out"]⟩ = .error .notFound := by
    simp only [FileTree.makeDirectory, FileTree.find, String.contains_char_eq]
    rfl
  have h₃ : ({} : FileTree).makeDirectory ⟨"", ["a", "out", ".."]⟩ = .error .notFound := by
    simp only [FileTree.makeDirectory, FileTree.find, String.contains_char_eq]
    rfl
  have hout : ({} : FileTree).makeDirectories ⟨"", ["a", "out"]⟩ = (.ok (), climbed) := by
    rw [FileTree.makeDirectories_of_missing h₂ (by simp) (FileTree.makeDirectories_of_ok h₁)]
    simp only [FileTree.makeDirectory, FileTree.find, String.contains_char_eq]
    rfl
  rw [FileTree.makeDirectories_of_missing h₃ (by simp) hout]
  simp only [FileTree.makeDirectory, FileTree.settle, FileTree.isDirectory, FileTree.nodeAt, FileTree.find,
    String.contains_char_eq]
  rfl

/-- Without the directories the run goes as it does with them. -/
theorem runOn_emit_climber {m : Module} (hm : m.name = "..") {d : Draft} (hd : d.fileName = "Spin.h") {body : String}
    (hb : d.body = .ok body) {s : Session} (hs : s.tree = {}) :
    ((plainBelow ["a", "out"] climber).emit m d).runOn s =
      ((plainBelow ["a", "out"] climber).emit m d).runOn { s with tree := climbed } := by
  have hpath : ((plainBelow ["a", "out"] climber).header m d body).path.parent = ⟨"", ["a", "out", ".."]⟩ := by
    rw [header, hd, directory, hm]
    rfl
  have hnull : '\x00' ∉ (⟨"", ["a", "out", ".."]⟩ : Path).toString.toList := by decide
  have hfind : climbed.find ⟨"", ["a", "out", ".."]⟩ = .ok (["a"], some .directory) := by
    simp only [FileTree.find, String.contains_char_eq]
    rfl
  have hmade : (Job.prepareDirectory 0o750 ((plainBelow ["a", "out"] climber).header m d body).path).runOn s =
      (.ok (), { s with tree := climbed }) := by
    rw [Job.runOn_prepareDirectory, hpath, hs, makeDirectories_climber, String.contains_char_eq]
    simp only [hnull, decide_false, Bool.false_eq_true, if_false]
    rfl
  have hthere : (Job.prepareDirectory 0o750 ((plainBelow ["a", "out"] climber).header m d body).path).runOn
      { s with tree := climbed } = (.ok (), { s with tree := climbed }) :=
    Job.runOn_prepareDirectory_of_find rfl (hpath.symm ▸ hnull) (hpath.symm ▸ hfind)
  rw [emit, hb, Job.runOn_bind, Job.runOn_bind]
  exact Job.runOn_bind_congr (Job.runOn_bind_congr (hmade.trans hthere.symm) _) _

theorem runOn_emitAll_climber (f : FoundationIndex) {s : Session} (hs : s.tree = {}) :
    ((plainBelow ["a", "out"] climber).emitAll climbingModule
      (climbingModule.drafts (plainBelow ["a", "out"] climber).settings f)).runOn s =
    ((plainBelow ["a", "out"] climber).emitAll climbingModule
      (climbingModule.drafts (plainBelow ["a", "out"] climber).settings f)).runOn { s with tree := climbed } := by
  have hd : climbingModule.drafts (plainBelow ["a", "out"] climber).settings f =
    [Module.draftOfClass (climbingModule.imports {} f) { name := "Spin" }] := rfl
  rw [hd, emitAll, List.mapM_cons]
  exact Job.runOn_bind_congr (Job.runOn_bind_congr (runOn_emit_climber rfl rfl rfl hs) _) _

theorem runOn_writeModule_climber (f : FoundationIndex) {s : Session} (hs : s.tree = {}) :
    ((plainBelow ["a", "out"] climber).writeModule f climber).runOn s =
      ((plainBelow ["a", "out"] climber).writeModule f climber).runOn { s with tree := climbed } := by
  have hmodule := Job.runOn_module_congr ".." s (runOn_emitAll_climber f (s := Job.beginModule ".." s) hs)
  rw [runOn_writeModule _ f module?_climber, runOn_writeModule _ f module?_climber]
  exact congrArg (Job.continueWith _) hmodule

/-- The module of the climber has its headers in the directory `a`. -/
theorem canWrite_climber : (plainBelow ["a", "out"] climber).CanWrite {} climbingModule climbed := by
  have hd : climbed.find ⟨"", ["a", "out", ".."]⟩ = .ok (["a"], some .directory) := by
    simp only [FileTree.find, String.contains_char_eq]
    rfl
  have hh : ∀ n, n ∈ ["Spin.h", "...h"] → climbed.Accepts ⟨"", ["a", "out", "..", n]⟩ := by
    intro n hn
    have hfits : ∀ n ∈ ["Spin.h", "...h"], n ≠ ".." ∧ n.utf8ByteSize ≤ FileTree.componentLimit ∧
        '\x00' ∉ (⟨"", ["a", "out", "..", n]⟩ : Path).toString.toList ∧
        (⟨"", ["a", "out", "..", n]⟩ : Path).toString.utf8ByteSize ≤ FileTree.pathLimit ∧
        climbed.node? ["a", n] ≠ some .directory := by decide
    obtain ⟨hup, hs, hnull, hl, hf⟩ := hfits n hn
    have happ : (⟨"", ["a", "out", ".."]⟩ : Path) ++ ⟨"", [n]⟩ = ⟨"", ["a", "out", "..", n]⟩ := rfl
    rw [← happ] at hnull hl ⊢
    exact FileTree.accepts_append_name hd hup hs hnull hl hf
  refine ⟨rfl, List.forall_mem_singleton.mpr ⟨_, rfl⟩, List.forall_mem_cons.mpr ⟨?_, List.forall_mem_singleton.mpr ?_⟩⟩
  · exact hh "Spin.h" (by simp)
  · exact hh "...h" (by simp)

/-- A run for the climber in an empty tree. -/
theorem runOn_climber : ∃ t, (plainBelow ["a", "out"] climber).run.runOn {} =
    (.ok ((plainBelow ["a", "out"] climber).results {}), t) ∧ t.tree.node? ["a"] = some .directory := by
  have hscan : Job.Succeeds scan {} { tree := climbed } := ⟨_, rfl, .refl _⟩
  obtain ⟨t, ht, hway⟩ := (plainBelow ["a", "out"] climber).succeeds_run {} hscan fun b hb =>
    ⟨climbingModule, List.mem_singleton.mp hb ▸ ⟨module?_climber, canWrite_climber⟩⟩
  refine ⟨t, ?_, ?_⟩
  · have hrun : (plainBelow ["a", "out"] climber).run = Job.reportingFailure "ObjcHeaderGenerator.generate"
        (scan >>= (plainBelow ["a", "out"] climber).runWith) := rfl
    have hmodules : ((plainBelow ["a", "out"] climber).runWith {}).runOn (scan.runOn {}).2 =
        ((plainBelow ["a", "out"] climber).runWith {}).runOn { (scan.runOn {}).2 with tree := climbed } := by
      have hb : (plainBelow ["a", "out"] climber).binaries = [climber] := rfl
      rw [runWith, hb, List.mapM_cons]
      exact Job.runOn_bind_congr (Job.runOn_bind_congr (runOn_writeModule_climber {} rfl) _) _
    have hboth : (scan >>= (plainBelow ["a", "out"] climber).runWith).runOn {} =
        (scan >>= (plainBelow ["a", "out"] climber).runWith).runOn { tree := climbed } := by
      rw [Job.runOn_bind, Job.runOn_bind]
      exact hmodules
    rw [← ht, hrun, Job.runOn_reportingFailure, Job.runOn_reportingFailure, hboth]
  · have ha : climbed.find ⟨"", ["a"]⟩ = .ok (["a"], some .directory) := by
      simp only [FileTree.find, String.contains_char_eq]
      rfl
    obtain ⟨n, hn, hdir⟩ := hway _ _ _ ha
    rw [← (FileTree.find_ok hn).2]
    exact hdir.mpr rfl

/-- A header can lie outside the output directory, and a directory above that one be made. -/
theorem not_all_changes_below :
    (¬ ∀ (g : Generator) (s : Session) (ws : List ((Binary × Item) × Header)), g.RunWrites s ws →
      ∀ w ∈ ws, g.Below s.tree.workingDirectory (w.2.path.location s.tree.workingDirectory)) ∧
    ¬ ∀ (g : Generator) (s : Session) (loc : Location),
      (g.run.runOn s).2.tree.node? loc ≠ s.tree.node? loc → g.Below s.tree.workingDirectory loc := by
  obtain ⟨t, ht, hnode⟩ := runOn_climber
  constructor
  · intro h
    obtain ⟨ws, hws⟩ := (plainBelow ["a", "out"] climber).exists_runWrites {}
    have hx : ws.map (·.1) = [(climber, .entity (.ofClass { name := "Spin" })), (climber, .umbrella)] := by
      rw [hws.all _ (congrArg Prod.fst ht), items,
        show (plainBelow ["a", "out"] climber).binaries = [climber] from rfl, List.flatMap_singleton,
        Binary.items_of_module? module?_climber]
      rfl
    obtain ⟨w, hw, hwx⟩ := List.mem_map.mp (hx ▸ List.mem_cons_self)
    have hm : w.1.1.module? = some climbingModule := by rw [hwx, module?_climber]
    have hb := h _ _ ws hws w hw
    rw [(hws.form hw hm).2, hwx] at hb
    exact absurd hb (by decide)
  · intro h
    have hb := h (plainBelow ["a", "out"] climber) {} ["a"] (by rw [ht, hnode]; simp [FileTree.node?])
    exact absurd hb (by decide)

end Climber
end Generator
end ObjcAtlas
