import ObjcAtlas.Proofs.AscendingNames
import ObjcAtlas.Proofs.ReorderedCache

/-! The order of entities in metadata does not matter: from files and a cache that hold reordered metadata,
generation ends the same and leaves the same files, and listings are the same. -/
namespace ObjcAtlas

/-- Contents of one place in two runs: the same, or still what the runs began with. -/
def FileTree.Keeps (t u : FileTree) (loc : Location) (c d : ByteArray) : Prop :=
  c = d ∨ t.node? loc = some (.file c) ∧ u.node? loc = some (.file d) ∧ ReorderedContent c d

theorem FileTree.Keeps.reordered {t u : FileTree} {loc : Location} {c d : ByteArray} (h : Keeps t u loc c d) :
    ReorderedContent c d := by
  rcases h with rfl | ⟨-, -, h⟩
  · exact .same c
  · exact h

/-- Sessions that agree but for the order of entities in the metadata of the cache and for what `C` allows in
files. -/
abbrev Session.ReorderedIn (C : Location → ByteArray → ByteArray → Prop) : Session → Session → Prop :=
  Session.Alike (FileTree.Matches C) SharedCache.Reordered

/-- Generators that differ in the order of entities in their binaries. -/
structure Generator.Reordered (g k : Generator) : Prop where
  settings : g.settings = k.settings
  output : g.output = k.output
  toolVersion : g.toolVersion = k.toolVersion
  binary : g.binary.Reordered k.binary
  dependencies : List.Forall₂ Binary.Reordered g.dependencies k.dependencies

theorem Generator.Reordered.emitAll_eq {g k : Generator} (h : g.Reordered k) (m : Module) (ds : List Draft) :
    g.emitAll m ds = k.emitAll m ds := by
  obtain ⟨hs, ho, hv, -, -⟩ := h
  cases g
  cases k
  subst hs ho hv
  rfl

/-- An index depends on which names there are only. -/
theorem FoundationIndex.ofNames_eq {cs ds ps qs : List String} (hc : ∀ n, n ∈ cs ↔ n ∈ ds)
    (hp : ∀ n, n ∈ ps ↔ n ∈ qs) : ofNames cs ps = ofNames ds qs := by
  have hc' : Text.ascending cs = Text.ascending ds := Text.eq_of_mem_iff_of_pairwise (Text.ascending_pairwise cs)
    (Text.ascending_pairwise ds) fun n => by rw [Text.mem_ascending, Text.mem_ascending, hc]
  have hp' : Text.ascending ps = Text.ascending qs := Text.eq_of_mem_iff_of_pairwise (Text.ascending_pairwise ps)
    (Text.ascending_pairwise qs) fun n => by rw [Text.mem_ascending, Text.mem_ascending, hp]
  rw [ofNames, ofNames, hc', hp']

/-- Names of the classes and protocols of an image, in any order and number. -/
def SameNames (p q : List String × List String) : Prop := (∀ n, n ∈ p.1 ↔ n ∈ q.1) ∧ ∀ n, n ∈ p.2 ↔ n ∈ q.2

theorem FoundationIndex.ofNames_eq_of_forall₂ {ns ms : List (List String × List String)}
    (h : List.Forall₂ SameNames ns ms) :
    ofNames (ns.flatMap (·.1)) (ns.flatMap (·.2)) = ofNames (ms.flatMap (·.1)) (ms.flatMap (·.2)) := by
  apply ofNames_eq
  · intro n
    induction h with
    | nil => rfl
    | cons hpq _ ih => simp only [List.flatMap_cons, List.mem_append, hpq.1 n, ih]
  · intro n
    induction h with
    | nil => rfl
    | cons hpq _ ih => simp only [List.flatMap_cons, List.mem_append, hpq.2 n, ih]

section Jobs
variable {C : Location → ByteArray → ByteArray → Prop} (hC : ∀ loc c d, C loc c d → ReorderedContent c d)
include hC

theorem Job.paired_image (name : String) :
    Paired (Session.ReorderedIn C) Binary.Reordered (image name) (image name) := by
  intro s t h
  simp only [image, runOn_bind, runOn_get, continueWith_ok]
  have hc := h.cache
  generalize hs : s.cache = c at hc
  generalize ht : t.cache = d at hc
  cases hc with
  | none => exact ⟨.error _, h⟩
  | some hcd =>
    obtain ⟨hr, hcd'⟩ := hcd.image hC h.tree name
    simp only [runOn_bind, runOn_set, continueWith_ok, runOn_ofExcept]
    exact ⟨hr, { h with cache := .some hcd' }⟩

theorem Binary.Reordered.paired_loadImported {b c : Binary} (h : b.Reordered c) (wanted : String → Bool) :
    Job.Paired (Session.ReorderedIn C) (List.Forall₂ Binary.Reordered) (b.loadImported wanted)
      (c.loadImported wanted) := by
  rw [loadImported, loadImported, h.importedLibraries, h.name]
  refine (Job.paired_ofExcept_same _).bind fun libraries _ hl => ?_
  subst hl
  refine (Job.paired_mapM_same _ (Job.paired_image hC)).bind fun bs cs hbs => ?_
  rw [hbs.length_eq]
  exact (Job.paired_log _).bind fun _ _ _ => Job.paired_pure hbs

theorem Binary.Reordered.paired_dependencies {b c : Binary} (h : b.Reordered c) (withImported : Bool)
    (wanted : String → Bool) :
    Job.Paired (Session.ReorderedIn C) (List.Forall₂ Binary.Reordered) (b.dependencies withImported wanted)
      (c.dependencies withImported wanted) := by
  rw [dependencies, dependencies, h.hasMetadata, h.name]
  split
  · exact Job.paired_throw_bind _ _ _
  · split
    · refine Job.paired_get.bind fun s t hs => ?_
      rw [Job.isNone_eq_of_alike hs]
      split
      · exact Job.paired_throw_bind _ _ _
      · exact h.paired_loadImported hC wanted
    · exact Job.paired_pure .nil

theorem FoundationIndex.paired_imageNames (image : String) :
    Job.Paired (Session.ReorderedIn C) SameNames (imageNames image) (imageNames image) := by
  refine (Job.paired_image hC image).bind fun b c hb => ?_
  refine (Job.paired_ofExcept hb.classes).bind fun cs cs' hc => ?_
  refine (Job.paired_ofExcept hb.protocols).bind fun ps ps' hp => Job.paired_pure ⟨?_, ?_⟩
  · exact fun n => (hc.perm.map _).mem_iff
  · exact fun n => (hp.perm.map _).mem_iff

theorem FoundationIndex.paired_scan (images : List String) :
    Job.Paired (Session.ReorderedIn C) Eq (scan images) (scan images) := by
  refine Job.paired_reportingFailure _ ?_
  refine Job.paired_get.bind fun s t hs => ?_
  rw [Job.isNone_eq_of_alike hs]
  split
  · exact Job.paired_pure rfl
  · refine (Job.paired_mapM_same images (FoundationIndex.paired_imageNames hC)).bind fun ns ms hn => ?_
    rw [FoundationIndex.ofNames_eq_of_forall₂ hn]
    exact (Job.paired_log _).bind fun _ _ _ => Job.paired_pure rfl

theorem Generator.paired_prepare (settings : Settings) (output : Path) (toolVersion : String) (withImported : Bool)
    {b c : Binary} (h : b.Reordered c) :
    Job.Paired (Session.ReorderedIn C) Generator.Reordered
      (prepare settings output toolVersion b withImported) (prepare settings output toolVersion c withImported) :=
  (h.paired_dependencies hC withImported _).bind fun _ _ hd => Job.paired_pure ⟨rfl, rfl, rfl, h, hd⟩

theorem Listing.paired_prepare (withImported : Bool) {b c : Binary} (h : b.Reordered c) :
    Job.Paired (Session.ReorderedIn C) Listing.Reordered (prepare b withImported) (prepare c withImported) :=
  (h.paired_dependencies hC withImported _).bind fun _ _ hd => Job.paired_pure ⟨h, hd⟩

variable (hr : ∀ loc c, C loc c c)
include hr

omit hC in
theorem Generator.Reordered.paired_writeModule {g k : Generator} (hg : g.Reordered k) (f : FoundationIndex)
    {b c : Binary} (hb : b.Reordered c) :
    Job.Paired (Session.ReorderedIn C) Eq (g.writeModule f b) (k.writeModule f c) := by
  rw [writeModule, writeModule, hb.hasMetadata, hb.name, hb.ofBinary_eq, hg.settings]
  split
  · exact (Job.paired_log _).bind fun _ _ _ => Job.paired_pure rfl
  · refine (Job.paired_ofExcept_same _).bind fun m _ hm => ?_
    subst hm
    rw [hg.emitAll_eq]
    refine (Job.paired_module m.name (paired_emitAll hr k m _)).bind fun r _ he => ?_
    subst he
    exact Job.paired_pure rfl

theorem Generator.Reordered.paired_run {g k : Generator} (hg : g.Reordered k) :
    Job.Paired (Session.ReorderedIn C) Eq g.run k.run := by
  refine Job.paired_reportingFailure _ ?_
  refine (Job.paired_operation _ (FoundationIndex.paired_scan hC _)).bind fun f _ hf => ?_
  subst hf
  have hbinaries : List.Forall₂ Binary.Reordered (g.dependencies ++ [g.binary]) (k.dependencies ++ [k.binary]) :=
    List.rel_append hg.dependencies (.cons hg.binary .nil)
  refine (Job.paired_mapM hbinaries fun b c hb => hg.paired_writeModule hr f hb).bind fun rs rs' hrs => ?_
  rw [List.forall₂_eq_eq_eq] at hrs
  subst hrs
  exact Job.paired_reportSummary.bind fun _ _ _ => Job.paired_pure rfl

end Jobs

/-- A generator prepared for a binary and run several times, also after a run that failed. -/
def Generator.prepareAndRun (settings : Settings) (output : Path) (toolVersion : String) (withImported : Bool)
    (runs : Nat) (b : Binary) : Job (List (Except Failure (FoundationIndex × List ModuleResult))) := do
  let g ← prepare settings output toolVersion b withImported
  (List.range runs).mapM fun _ => g.run.attempt

/-- Sessions that agree but for the order of entities in the metadata of files and of the cache. -/
def Session.Reordered (s t : Session) : Prop := Session.ReorderedIn (fun _ => ReorderedContent) s t

/-- At its start a run has what it began with. -/
theorem FileTree.Matches.keeps {t u : FileTree} (h : Matches (fun _ => ReorderedContent) t u) :
    Matches (Keeps t u) t u := by
  refine ⟨h.top, fun loc => ?_⟩
  have hn := h.node loc
  generalize ht : t.node? loc = n at hn ⊢
  generalize hu : u.node? loc = n' at hn ⊢
  cases hn with
  | absent => exact .absent
  | directory => exact .directory
  | file hc => exact .file (Or.inr ⟨ht, hu, hc⟩)

theorem FileTree.Matches.node?_eq_or {t u t' u' : FileTree} (h : Matches (Keeps t u) t' u') (loc : Location) :
    t'.node? loc = u'.node? loc ∨ t'.node? loc = t.node? loc ∧ u'.node? loc = u.node? loc := by
  have hn := h.node loc
  generalize t'.node? loc = n at hn ⊢
  generalize u'.node? loc = n' at hn ⊢
  cases hn with
  | absent => exact Or.inl rfl
  | directory => exact Or.inl rfl
  | file hc =>
    rcases hc with rfl | ⟨ht, hu, -⟩
    · exact Or.inl rfl
    · exact Or.inr ⟨ht.symm, hu.symm⟩

/-- From reordered metadata generation ends the same and leaves the same nodes, but for files that differed at the
start and were not written, and all listings are the same. -/
theorem Session.Reordered.same_results {s t : Session} {b c : Binary} (hs : s.Reordered t) (hb : b.Reordered c)
    (settings : Settings) (output : Path) (toolVersion : String) (withImported : Bool) (runs : Nat) :
    let generate := Generator.prepareAndRun settings output toolVersion withImported runs
    ((generate b).runOn s).1 = ((generate c).runOn t).1 ∧
    (∀ loc, ((generate b).runOn s).2.tree.node? loc = ((generate c).runOn t).2.tree.node? loc ∨
      ((generate b).runOn s).2.tree.node? loc = s.tree.node? loc ∧
        ((generate c).runOn t).2.tree.node? loc = t.tree.node? loc) ∧
    (∀ long, ((Listing.prepare b withImported).runOn s).1.bind (·.all long) =
      ((Listing.prepare c withImported).runOn t).1.bind (·.all long)) ∧
    (∀ kind text long, ((Listing.prepare b withImported).runOn s).1.bind (·.filtered kind text long) =
      ((Listing.prepare c withImported).runOn t).1.bind (·.filtered kind text long)) := by
  intro generate
  -- what is not yet written still holds reordered documents, so images are read alike at any time
  have hC : ∀ loc c d, FileTree.Keeps s.tree t.tree loc c d → ReorderedContent c d := fun _ _ _ h => h.reordered
  have hr : ∀ loc c, FileTree.Keeps s.tree t.tree loc c c := fun _ _ => Or.inl rfl
  have hst : Session.ReorderedIn (FileTree.Keeps s.tree t.tree) s t := { hs with tree := hs.tree.keeps }
  have hg : Job.Paired (Session.ReorderedIn (FileTree.Keeps s.tree t.tree)) (List.Forall₂ (Agree Eq)) (generate b)
      (generate c) :=
    (Generator.paired_prepare hC settings output toolVersion withImported hb).bind fun g k hgk =>
      Job.paired_mapM_same _ fun _ => (hgk.paired_run hC hr).attempt
  have hl := (Listing.paired_prepare hC withImported hb s t hst).1
  obtain ⟨ho, hf⟩ := hg s t hst
  refine ⟨?_, fun loc => hf.tree.node?_eq_or loc, fun long => ?_, fun kind text long => ?_⟩
  · exact (ho.mono fun rs rs' h => List.forall₂_eq_eq_eq ▸ h.imp fun _ _ hr => hr.eq).eq
  · refine (hl.bind (S := Eq) fun l k hlk => ?_).eq
    rw [hlk.all_eq]
    exact .refl (fun _ => rfl) _
  · refine (hl.bind (S := Eq) fun l k hlk => ?_).eq
    rw [hlk.filtered_eq]
    exact .refl (fun _ => rfl) _

/-- Metadata of two classes and of a private framework that is imported. -/
def pairFields (first second : String) : List (String × Document) :=
  [("name", .text "M"), ("imported_libraries", .list [.text "PrivateFrameworks/P"]),
    ("objc", .object [("classes", .list [.object [("name", .text first)], .object [("name", .text second)]])])]

/-- A cache with these metadata for the foundation and for the private framework. -/
def pairCache (first second : String) : SharedCache where
  base := {}
  records := [.object [("name", .text "Foundation"), ("metadata", .object (pairFields first second))],
    .object [("name", .text "CoreFoundation")],
    .object [("name", .text "PrivateFrameworks/P"), ("metadata", .object (pairFields first second))]]
  images := []
  symbols := []

theorem reordered_pairFields {m n : String} (h : m ≠ n) (name : String) :
    (Binary.mk name (pairFields m n)).Reordered ⟨name, pairFields n m⟩ := by
  refine ⟨rfl, fun key hk => ?_, rfl, ?_, ?_, ?_⟩
  · have hk' : (key == "objc") = false := by simpa using hk
    simp only [pairFields, List.lookup_cons, hk']
  · exact (.ok (.swap h []) : Agree (Rearranged ObjcClass.key)
      (.ok [{ name := m }, { name := n }] : Except Failure (List ObjcClass)) (.ok [{ name := n }, { name := m }]))
  · exact (.ok (.refl _ []) : Agree (Rearranged ObjcProtocol.key) (.ok [] : Except Failure _) (.ok []))
  · exact (.ok (.refl _ []) : Agree (Rearranged Category.key) (.ok [] : Except Failure _) (.ok []))

theorem reordered_pairCache {m n : String} (h : m ≠ n) : (pairCache m n).Reordered (pairCache n m) := by
  have hr : ∀ name, RecordReordered
      (.object [("name", .text name), ("metadata", .object (pairFields m n))])
      (.object [("name", .text name), ("metadata", .object (pairFields n m))]) :=
    fun _ => ⟨rfl, .ok (.some (.metadata (reordered_pairFields h)))⟩
  exact ⟨rfl, .cons (hr _) (.cons ⟨rfl, .ok .none⟩ (.cons (hr _) .nil)), .nil⟩

theorem same_results_two_classes :
    let s : Session := { cache := some (pairCache "A" "B") }
    let t : Session := { cache := some (pairCache "B" "A") }
    let b : Binary := ⟨"M", pairFields "A" "B"⟩
    let c : Binary := ⟨"M", pairFields "B" "A"⟩
    s.Reordered t ∧ b.Reordered c ∧
      ((Generator.prepareAndRun {} {} "" true 2 b).runOn s).1 =
        ((Generator.prepareAndRun {} {} "" true 2 c).runOn t).1 := by
  intro s t b c
  have hs : s.Reordered t :=
    ⟨⟨rfl, fun _ => .refl .same _⟩, rfl, rfl, .some (reordered_pairCache (by decide)), rfl, rfl⟩
  have hb : b.Reordered c := reordered_pairFields (by decide) "M"
  exact ⟨hs, hb, (hs.same_results hb {} {} "" true 2).1⟩

end ObjcAtlas
