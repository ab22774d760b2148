import ObjcAtlas.Proofs.ModuleFiles
import ObjcAtlas.Proofs.TreeMatching

/-! A binary in which one class is edited. Entities see of each other only their names and kinds, so that what is
generated differs in the header of that class alone. -/
namespace ObjcAtlas
open ObjcAtlas.Module (Item)

/-- Sorting by an order that related entries have in common keeps them side by side. -/
theorem forall₂_mergeSort {α : Type} {R : α → α → Prop} {le : α → α → Bool} {xs ys : List α}
    (h : List.Forall₂ R xs ys) (hle : ∀ a b c d, R a b → R c d → le a c = le b d) :
    List.Forall₂ R (xs.mergeSort le) (ys.mergeSort le) := by
  have hpairs : ∀ p ∈ xs.zip ys, R p.1 p.2 := fun p hp => List.forall₂_zip h hp
  have hfst : ((xs.zip ys).mergeSort fun p q => le p.1 q.1).map Prod.fst = xs.mergeSort le := by
    rw [List.map_mergeSort (f := Prod.fst) (s := le) fun _ _ _ _ => rfl, List.map_fst_zip h.length_eq.le]
  have hsnd : ((xs.zip ys).mergeSort fun p q => le p.1 q.1).map Prod.snd = ys.mergeSort le := by
    rw [List.map_mergeSort (f := Prod.snd) (s := le) fun p hp q hq => hle _ _ _ _ (hpairs p hp) (hpairs q hq),
      List.map_snd_zip h.length_eq.ge]
  rw [← hfst, ← hsnd, List.forall₂_map_left_iff, List.forall₂_map_right_iff, List.forall₂_same]
  intro p hp
  exact hpairs p (List.mem_mergeSort.mp hp)

namespace Keyed
variable {κ β : Type} {keyOf : β → κ} {k n : κ} {xs ys : List β}

/-- Entries that are the same but for those with the key `n`. -/
def EditedAt (keyOf : β → κ) (n : κ) (x y : β) : Prop := x = y ∨ keyOf x = n ∧ keyOf y = n

theorem EditedAt.key_eq {x y : β} (h : EditedAt keyOf n x y) : keyOf x = keyOf y := by
  rcases h with rfl | ⟨hx, hy⟩
  · rfl
  · rw [hx, hy]

theorem map_keyOf_eq (h : List.Forall₂ (EditedAt keyOf n) xs ys) : xs.map keyOf = ys.map keyOf := by
  induction h with
  | nil => rfl
  | cons hxy _ ih => rw [List.map_cons, List.map_cons, hxy.key_eq, ih]

/-- The last entry of another key stays the last. -/
theorem IsLast.of_forall₂ (h : List.Forall₂ (EditedAt keyOf n) xs ys) (hk : k ≠ n) {x : β}
    (hx : IsLast keyOf k xs x) : IsLast keyOf k ys x := by
  induction h with
  | nil => exact hx
  | @cons a b as bs hab hrest ih =>
    rcases isLast_cons_iff.mp hx with hx | ⟨rfl, hax, hafter⟩
    · exact isLast_cons_iff.mpr (Or.inl (ih hx))
    · rcases hab with rfl | ⟨han, -⟩
      · refine isLast_cons_iff.mpr (Or.inr ⟨rfl, hax, ?_⟩)
        rw [← List.forall_mem_map (P := (· ≠ k)), ← map_keyOf_eq hrest, List.forall_mem_map]
        exact hafter
      · exact absurd (hax.symm.trans han) hk

end Keyed

/-- The same entity of another file than the class `n`, or two classes `n`. -/
inductive Entity.EditedAt (n : String) : Entity → Entity → Prop
  | same {e : Entity} (he : ∀ c, e = .ofClass c → c.name ≠ n) : EditedAt n e e
  | edited {x y : ObjcClass} (hx : x.name = n) (hy : y.name = n) : EditedAt n (.ofClass x) (.ofClass y)

namespace Module

/-- Modules that differ in classes `n` only. -/
structure EditedAt (n : String) (m m' : Module) : Prop where
  name : m.name = m'.name
  buildVersions : m.buildVersions = m'.buildVersions
  sourceVersion : m.sourceVersion = m'.sourceVersion
  classes : List.Forall₂ (Keyed.EditedAt ObjcClass.name n) m.classes m'.classes
  protocols : m.protocols = m'.protocols
  categories : m.categories = m'.categories

namespace EditedAt
variable {n : String} {m m' : Module}

theorem scope_eq (h : m.EditedAt n m') (s : Settings) (f : FoundationIndex) : m.scope s f = m'.scope s f := by
  rw [scope, scope, Keyed.map_keyOf_eq h.classes, h.protocols]

theorem entities (h : m.EditedAt n m') (f : FoundationIndex) :
    List.Forall₂ (Entity.EditedAt n) (m.entities f) (m'.entities f) := by
  rw [Module.entities, Module.entities, h.protocols, h.categories]
  have hsame : ∀ es : List Entity, (∀ e ∈ es, ∀ c, e ≠ .ofClass c) → List.Forall₂ (Entity.EditedAt n) es es := by
    intro es hes
    exact List.forall₂_same.mpr fun e he => .same fun c hc => absurd hc (hes e he c)
  refine List.rel_append (List.rel_append ?_ (hsame _ ?_)) (hsame _ ?_)
  · rw [List.forall₂_map_left_iff, List.forall₂_map_right_iff]
    refine h.classes.imp fun x y hxy => ?_
    by_cases hn : x.name = n
    · exact .edited hn (hxy.key_eq ▸ hn)
    · obtain rfl | ⟨hx, -⟩ := hxy
      · refine .same ?_
        rintro c hc
        cases hc
        exact hn
      · exact absurd hx hn
  · simp
  · simp

/-- Another entity brings in what the same entity as before brings in. -/
theorem decides (h : m.EditedAt n m') {e d : Entity} (he : ∀ c, e = .ofClass c → c.name ≠ n) (hd : m.Decides e d) :
    m'.Decides e d := by
  cases hd with
  | ofClass hl => exact .ofClass (hl.of_forall₂ h.classes (he _ rfl))
  | ofProtocol hl => exact .ofProtocol (h.protocols ▸ hl)
  | ofCategory hl => exact .ofCategory (h.categories ▸ hl)

theorem draft_eq (h : m.EditedAt n m') {s : Settings} {f : FoundationIndex} {e : Entity} (hm : e ∈ m.entities f)
    (he : ∀ c, e = .ofClass c → c.name ≠ n) : e.draft (m.imports s f) = e.draft (m'.imports s f) := by
  have hmk : ∀ i, e.draft i = ⟨e.fileName, e.name, (e.draft i).imports, e.declaration⟩ := by
    intro i
    cases e <;> rfl
  obtain ⟨d, hd⟩ := exists_decides hm
  rw [hmk (m.imports s f), hmk (m'.imports s f), hd.imports_eq s, (h.decides he hd).imports_eq s, h.scope_eq]

theorem header_eq (h : m.EditedAt n m') (g : Generator) (d : Draft) (body : String) :
    g.header m d body = g.header m' d body := by
  simp only [Generator.header, Generator.directory, h.name, h.buildVersions, h.sourceVersion]

theorem umbrella_eq (h : m.EditedAt n m') (g : Generator) (names : List String) :
    g.umbrella m names = g.umbrella m' names := by
  simp only [Generator.umbrella, Generator.directory, h.name, h.buildVersions, h.sourceVersion]

end EditedAt
end Module

/-- Contents that agree in every other place. -/
def Location.SameBeside (place loc : Location) (c d : ByteArray) : Prop := loc ≠ place → c = d

/-- If no type is missing, the headers of the edited module come out as before, but for what is in the place of the
header of the class. -/
theorem Module.EditedAt.paired_emitAll {n : String} {m m' : Module} (h : m.EditedAt n m') (g : Generator)
    (f : FoundationIndex) (top : Location) (hb : ∀ e ∈ m.entities f, ∃ text, e.declaration = .ok text)
    (hb' : ∀ e ∈ m'.entities f, ∃ text, e.declaration = .ok text) :
    Job.Paired (Session.Alike (FileTree.MatchesAt
        (Location.SameBeside ((g.directory m' ++ Path.ofString (HeaderName.ofClass n)).location top)) top) Eq) Eq
      (g.emitAll m (m.drafts g.settings f)) (g.emitAll m' (m'.drafts g.settings f)) := by
  rw [drafts_eq, drafts_eq]
  refine Generator.paired_emitAll_of_forall₂ (fun _ _ _ => rfl) h.name (h.umbrella_eq g) ?_
  rw [List.forall₂_map_left_iff, List.forall₂_map_right_iff, List.forall₂_iff_zip]
  refine ⟨(h.entities f).length_eq, fun {e e'} hp => ?_⟩
  obtain ⟨he, he'⟩ := List.of_mem_zip hp
  obtain ⟨text, ht⟩ := hb e he
  obtain ⟨text', ht'⟩ := hb' e' he'
  apply Generator.paired_emit
  cases List.forall₂_zip (h.entities f) hp with
  | same hn =>
    rw [h.draft_eq he hn]
    refine .refl (fun body => ?_) _
    rw [h.header_eq]
    exact ⟨rfl, fun _ => rfl⟩
  | @edited x y hx hy =>
    -- imports and declaration may differ here, but both headers go to the place that is left out
    rw [Entity.draft_body, Entity.draft_body, ht, ht']
    have hpath : ∀ (i : ModuleImports) (c : ObjcClass) (body : String), c.name = n →
        (g.header m' ((Entity.ofClass c).draft i) body).path =
          g.directory m' ++ Path.ofString (HeaderName.ofClass n) := by
      rintro i c body rfl
      rfl
    refine .ok ⟨?_, fun hne => absurd (congrArg (Path.location top) (hpath _ y text' hy)) hne⟩
    rw [h.header_eq, hpath _ x text hx, hpath _ y text' hy]

namespace Binary

/-- The name of a binary's module. -/
def moduleName? (b : Binary) : Except Failure String := (b.installName?).map (Module.nameFor b)

/-- Binaries whose modules have one name and versions, and the same sections but for one class `n`. -/
structure EditedAt (n : String) (b c : Binary) : Prop where
  moduleName : b.moduleName? = c.moduleName?
  buildVersions : b.buildVersions = c.buildVersions
  sourceVersion : b.sourceVersion = c.sourceVersion
  classes : ∃ before x y after, b.classes = .ok (before ++ x :: after) ∧ c.classes = .ok (before ++ y :: after) ∧
    x.name = n ∧ y.name = n
  protocols : b.protocols = c.protocols
  categories : b.categories = c.categories

theorem hasMetadata_of_classes {b : Binary} {cs : List ObjcClass} (h : b.classes = .ok cs) (hne : cs ≠ []) :
    b.hasMetadata = true := by
  rw [hasMetadata]
  cases hs : b.sections? with
  | some sections => rfl
  | none =>
    rw [classes, classes?, section?, hs] at h
    exact absurd (Except.ok.inj h).symm hne

variable {n : String} {b c : Binary} {g : Generator} {f : FoundationIndex} {s : Session} {r : Option ModuleResult}

theorem exists_module?_of_runOn {cs : List ObjcClass} (h : b.classes = .ok cs) (hne : cs ≠ [])
    (hr : ((g.writeModule f b).runOn s).1 = .ok r) : ∃ m, b.module? = some m := by
  rcases Generator.no_metadata_or_module? hr with hb | hm
  · rw [hasMetadata_of_classes h hne] at hb
    cases hb
  · exact hm

theorem EditedAt.modules (h : b.EditedAt n c) {m m' : Module} (hm : b.module? = some m) (hm' : c.module? = some m') :
    m.EditedAt n m' := by
  obtain ⟨hname, hversions, hsource⟩ := banner_of_module? hm
  obtain ⟨hname', hversions', hsource'⟩ := banner_of_module? hm'
  obtain ⟨cs, ps, ks, ⟨hcs, hmc⟩, ⟨hps, hmp⟩, ⟨hks, hmk⟩⟩ := sections_of_module? hm
  obtain ⟨cs', ps', ks', ⟨hcs', hmc'⟩, ⟨hps', hmp'⟩, ⟨hks', hmk'⟩⟩ := sections_of_module? hm'
  obtain ⟨before, x, y, after, hbc, hcc, hx, hy⟩ := h.classes
  obtain rfl := Except.ok.inj (hbc.symm.trans hcs)
  obtain rfl := Except.ok.inj (hcc.symm.trans hcs')
  obtain rfl := Except.ok.inj (hps.symm.trans (h.protocols.trans hps'))
  obtain rfl := Except.ok.inj (hks.symm.trans (h.categories.trans hks'))
  refine ⟨Except.ok.inj (hname.symm.trans (h.moduleName.trans hname')),
    Except.ok.inj (hversions.symm.trans (h.buildVersions.trans hversions')),
    hsource.symm.trans (h.sourceVersion.trans hsource'), ?_, hmp.trans hmp'.symm, hmk.trans hmk'.symm⟩
  rw [hmc, hmc']
  refine forall₂_mergeSort ?_ fun x y z w hxy hzw => by rw [hxy.key_eq, hzw.key_eq]
  have hsame : ∀ cs : List ObjcClass, List.Forall₂ (Keyed.EditedAt ObjcClass.name n) cs cs :=
    fun cs => List.forall₂_same.mpr fun _ _ => Or.inl rfl
  exact List.rel_append (hsame before) (.cons (Or.inr ⟨hx, hy⟩) (hsame after))

end Binary

theorem Generator.exists_declaration_of_runOn {g : Generator} {f : FoundationIndex} {b : Binary} {s : Session}
    {r : Option ModuleResult} {m : Module} (hm : b.module? = some m) (hr : ((g.writeModule f b).runOn s).1 = .ok r)
    {e : Entity} (he : e ∈ m.entities f) : ∃ text, e.declaration = .ok text := by
  obtain ⟨ws, hws⟩ := g.exists_writes f b s
  have hitem : Item.entity e ∈ ws.map (·.1) := by
    rw [hws.all r hr, Binary.items_of_module? hm]
    exact Module.entity_mem_items_iff.mpr he
  obtain ⟨w, hw, hwe⟩ := List.mem_map.mp hitem
  exact ⟨w.2.body, hws.body_eq g f hw hwe⟩

namespace FileTree.Matches
variable {place : Location} {t u : FileTree}

theorem refl_sameBeside (place : Location) (t : FileTree) : Matches (Location.SameBeside place) t t :=
  ⟨rfl, fun _ => .refl (fun _ _ => rfl) _⟩

theorem node?_eq (h : Matches (Location.SameBeside place) t u) {loc : Location} (hl : loc ≠ place) :
    t.node? loc = u.node? loc := by
  have hn := h.node loc
  generalize t.node? loc = n at hn ⊢
  generalize u.node? loc = n' at hn ⊢
  cases hn with
  | absent => rfl
  | directory => rfl
  | file hc => rw [hc hl]

end FileTree.Matches

/-- Two calls that succeed, for a binary before and after one class is edited, have the same result, and what they leave
differs at most in the header of that class. -/
theorem Binary.EditedAt.same_beside {n : String} {b c : Binary} (h : b.EditedAt n c) (g : Generator)
    (f : FoundationIndex) (s : Session) {r r' : Option ModuleResult}
    (hr : ((g.writeModule f b).runOn s).1 = .ok r) (hr' : ((g.writeModule f c).runOn s).1 = .ok r') :
    r = r' ∧ ∃ name, b.moduleName? = .ok name ∧ ∀ loc,
      loc ≠ (HeaderName.directory g.output name ++ Path.ofString (HeaderName.ofClass n)).location
        s.tree.workingDirectory →
      ((g.writeModule f b).runOn s).2.tree.node? loc = ((g.writeModule f c).runOn s).2.tree.node? loc := by
  obtain ⟨before, x, y, after, hb, hc, -, -⟩ := h.classes
  obtain ⟨m, hm⟩ := exists_module?_of_runOn hb (by simp) hr
  obtain ⟨m', hm'⟩ := exists_module?_of_runOn hc (by simp) hr'
  have he := h.modules hm hm'
  -- a missing type would break one of the calls off before the other
  have hbody : ∀ e ∈ m.entities f, ∃ text, e.declaration = .ok text := fun e hmem =>
    Generator.exists_declaration_of_runOn hm hr hmem
  have hbody' : ∀ e ∈ m'.entities f, ∃ text, e.declaration = .ok text := fun e hmem =>
    Generator.exists_declaration_of_runOn hm' hr' hmem
  have hpaired := (Job.paired_module m'.name (he.paired_emitAll g f s.tree.workingDirectory hbody hbody')).bind
    fun a a' ha => Job.paired_pure (congrArg some ha)
  have hcache : Option.Rel Eq s.cache s.cache := by
    cases s.cache with
    | none => exact .none
    | some c => exact .some rfl
  obtain ⟨hresult, hleft⟩ := hpaired s s ⟨⟨.refl_sameBeside _ _, rfl⟩, rfl, rfl, hcache, rfl, rfl⟩
  rw [Job.runOn_bind, Job.runOn_bind, ← g.runOn_writeModule f hm', ← he.name, ← g.runOn_writeModule f hm]
    at hresult hleft
  refine ⟨?_, m'.name, ?_, ?_⟩
  · rw [hr, hr'] at hresult
    exact Except.ok.inj hresult.eq
  · rw [h.moduleName]
    exact (banner_of_module? hm').1
  · intro loc hl
    exact hleft.tree.matching.node?_eq hl

/-! Two classes, the first of which comes to adopt a protocol. -/
section Halves
open Generator (plain filesOnly Fits)

def halves (fields : List (String × Document)) : Binary where
  name := "M"
  fields := [("objc", .object [
    ("classes", .list [.object (("name", .text "A") :: fields), .object [("name", .text "B")]])])]

def adoption : List (String × Document) := [("protocols", .list [.text "Q"])]

def halfModule (x : ObjcClass) : Module where
  name := "M"
  classes := [x, { name := "B" }]

variable {fields : List (String × Document)} {x : ObjcClass}

theorem module?_halves (hc : (halves fields).classes = .ok [x, { name := "B" }]) (hx : x.name = "A") :
    (halves fields).module? = some (halfModule x) := by
  have hs : ObjcClass.sorted [x, { name := "B" }] = [x, { name := "B" }] :=
    List.mergeSort_of_pairwise (by simp [hx])
  rw [(halves fields).module?_of_sections none [] [x, { name := "B" }] [] [] ⟨rfl, rfl, rfl, hc, rfl, rfl⟩, hs]
  simp only [ObjcProtocol.sorted, Category.sorted, List.mergeSort_nil]
  rfl

theorem runOn_halves (hm : (halves fields).module? = some (halfModule x))
    (hfits : ∀ i ∈ (halfModule x).items {}, Fits ((plain (halves [])).form {} (halfModule x) i).fileName)
    (hb : ∃ text, Declaration.ofClass x.withoutSynthesized = .ok text) :
    (((plain (halves [])).writeModule {} (halves fields)).runOn filesOnly).1 =
      .ok (some ((plain (halves [])).resultOf {} (halfModule x))) := by
  have hcan : (plain (halves [])).CanWrite {} (halfModule x) filesOnly.tree :=
    Generator.ready_filesOnly.canWrite rfl hfits (List.forall_mem_cons.mpr ⟨hb, List.forall_mem_singleton.mpr ⟨_, rfl⟩⟩)
  obtain ⟨t, ht, -⟩ := (plain (halves [])).succeeds_writeModule {} hm hcan
  rw [ht]

theorem editedAt_halves : (halves []).EditedAt "A" (halves adoption) where
  moduleName := rfl
  buildVersions := rfl
  sourceVersion := rfl
  classes := ⟨[], { name := "A" }, { name := "A", protocols := ["Q"] }, [{ name := "B" }], rfl, rfl, rfl, rfl⟩
  protocols := rfl
  categories := rfl

theorem same_beside_halves :
    (halves []).EditedAt "A" (halves adoption) ∧ ∃ r,
      (((plain (halves [])).writeModule {} (halves [])).runOn filesOnly).1 = .ok r ∧
      (((plain (halves [])).writeModule {} (halves adoption)).runOn filesOnly).1 = .ok r ∧
      ∀ loc, loc ≠ ["M", "A.h"] →
        (((plain (halves [])).writeModule {} (halves [])).runOn filesOnly).2.tree.node? loc =
          (((plain (halves [])).writeModule {} (halves adoption)).runOn filesOnly).2.tree.node? loc := by
  have hm := @module?_halves [] { name := "A" } rfl rfl
  have hm' := @module?_halves adoption { name := "A", protocols := ["Q"] } rfl rfl
  have hr := runOn_halves hm (by decide) ⟨_, rfl⟩
  have hr' := runOn_halves hm' (by decide) ⟨_, rfl⟩
  obtain ⟨he, name, hname, hloc⟩ := editedAt_halves.same_beside _ _ _ hr hr'
  obtain rfl : "M" = name := Except.ok.inj hname
  exact ⟨editedAt_halves, _, hr, he ▸ hr', hloc⟩

end Halves
end ObjcAtlas
