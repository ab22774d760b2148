import ObjcAtlas.Proofs.PlainNames
import ObjcAtlas.Proofs.RunWriting
import ObjcAtlas.Proofs.SuccessfulRuns

/-! When two headers of a run go to one path. A directory is named after its module alone and a file after the stem
of its entity, which several kinds of entities can share; only the umbrella evades the others. -/
namespace ObjcAtlas
open ObjcAtlas.Module (Item)

/-- Modules whose headers lie in one directory: of one name, or of names that vanish in paths. -/
def Module.SameDirectory (m n : Module) : Prop :=
  m.name = n.name ∨ (m.name = "" ∨ m.name = ".") ∧ (n.name = "" ∨ n.name = ".")

namespace Generator
variable (g : Generator)

theorem directory_eq_iff {m n : Module} (hm : Path.IsComponent m.name) (hn : Path.IsComponent n.name) :
    g.directory m = g.directory n ↔ m.SameDirectory n := by
  have hd : ∀ k : Module, Path.IsComponent k.name → g.directory k =
      ⟨g.output.root, g.output.parts ++ if k.name = "" ∨ k.name = "." then [] else [k.name]⟩ := by
    intro k hk
    rw [directory, HeaderName.directory, Path.ofString_of_isComponent hk]
    rfl
  rw [hd m hm, hd n hn, Path.mk.injEq, List.append_cancel_left_eq, Module.SameDirectory]
  grind

variable {g} in
/-- Every header of a run has the path of its item. -/
theorem RunWrites.form {s : Session} {ws : List ((Binary × Item) × Header)} (h : g.RunWrites s ws)
    {w : (Binary × Item) × Header} (hw : w ∈ ws) {m : Module} (hm : w.1.1.module? = some m) :
    w.1.2 ∈ m.items (indexOn s) ∧
      w.2.path = g.directory m ++ Path.ofString (g.form (indexOn s) m w.1.2).fileName := by
  constructor
  · have hi : w.1 ∈ g.items (indexOn s) := h.first.subset (List.mem_map_of_mem hw)
    obtain ⟨b, -, hb⟩ := List.mem_flatMap.mp hi
    obtain ⟨x, hx, hbx⟩ := List.mem_map.mp hb
    rw [← hbx] at hm ⊢
    rwa [Binary.items_of_module? hm] at hx
  · obtain ⟨m', hm', hr⟩ := h.rendered w hw
    obtain rfl : m = m' := Option.some.inj (hm.symm.trans hm')
    exact hr.form.1

/-- The umbrella has the file of another header exactly when its suffix leads to one. -/
theorem PlainNames.umbrella_stem_eq_iff {f : FoundationIndex} {m : Module} (h : g.PlainNames f m) {e : Entity}
    (he : e ∈ m.entities f) : e.form.stem = (g.form f m .umbrella).stem ↔
      e.form.stem = m.name ++ g.settings.umbrellaSuffix ∧ ∃ e' ∈ m.entities f, e'.form.stem = m.name := by
  have hmem : (g.emitted f m).contains (m.name ++ ".h") = true ↔ ∃ e' ∈ m.entities f, e'.form.stem = m.name := by
    simp only [h.emitted_eq, List.contains_iff_mem, List.mem_map, ← Entity.form_fileName,
      HeaderName.Form.fileName_eq, String.append_left_inj]
  show e.form.stem = HeaderName.umbrella m.name (g.emitted f m) g.settings.umbrellaSuffix ↔ _
  rw [HeaderName.umbrella, ← hmem]
  -- without the suffix the umbrella's name is one that no header has
  split
  · next hc => exact (and_iff_left hc).symm
  · next hc =>
    refine iff_of_false (fun hs => hc (hmem.mpr ⟨e, he, hs⟩)) fun hs => hc hs.2

/-- Two headers of a run go to one path exactly when their modules share a directory and their files a stem,
whatever binaries and kinds they are of. -/
theorem exists_runWrites_path_eq_iff (s : Session) :
    ∃ ws, g.RunWrites s ws ∧ ∀ v ∈ ws, ∀ w ∈ ws, ∀ m n, v.1.1.module? = some m → w.1.1.module? = some n →
      v.2.path = g.directory m ++ Path.ofString (g.form (indexOn s) m v.1.2).fileName ∧
      (g.PlainNames (indexOn s) m → g.PlainNames (indexOn s) n →
        (v.2.path = w.2.path ↔ m.SameDirectory n ∧
          (g.form (indexOn s) m v.1.2).stem = (g.form (indexOn s) n w.1.2).stem) ∧
        ∀ e ∈ m.entities (indexOn s), e.form.stem = (g.form (indexOn s) m .umbrella).stem ↔
          e.form.stem = m.name ++ g.settings.umbrellaSuffix ∧
            ∃ e' ∈ m.entities (indexOn s), e'.form.stem = m.name) := by
  obtain ⟨ws, hws⟩ := g.exists_runWrites s
  refine ⟨ws, hws, fun v hv w hw m n hm hn => ?_⟩
  obtain ⟨hvi, hvp⟩ := hws.form hv hm
  obtain ⟨hwi, hwp⟩ := hws.form hw hn
  refine ⟨hvp, fun pm pn => ⟨?_, fun e he => pm.umbrella_stem_eq_iff g he⟩⟩
  rw [hvp, hwp, pm.itemPath_eq hvi, pn.itemPath_eq hwi, Path.append_name_inj,
    g.directory_eq_iff pm.module pn.module, HeaderName.Form.fileName_eq, HeaderName.Form.fileName_eq,
    String.append_left_inj]

/-! A class and a category of unresolved class that have one name. -/
section Spins

def spins : Binary where
  name := "M"
  fields := [("objc", .object [
    ("classes", .list [.object [("name", .text "Spin")]]),
    ("categories", .list [.object [("name", .text "Spin")]])])]

def spinModule : Module where
  name := "M"
  classes := [{ name := "Spin" }]
  categories := [{ name := "Spin" }]

theorem module?_spins : spins.module? = some spinModule := by
  rw [spins.module?_of_sections none [] [{ name := "Spin" }] [] [{ name := "Spin" }] ⟨rfl, rfl, rfl, rfl, rfl, rfl⟩]
  simp only [ObjcClass.sorted, ObjcProtocol.sorted, Category.sorted, List.mergeSort_singleton, List.mergeSort_nil]
  rfl

theorem canWrite_spins : (plain spins).CanWrite {} spinModule filesOnly.tree :=
  ready_filesOnly.canWrite rfl (by decide)
    (List.forall_mem_cons.mpr ⟨⟨_, rfl⟩, List.forall_mem_singleton.mpr ⟨_, rfl⟩⟩)

theorem runOn_spins : ((plain spins).run.runOn filesOnly).1 = .ok ((plain spins).results {}) := by
  have hscan : Job.Succeeds scan {} filesOnly := ⟨_, rfl, .refl _⟩
  obtain ⟨t, ht, -⟩ := (plain spins).succeeds_run {} hscan fun b hb =>
    ⟨spinModule, List.mem_singleton.mp hb ▸ ⟨module?_spins, canWrite_spins⟩⟩
  rw [ht]

/-- A header of a category can replace that of a class. -/
theorem not_all_paths_of_one_kind :
    ¬ ∀ (g : Generator) (s : Session) (ws : List ((Binary × Item) × Header)), g.RunWrites s ws →
      ∀ v ∈ ws, ∀ w ∈ ws, v.2.path = w.2.path → v.1.1 = w.1.1 ∧ v.1.2.kind = w.1.2.kind := by
  intro h
  obtain ⟨ws, hws⟩ := (plain spins).exists_runWrites filesOnly
  have hx : ws.map (·.1) = [(spins, .entity (.ofClass { name := "Spin" })),
      (spins, .entity (.ofCategory { name := "Spin" })), (spins, .umbrella)] := by
    rw [hws.all _ runOn_spins, items, show (plain spins).binaries = [spins] from rfl, List.flatMap_singleton,
      Binary.items_of_module? module?_spins]
    rfl
  obtain ⟨v, hv, hvc⟩ := List.mem_map.mp (hx ▸ List.mem_cons_self)
  obtain ⟨w, hw, hwk⟩ := List.mem_map.mp (hx ▸ List.mem_cons_of_mem _ List.mem_cons_self)
  have hm : ∀ x : (Binary × Item) × Header, x.1.1 = spins → x.1.1.module? = some spinModule :=
    fun x hx => hx ▸ module?_spins
  have hp : v.2.path = w.2.path := by
    rw [(hws.form hv (hm v (by rw [hvc]))).2, (hws.form hw (hm w (by rw [hwk]))).2, hvc, hwk]
    rfl
  have hk := (h _ _ _ hws v hv w hw hp).2
  rw [hvc, hwk] at hk
  cases hk

end Spins
end Generator
end ObjcAtlas
