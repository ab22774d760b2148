import ObjcAtlas.Proofs.EmissionOrder
import ObjcAtlas.Proofs.HeaderSources
import ObjcAtlas.Proofs.PlainNames

/-! What a successful run for one binary has written: a header for each entity in order, an umbrella that imports
them, and nothing else. The headers of entities are counted. -/
namespace ObjcAtlas
open ObjcAtlas.Module (Item)

namespace Job
variable {α β : Type}

/-- When the job succeeds it has counted `n` headers. -/
def Counts (n : Nat) (job : Job α) : Prop :=
  ∀ s a t, job.runOn s = (.ok a, t) → t.progress.headers = s.progress.headers + n

theorem counts_zero {job : Job α} (h : ∀ s, (job.runOn s).2.progress.headers = s.progress.headers) :
    Counts 0 job := by
  intro s a t ht
  have hs := h s
  rwa [ht] at hs

theorem counts_pure (a : α) : Counts 0 (pure a) := counts_zero fun _ => rfl

theorem counts_countHeader : Counts 1 countHeader := by
  intro s a t ht
  obtain ⟨-, rfl⟩ := Prod.mk.inj ht
  rfl

theorem Counts.bind {m n : Nat} {job : Job α} {k : α → Job β} (h : Counts m job) (hk : ∀ a, Counts n (k a)) :
    Counts (m + n) (job >>= k) := by
  intro s b u hu
  rw [runOn_bind] at hu
  generalize hr : job.runOn s = r at hu
  obtain ⟨fault | a, t⟩ := r
  · cases hu
  · have ht := h s a t hr
    have htu := hk a t b u hu
    omega

theorem counts_mapM {job : α → Job β} {n : Nat} (h : ∀ x, Counts n (job x)) (xs : List α) :
    Counts (xs.length * n) (xs.mapM job) := by
  induction xs with
  | nil =>
    rw [List.length_nil, Nat.zero_mul]
    exact counts_pure []
  | cons x xs ih =>
    rw [List.mapM_cons, List.length_cons, Nat.succ_mul, Nat.add_comm]
    exact (h x).bind fun a => ih.bind fun as => counts_pure _

theorem counts_ofExcept (r : Except Failure α) : Counts 0 (ofExcept r) :=
  counts_zero fun s => by rw [runOn_ofExcept]

theorem counts_writeHeader (style : Header.Style) (mode : Int) (h : Header) : Counts 0 (writeHeader style mode h) := by
  have hp : Counts 0 (prepareDirectory mode h.path) := counts_zero fun s => by
    rw [runOn_prepareDirectory]
    split
    · rfl
    · split <;> rfl
  have hl : Counts 0 (log (.creating h.path)) := counts_zero fun _ => rfl
  have hw : Counts 0 (writeText h.path (h.text style)) := counts_zero fun s => by
    rw [runOn_writeText]
    split <;> rfl
  exact hp.bind fun _ => hl.bind fun _ => hw.bind fun _ => counts_pure h.path

/-- Brackets around a module count modules only. -/
theorem Counts.module {n : Nat} {body : Job α} (name : String) (h : Counts n body) :
    Counts n (Job.module name body) := by
  intro s a t ht
  rw [runOn_module] at ht
  obtain ⟨hr, rfl⟩ := Prod.mk.inj ht
  exact h (beginModule name s) a (body.runOn (beginModule name s)).2 (Prod.ext hr rfl)

end Job

namespace Generator
variable (g : Generator) (f : FoundationIndex)

theorem counts_emit (m : Module) (d : Draft) : Job.Counts 1 (g.emit m d) :=
  (Job.counts_ofExcept _).bind fun _ => (Job.counts_writeHeader _ _ _).bind fun _ =>
    Job.counts_countHeader.bind fun _ => Job.counts_pure _

/-- The umbrella is not counted. -/
theorem counts_emitAll (m : Module) (ds : List Draft) : Job.Counts ds.length (g.emitAll m ds) := by
  have h := Job.counts_mapM (g.counts_emit m) ds
  rw [Nat.mul_one] at h
  rw [emitAll, ← Nat.add_zero ds.length]
  refine h.bind fun headers => ?_
  split
  · exact Job.counts_pure _
  · exact (Job.counts_writeHeader _ _ _).bind fun _ => Job.counts_pure _

section Success
variable {g f} {b : Binary} {s : Session} {r : Option ModuleResult}

/-- A binary for which a run succeeds has no metadata or can be read. -/
theorem no_metadata_or_module? (hr : ((g.writeModule f b).runOn s).1 = .ok r) :
    b.hasMetadata = false ∨ ∃ m, b.module? = some m := by
  cases hb : b.hasMetadata with
  | false => exact Or.inl rfl
  | true =>
    cases hm : Module.ofBinary b with
    | ok m => exact Or.inr ⟨m, Binary.module?_eq_some_iff.mpr ⟨hb, hm⟩⟩
    | error fault =>
      rw [writeModule, hb, hm] at hr
      cases hr

theorem headers_of_no_metadata (hb : b.hasMetadata = false) :
    ((g.writeModule f b).runOn s).2.progress.headers = s.progress.headers := by
  rw [writeModule, hb]
  rfl

theorem headers_of_module? {m : Module} (hm : b.module? = some m)
    (hr : ((g.writeModule f b).runOn s).1 = .ok r) :
    ((g.writeModule f b).runOn s).2.progress.headers = s.progress.headers + (m.entities f).length := by
  have hc := ((g.counts_emitAll m (m.drafts g.settings f)).module m.name).bind fun a => Job.counts_pure (some a)
  rw [Module.drafts_eq, List.length_map, Nat.add_zero] at hc
  rw [runOn_writeModule g f hm, Module.drafts_eq] at hr ⊢
  exact hc s r _ ((Job.runOn_bind _ _ s).trans (Prod.ext hr rfl))

end Success

/-- The file of the umbrella over the headers of entities. -/
def umbrellaFile (m : Module) (es : List Entity) : String :=
  HeaderName.umbrella m.name (es.map Entity.fileName) g.settings.umbrellaSuffix ++ ".h"

def fileOf (m : Module) (es : List Entity) : Item → String
  | .entity e => e.fileName
  | .umbrella => g.umbrellaFile m es

/-- What a module with these entities is reported as. -/
def report (m : Module) (es : List Entity) : ModuleResult where
  module := m.name
  headers := es.map fun e => g.directory m ++ ⟨"", [e.fileName]⟩
  umbrella := if es = [] then none else some (g.directory m ++ ⟨"", [g.umbrellaFile m es]⟩)

/-- The headers `ws` are those of the entities in order and, if there are any, one umbrella that imports them, all in
the directory of the module; the files differ in nothing else, and each entity counts once. -/
structure WritesExactly (b : Binary) (es : List Entity) (ws : List (Item × Header)) (s t : Session) : Prop where
  items : ws.map (·.1) = es.map .entity ++ if es = [] then [] else [.umbrella]
  rendered : ∀ w ∈ ws, g.RendersOf f b w.1 w.2
  placed : ∀ m, b.module? = some m → ∀ w ∈ ws, w.2.path = g.directory m ++ ⟨"", [g.fileOf m es w.1]⟩
  imported : ∀ w ∈ ws, w.1 = .umbrella →
    w.2.body = Declaration.lines (es.map fun e => "#import \"" ++ e.fileName ++ "\"")
  beside : ∀ m, b.module? = some m → ∀ e ∈ es, ∃ content,
    t.tree.node? ((g.directory m).location s.tree.workingDirectory ++ [e.fileName]) = some (.file content)
  files : FileTree.Holds g.style (ws.map (·.2)) s.tree t.tree
  count : t.progress.headers = s.progress.headers + es.length

section Success
variable {g f} {b : Binary} {s : Session} {r : Option ModuleResult} {m : Module}
  {ws : List (Item × Header)}

theorem PlainNames.form_fileName (hp : g.PlainNames f m) (x : Item) :
    (g.form f m x).fileName = g.fileOf m (m.entities f) x := by
  cases x with
  | entity e => exact e.form_fileName
  | umbrella =>
    show HeaderName.umbrella m.name (g.emitted f m) g.settings.umbrellaSuffix ++ ".h" = _
    rw [hp.emitted_eq]
    rfl

theorem PlainNames.resultOf_eq (hp : g.PlainNames f m) : g.resultOf f m = g.report m (m.entities f) := by
  have hh : (m.entities f).map (g.entityPath m) =
      (m.entities f).map fun e => g.directory m ++ ⟨"", [e.fileName]⟩ :=
    List.map_congr_left fun e he => hp.entityPath_eq_append he
  rw [resultOf, report]
  by_cases he : m.entities f = []
  · simp [he]
  · have hu : (g.umbrella m (g.emitted f m)).path = g.directory m ++ ⟨"", [g.umbrellaFile m (m.entities f)]⟩ := by
      have hx : Item.umbrella ∈ m.items f := Module.umbrella_mem_items_iff.mpr he
      rw [← fileOf, ← hp.form_fileName, ← hp.itemPath_eq hx]
      rfl
    simp only [he, if_false, hh, hu]

theorem Writes.placed (h : g.Writes f b s ws) (hm : b.module? = some m) (hp : g.PlainNames f m)
    {w : Item × Header} (hw : w ∈ ws) :
    w.2.path = g.directory m ++ ⟨"", [g.fileOf m (m.entities f) w.1]⟩ := by
  rw [(h.form g f hm hw).1, hp.itemPath_eq (h.mem_items hm hw), hp.form_fileName]

theorem Writes.imported (h : g.Writes f b s ws) (hm : b.module? = some m) (hp : g.PlainNames f m)
    {w : Item × Header} (hw : w ∈ ws) (hu : w.1 = .umbrella) :
    w.2.body = Declaration.lines ((m.entities f).map fun e => "#import \"" ++ e.fileName ++ "\"") := by
  have hr := h.renders hm hw
  rw [hu] at hr
  generalize w.2 = k at hr ⊢
  cases hr with
  | umbrella =>
    rw [umbrella, hp.emitted_eq, List.map_map]
    rfl

/-- The file of every entity is there in the end, whichever header was written to it last. -/
theorem Writes.beside (h : g.Writes f b s ws) (hm : b.module? = some m) (hp : g.PlainNames f m)
    (hitems : ws.map (·.1) = b.items f) {e : Entity} (he : e ∈ m.entities f) :
    ∃ content, ((g.writeModule f b).runOn s).2.tree.node?
      ((g.directory m).location s.tree.workingDirectory ++ [e.fileName]) = some (.file content) := by
  have hi : Item.entity e ∈ ws.map (·.1) := by
    rw [hitems, Binary.items_of_module? hm]
    exact Module.entity_mem_items_iff.mpr he
  obtain ⟨w, hw, hwe⟩ := List.mem_map.mp hi
  have hfile := h.written.holds.exists_file (List.mem_map_of_mem hw)
  have hne : e.fileName ≠ ".." := e.form_fileName ▸ e.form.fileName_ne_parent
  rwa [h.placed hm hp hw, hwe, fileOf, Path.location_append_name hne] at hfile

end Success

/-- A successful run for a binary of plain names writes exactly the headers of its entities and their umbrella. -/
theorem exists_writesExactly (b : Binary) (s : Session) {r : Option ModuleResult}
    (hr : ((g.writeModule f b).runOn s).1 = .ok r) (hp : ∀ m, b.module? = some m → g.PlainNames f m) :
    ∃ es ws, b.EmissionOrder f es ∧ g.WritesExactly f b es ws s ((g.writeModule f b).runOn s).2 ∧
      r = b.module?.map (g.report · es) := by
  obtain ⟨ws, hR, hx, hall, hw⟩ := (g.emits_writeModule f b s).exists_written
  obtain ⟨hitems, rfl⟩ := hall r hr
  have hws : g.Writes f b s ws := ⟨hR, hx, fun r hr => (hall r hr).1, hw⟩
  -- a binary that cannot be read fails, so only one without metadata has no module here
  rcases no_metadata_or_module? hr with hb | ⟨m, hm⟩
  · have hm : b.module? = none := by
      rw [Binary.module?, hb]
      rfl
    obtain rfl : ws = [] := by simpa [Binary.items, hm] using hitems
    refine ⟨[], [], Binary.emissionOrder_nil f hb, ?_, by rw [hm]; rfl⟩
    exact { items := rfl, rendered := by simp, placed := by simp, imported := by simp, beside := by simp,
            files := hw.holds, count := headers_of_no_metadata hb }
  · have hpm := hp m hm
    have honly : ∀ n, b.module? = some n → m = n := fun n hn => Option.some.inj (hm.symm.trans hn)
    refine ⟨m.entities f, ws, Binary.emissionOrder_entities f hm, ?_, by rw [hm, Option.map_some, Option.map_some,
      hpm.resultOf_eq]⟩
    refine { items := ?_, rendered := hR, placed := ?_, imported := fun w hwm hu => hws.imported hm hpm hwm hu, beside := ?_,
             files := hw.holds, count := headers_of_module? hm hr }
    · rw [hitems, Binary.items_of_module? hm, Module.items]
      split
      · next he => rw [he]; rfl
      · rfl
    · rintro n hn w hwm
      exact honly n hn ▸ hws.placed hm hpm hwm
    · rintro n hn e he
      exact honly n hn ▸ hws.beside hm hpm hitems he

theorem plainNames_rivals (m : Module) (hm : rivals.module? = some m) : (plain rivals).PlainNames {} m := by
  obtain rfl : rivalModule = m := Option.some.inj (module?_rivals.symm.trans hm)
  refine ⟨by decide, by decide, fun e he => ?_, nofun⟩
  rw [List.mem_singleton.mp (he : e ∈ [Entity.ofProtocol firstRival])]
  decide

theorem writesExactly_rivals :
    (((plain rivals).writeModule {} rivals).runOn filesOnly).1 =
      .ok (some ((plain rivals).resultOf {} rivalModule)) ∧
    (∀ m, rivals.module? = some m → (plain rivals).PlainNames {} m) ∧
    ∃ es ws, rivals.EmissionOrder {} es ∧
      (plain rivals).WritesExactly {} rivals es ws filesOnly
        (((plain rivals).writeModule {} rivals).runOn filesOnly).2 ∧
      some ((plain rivals).resultOf {} rivalModule) = rivals.module?.map ((plain rivals).report · es) :=
  ⟨runOn_rivals, plainNames_rivals,
    exists_writesExactly (plain rivals) {} rivals filesOnly runOn_rivals plainNames_rivals⟩

end Generator
end ObjcAtlas
