import ObjcAtlas.Proofs.IncludeClosure

/-! Whose declaration and whose imports the headers show that a run leaves. For classes and categories both are of
one entity, the last with its key. For protocols the declaration is that of the first definition of an identity and
the imports are those of the last. -/
namespace ObjcAtlas
open ObjcAtlas.Module (Item)

/-- What a header brings in besides frameworks. -/
def Imports.block (i : Imports) : List String × List String × List String := (i.locals, i.classes, i.protocols)

namespace Entity

def declaration : Entity → Except MissingType String
  | .ofClass c => Declaration.ofClass c.withoutSynthesized
  | .ofProtocol p => Declaration.ofProtocol p
  | .ofCategory k => Declaration.ofCategory k

theorem draft_body (i : ModuleImports) (e : Entity) : (e.draft i).body = e.declaration := by
  cases e <;> rfl

end Entity

namespace Module

def Item.class? : Item → Option ObjcClass
  | .entity (.ofClass c) => some c
  | _ => none

def Item.category? : Item → Option Category
  | .entity (.ofCategory k) => some k
  | _ => none

theorem Item.class?_eq_some_iff {x : Item} {c : ObjcClass} : x.class? = some c ↔ x = .entity (.ofClass c) := by
  cases x with
  | entity e => cases e <;> simp [Item.class?]
  | umbrella => simp [Item.class?]

theorem Item.category?_eq_some_iff {x : Item} {k : Category} :
    x.category? = some k ↔ x = .entity (.ofCategory k) := by
  cases x with
  | entity e => cases e <;> simp [Item.category?]
  | umbrella => simp [Item.category?]

theorem filterMap_class?_items (f : FoundationIndex) (m : Module) :
    (m.items f).filterMap Item.class? = m.classes := by
  rw [items]
  split
  · next h =>
    rw [entities, List.append_eq_nil_iff, List.append_eq_nil_iff, List.map_eq_nil_iff] at h
    rw [h.1.1, List.filterMap_nil]
  · simp [entities, List.filterMap_append, List.filterMap_map, Function.comp_def, Item.class?]

theorem filterMap_category?_items (f : FoundationIndex) (m : Module) :
    (m.items f).filterMap Item.category? = m.categories := by
  rw [items]
  split
  · next h =>
    rw [entities, List.append_eq_nil_iff, List.map_eq_nil_iff (l := m.categories)] at h
    rw [h.2, List.filterMap_nil]
  · simp [entities, List.filterMap_append, List.filterMap_map, Function.comp_def, Item.category?]

end Module

namespace Generator
variable (g : Generator) (f : FoundationIndex)

section Left
variable {b : Binary} {s : Session} {ws : List (Item × Header)} {m : Module} {r : Option ModuleResult}
  {top loc : Location} {w : Item × Header}

theorem Writes.body_eq (h : g.Writes f b s ws) (hw : w ∈ ws) {e : Entity} (he : w.1 = .entity e) :
    e.declaration = .ok w.2.body := by
  obtain ⟨m, -, hr⟩ := h.rendered w hw
  rw [he] at hr
  generalize w.2 = k at hr ⊢
  cases hr with
  | entity hb => exact (e.draft_body _).symm.trans hb

/-- Of the items that are picked and have one key, all of one file name, the last is the one whose header stays. -/
theorem Writes.isLast_picked (h : g.Writes f b s ws) (hm : b.module? = some m)
    (hr : ((g.writeModule f b).runOn s).1 = .ok r)
    (hl : Keyed.IsLast (fun v : Item × Header => v.2.path.location top) loc ws w) {γ κ : Type}
    {pick : Item → Option γ} {key : γ → κ} {y : γ} (hy : pick w.1 = some y)
    (hkey : ∀ x z, pick x = some z → key z = key y → (g.form f m x).fileName = (g.form f m w.1).fileName) :
    Keyed.IsLast key (key y) ((m.items f).filterMap pick) y := by
  have hitems : ws.map (·.1) = m.items f := by rw [h.all r hr, Binary.items_of_module? hm]
  have hp : Keyed.IsLast key (key y) (ws.filterMap fun v => pick v.1) y := by
    refine hl.filterMap hy fun v hv z hz hk => ?_
    rw [← hl.key_eq, (h.form g f hm hv).1, (h.form g f hm hl.mem).1, hkey v.1 z hz hk]
  rwa [← hitems, List.filterMap_map]

/-- The class or category whose header stays is the last with its key, so that its own imports are in it. -/
theorem Writes.decides_self (h : g.Writes f b s ws) (hm : b.module? = some m)
    (hr : ((g.writeModule f b).runOn s).1 = .ok r)
    (hl : Keyed.IsLast (fun v : Item × Header => v.2.path.location top) loc ws w) {e : Entity}
    (he : w.1 = .entity e) (hp : ∀ p, e ≠ .ofProtocol p) : m.Decides e e := by
  cases e with
  | ofClass c =>
    refine .ofClass ?_
    rw [← m.filterMap_class?_items f]
    refine h.isLast_picked g f hm hr hl (Item.class?_eq_some_iff.mpr he) fun x z hx hk => ?_
    rw [he, Item.class?_eq_some_iff.mp hx]
    exact congrArg HeaderName.ofClass hk
  | ofProtocol p => exact absurd rfl (hp p)
  | ofCategory k =>
    refine .ofCategory ?_
    rw [← m.filterMap_category?_items f]
    refine h.isLast_picked g f hm hr hl (Item.category?_eq_some_iff.mpr he) fun x z hx hk => ?_
    have hf : (Entity.ofCategory z).fileName = (Entity.ofCategory k).fileName := congrArg (· ++ ".h") hk
    rwa [he, Item.category?_eq_some_iff.mp hx, Generator.form, Generator.form, Entity.form_fileName,
      Entity.form_fileName]

end Left

/-- A successful run leaves headers that declare their entity and bring in its imports, except that a protocol's
header brings in those of the last definition with its identity. -/
theorem exists_writes_block_eq_iff (b : Binary) (s : Session) {r : Option ModuleResult}
    (hr : ((g.writeModule f b).runOn s).1 = .ok r) :
    ∃ ws, g.Writes f b s ws ∧ ∀ m, b.module? = some m → ∀ loc w e,
      Keyed.IsLast (fun v : Item × Header => v.2.path.location s.tree.workingDirectory) loc ws w →
      w.1 = .entity e →
      ((g.writeModule f b).runOn s).2.tree.node? loc = some (.file (w.2.text g.style).toUTF8) ∧
      e.declaration = .ok w.2.body ∧
      (w.2.imports.block = ((m.scope g.settings f).ofEntity e).block ↔
        ∀ p q, e = .ofProtocol p → Keyed.IsLast (·.identity) p.identity m.protocols q →
          ((m.scope g.settings f).ofProtocol q).block = ((m.scope g.settings f).ofProtocol p).block) := by
  obtain ⟨ws, hws⟩ := g.exists_writes f b s
  refine ⟨ws, hws, fun m hm loc w e hl he => ⟨?_, hws.body_eq g f hl.mem he, ?_⟩⟩
  · exact hws.written.holds.last loc w.2 (Keyed.isLast_map_iff.mpr ⟨w, hl, rfl⟩)
  -- only a protocol's header can be that of one definition and bring in the imports of another
  by_cases hp : ∃ p, e = .ofProtocol p
  · obtain ⟨p, rfl⟩ := hp
    obtain ⟨d, hd⟩ := Module.exists_decides (hws.mem_entities g f hm hl.mem he)
    rw [hws.imports_eq g f hm hl.mem he hd]
    cases hd with
    | @ofProtocol _ q hq =>
      constructor
      · intro hb p' q' hp' hq'
        obtain rfl := Entity.ofProtocol.inj hp'
        rwa [← hq.unique hq']
      · intro hb
        exact hb p q rfl hq
  · have hd := hws.decides_self g f hm hr hl he fun p hep => hp ⟨p, hep⟩
    rw [hws.imports_eq g f hm hl.mem he hd]
    exact iff_of_true rfl fun p q hep _ => absurd ⟨p, hep⟩ hp

/-! Two definitions of one protocol, of which the first adopts another one. -/
section Rivals

def rivals : Binary where
  name := "M"
  fields := [("objc", .object [
    ("protocols", .list [.object [("name", .text "P"), ("identity", .int 1), ("protocols", .list [.text "Q"])],
      .object [("name", .text "P"), ("identity", .int 1)]])])]

def firstRival : ObjcProtocol := { name := "P", identity := 1, protocols := ["Q"] }

def lastRival : ObjcProtocol := { name := "P", identity := 1 }

def rivalModule : Module where
  name := "M"
  protocols := [firstRival, lastRival]

theorem module?_rivals : rivals.module? = some rivalModule := by
  have hs : ObjcProtocol.sorted [firstRival, lastRival] = [firstRival, lastRival] :=
    List.mergeSort_of_pairwise (by simp [ObjcProtocol.notAfter, firstRival, lastRival])
  rw [rivals.module?_of_sections none [] [] [firstRival, lastRival] [] ⟨rfl, rfl, rfl, rfl, rfl, rfl⟩, hs]
  simp only [ObjcClass.sorted, Category.sorted, List.mergeSort_nil]
  rfl

theorem canWrite_rivals : (plain rivals).CanWrite {} rivalModule filesOnly.tree :=
  ready_filesOnly.canWrite rfl (by decide) (List.forall_mem_singleton.mpr ⟨_, rfl⟩)

theorem runOn_rivals : (((plain rivals).writeModule {} rivals).runOn filesOnly).1 =
    .ok (some ((plain rivals).resultOf {} rivalModule)) := by
  obtain ⟨t, ht, -⟩ := (plain rivals).succeeds_writeModule {} module?_rivals canWrite_rivals
  rw [ht]

theorem block_eq_iff_rivals : (((plain rivals).writeModule {} rivals).runOn filesOnly).1 =
      .ok (some ((plain rivals).resultOf {} rivalModule)) ∧
    ∃ ws, (plain rivals).Writes {} rivals filesOnly ws ∧ ∀ m, rivals.module? = some m → ∀ loc w e,
      Keyed.IsLast (fun v : Item × Header => v.2.path.location filesOnly.tree.workingDirectory) loc ws w →
      w.1 = .entity e →
      (((plain rivals).writeModule {} rivals).runOn filesOnly).2.tree.node? loc =
        some (.file (w.2.text (plain rivals).style).toUTF8) ∧
      e.declaration = .ok w.2.body ∧
      (w.2.imports.block = ((m.scope (plain rivals).settings {}).ofEntity e).block ↔
        ∀ p q, e = .ofProtocol p → Keyed.IsLast (·.identity) p.identity m.protocols q →
          ((m.scope (plain rivals).settings {}).ofProtocol q).block =
            ((m.scope (plain rivals).settings {}).ofProtocol p).block) :=
  ⟨runOn_rivals, exists_writes_block_eq_iff (plain rivals) {} rivals filesOnly runOn_rivals⟩

theorem block_firstRival :
    ((rivalModule.scope (plain rivals).settings {}).ofEntity (.ofProtocol firstRival)).block = ([], [], ["Q"]) := by
  have hi : (rivalModule.scope (plain rivals).settings {}).ofEntity (.ofProtocol firstRival) =
      Imports.normalize {} { protocols := ["Q"] } := rfl
  have hq : Text.ascending ["Q"] = ["Q"] := Text.ascending_eq_self (List.pairwise_singleton ..)
  simp only [hi, Imports.block, Imports.normalize, hq, Text.ascending_eq_self .nil]
  rfl

theorem block_lastRival :
    ((rivalModule.scope (plain rivals).settings {}).ofEntity (.ofProtocol lastRival)).block = ([], [], []) := by
  have hi : (rivalModule.scope (plain rivals).settings {}).ofEntity (.ofProtocol lastRival) =
      Imports.normalize {} {} := rfl
  simp only [hi, Imports.block, Imports.normalize, Text.ascending_eq_self .nil]
  rfl

/-- The header of a protocol that is defined twice can show the declaration of one definition and bring in the
imports of the other. -/
theorem not_all_blocks_of_declared :
    ¬ ∀ (g : Generator) (f : FoundationIndex) (b : Binary) (s : Session) (r : Option ModuleResult)
        (ws : List (Item × Header)), ((g.writeModule f b).runOn s).1 = .ok r → g.Writes f b s ws →
        (∀ v ∈ ws, ∀ w ∈ ws, v.2.path = w.2.path → v.1.kind = w.1.kind) → ∀ m, b.module? = some m → ∀ loc w e,
          Keyed.IsLast (fun v : Item × Header => v.2.path.location s.tree.workingDirectory) loc ws w →
          w.1 = .entity e → w.2.imports.block = ((m.scope g.settings f).ofEntity e).block := by
  intro h
  obtain ⟨ws, hws⟩ := (plain rivals).exists_writes {} rivals filesOnly
  have hx : ws.map (·.1) = [.entity (.ofProtocol firstRival), .umbrella] := by
    rw [hws.all _ runOn_rivals, Binary.items_of_module? module?_rivals]
    rfl
  obtain ⟨v, w, rfl⟩ : ∃ v w, ws = [v, w] := List.length_eq_two.mp (by simpa using congrArg List.length hx)
  obtain ⟨hv, hw⟩ : v.1 = .entity (.ofProtocol firstRival) ∧ w.1 = .umbrella := by simpa using hx
  have hvp : v.2.path = ⟨"", ["M", "P-Protocol.h"]⟩ := by
    rw [(hws.form _ _ module?_rivals List.mem_cons_self).1, hv]
    rfl
  have hwp : w.2.path = ⟨"", ["M", "M.h"]⟩ := by
    rw [(hws.form _ _ module?_rivals (List.mem_cons_of_mem v List.mem_cons_self)).1, hw]
    rfl
  have hapart : ∀ x ∈ [v, w], ∀ y ∈ [v, w], x.2.path = y.2.path → x.1.kind = y.1.kind := by
    simp [hvp, hwp]
  have hlast : Keyed.IsLast (fun v : Item × Header => v.2.path.location filesOnly.tree.workingDirectory)
      ["M", "P-Protocol.h"] [v, w] v :=
    ⟨[], [w], rfl, by simp only [hvp]; rfl, by simp only [List.mem_singleton, forall_eq, hwp]; decide⟩
  have hb := h _ _ _ _ _ _ runOn_rivals hws hapart _ module?_rivals _ v _ hlast hv
  have hd : rivalModule.Decides (.ofProtocol firstRival) (.ofProtocol lastRival) :=
    .ofProtocol ⟨[firstRival], [], rfl, rfl, by simp⟩
  rw [hws.imports_eq _ _ module?_rivals List.mem_cons_self hv hd, block_lastRival, block_firstRival] at hb
  exact absurd hb (by decide)

end Rivals
end Generator
end ObjcAtlas
