import ObjcAtlas.Proofs.HeaderNames
import ObjcAtlas.Proofs.SuccessfulRuns

/-! What the headers of a binary include: headers of classes and protocols of the same binary, which are written as
well unless the run breaks off first. -/
namespace ObjcAtlas
open ObjcAtlas.Module (Item)

/-- Definitions of one identity have one name, as an identity is meant. -/
def Binary.NamesIdentities (b : Binary) : Prop :=
  ∀ ps, b.protocols = .ok ps → ∀ p ∈ ps, ∀ q ∈ ps, p.identity = q.identity → p.name = q.name

/-- Headers of categories are never included. -/
def Entity.Includable : Entity → Prop
  | .ofClass _ | .ofProtocol _ => True
  | .ofCategory _ => False

namespace Module
variable {f : FoundationIndex} {b : Binary} {m : Module}

theorem name_eq_of_identity_eq (hb : b.NamesIdentities) (hm : b.module? = some m) {p q : ObjcProtocol}
    (hp : p ∈ m.protocols) (hq : q ∈ m.protocols) (h : p.identity = q.identity) : p.name = q.name := by
  obtain ⟨-, ps, -, -, ⟨hps, hs⟩, -⟩ := Binary.sections_of_module? hm
  rw [hs, ObjcProtocol.mem_sorted] at hp hq
  exact hb ps hps p hp q hq h

/-- A header of the binary that an entity includes is one that the binary gets. -/
theorem exists_includable_of_mem_locals (hb : b.NamesIdentities) (hm : b.module? = some m) {s : Settings}
    {e : Entity} {l : String} (hl : l ∈ ((m.scope s f).ofEntity e).locals) :
    ∃ d ∈ m.entities f, d.Includable ∧ l = d.fileName := by
  obtain ⟨⟨r, -, hd, rfl⟩, hf⟩ := (((m.scope s f).resolves_ofEntity e).mem_locals l).mp hl
  cases r with
  | toClass n =>
    obtain ⟨c, hc, rfl⟩ := List.mem_map.mp hd
    exact ⟨.ofClass c, mem_entities_iff.mpr (Or.inl ⟨c, hc, rfl⟩), trivial, rfl⟩
  | toProtocol n =>
    obtain ⟨q, hq, rfl⟩ := List.mem_map.mp hd
    have hn : (m.scope s f).foundation.hasClass q.name = false ∧
        (m.scope s f).foundation.hasProtocol q.name = false := by
      simpa only [TypeReference.header, HeaderName.entity_ofProtocol, FoundationIndex.contains, Bool.or_eq_true,
        not_or, Bool.not_eq_true] using hf
    obtain ⟨p, hp, hi⟩ := ObjcProtocol.exists_mem_distinct hq hn.2
    -- the definition that gets the header may be another one than that referred to
    have hname : p.name = q.name := name_eq_of_identity_eq hb hm (ObjcProtocol.mem_distinct hp).1 hq hi
    refine ⟨.ofProtocol p, mem_entities_iff.mpr (Or.inr (Or.inl ⟨p, hp, rfl⟩)), trivial, ?_⟩
    rw [TypeReference.header, Entity.fileName, hname]

end Module

namespace Generator
variable (g : Generator) (f : FoundationIndex)

theorem Writes.mem_entities {b : Binary} {s : Session} {ws : List (Item × Header)} {m : Module}
    (h : g.Writes f b s ws) (hm : b.module? = some m) {w : Item × Header} (hw : w ∈ ws) {e : Entity}
    (he : w.1 = .entity e) : e ∈ m.entities f := by
  have hi := h.mem_items hm hw
  rwa [he, Module.entity_mem_items_iff] at hi

/-- The header of an entity brings in the imports of the last entity with its key. -/
theorem Writes.imports_eq {b : Binary} {s : Session} {ws : List (Item × Header)} {m : Module}
    (h : g.Writes f b s ws) (hm : b.module? = some m) {w : Item × Header} (hw : w ∈ ws) {e d : Entity}
    (he : w.1 = .entity e) (hd : m.Decides e d) : w.2.imports = (m.scope g.settings f).ofEntity d := by
  have hr := h.renders hm hw
  rw [he] at hr
  generalize w.2 = k at hr ⊢
  cases hr with
  | entity hb => exact hd.imports_eq g.settings

/-- Every include of an entity's header names the header of a class or protocol that the binary gets, and that
header is written by the same run unless the run fails. -/
theorem exists_writes_includes (b : Binary) (s : Session) (hb : b.NamesIdentities) :
    ∃ ws, g.Writes f b s ws ∧ ∀ w ∈ ws, ∀ e, w.1 = .entity e → ∀ line ∈ w.2.localLines,
      ∃ m d, b.module? = some m ∧ d ∈ m.entities f ∧ d.Includable ∧ line = "#include \"" ++ d.fileName ++ "\"" ∧
        ((∃ v ∈ ws, v.1 = .entity d ∧ v.2.path = g.directory m ++ Path.ofString d.fileName) ∨
          ∃ failure, ((g.writeModule f b).runOn s).1 = .error failure) := by
  obtain ⟨ws, hws⟩ := g.exists_writes f b s
  refine ⟨ws, hws, fun w hw e he line hline => ?_⟩
  obtain ⟨m, hm, -⟩ := hws.rendered w hw
  obtain ⟨l, hl, rfl⟩ := List.mem_map.mp hline
  obtain ⟨e', he'⟩ := Module.exists_decides (hws.mem_entities g f hm hw he)
  rw [hws.imports_eq g f hm hw he he'] at hl
  obtain ⟨d, hd, hinc, rfl⟩ := Module.exists_includable_of_mem_locals hb hm hl
  refine ⟨m, d, hm, hd, hinc, rfl, ?_⟩
  cases hr : ((g.writeModule f b).runOn s).1 with
  | error failure => exact Or.inr ⟨failure, rfl⟩
  | ok r =>
    left
    have hitem : Item.entity d ∈ ws.map (·.1) := by
      rw [hws.all r hr, Binary.items_of_module? hm]
      exact Module.entity_mem_items_iff.mpr hd
    obtain ⟨v, hv, hvd⟩ := List.mem_map.mp hitem
    refine ⟨v, hv, hvd, ?_⟩
    rw [(hws.form g f hm hv).1, hvd, form, d.form_fileName]

/-! A module with a class that adopts a protocol of the module. -/
section Adopter

def adopter : Binary where
  name := "M"
  fields := [("objc", .object [
    ("classes", .list [.object [("name", .text "A"), ("protocols", .list [.text "P"])]]),
    ("protocols", .list [.object [("name", .text "P"), ("identity", .int 1)]])])]

def adopterClass : ObjcClass := { name := "A", protocols := ["P"] }

def adoptedProtocol : ObjcProtocol := { name := "P", identity := 1 }

def adopterModule : Module where
  name := "M"
  classes := [adopterClass]
  protocols := [adoptedProtocol]

theorem protocols_adopter : adopter.protocols = .ok [adoptedProtocol] := rfl

theorem module?_adopter : adopter.module? = some adopterModule := by
  rw [adopter.module?_of_sections none [] [adopterClass] [adoptedProtocol] [] ⟨rfl, rfl, rfl, rfl, rfl, rfl⟩]
  simp only [ObjcClass.sorted, ObjcProtocol.sorted, Category.sorted, List.mergeSort_singleton, List.mergeSort_nil]
  rfl

theorem namesIdentities_adopter : adopter.NamesIdentities := by
  intro ps hps p hp q hq _
  obtain rfl : [adoptedProtocol] = ps := Except.ok.inj (protocols_adopter.symm.trans hps)
  rw [List.mem_singleton.mp hp, List.mem_singleton.mp hq]

theorem adopter_includes_protocol : adopter.NamesIdentities ∧
    ∃ ws, (plain adopter).Writes {} adopter filesOnly ws ∧ ∀ w ∈ ws, ∀ e, w.1 = .entity e →
      ∀ line ∈ w.2.localLines, ∃ m d, adopter.module? = some m ∧ d ∈ m.entities {} ∧ d.Includable ∧
        line = "#include \"" ++ d.fileName ++ "\"" ∧
        ((∃ v ∈ ws, v.1 = .entity d ∧ v.2.path = (plain adopter).directory m ++ Path.ofString d.fileName) ∨
          ∃ failure, (((plain adopter).writeModule {} adopter).runOn filesOnly).1 = .error failure) :=
  ⟨namesIdentities_adopter, exists_writes_includes (plain adopter) {} adopter filesOnly namesIdentities_adopter⟩

/-- A directory is in the place of the protocol's header. -/
def blocked : Session where
  tree := { nodes := [(["M"], .directory), (["M", "P-Protocol.h"], .directory)] }

theorem find_blocked : blocked.tree.find ⟨"", ["M"]⟩ = .ok (["M"], some .directory) ∧
    blocked.tree.find ⟨"", ["M", "P-Protocol.h"]⟩ = .ok (["M", "P-Protocol.h"], some .directory) := by
  have hd := FileTree.find_append_name (t := blocked.tree) (p := {}) (n := "M") (FileTree.find_top rfl) (by decide)
    (by decide) (by decide) (by decide)
  exact ⟨hd, FileTree.find_append_name (p := ⟨"", ["M"]⟩) (n := "P-Protocol.h") hd (by decide) (by decide) (by decide)
    (by decide)⟩

theorem accepts_blocked : blocked.tree.Accepts ⟨"", ["M", "A.h"]⟩ :=
  FileTree.accepts_append_name (p := ⟨"", ["M"]⟩) (n := "A.h") find_blocked.1 (by decide) (by decide) (by decide)
    (by decide) (by decide)

/-- The class's header is written, and that of the protocol breaks the run off. -/
theorem exists_writes_blocked :
    ∃ h, (plain adopter).Writes {} adopter blocked [(.entity (.ofClass adopterClass), h)] := by
  obtain ⟨bodyc, hbc⟩ : ∃ body, ((Entity.ofClass adopterClass).draft
      (adopterModule.imports (plain adopter).settings {})).body = .ok body := ⟨_, rfl⟩
  obtain ⟨bodyp, hbp⟩ : ∃ body, ((Entity.ofProtocol adoptedProtocol).draft
      (adopterModule.imports (plain adopter).settings {})).body = .ok body := ⟨_, rfl⟩
  obtain ⟨t, ht, hways⟩ : Job.Succeeds _ _ (Job.beginModule "M" blocked) :=
    (plain adopter).succeeds_emit {} rfl hbc accepts_blocked
  obtain ⟨n, hd, hn⟩ := hways _ _ _ find_blocked.1
  obtain ⟨n', hf, hn'⟩ := hways _ _ _ find_blocked.2
  obtain rfl := hn.mpr rfl
  obtain rfl := hn'.mpr rfl
  obtain ⟨u, hu, hut⟩ := (plain adopter).runOn_emit_of_directory {} rfl hbp hd hf
  have hall : ((plain adopter).emitAll adopterModule (adopterModule.drafts (plain adopter).settings {})).runOn
      (Job.beginModule "M" blocked) = (.error (.headerUnwritable ⟨"", ["M", "P-Protocol.h"]⟩), u) := by
    rw [Module.drafts_eq, show adopterModule.entities {} = [.ofClass adopterClass, .ofProtocol adoptedProtocol] from rfl,
      emitAll]
    simp only [List.map_cons, List.map_nil, List.mapM_cons, Job.runOn_bind, ht, Job.continueWith_ok, hu,
      Job.continueWith_error]
    rfl
  obtain ⟨v, hv, hvt⟩ : ∃ v, ((plain adopter).writeModule {} adopter).runOn blocked =
      (.error (.headerUnwritable ⟨"", ["M", "P-Protocol.h"]⟩), v) ∧ v.tree = t.tree := by
    rw [runOn_writeModule _ _ module?_adopter, Job.runOn_module, show adopterModule.name = "M" from rfl, hall]
    exact ⟨_, rfl, hut⟩
  have he := (plain adopter).emits_emit {} adopterModule (.ofClass adopterClass) (Job.beginModule "M" blocked)
  rw [ht] at he
  cases he with
  | all ws hx hR hw =>
    obtain ⟨w, rfl, hwx⟩ := List.map_eq_singleton_iff.mp hx
    have hr : (plain adopter).Renders {} adopterModule (.entity (.ofClass adopterClass)) w.2 :=
      hwx ▸ hR w List.mem_cons_self
    refine ⟨w.2, fun x hx => ?_, ?_, fun r hr => ?_, ?_⟩
    · rw [List.mem_singleton.mp hx]
      exact ⟨adopterModule, module?_adopter, hr⟩
    · rw [Binary.items_of_module? module?_adopter]
      exact ⟨[.entity (.ofProtocol adoptedProtocol), .umbrella], rfl⟩
    · rw [hv] at hr
      cases hr
    · rw [hv]
      exact hvt ▸ hw

/-- A run that is broken off can leave a header that includes one that was not written. -/
theorem not_all_includes_written :
    ¬ ∀ (g : Generator) (f : FoundationIndex) (b : Binary) (s : Session) (ws : List (Item × Header)),
      b.NamesIdentities → g.Writes f b s ws → ∀ w ∈ ws, ∀ e, w.1 = .entity e → ∀ line ∈ w.2.localLines,
        ∃ v ∈ ws, ∃ d, v.1 = .entity d ∧ d.Includable ∧ line = "#include \"" ++ d.fileName ++ "\"" := by
  intro h
  obtain ⟨k, hk⟩ := exists_writes_blocked
  have hdec : adopterModule.Decides (.ofClass adopterClass) (.ofClass adopterClass) := .ofClass ⟨[], [], rfl, rfl, by simp⟩
  have hi := hk.imports_eq _ _ module?_adopter List.mem_cons_self rfl hdec
  have hr : (Entity.ofClass adopterClass).Refers (.toProtocol "P") := .classAdopts List.mem_cons_self
  have hl : "P-Protocol.h" ∈ k.imports.locals := by
    rw [hi]
    refine ((Scope.resolves_ofEntity _ _).mem_locals _).mpr ⟨⟨_, hr, List.mem_cons_self, rfl⟩, ?_⟩
    decide
  obtain ⟨v, hv, d, hd, -, hline⟩ := h _ _ _ _ _ namesIdentities_adopter hk _ List.mem_cons_self _ rfl _
    (List.mem_map_of_mem hl)
  obtain rfl := List.mem_singleton.mp hv
  obtain rfl := Item.entity.inj hd
  exact absurd hline (by decide)

end Adopter
end Generator
end ObjcAtlas
