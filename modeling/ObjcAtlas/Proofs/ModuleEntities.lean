import ObjcAtlas.Proofs.FailingSteps
import ObjcAtlas.Proofs.FilesLeft
import ObjcAtlas.Proofs.StableOrder

/-! The entities of a binary that get a header: all classes and categories, and of the protocols one for each
identity. The imports of a header are those of the last entity with its key, which need not be its own entity. -/
namespace ObjcAtlas

namespace ObjcProtocol
variable {seen : List Int} {ps : List ObjcProtocol}

/-- Nothing before a chosen definition has its identity. -/
theorem exists_eq_append_of_mem_firstOfEach {p : ObjcProtocol} (h : p ∈ firstOfEach seen ps) :
    ∃ before after, ps = before ++ p :: after ∧ ∀ q ∈ before, q.identity ≠ p.identity := by
  induction ps generalizing seen with
  | nil => cases h
  | cons q qs ih =>
    have hseen := (mem_of_mem_firstOfEach h).2
    rw [firstOfEach] at h
    split at h
    · next hq =>
      have hqs : q.identity ∈ seen := by simpa using hq
      obtain ⟨before, after, rfl, hb⟩ := ih h
      refine ⟨q :: before, after, rfl, List.forall_mem_cons.mpr ⟨?_, hb⟩⟩
      intro he
      exact hseen (he ▸ hqs)
    · rcases List.mem_cons.mp h with rfl | h
      · exact ⟨[], qs, rfl, by simp⟩
      · obtain ⟨before, after, rfl, hb⟩ := ih h
        refine ⟨q :: before, after, rfl, List.forall_mem_cons.mpr ⟨?_, hb⟩⟩
        intro he
        exact (mem_of_mem_firstOfEach h).2 (he ▸ List.mem_cons_self)

theorem exists_mem_firstOfEach {q : ObjcProtocol} (hq : q ∈ ps) (hseen : q.identity ∉ seen) :
    ∃ p ∈ firstOfEach seen ps, p.identity = q.identity := by
  induction ps generalizing seen with
  | nil => cases hq
  | cons p ps ih =>
    rw [firstOfEach]
    split
    · next hp =>
      have hps : p.identity ∈ seen := by simpa using hp
      rcases List.mem_cons.mp hq with rfl | hq
      · exact absurd hps hseen
      · exact ih hq hseen
    · rcases List.mem_cons.mp hq with rfl | hq
      · exact ⟨q, List.mem_cons_self, rfl⟩
      · by_cases he : q.identity = p.identity
        · exact ⟨p, List.mem_cons_self, he.symm⟩
        · obtain ⟨r, hr, hrq⟩ := ih hq fun h => (List.mem_cons.mp h).elim he hseen
          exact ⟨r, List.mem_cons_of_mem _ hr, hrq⟩

theorem firstOfEach_sublist (seen : List Int) (ps : List ObjcProtocol) : (firstOfEach seen ps).Sublist ps := by
  induction ps generalizing seen with
  | nil => exact .slnil
  | cons p ps ih =>
    rw [firstOfEach]
    split
    · exact (ih seen).cons p
    · exact (ih _).cons_cons p

theorem firstOfEach_pairwise (seen : List Int) (ps : List ObjcProtocol) :
    (firstOfEach seen ps).Pairwise fun p q => p.identity ≠ q.identity := by
  induction ps generalizing seen with
  | nil => exact .nil
  | cons p ps ih =>
    rw [firstOfEach]
    split
    · exact ih seen
    · refine List.pairwise_cons.mpr ⟨fun q hq he => ?_, ih _⟩
      exact (mem_of_mem_firstOfEach hq).2 (he ▸ List.mem_cons_self)

theorem mem_sorted {p : ObjcProtocol} {ps : List ObjcProtocol} : p ∈ sorted ps ↔ p ∈ ps :=
  (List.mergeSort_perm ps notAfter).mem_iff

theorem mem_distinct {f : FoundationIndex} {p : ObjcProtocol} (h : p ∈ distinct f ps) :
    p ∈ ps ∧ f.hasProtocol p.name = false := by
  simpa using (mem_of_mem_firstOfEach h).1

/-- An identity of the section that is not only that of system protocols has a header. -/
theorem exists_mem_distinct {f : FoundationIndex} {q : ObjcProtocol} (hq : q ∈ ps)
    (hf : f.hasProtocol q.name = false) : ∃ p ∈ distinct f ps, p.identity = q.identity :=
  exists_mem_firstOfEach (List.mem_filter.mpr ⟨hq, by simpa using hf⟩) List.not_mem_nil

end ObjcProtocol

namespace Binary
variable {b : Binary} {m : Module}

theorem module?_eq_some_iff : b.module? = some m ↔ b.hasMetadata ∧ Module.ofBinary b = .ok m := by
  rw [module?]
  split
  · next hb =>
    cases Module.ofBinary b with
    | error fault => simp [hb, Except.toOption]
    | ok m' => simp [hb, Except.toOption]
  · next hb => simp [hb]

theorem items_of_module? {f : FoundationIndex} (h : b.module? = some m) : b.items f = m.items f := by
  rw [items, h]

/-- The module of a binary all of whose parts can be read. -/
theorem module?_of_sections (b : Binary) (installName : Option String) (versions : List String) (cs : List ObjcClass)
    (ps : List ObjcProtocol) (ks : List Category)
    (h : b.hasMetadata ∧ b.installName? = .ok installName ∧ b.buildVersions = .ok versions ∧ b.classes = .ok cs ∧
      b.protocols = .ok ps ∧ b.categories = .ok ks) :
    b.module? = some { name := Module.nameFor b installName
                       buildVersions := versions
                       sourceVersion := b.sourceVersion
                       classes := ObjcClass.sorted cs
                       protocols := ObjcProtocol.sorted ps
                       categories := Category.sorted ks } := by
  obtain ⟨hb, hi, hv, hc, hp, hk⟩ := h
  refine module?_eq_some_iff.mpr ⟨hb, ?_⟩
  rw [Module.ofBinary, hi, hv, hc, hp, hk]
  rfl

theorem sections_of_module? (h : b.module? = some m) :
    ∃ cs ps ks, (b.classes = .ok cs ∧ m.classes = ObjcClass.sorted cs) ∧
      (b.protocols = .ok ps ∧ m.protocols = ObjcProtocol.sorted ps) ∧
      (b.categories = .ok ks ∧ m.categories = Category.sorted ks) := by
  have ho := (module?_eq_some_iff.mp h).2
  rw [Module.ofBinary] at ho
  obtain ⟨installName, -, ho⟩ := exists_of_bind_eq_ok ho
  obtain ⟨versions, -, ho⟩ := exists_of_bind_eq_ok ho
  obtain ⟨cs, hc, ho⟩ := exists_of_bind_eq_ok ho
  obtain ⟨ps, hp, ho⟩ := exists_of_bind_eq_ok ho
  obtain ⟨ks, hk, ho⟩ := exists_of_bind_eq_ok ho
  obtain rfl := Except.ok.inj ho
  exact ⟨cs, ps, ks, ⟨hc, rfl⟩, ⟨hp, rfl⟩, ⟨hk, rfl⟩⟩

/-- What the banners of a module's headers and their directory are made of. -/
theorem banner_of_module? (h : b.module? = some m) :
    (b.installName?).map (Module.nameFor b) = .ok m.name ∧ b.buildVersions = .ok m.buildVersions ∧
      b.sourceVersion = m.sourceVersion := by
  have ho := (module?_eq_some_iff.mp h).2
  rw [Module.ofBinary] at ho
  obtain ⟨installName, hi, ho⟩ := exists_of_bind_eq_ok ho
  obtain ⟨versions, hv, ho⟩ := exists_of_bind_eq_ok ho
  obtain ⟨cs, -, ho⟩ := exists_of_bind_eq_ok ho
  obtain ⟨ps, -, ho⟩ := exists_of_bind_eq_ok ho
  obtain ⟨ks, -, ho⟩ := exists_of_bind_eq_ok ho
  obtain rfl := Except.ok.inj ho
  refine ⟨?_, hv, rfl⟩
  rw [hi]
  rfl

end Binary

namespace Module
variable {f : FoundationIndex} {m : Module}

theorem mem_entities_iff {e : Entity} : e ∈ m.entities f ↔
    (∃ c ∈ m.classes, e = .ofClass c) ∨ (∃ p ∈ ObjcProtocol.distinct f m.protocols, e = .ofProtocol p) ∨
      ∃ k ∈ m.categories, e = .ofCategory k := by
  simp only [entities, List.mem_append, List.mem_map, or_assoc, eq_comm]

@[simp] theorem entity_mem_items_iff {e : Entity} : Item.entity e ∈ m.items f ↔ e ∈ m.entities f := by
  rw [items]
  split
  · next h => simp [h]
  · simp

theorem umbrella_mem_items_iff : Item.umbrella ∈ m.items f ↔ m.entities f ≠ [] := by
  rw [items]
  split
  · next h => simp [h]
  · next h => simp [h]

/-- What kind of thing a header is for. -/
inductive Kind where
  | ofClass
  | ofProtocol
  | ofCategory
  | umbrella
  deriving DecidableEq

def Item.kind : Item → Kind
  | .entity (.ofClass _) => .ofClass
  | .entity (.ofProtocol _) => .ofProtocol
  | .entity (.ofCategory _) => .ofCategory
  | .umbrella => .umbrella

/-- Whose imports the header of an entity brings in: those of the last one with its key. -/
inductive Decides (m : Module) : Entity → Entity → Prop
  | ofClass {c d : ObjcClass} (h : Keyed.IsLast (·.name) c.name m.classes d) :
      Decides m (.ofClass c) (.ofClass d)
  | ofProtocol {p q : ObjcProtocol} (h : Keyed.IsLast (·.identity) p.identity m.protocols q) :
      Decides m (.ofProtocol p) (.ofProtocol q)
  | ofCategory {k l : Category} (h : Keyed.IsLast (·.headerStem) k.headerStem m.categories l) :
      Decides m (.ofCategory k) (.ofCategory l)

theorem exists_decides {e : Entity} (h : e ∈ m.entities f) : ∃ d, m.Decides e d := by
  rcases mem_entities_iff.mp h with ⟨c, hc, rfl⟩ | ⟨p, hp, rfl⟩ | ⟨k, hk, rfl⟩
  · obtain ⟨d, hd⟩ : ∃ d, Keyed.IsLast (·.name) c.name m.classes d := Keyed.exists_isLast ⟨c, hc, rfl⟩
    exact ⟨_, .ofClass hd⟩
  · obtain ⟨q, hq⟩ : ∃ q, Keyed.IsLast (·.identity) p.identity m.protocols q :=
      Keyed.exists_isLast ⟨p, (ObjcProtocol.mem_distinct hp).1, rfl⟩
    exact ⟨_, .ofProtocol hq⟩
  · obtain ⟨l, hl⟩ : ∃ l, Keyed.IsLast (·.headerStem) k.headerStem m.categories l :=
      Keyed.exists_isLast ⟨k, hk, rfl⟩
    exact ⟨_, .ofCategory hl⟩

theorem Decides.imports_eq {e d : Entity} (h : m.Decides e d) (s : Settings) :
    (e.draft (m.imports s f)).imports = (m.scope s f).ofEntity d := by
  cases h with
  | ofClass h =>
    have hl := (Keyed.lookup_ofPairs_iff _ (m.scope s f).ofClass _ _ _).mpr ⟨_, h, rfl⟩
    exact congrArg (·.getD {}) hl
  | ofProtocol h =>
    have hl := (Keyed.lookup_ofPairs_iff _ (m.scope s f).ofProtocol _ _ _).mpr ⟨_, h, rfl⟩
    exact congrArg (·.getD {}) hl
  | ofCategory h =>
    have hl := (Keyed.lookup_ofPairs_iff _ (m.scope s f).ofCategory _ _ _).mpr ⟨_, h, rfl⟩
    exact congrArg (·.getD {}) hl

end Module
end ObjcAtlas
