import ObjcAtlas.Proofs.ModuleEntities

/-! Which entities of a binary get headers and in which order, told from its sections alone: classes and categories
sorted with level ones as they stand, and of the protocols the least definition of each identity. -/
namespace ObjcAtlas

namespace ObjcProtocol

/-- The definitions of a section that stand for their identities: none of a system protocol, in ascending order, and
each the least one of its identity, the first among equals. -/
structure Represents (f : FoundationIndex) (ps chosen : List ObjcProtocol) : Prop where
  ascending : chosen.Pairwise fun p q => p.name < q.name ∨ p.name = q.name ∧ p.identity < q.identity
  distinct : chosen.Pairwise fun p q => p.identity ≠ q.identity
  kept : ∀ p ∈ chosen, f.hasProtocol p.name = false
  complete : ∀ q ∈ ps, f.hasProtocol q.name = false → ∃ p ∈ chosen, p.identity = q.identity
  least : ∀ p ∈ chosen, ∃ before after, ps = before ++ p :: after ∧
    (∀ q ∈ before, q.identity = p.identity → f.hasProtocol q.name = false → p.name < q.name) ∧
    ∀ q ∈ after, q.identity = p.identity → f.hasProtocol q.name = false → p.name ≤ q.name

theorem ordersBy_key : OrdersBy key notAfter := ordersBy_name_then ObjcProtocol.name ObjcProtocol.identity

theorem name_lt_or_of_notAfter {p q : ObjcProtocol} (h : notAfter p q) :
    p.name < q.name ∨ p.name = q.name ∧ p.identity ≤ q.identity := by
  simpa [notAfter] using h

variable {f : FoundationIndex} {ps : List ObjcProtocol}

/-- The choice from a sorted section goes on with entries that come later. -/
theorem distinct_sorted_pairwise (f : FoundationIndex) (ps : List ObjcProtocol) :
    (distinct f (sorted ps)).Pairwise fun p q => notAfter p q ∧ p.identity ≠ q.identity := by
  have hsub : (distinct f (sorted ps)).Sublist (sorted ps) := (firstOfEach_sublist [] _).trans List.filter_sublist
  exact ((ordersBy_key.pairwise_mergeSort ps).sublist hsub).and (firstOfEach_pairwise [] _)

/-- Among the sorted definitions nothing before a chosen one has its identity, and nothing after it a lesser name. -/
theorem exists_sorted_eq_append {p : ObjcProtocol} (hp : p ∈ distinct f (sorted ps)) :
    ∃ before after, (sorted ps).filter (fun q => !f.hasProtocol q.name) = before ++ p :: after ∧
      (∀ q ∈ before, q.identity ≠ p.identity) ∧ ∀ q ∈ after, p.name ≤ q.name := by
  obtain ⟨before, after, hs, hbefore⟩ := exists_eq_append_of_mem_firstOfEach hp
  have hsorted : (before ++ p :: after).Pairwise fun q r => notAfter q r :=
    hs ▸ (ordersBy_key.pairwise_mergeSort ps).sublist List.filter_sublist
  refine ⟨before, after, hs, hbefore, fun q hq => ?_⟩
  have hpq := (List.pairwise_cons.mp (List.pairwise_append.mp hsorted).2.1).1 q hq
  exact (name_lt_or_of_notAfter hpq).elim le_of_lt fun h => h.1.le

theorem name_le_of_mem_distinct {p q : ObjcProtocol} (hp : p ∈ distinct f (sorted ps)) (hq : q ∈ ps)
    (hi : q.identity = p.identity) (hf : f.hasProtocol q.name = false) : p.name ≤ q.name := by
  obtain ⟨before, after, hs, hbefore, hafter⟩ := exists_sorted_eq_append hp
  have hqs : q ∈ before ++ p :: after := by
    rw [← hs, List.mem_filter, mem_sorted]
    exact ⟨hq, by simpa using hf⟩
  rcases List.mem_append.mp hqs with hq | hq
  · exact absurd hi (hbefore q hq)
  · rcases List.mem_cons.mp hq with rfl | hq
    · exact le_rfl
    · exact hafter q hq

/-- Sorting keeps the definitions of one key in order, and among those the chosen one comes first. -/
theorem exists_filter_key_eq_cons {p : ObjcProtocol} (hp : p ∈ distinct f (sorted ps)) :
    ∃ rest, ps.filter (key · = key p) = p :: rest := by
  obtain ⟨before, after, hs, hbefore, -⟩ := exists_sorted_eq_append hp
  -- definitions of one key have one name, so the filter that leaves out system protocols takes none of them
  have hfilter : (sorted ps).filter (key · = key p) = (before ++ p :: after).filter (key · = key p) := by
    rw [← hs, List.filter_filter]
    refine List.filter_congr fun q _ => ?_
    by_cases hq : key q = key p
    · have hn : q.name = p.name := congrArg Prod.fst hq
      simp [hq, hn, (mem_distinct hp).2]
    · simp [hq]
  have hnone : before.filter (key · = key p) = [] := by
    refine List.filter_eq_nil_iff.mpr fun q hq he => hbefore q hq ?_
    exact congrArg Prod.snd (of_decide_eq_true he)
  refine ⟨after.filter (key · = key p), ?_⟩
  rw [← ordersBy_key.filter_mergeSort (key p) ps]
  show (sorted ps).filter (key · = key p) = _
  rw [hfilter, List.filter_append, hnone, List.nil_append, List.filter_cons_of_pos (by simp)]

theorem represents_distinct (f : FoundationIndex) (ps : List ObjcProtocol) :
    Represents f ps (distinct f (sorted ps)) where
  ascending := (distinct_sorted_pairwise f ps).imp fun ⟨hle, hne⟩ =>
    (name_lt_or_of_notAfter hle).imp_right fun h => ⟨h.1, lt_of_le_of_ne h.2 hne⟩
  distinct := (distinct_sorted_pairwise f ps).imp fun h => h.2
  kept p hp := (mem_distinct hp).2
  complete q hq hf := exists_mem_distinct (mem_sorted.mpr hq) hf
  least p hp := by
    obtain ⟨rest, hrest⟩ := exists_filter_key_eq_cons hp
    obtain ⟨before, after, rfl, hbefore, -⟩ := List.filter_eq_cons_iff.mp hrest
    refine ⟨before, after, rfl, fun q hq hi hf => ?_, fun q hq hi hf => ?_⟩
    · refine lt_of_le_of_ne (name_le_of_mem_distinct hp (List.mem_append_left _ hq) hi hf) fun hn => ?_
      exact hbefore q hq (decide_eq_true (Prod.ext hn.symm hi))
    · exact name_le_of_mem_distinct hp (List.mem_append_right _ (List.mem_cons_of_mem p hq)) hi hf

end ObjcProtocol

namespace Binary

/-- The entities of a binary that get headers, in order: its classes by name, the definitions that stand for its
protocols, its categories by name and class. -/
inductive EmissionOrder (f : FoundationIndex) (b : Binary) : List Entity → Prop
  | inOrder {cs classes : List ObjcClass} {ps chosen : List ObjcProtocol} {ks categories : List Category}
      (hc : b.classes = .ok cs) (hclasses : Rearranged ObjcClass.key cs classes)
      (hnames : classes.Pairwise fun c d => c.name ≤ d.name)
      (hp : b.protocols = .ok ps) (hchosen : ObjcProtocol.Represents f ps chosen)
      (hk : b.categories = .ok ks) (hcategories : Rearranged Category.key ks categories)
      (hkeys : categories.Pairwise fun k l =>
        k.name < l.name ∨ k.name = l.name ∧ k.className.getD "" ≤ l.className.getD "") :
      EmissionOrder f b (classes.map .ofClass ++ chosen.map .ofProtocol ++ categories.map .ofCategory)

variable (f : FoundationIndex) {b : Binary}

theorem emissionOrder_entities {m : Module} (hm : b.module? = some m) : b.EmissionOrder f (m.entities f) := by
  obtain ⟨cs, ps, ks, ⟨hc, hmc⟩, ⟨hp, hmp⟩, ⟨hk, hmk⟩⟩ := sections_of_module? hm
  have hclass := ordersBy_le ObjcClass.name
  have hcategory := ordersBy_name_then Category.name fun k => k.className.getD ""
  rw [Module.entities, hmc, hmp, hmk]
  exact .inOrder hc (hclass.rearranged_mergeSort cs) ((hclass.pairwise_mergeSort cs).imp of_decide_eq_true)
    hp (ObjcProtocol.represents_distinct f ps) hk (hcategory.rearranged_mergeSort ks)
    ((hcategory.pairwise_mergeSort ks).imp fun h => by simpa using h)

/-- Without metadata there are no entities. -/
theorem emissionOrder_nil (hb : b.hasMetadata = false) : b.EmissionOrder f [] := by
  have hs : b.sections? = none := by simpa [hasMetadata] using hb
  have hc : b.classes = .ok [] := by rw [classes, classes?, section?, hs]; rfl
  have hp : b.protocols = .ok [] := by rw [protocols, protocols?, section?, hs]; rfl
  have hk : b.categories = .ok [] := by rw [categories, categories?, section?, hs]; rfl
  exact .inOrder hc (.refl _ []) .nil hp ⟨.nil, .nil, nofun, nofun, nofun⟩ hk (.refl _ []) .nil

end Binary
end ObjcAtlas
