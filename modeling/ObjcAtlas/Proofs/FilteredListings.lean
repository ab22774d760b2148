import ObjcAtlas.Proofs.EmissionOrder
import ObjcAtlas.Proofs.HeaderFlaws
import ObjcAtlas.Proofs.ReorderedMetadata

/-! A listing of one kind shows what the full listing shows of that kind, less the names that do not match. The two
sort in different ways, but what is sorted by a finer key is in order by name already. -/
namespace ObjcAtlas

/-- Inputs kept together with their outcomes. -/
theorem mapM_fst_eq_ok {ε α β : Type} {f : α → Except ε β} {xs : List (α × β)} (h : ∀ x ∈ xs, f x.1 = .ok x.2) :
    (xs.map (·.1)).mapM f = .ok (xs.map (·.2)) := by
  apply mapM_eq_ok_of_forall₂
  rw [List.forall₂_map_left_iff, List.forall₂_same]
  exact h

theorem exists_forall₂ {α β : Type} {R : α → β → Prop} {xs : List α} (h : ∀ x ∈ xs, ∃ y, R x y) :
    ∃ ys, List.Forall₂ R xs ys := by
  induction xs with
  | nil => exact ⟨[], .nil⟩
  | cons x xs ih =>
    obtain ⟨⟨y, hy⟩, hxs⟩ := List.forall_mem_cons.mp h
    obtain ⟨ys, hys⟩ := ih hxs
    exact ⟨y :: ys, .cons hy hys⟩

namespace Entity

def kind : Entity → EntityKind
  | .ofClass _ => .ofClass
  | .ofProtocol _ => .ofProtocol
  | .ofCategory _ => .ofCategory

/-- The text of an entity in a listing. -/
def entry (long : Bool) : Entity → Except Failure String
  | .ofClass c => Listing.classEntry long c
  | .ofProtocol p => Listing.protocolEntry long p
  | .ofCategory k => Listing.categoryEntry long k

/-- Whether a listing of one kind shows the entity. -/
def isShown (kind : EntityKind) (isMatch : String → Bool) (e : Entity) : Bool := e.kind = kind && isMatch e.name

end Entity

namespace Binary

/-- The entities of a binary in the order of a full listing. -/
def listed (b : Binary) : Except Failure (List Entity) := do
  let protocols ← b.protocols
  let classes ← b.classes
  let categories ← b.categories
  return (Listing.orderedProtocols protocols).map .ofProtocol ++ (ObjcClass.sorted classes).map .ofClass ++
    (Category.sorted categories).map .ofCategory

/-- Every section that is there can be read, and no property or instance variable lacks its type. -/
structure WellTyped (b : Binary) : Prop where
  classes : ∃ cs, b.classes = .ok cs ∧
    ∀ c ∈ cs, (∀ v ∈ c.ivars, v.type ≠ none) ∧ ∀ p ∈ c.properties, p.type ≠ none
  protocols : ∃ ps, b.protocols = .ok ps ∧ ∀ p ∈ ps, ∀ q ∈ p.properties, q.type ≠ none
  categories : ∃ ks, b.categories = .ok ks ∧ ∀ k ∈ ks, ∀ q ∈ k.properties, q.type ≠ none

end Binary

namespace Listing

/-- Sorting by name changes nothing where names ascend already. -/
theorem matching_of_pairwise {α : Type} {name : α → String} {xs : List α}
    (h : xs.Pairwise fun a b => name a ≤ name b) (isMatch : String → Bool) :
    matching name isMatch xs = xs.filter fun a => isMatch (name a) := by
  have hs : xs.Pairwise fun a b => decide (name a ≤ name b) = true := h.imp decide_eq_true
  rw [matching, List.mergeSort_of_pairwise hs]

theorem orderedProtocols_pairwise (ps : List ObjcProtocol) :
    (orderedProtocols ps).Pairwise fun p q => p.name ≤ q.name := by
  refine (ObjcProtocol.distinct_sorted_pairwise {} ps).imp fun {p q} h => ?_
  rcases ObjcProtocol.name_lt_or_of_notAfter h.1 with hlt | ⟨heq, -⟩
  · exact hlt.le
  · exact heq.le

theorem sortedCategories_pairwise (ks : List Category) :
    (Category.sorted ks).Pairwise fun k l => k.name ≤ l.name := by
  have hsorted := (ordersBy_name_then Category.name fun k => k.className.getD "").pairwise_mergeSort ks
  refine hsorted.imp fun {k l} h => ?_
  simp only [Bool.or_eq_true, decide_eq_true_eq, Bool.and_eq_true, beq_iff_eq] at h
  rcases h with hlt | ⟨heq, -⟩
  · exact hlt.le
  · exact heq.le

section Sections
variable {b : Binary} {es : List Entity}

theorem exists_sections_of_listed (h : b.listed = .ok es) :
    ∃ ps cs ks, b.protocols = .ok ps ∧ b.classes = .ok cs ∧ b.categories = .ok ks ∧
      es = (orderedProtocols ps).map .ofProtocol ++ (ObjcClass.sorted cs).map .ofClass ++
        (Category.sorted ks).map .ofCategory := by
  obtain ⟨ps, hp, h⟩ := exists_of_bind_eq_ok h
  obtain ⟨cs, hc, h⟩ := exists_of_bind_eq_ok h
  obtain ⟨ks, hk, h⟩ := exists_of_bind_eq_ok h
  exact ⟨ps, cs, ks, hp, hc, hk, (Except.ok.inj h).symm⟩

/-- A full listing shows the entities of a binary in their order. -/
theorem entriesOf_eq_mapM (h : b.listed = .ok es) (long : Bool) : entriesOf long b = es.mapM (Entity.entry long) := by
  obtain ⟨ps, cs, ks, hp, hc, hk, rfl⟩ := exists_sections_of_listed h
  rw [entriesOf, hp, hc, hk]
  simp only [List.mapM_append, List.mapM_map, bind_assoc, pure_bind, List.append_assoc]
  rfl

/-- A listing of one kind shows those of them that are of the kind and match, in the same order. -/
theorem matchesOf_eq_mapM (h : b.listed = .ok es) (kind : EntityKind) (isMatch : String → Bool) (long : Bool) :
    matchesOf kind isMatch long b = (es.filter (Entity.isShown kind isMatch)).mapM (Entity.entry long) := by
  obtain ⟨ps, cs, ks, hp, hc, hk, rfl⟩ := exists_sections_of_listed h
  rw [List.filter_append, List.filter_append, List.filter_map, List.filter_map, List.filter_map]
  cases kind with
  | ofClass =>
    rw [matchesOf, hc]
    simp [Entity.isShown, Entity.kind, Function.comp_def, List.mapM_map]
    rfl
  | ofProtocol =>
    rw [matchesOf, hp]
    change (matching _ isMatch (orderedProtocols ps)).mapM (protocolEntry long) = _
    rw [matching_of_pairwise (orderedProtocols_pairwise ps)]
    simp [Entity.isShown, Entity.kind, Function.comp_def, List.mapM_map]
    rfl
  | ofCategory =>
    rw [matchesOf, hk]
    change (matching _ isMatch (Category.sorted ks)).mapM (categoryEntry long) = _
    rw [matching_of_pairwise (sortedCategories_pairwise ks)]
    simp [Entity.isShown, Entity.kind, Function.comp_def, List.mapM_map]
    rfl

theorem exists_entry {α : Type} {declared : α → Except MissingType String} {summary : α → String} {a : α}
    (h : ∃ text, declared a = .ok text) (long : Bool) : ∃ text, entry declared summary long a = .ok text := by
  obtain ⟨text, ht⟩ := h
  cases long with
  | false => exact ⟨summary a, rfl⟩
  | true => exact ⟨text, by rw [entry, if_pos rfl, ht]; rfl⟩

/-- Each entity of a binary has a text if no type is missing. -/
theorem exists_entry_of_mem_listed (hb : b.WellTyped) (h : b.listed = .ok es) (long : Bool) {e : Entity}
    (he : e ∈ es) : ∃ text, e.entry long = .ok text := by
  obtain ⟨ps, cs, ks, hp, hc, hk, rfl⟩ := exists_sections_of_listed h
  simp only [List.mem_append, List.mem_map] at he
  obtain (⟨p, hmem, rfl⟩ | ⟨c, hmem, rfl⟩) | ⟨k, hmem, rfl⟩ := he
  · obtain ⟨ps', hp', htypes⟩ := hb.protocols
    obtain rfl := Except.ok.inj (hp.symm.trans hp')
    have hmem' := ObjcProtocol.mem_sorted.mp (ObjcProtocol.mem_distinct hmem).1
    exact exists_entry (Declaration.exists_ofProtocol_iff.mpr (htypes p hmem')) long
  · obtain ⟨cs', hc', htypes⟩ := hb.classes
    obtain rfl := Except.ok.inj (hc.symm.trans hc')
    have hmem' := List.mem_mergeSort.mp hmem
    exact exists_entry (Declaration.exists_ofClass_iff.mpr (htypes c hmem')) long
  · obtain ⟨ks', hk', htypes⟩ := hb.categories
    obtain rfl := Except.ok.inj (hk.symm.trans hk')
    have hmem' := List.mem_mergeSort.mp hmem
    exact exists_entry (Declaration.exists_ofCategory_iff.mpr (htypes k hmem')) long

end Sections
end Listing

/-- What a full listing shows of one binary: its entities in order, each with its text. -/
structure Binary.Shows (b : Binary) (long : Bool) (shown : List (Entity × String)) : Prop where
  listed : b.listed = .ok (shown.map (·.1))
  entry : ∀ x ∈ shown, x.1.entry long = .ok x.2

namespace Binary
variable {b : Binary} {long : Bool} {shown : List (Entity × String)}

theorem WellTyped.exists_shows (h : b.WellTyped) (long : Bool) : ∃ shown, b.Shows long shown := by
  obtain ⟨es, hes⟩ : ∃ es, b.listed = .ok es := by
    obtain ⟨ps, hp, -⟩ := h.protocols
    obtain ⟨cs, hc, -⟩ := h.classes
    obtain ⟨ks, hk, -⟩ := h.categories
    exact ⟨_, by rw [listed, hp, hc, hk]; rfl⟩
  obtain ⟨texts, htexts⟩ := exists_forall₂ fun _ he => Listing.exists_entry_of_mem_listed h hes long he
  refine ⟨es.zip texts, ?_, ?_⟩
  · rw [List.map_fst_zip htexts.length_eq.le]
    exact hes
  · intro x hx
    exact List.forall₂_zip htexts hx

theorem Shows.entriesOf (h : b.Shows long shown) : Listing.entriesOf long b = .ok (shown.map (·.2)) := by
  rw [Listing.entriesOf_eq_mapM h.listed, mapM_fst_eq_ok h.entry]

theorem Shows.matchesOf (h : b.Shows long shown) (kind : EntityKind) (isMatch : String → Bool) :
    Listing.matchesOf kind isMatch long b = .ok ((shown.filter fun x => x.1.isShown kind isMatch).map (·.2)) := by
  rw [Listing.matchesOf_eq_mapM h.listed, List.filter_map]
  apply mapM_fst_eq_ok
  intro x hx
  exact h.entry x (List.mem_filter.mp hx).1

end Binary

namespace Listing

/-- There is one list of entities with their texts for each binary such that a full listing consists of the texts and
a listing of one kind of the texts of those entities that are of the kind and match. -/
theorem exists_ofKind_eq_filter_all (l : Listing) (h : ∀ b ∈ l.binaries, b.WellTyped) (long : Bool) :
    ∃ shown, List.Forall₂ (fun b xs => Binary.Shows b long xs) l.binaries shown ∧
      l.all long = .ok (shown.map fun xs => xs.map (·.2)).flatten ∧
      (∀ kind isMatch, l.ofKind kind isMatch long =
        .ok (shown.map fun xs => (xs.filter fun x => x.1.isShown kind isMatch).map (·.2)).flatten) ∧
      ∀ kind text p, pattern text = .ok p → l.filtered kind text long =
        .ok (shown.map fun xs => (xs.filter fun x => x.1.isShown kind p.occursIn).map (·.2)).flatten := by
  obtain ⟨shown, hs⟩ := exists_forall₂ fun b hb => (h b hb).exists_shows long
  have hkind : ∀ kind isMatch, l.ofKind kind isMatch long =
      .ok (shown.map fun xs => (xs.filter fun x => x.1.isShown kind isMatch).map (·.2)).flatten := by
    intro kind isMatch
    rw [ofKind, mapM_eq_ok_of_forall₂ (hs.imp fun _ _ hb => hb.matchesOf kind isMatch)]
    rfl
  refine ⟨shown, hs, ?_, hkind, ?_⟩
  · rw [all, mapM_eq_ok_of_forall₂ (hs.imp fun _ _ hb => hb.entriesOf)]
    rfl
  · intro kind text p hp
    rw [filtered, hp]
    exact hkind kind p.occursIn

/-! Two categories of one name that extend different classes, listed with a library without metadata. -/
section Twins

def twins : Binary where
  name := "M"
  fields := [("objc", .object [
    ("classes", .list [.object [("name", .text "B")], .object [("name", .text "A")]]),
    ("categories", .list [
      .object [("name", .text "Extras"), ("class", .text "B")],
      .object [("name", .text "Extras"), ("class", .text "A")]])])]

def twinListing : Listing := ⟨twins, [⟨"L", []⟩]⟩

theorem wellTyped_twinListing : ∀ b ∈ twinListing.binaries, b.WellTyped := by
  intro b hb
  simp only [twinListing, binaries, List.mem_cons, List.not_mem_nil, or_false] at hb
  obtain rfl | rfl := hb
  · exact ⟨⟨[{ name := "B" }, { name := "A" }], rfl, by simp⟩, ⟨[], rfl, by simp⟩,
      ⟨[{ name := "Extras", className := some "B" }, { name := "Extras", className := some "A" }], rfl, by simp⟩⟩
  · exact ⟨⟨[], rfl, by simp⟩, ⟨[], rfl, by simp⟩, ⟨[], rfl, by simp⟩⟩

theorem ofKind_eq_filter_all_twins : (∀ b ∈ twinListing.binaries, b.WellTyped) ∧
    ∃ shown, List.Forall₂ (fun b xs => Binary.Shows b true xs) twinListing.binaries shown ∧
      twinListing.all true = .ok (shown.map fun xs => xs.map (·.2)).flatten ∧
      (∀ kind isMatch, twinListing.ofKind kind isMatch true =
        .ok (shown.map fun xs => (xs.filter fun x => x.1.isShown kind isMatch).map (·.2)).flatten) ∧
      ∀ kind text p, pattern text = .ok p → twinListing.filtered kind text true =
        .ok (shown.map fun xs => (xs.filter fun x => x.1.isShown kind p.occursIn).map (·.2)).flatten :=
  ⟨wellTyped_twinListing, exists_ofKind_eq_filter_all twinListing wellTyped_twinListing true⟩

end Twins

end Listing
end ObjcAtlas
