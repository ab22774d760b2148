import ObjcAtlas.Dependencies
import ObjcAtlas.Proofs.NormalizedImports

/-! The imports of an entity described by what it refers to, apart from the order in which its members are walked:
resolution of a whole binary gives exactly the described imports. -/
namespace ObjcAtlas

/-- What a header is written for: a class, a protocol or a category. -/
inductive Entity where
  | ofClass (c : ObjcClass)
  | ofProtocol (p : ObjcProtocol)
  | ofCategory (k : Category)
  deriving DecidableEq

/-- The header of the class or protocol that is referred to. -/
def TypeReference.header : TypeReference → String
  | .toClass n => HeaderName.ofClass n
  | .toProtocol n => HeaderName.ofProtocol n

namespace Entity

/-- The references of an entity. Argument 1 of a method is the selector and refers to nothing. -/
inductive Refers : Entity → TypeReference → Prop
  | classAdopts {c : ObjcClass} {n : String} (hn : n ∈ c.protocols) :
      Refers (.ofClass c) (.toProtocol n)
  | ivar {c : ObjcClass} {v : Ivar} {type : String} {r : TypeReference} (hv : v ∈ c.ivars)
      (ht : v.type = some type) (hr : r ∈ TypeEncoding.references .runtime type) :
      Refers (.ofClass c) r
  | property {c : ObjcClass} {p : Property} {type : String} {r : TypeReference} (hp : p ∈ c.properties)
      (ht : p.type = some type) (hr : r ∈ TypeEncoding.references .declaration type) :
      Refers (.ofClass c) r
  | argument {c : ObjcClass} {m : Method} {i : Nat} {type : String} {r : TypeReference}
      (hm : m ∈ c.instanceMethods ∨ m ∈ c.classMethods) (hi : i ≠ 1)
      (ht : m.argumentTypes[i]? = some type) (hr : r ∈ TypeEncoding.references .declaration type) :
      Refers (.ofClass c) r
  | protocolAdopts {p : ObjcProtocol} {n : String} (hn : n ∈ p.protocols) :
      Refers (.ofProtocol p) (.toProtocol n)
  | extended {k : Category} {n : String} (hk : k.className = some n) (hn : n ≠ "") :
      Refers (.ofCategory k) (.toClass n)

def references : Entity → List TypeReference
  | .ofClass c => c.references
  | .ofProtocol p => p.references
  | .ofCategory k => k.references

/-- The framework that an entity names. -/
def frameworks (s : Scope) : Entity → List String
  | .ofClass c => if c.superclass = s.rootClass then [s.rootFramework] else []
  | .ofProtocol _ | .ofCategory _ => []

theorem frameworks_pairwise (s : Scope) (e : Entity) : (e.frameworks s).Pairwise (· < ·) := by
  cases e with
  | ofClass c =>
    simp only [frameworks]
    split
    · exact List.pairwise_singleton ..
    · exact .nil
  | ofProtocol p => exact .nil
  | ofCategory k => exact .nil

theorem mem_walkedArguments_iff {α : Type} {x : α} {xs : List α} :
    x ∈ walkedArguments xs ↔ ∃ i, i ≠ 1 ∧ xs[i]? = some x := by
  rcases xs with _ | ⟨a, _ | ⟨b, rest⟩⟩
  · simp [walkedArguments]
  · constructor
    · intro h
      obtain rfl : x = a := by simpa [walkedArguments] using h
      exact ⟨0, by simp⟩
    · rintro ⟨i, -, hx⟩
      exact List.mem_of_getElem? hx
  · simp only [walkedArguments, List.drop_succ_cons, List.drop_zero, List.mem_cons]
    constructor
    · rintro (rfl | h)
      · exact ⟨0, by simp⟩
      · obtain ⟨j, hj⟩ := List.mem_iff_getElem?.mp h
        exact ⟨j + 2, by omega, by simpa using hj⟩
    · rintro ⟨_ | _ | j, hi, hx⟩
      · exact Or.inl (by simpa using hx.symm)
      · exact absurd rfl hi
      · exact Or.inr (List.mem_of_getElem? (i := j) (by simpa using hx))

theorem mem_optionalReferences_iff {style : TypeEncoding.Style} {type? : Option String} {r : TypeReference} :
    r ∈ TypeEncoding.optionalReferences style type? ↔
      ∃ type, type? = some type ∧ r ∈ TypeEncoding.references style type := by
  cases type? <;> simp [TypeEncoding.optionalReferences]

theorem mem_methodReferences_iff {m : Method} {r : TypeReference} :
    r ∈ m.references ↔ ∃ i type, i ≠ 1 ∧ m.argumentTypes[i]? = some type ∧
      r ∈ TypeEncoding.references .declaration type := by
  simp only [Method.references, List.mem_flatMap, mem_walkedArguments_iff]
  constructor
  · rintro ⟨type, ⟨i, hi, ht⟩, hr⟩
    exact ⟨i, type, hi, ht, hr⟩
  · rintro ⟨i, type, hi, ht, hr⟩
    exact ⟨type, ⟨i, hi, ht⟩, hr⟩

theorem nonemptyText?_eq_some_iff {t? : Option String} {t : String} :
    nonemptyText? t? = some t ↔ t? = some t ∧ t ≠ "" := by
  unfold nonemptyText?
  split
  · simp only [reduceCtorEq, Option.some.injEq, false_iff, not_and, not_not]
    exact Eq.symm
  · next hne => exact ⟨fun h => ⟨h, fun he => hne (he ▸ h)⟩, And.left⟩

/-- The walk over the members meets every reference and nothing else. -/
theorem mem_references_iff {e : Entity} {r : TypeReference} : r ∈ e.references ↔ e.Refers r := by
  cases e with
  | ofClass c =>
    simp only [references, ObjcClass.references, List.mem_append, List.mem_map, List.mem_flatMap,
      mem_optionalReferences_iff, mem_methodReferences_iff]
    constructor
    · rintro (((⟨n, hn, rfl⟩ | ⟨v, hv, type, ht, hr⟩) | ⟨p, hp, type, ht, hr⟩) | ⟨m, hm, i, type, hi, ht, hr⟩)
      · exact .classAdopts hn
      · exact .ivar hv ht hr
      · exact .property hp ht hr
      · exact .argument hm hi ht hr
    · intro h
      cases h with
      | classAdopts hn => exact Or.inl (Or.inl (Or.inl ⟨_, hn, rfl⟩))
      | ivar hv ht hr => exact Or.inl (Or.inl (Or.inr ⟨_, hv, _, ht, hr⟩))
      | property hp ht hr => exact Or.inl (Or.inr ⟨_, hp, _, ht, hr⟩)
      | argument hm hi ht hr => exact Or.inr ⟨_, hm, _, _, hi, ht, hr⟩
  | ofProtocol p =>
    simp only [references, ObjcProtocol.references, List.mem_map]
    constructor
    · rintro ⟨n, hn, rfl⟩
      exact .protocolAdopts hn
    · intro h
      cases h with
      | protocolAdopts hn => exact ⟨_, hn, rfl⟩
  | ofCategory k =>
    simp only [references, Category.references, Option.mem_toList, Option.map_eq_some_iff,
      nonemptyText?_eq_some_iff]
    constructor
    · rintro ⟨n, ⟨hk, hn⟩, rfl⟩
      exact .extended hk hn
    · intro h
      cases h with
      | extended hk hn => exact ⟨_, ⟨hk, hn⟩, rfl⟩

end Entity

namespace Scope

/-- Whether the binary itself has the class or protocol that is referred to. -/
def Defines (s : Scope) : TypeReference → Prop
  | .toClass n => n ∈ s.classNames
  | .toProtocol n => n ∈ s.protocolNames

def ofEntity (s : Scope) : Entity → Imports
  | .ofClass c => s.ofClass c
  | .ofProtocol p => s.ofProtocol p
  | .ofCategory k => s.ofCategory k

/-- The imports of an entity as sets: headers of its own binary for what the binary defines, names in advance
for the rest, neither for what the foundation supplies. -/
structure Resolves (s : Scope) (e : Entity) (i : Imports) : Prop where
  frameworks : i.frameworks = e.frameworks s
  locals_ascending : i.locals.Pairwise (· < ·)
  classes_ascending : i.classes.Pairwise (· < ·)
  protocols_ascending : i.protocols.Pairwise (· < ·)
  mem_locals : ∀ h, h ∈ i.locals ↔
    (∃ r, e.Refers r ∧ s.Defines r ∧ h = r.header) ∧ ¬ s.foundation.contains (HeaderName.entity h)
  mem_classes : ∀ n, n ∈ i.classes ↔ e.Refers (.toClass n) ∧ n ∉ s.classNames ∧
    ¬ s.foundation.hasClass n ∧ HeaderName.ofClass n ∉ i.locals
  mem_protocols : ∀ n, n ∈ i.protocols ↔ e.Refers (.toProtocol n) ∧ n ∉ s.protocolNames ∧
    ¬ s.foundation.hasProtocol n ∧ HeaderName.ofProtocol n ∉ i.locals

/-- Imports are determined by their description. -/
theorem Resolves.unique {s : Scope} {e : Entity} {i j : Imports} (hi : s.Resolves e i) (hj : s.Resolves e j) :
    i = j := by
  have hl : i.locals = j.locals := Text.eq_of_mem_iff_of_pairwise hi.locals_ascending hj.locals_ascending
    fun h => (hi.mem_locals h).trans (hj.mem_locals h).symm
  have hc : i.classes = j.classes := Text.eq_of_mem_iff_of_pairwise hi.classes_ascending hj.classes_ascending
    fun n => by rw [hi.mem_classes, hj.mem_classes, hl]
  have hp : i.protocols = j.protocols := Text.eq_of_mem_iff_of_pairwise hi.protocols_ascending
    hj.protocols_ascending fun n => by rw [hi.mem_protocols, hj.mem_protocols, hl]
  have hf : i.frameworks = j.frameworks := hi.frameworks.trans hj.frameworks.symm
  cases i
  cases j
  simp_all only

theorem importOf_defined {s : Scope} {r : TypeReference} (h : s.Defines r) :
    s.importOf r = { locals := [r.header] } := by
  cases r <;> simp_all [importOf, Defines, TypeReference.header]

theorem importOf_foreignClass {s : Scope} {n : String} (h : n ∉ s.classNames) :
    s.importOf (.toClass n) = { classes := [n] } := by
  simp [importOf, h]

theorem importOf_foreignProtocol {s : Scope} {n : String} (h : n ∉ s.protocolNames) :
    s.importOf (.toProtocol n) = { protocols := [n] } := by
  simp [importOf, h]

section Gathering
variable (s : Scope) (refs : List TypeReference)

theorem importsOf_cons (r : TypeReference) :
    s.importsOf (r :: refs) = s.importOf r ++ s.importsOf refs := rfl

theorem importsOf_frameworks : (s.importsOf refs).frameworks = [] := by
  induction refs with
  | nil => rfl
  | cons r refs ih =>
    rw [importsOf_cons, Imports.frameworks_append, ih, List.append_nil]
    cases r <;> simp only [importOf] <;> split <;> rfl

theorem mem_importsOf_locals {h : String} :
    h ∈ (s.importsOf refs).locals ↔ ∃ r ∈ refs, s.Defines r ∧ h = r.header := by
  induction refs with
  | nil => simp [importsOf]
  | cons r refs ih =>
    rw [importsOf_cons, Imports.locals_append, List.mem_append, ih, List.exists_mem_cons_iff]
    apply or_congr_left
    by_cases hd : s.Defines r
    · simp [importOf_defined hd, hd]
    · cases r with
      | toClass n => simp [importOf_foreignClass hd, hd]
      | toProtocol n => simp [importOf_foreignProtocol hd, hd]

theorem mem_importsOf_classes {n : String} :
    n ∈ (s.importsOf refs).classes ↔ .toClass n ∈ refs ∧ n ∉ s.classNames := by
  induction refs with
  | nil => simp [importsOf]
  | cons r refs ih =>
    rw [importsOf_cons, Imports.classes_append, List.mem_append, ih, List.mem_cons, or_and_right]
    apply or_congr_left
    by_cases hd : s.Defines r
    · simp only [importOf_defined hd, List.not_mem_nil, false_iff, not_and, not_not]
      rintro rfl
      exact hd
    · cases r with
      | toClass m =>
        simp only [importOf_foreignClass hd, List.mem_singleton, TypeReference.toClass.injEq]
        exact ⟨fun h => ⟨h, h ▸ hd⟩, And.left⟩
      | toProtocol m => simp [importOf_foreignProtocol hd]

theorem mem_importsOf_protocols {n : String} :
    n ∈ (s.importsOf refs).protocols ↔ .toProtocol n ∈ refs ∧ n ∉ s.protocolNames := by
  induction refs with
  | nil => simp [importsOf]
  | cons r refs ih =>
    rw [importsOf_cons, Imports.protocols_append, List.mem_append, ih, List.mem_cons, or_and_right]
    apply or_congr_left
    by_cases hd : s.Defines r
    · simp only [importOf_defined hd, List.not_mem_nil, false_iff, not_and, not_not]
      rintro rfl
      exact hd
    · cases r with
      | toClass m => simp [importOf_foreignClass hd]
      | toProtocol m =>
        simp only [importOf_foreignProtocol hd, List.mem_singleton, TypeReference.toProtocol.injEq]
        exact ⟨fun h => ⟨h, h ▸ hd⟩, And.left⟩

end Gathering

/-- Every entity is resolved by one rule: its frameworks and the imports of its references, normalized. -/
theorem ofEntity_eq (s : Scope) (e : Entity) :
    s.ofEntity e = (({ frameworks := e.frameworks s } : Imports) ++ s.importsOf e.references).normalize
      s.foundation := by
  cases e with
  | ofClass c =>
    simp only [ofEntity, ofClass, Entity.frameworks, Entity.references]
    split <;> rfl
  | ofProtocol p => rfl
  | ofCategory k => rfl

theorem resolves_ofEntity (s : Scope) (e : Entity) : s.Resolves e (s.ofEntity e) := by
  rw [ofEntity_eq]
  constructor
  · have hf := Text.ascending_eq_self (e.frameworks_pairwise s)
    simpa only [Imports.normalize, Imports.frameworks_append, importsOf_frameworks, List.append_nil] using hf
  · exact Imports.normalize_locals_pairwise
  · exact Imports.normalize_classes_pairwise
  · exact Imports.normalize_protocols_pairwise
  · intro h
    rw [Imports.mem_normalize_locals, Imports.locals_append, List.nil_append, mem_importsOf_locals]
    simp only [Entity.mem_references_iff]
  · intro n
    rw [Imports.mem_normalize_classes, Imports.classes_append, List.nil_append, mem_importsOf_classes,
      Entity.mem_references_iff, and_assoc]
  · intro n
    rw [Imports.mem_normalize_protocols, Imports.protocols_append, List.nil_append, mem_importsOf_protocols,
      Entity.mem_references_iff, and_assoc]

theorem resolves_iff {s : Scope} {e : Entity} {i : Imports} : s.Resolves e i ↔ s.ofEntity e = i := by
  constructor
  · intro h
    exact (s.resolves_ofEntity e).unique h
  · rintro rfl
    exact s.resolves_ofEntity e

/-- Resolution of a binary is its description: of the entities with one key the last decides, and its imports are
the described ones. -/
theorem ofModule_lookup_iff (s : Scope) (classes : List ObjcClass) (protocols : List ObjcProtocol)
    (categories : List Category) (i : Imports) :
    (∀ name, (s.ofModule classes protocols categories).classes.lookup name = some i ↔
      ∃ c, Keyed.IsLast (·.name) name classes c ∧ s.Resolves (.ofClass c) i) ∧
    (∀ identity, (s.ofModule classes protocols categories).protocols.lookup identity = some i ↔
      ∃ p, Keyed.IsLast (·.identity) identity protocols p ∧ s.Resolves (.ofProtocol p) i) ∧
    (∀ stem, (s.ofModule classes protocols categories).categories.lookup stem = some i ↔
      ∃ k, Keyed.IsLast (·.headerStem) stem categories k ∧ s.Resolves (.ofCategory k) i) := by
  simp only [resolves_iff, ofEntity]
  refine ⟨?_, ?_, ?_⟩
  · intro name
    exact Keyed.lookup_ofPairs_iff (·.name) s.ofClass name i classes
  · intro identity
    exact Keyed.lookup_ofPairs_iff (·.identity) s.ofProtocol identity i protocols
  · intro stem
    exact Keyed.lookup_ofPairs_iff (·.headerStem) s.ofCategory stem i categories

end Scope
end ObjcAtlas
