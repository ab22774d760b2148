import ObjcAtlas.Header
import ObjcAtlas.Proofs.AscendingNames

/-! What normalization keeps of each field of imports, and that it leaves each field strictly ascending. It is a closure:
normalizing a part of some imports before the whole changes nothing. -/
namespace ObjcAtlas.Imports

section Fields
variable (i j : Imports)

@[simp] theorem frameworks_append : (i ++ j).frameworks = i.frameworks ++ j.frameworks := rfl
@[simp] theorem locals_append : (i ++ j).locals = i.locals ++ j.locals := rfl
@[simp] theorem classes_append : (i ++ j).classes = i.classes ++ j.classes := rfl
@[simp] theorem protocols_append : (i ++ j).protocols = i.protocols ++ j.protocols := rfl

theorem append_empty : i ++ {} = i := by
  show Imports.mk (i.frameworks ++ []) (i.locals ++ []) (i.classes ++ []) (i.protocols ++ []) = i
  simp only [List.append_nil]

end Fields

variable {f : FoundationIndex} {i j : Imports}

theorem normalize_frameworks_pairwise : (i.normalize f).frameworks.Pairwise (· < ·) :=
  Text.ascending_pairwise i.frameworks

theorem normalize_locals_pairwise : (i.normalize f).locals.Pairwise (· < ·) :=
  (Text.ascending_pairwise i.locals).filter _

theorem normalize_classes_pairwise : (i.normalize f).classes.Pairwise (· < ·) :=
  (Text.ascending_pairwise i.classes).filter _

theorem normalize_protocols_pairwise : (i.normalize f).protocols.Pairwise (· < ·) :=
  (Text.ascending_pairwise i.protocols).filter _

theorem mem_normalize_frameworks {n : String} : n ∈ (i.normalize f).frameworks ↔ n ∈ i.frameworks :=
  Text.mem_ascending i.frameworks

theorem mem_normalize_locals {h : String} :
    h ∈ (i.normalize f).locals ↔ h ∈ i.locals ∧ ¬ f.contains (HeaderName.entity h) := by
  simp only [normalize, List.mem_filter, Text.mem_ascending, Bool.not_eq_true', Bool.not_eq_true]

theorem mem_normalize_classes {n : String} :
    n ∈ (i.normalize f).classes ↔
      n ∈ i.classes ∧ ¬ f.hasClass n ∧ HeaderName.ofClass n ∉ (i.normalize f).locals := by
  simp only [normalize, List.mem_filter, Text.mem_ascending, Bool.and_eq_true, Bool.not_eq_true',
    Bool.not_eq_true, List.contains_eq_mem, decide_eq_false_iff_not]

theorem mem_normalize_protocols {n : String} :
    n ∈ (i.normalize f).protocols ↔
      n ∈ i.protocols ∧ ¬ f.hasProtocol n ∧ HeaderName.ofProtocol n ∉ (i.normalize f).locals := by
  simp only [normalize, List.mem_filter, Text.mem_ascending, Bool.and_eq_true, Bool.not_eq_true',
    Bool.not_eq_true, List.contains_eq_mem, decide_eq_false_iff_not]

/-- The same entries in each field, in any order and any number. -/
structure SameEntries (i j : Imports) : Prop where
  frameworks : ∀ n, n ∈ i.frameworks ↔ n ∈ j.frameworks
  locals : ∀ h, h ∈ i.locals ↔ h ∈ j.locals
  classes : ∀ n, n ∈ i.classes ↔ n ∈ j.classes
  protocols : ∀ n, n ∈ i.protocols ↔ n ∈ j.protocols

/-- Each field is strictly ascending, and what is declared in advance has no header among the local ones. -/
structure IsTidy (i : Imports) : Prop where
  frameworks : i.frameworks.Pairwise (· < ·)
  locals : i.locals.Pairwise (· < ·)
  classes : i.classes.Pairwise (· < ·)
  protocols : i.protocols.Pairwise (· < ·)
  classes_apart : ∀ n ∈ i.classes, HeaderName.ofClass n ∉ i.locals
  protocols_apart : ∀ n ∈ i.protocols, HeaderName.ofProtocol n ∉ i.locals

theorem isTidy_normalize (f : FoundationIndex) (i : Imports) : (i.normalize f).IsTidy where
  frameworks := normalize_frameworks_pairwise
  locals := normalize_locals_pairwise
  classes := normalize_classes_pairwise
  protocols := normalize_protocols_pairwise
  classes_apart _ hn := (mem_normalize_classes.mp hn).2.2
  protocols_apart _ hn := (mem_normalize_protocols.mp hn).2.2

theorem IsTidy.eq_of_sameEntries (hi : i.IsTidy) (hj : j.IsTidy) (h : SameEntries i j) : i = j := by
  have hframeworks := Text.eq_of_mem_iff_of_pairwise hi.frameworks hj.frameworks h.frameworks
  have hlocals := Text.eq_of_mem_iff_of_pairwise hi.locals hj.locals h.locals
  have hclasses := Text.eq_of_mem_iff_of_pairwise hi.classes hj.classes h.classes
  have hprotocols := Text.eq_of_mem_iff_of_pairwise hi.protocols hj.protocols h.protocols
  cases i
  cases j
  simp only at hframeworks hlocals hclasses hprotocols
  rw [hframeworks, hlocals, hclasses, hprotocols]

theorem SameEntries.normalize_eq (h : SameEntries i j) (f : FoundationIndex) : i.normalize f = j.normalize f := by
  have hlocals : ∀ n, n ∈ (i.normalize f).locals ↔ n ∈ (j.normalize f).locals := by
    intro n
    rw [mem_normalize_locals, mem_normalize_locals, h.locals]
  refine (isTidy_normalize f i).eq_of_sameEntries (isTidy_normalize f j) ⟨?_, hlocals, ?_, ?_⟩
  · intro n
    rw [mem_normalize_frameworks, mem_normalize_frameworks, h.frameworks]
  · intro n
    rw [mem_normalize_classes, mem_normalize_classes, h.classes, hlocals]
  · intro n
    rw [mem_normalize_protocols, mem_normalize_protocols, h.protocols, hlocals]

theorem mem_locals_normalize_append {n : String} :
    n ∈ ((i.normalize f ++ j).normalize f).locals ↔ n ∈ ((i ++ j).normalize f).locals := by
  simp only [mem_normalize_locals, locals_append, List.mem_append]
  tauto

theorem normalize_locals_subset (f : FoundationIndex) (i j : Imports) :
    (i.normalize f).locals ⊆ ((i ++ j).normalize f).locals := by
  intro n hn
  obtain ⟨hi, hf⟩ := mem_normalize_locals.mp hn
  exact mem_normalize_locals.mpr ⟨List.mem_append_left j.locals hi, hf⟩

/-- What the first part loses by being normalized alone would be lost with the whole: a header that is local to the part
is local to the whole. -/
theorem normalize_append_normalize (f : FoundationIndex) (i j : Imports) :
    (i.normalize f ++ j).normalize f = (i ++ j).normalize f := by
  have hsubset := normalize_locals_subset f i j
  refine (isTidy_normalize f _).eq_of_sameEntries (isTidy_normalize f _)
    ⟨?_, fun _ => mem_locals_normalize_append, ?_, ?_⟩
  · intro n
    simp only [mem_normalize_frameworks, frameworks_append, List.mem_append]
  · intro n
    have hn := @hsubset (HeaderName.ofClass n)
    rw [mem_normalize_classes, mem_normalize_classes, mem_locals_normalize_append]
    simp only [classes_append, List.mem_append, mem_normalize_classes]
    tauto
  · intro n
    have hn := @hsubset (HeaderName.ofProtocol n)
    rw [mem_normalize_protocols, mem_normalize_protocols, mem_locals_normalize_append]
    simp only [protocols_append, List.mem_append, mem_normalize_protocols]
    tauto

/-- Normalization is a closure on imports: a part may be normalized before it is joined with others, so that normalizing
twice is normalizing once; only which entries there are counts, and the result is in order. -/
theorem normalize_closes (f : FoundationIndex) (i j : Imports) :
    (i ++ j).normalize f = (i.normalize f ++ j).normalize f ∧
    (i.normalize f).normalize f = i.normalize f ∧
    (SameEntries i j → i.normalize f = j.normalize f) ∧
    (i.normalize f).IsTidy := by
  refine ⟨(normalize_append_normalize f i j).symm, ?_, fun h => h.normalize_eq f, isTidy_normalize f i⟩
  calc (i.normalize f).normalize f
      = (i.normalize f ++ {}).normalize f := by rw [append_empty]
    _ = (i ++ {}).normalize f := normalize_append_normalize f i {}
    _ = i.normalize f := by rw [append_empty]

/-- Imports with a repeated header and a class that it declares. -/
def repeated : Imports where
  locals := ["Spin.h", "Gear.h", "Spin.h"]
  classes := ["Spin", "Drum"]

def shuffled : Imports where
  locals := ["Gear.h", "Spin.h"]
  classes := ["Drum", "Spin", "Drum"]

theorem normalize_shuffled : SameEntries repeated shuffled ∧ repeated.normalize {} = shuffled.normalize {} := by
  have hsame : SameEntries repeated shuffled := by
    constructor <;> intro n <;> simp only [repeated, shuffled, List.mem_cons] <;> tauto
  exact ⟨hsame, (normalize_closes {} repeated shuffled).2.2.1 hsame⟩

end ObjcAtlas.Imports
