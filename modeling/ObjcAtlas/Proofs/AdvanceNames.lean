import ObjcAtlas.Header
import ObjcAtlas.Proofs.ListedProtocols

/-! The names that types bring into a declaration in advance. A protocol in a list is kept only if it is an identifier,
but whatever stands in the place of a class is taken for its name, so the declaration of a class need not be a list of
names. -/
namespace ObjcAtlas

namespace TypeReference

def name : TypeReference → String
  | .toClass n => n
  | .toProtocol n => n

end TypeReference

/-- The types of a class that are walked, each in the style in which it is written. -/
inductive ObjcClass.Walks (c : ObjcClass) : TypeEncoding.Style → String → Prop
  | ivar {v : Ivar} {type : String} (hv : v ∈ c.ivars) (ht : v.type = some type) : c.Walks .runtime type
  | property {p : Property} {type : String} (hp : p ∈ c.properties) (ht : p.type = some type) :
      c.Walks .declaration type
  | argument {m : Method} {i : Nat} {type : String} (hm : m ∈ c.instanceMethods ∨ m ∈ c.classMethods) (hi : i ≠ 1)
      (ht : m.argumentTypes[i]? = some type) : c.Walks .declaration type

/-- A class refers to the protocols that it adopts and to what its types name. -/
theorem Entity.Refers.adopts_or_walks {c : ObjcClass} {r : TypeReference} (h : Entity.Refers (.ofClass c) r) :
    (∃ n ∈ c.protocols, r = .toProtocol n) ∨
      ∃ style type, c.Walks style type ∧ r ∈ TypeEncoding.references style type := by
  cases h with
  | classAdopts hn => exact Or.inl ⟨_, hn, rfl⟩
  | ivar hv ht hr => exact Or.inr ⟨_, _, .ivar hv ht, hr⟩
  | property hp ht hr => exact Or.inr ⟨_, _, .property hp ht, hr⟩
  | argument hm hi ht hr => exact Or.inr ⟨_, _, .argument hm hi ht, hr⟩

namespace Header

/-- Identifiers with a comma and a blank between any two. -/
inductive NameList : String → Prop
  | last {n : String} (hn : Text.isIdentifier n.toList = true) : NameList n
  | more {n rest : String} (hn : Text.isIdentifier n.toList = true) (h : NameList rest) : NameList (n ++ ", " ++ rest)

/-- The keywords of a declaration in advance. -/
def advanceKeywords : List String := ["@class", "@protocol"]

theorem class_mem_keywords : "@class" ∈ advanceKeywords := by decide

/-- A well-formed declaration in advance. -/
def IsAdvance (line : String) : Prop :=
  ∃ keyword ∈ advanceKeywords, ∃ names, NameList names ∧ line = keyword ++ " " ++ names ++ ";"

section Names
variable {keyword n rest : String} {names : List String}

theorem not_mem_comma (hn : Text.isIdentifier n.toList = true) : ',' ∉ n.toList :=
  Text.not_mem_of_isIdentifier hn (by decide) (by decide)

theorem nameList_of_not_mem (hn : ',' ∉ n.toList) : NameList n ↔ Text.isIdentifier n.toList = true := by
  constructor
  · intro h
    cases h with
    | last h => exact h
    | more => exact absurd hn (by simp)
  · exact .last

theorem nameList_append_iff (hn : ',' ∉ n.toList) :
    NameList (n ++ ", " ++ rest) ↔ Text.isIdentifier n.toList = true ∧ NameList rest := by
  have htext : ∀ a b : String, (a ++ ", " ++ b).toList = a.toList ++ ',' :: ' ' :: b.toList := by simp
  constructor
  · intro h
    generalize hlist : n ++ ", " ++ rest = list at h
    cases h with
    | last h =>
      have hcomma := not_mem_comma h
      rw [← hlist, htext] at hcomma
      exact absurd hcomma (by simp)
    | @more m tail hm h =>
      -- the first comma cuts both texts in the same place
      rw [← String.toList_inj, htext, htext] at hlist
      obtain ⟨he, hrest⟩ := Text.append_separator_inj hn (not_mem_comma hm) hlist
      obtain rfl : n = m := String.toList_inj.mp he
      obtain rfl : rest = tail := String.toList_inj.mp (List.cons.inj hrest).2
      exact ⟨hm, h⟩
  · rintro ⟨hn, h⟩
    exact .more hn h

theorem nameList_joinWith_iff (hne : names ≠ []) (hcomma : ∀ n ∈ names, ',' ∉ n.toList) :
    NameList (Text.joinWith ", " names) ↔ ∀ n ∈ names, Text.isIdentifier n.toList = true := by
  fun_induction Text.joinWith ", " names with
  | case1 => exact absurd rfl hne
  | case2 n => simpa using nameList_of_not_mem (hcomma n List.mem_cons_self)
  | case3 n rest hrest ih =>
    obtain ⟨hn, hcomma⟩ := List.forall_mem_cons.mp hcomma
    rw [nameList_append_iff hn, ih hrest hcomma, List.forall_mem_cons]

/-- The keyword is followed by the first blank of the line. -/
theorem isAdvance_iff (hk : keyword ∈ advanceKeywords) :
    IsAdvance (keyword ++ " " ++ rest ++ ";") ↔ NameList rest := by
  have hblank : ∀ k ∈ advanceKeywords, ' ' ∉ k.toList := by
    rw [← List.forall_iff_forall_mem]
    decide
  have htext : ∀ a b : String, (a ++ " " ++ b ++ ";").toList = a.toList ++ ' ' :: (b.toList ++ [';']) := by simp
  constructor
  · rintro ⟨k, hk', list, h, he⟩
    rw [← String.toList_inj, htext, htext] at he
    obtain ⟨-, he⟩ := Text.append_separator_inj (hblank keyword hk) (hblank k hk') he
    obtain rfl : rest = list := String.toList_inj.mp (List.append_cancel_right he)
    exact h
  · intro h
    exact ⟨keyword, hk, rest, h, rfl⟩

theorem forall_advance_iff (hk : keyword ∈ advanceKeywords) (hcomma : ∀ n ∈ names, ',' ∉ n.toList) :
    (∀ line ∈ advance keyword names, IsAdvance line) ↔ ∀ n ∈ names, Text.isIdentifier n.toList = true := by
  cases names with
  | nil => simp [advance]
  | cons n names =>
    rw [advance, List.forall_mem_singleton, isAdvance_iff hk]
    · exact nameList_joinWith_iff (List.cons_ne_nil n names) hcomma
    · exact List.cons_ne_nil n names

/-- Names without a comma are declared well exactly if they are identifiers. -/
theorem forall_advanceLines_iff {h : Header} (hcomma : ∀ n ∈ h.imports.classes ++ h.imports.protocols, ',' ∉ n.toList) :
    (∀ line ∈ h.advanceLines, IsAdvance line) ↔
      ∀ n ∈ h.imports.classes ++ h.imports.protocols, Text.isIdentifier n.toList = true := by
  obtain ⟨hclasses, hprotocols⟩ := List.forall_mem_append.mp hcomma
  have hprotocol : "@protocol" ∈ advanceKeywords := by decide
  rw [advanceLines, List.forall_mem_append, List.forall_mem_append, forall_advance_iff class_mem_keywords hclasses,
    forall_advance_iff hprotocol hprotocols]

end Names
end Header

namespace TypeEncoding
variable {style : Style} {type : String}

/-- Whether what stands in the place of a class, if the type has such a place and no bracket, is an identifier. -/
def NamesWell (style : Style) (type : String) : Prop :=
  ¬ ('<' ∈ type.toList ∨ '>' ∈ type.toList) →
    ∀ n, PointsAt style type.toList n → Text.isIdentifier n = true

theorem isIdentifier_of_toProtocol_mem {n : String} (h : .toProtocol n ∈ references style type) :
    Text.isIdentifier n.toList = true := by
  obtain ⟨inside, -, hn, -⟩ := toProtocol_mem_references_iff.mp h
  exact hn

theorem forall_references_isIdentifier_iff :
    (∀ r ∈ references style type, Text.isIdentifier r.name.toList = true) ↔ NamesWell style type := by
  constructor
  · intro h hbracket n hn
    have hmem : .toClass (String.ofList n) ∈ references style type :=
      toClass_mem_references_iff.mpr ⟨hbracket, by rwa [String.toList_ofList]⟩
    simpa [TypeReference.name] using h _ hmem
  · intro h r hr
    cases r with
    | toClass n =>
      obtain ⟨hbracket, hn⟩ := toClass_mem_references_iff.mp hr
      exact h hbracket n.toList hn
    | toProtocol n => exact isIdentifier_of_toProtocol_mem hr

/-- The names of a class's imports, if it adopts identifiers and its types name nothing else. -/
theorem isIdentifier_of_mem_imports {s : Scope} {c : ObjcClass}
    (hadopts : ∀ n ∈ c.protocols, Text.isIdentifier n.toList = true)
    (hwalks : ∀ style type, c.Walks style type → NamesWell style type) :
    ∀ n ∈ (s.ofClass c).classes ++ (s.ofClass c).protocols, Text.isIdentifier n.toList = true := by
  have hrefers : ∀ r, Entity.Refers (.ofClass c) r → Text.isIdentifier r.name.toList = true := by
    intro r hr
    rcases hr.adopts_or_walks with ⟨n, hn, rfl⟩ | ⟨style, type, htype, hr⟩
    · exact hadopts n hn
    · exact forall_references_isIdentifier_iff.mpr (hwalks style type htype) r hr
  have hresolves := s.resolves_ofEntity (.ofClass c)
  intro n hn
  rcases List.mem_append.mp hn with hn | hn
  · exact hrefers (.toClass n) ((hresolves.mem_classes n).mp hn).1
  · exact hrefers (.toProtocol n) ((hresolves.mem_protocols n).mp hn).1

/-- What types name is an identifier wherever it is a protocol, and without exception exactly if a class named by the
type is one. A header for a class with such types and such protocols has well-formed declarations in advance only. -/
theorem references_identifiers {s : Scope} {c : ObjcClass} {h : Header} (hi : h.imports = s.ofClass c) :
    (∀ (style : Style) (type n : String), .toProtocol n ∈ references style type →
      Text.isIdentifier n.toList = true) ∧
    (∀ (style : Style) (type : String), (∀ r ∈ references style type, Text.isIdentifier r.name.toList = true) ↔
      NamesWell style type) ∧
    ((∀ n ∈ c.protocols, Text.isIdentifier n.toList = true) →
      (∀ style type, c.Walks style type → NamesWell style type) → ∀ line ∈ h.advanceLines, Header.IsAdvance line) := by
  refine ⟨fun _ _ _ => isIdentifier_of_toProtocol_mem, fun _ _ => forall_references_isIdentifier_iff, ?_⟩
  intro hadopts hwalks
  have hnames := isIdentifier_of_mem_imports (s := s) hadopts hwalks
  rw [← hi] at hnames
  exact (Header.forall_advanceLines_iff fun n hn => Header.not_mem_comma (hnames n hn)).mpr hnames

def headerOf (c : ObjcClass) : Header where
  path := Path.ofString "A.h"
  toolVersion := "1"
  buildVersions := []
  sourceVersion := "1"
  name := c.name
  body := ""
  imports := hangar.ofClass c

/-- A class with a name in every place where one is read. -/
def spun : ObjcClass where
  name := "A"
  protocols := ["Oiled"]
  ivars := [{ name := "_spin", type := some "@\"Spin\"" }]
  properties := [{ name := "wheel", type := some "Wheel *" }]
  instanceMethods := [{ name := "turn:", argumentTypes := ["id", "SEL", "id<Spinning>"] }]

theorem spun_advanceLines : (headerOf spun).advanceLines = ["@class Spin, Wheel;", "@protocol Oiled, Spinning;"] := by
  have hi : hangar.ofClass spun =
      Imports.normalize {} { classes := ["Spin", "Wheel"], protocols := ["Oiled", "Spinning"] } := rfl
  have hclasses : Text.ascending ["Spin", "Wheel"] = ["Spin", "Wheel"] := Text.ascending_eq_self (by decide)
  have hprotocols : Text.ascending ["Oiled", "Spinning"] = ["Oiled", "Spinning"] := Text.ascending_eq_self (by decide)
  simp only [Header.advanceLines, headerOf, hi, Imports.normalize, hclasses, hprotocols, Text.ascending_eq_self .nil]
  rfl

theorem spun_walksWell {style : Style} {type : String} (h : spun.Walks style type) : NamesWell style type := by
  rw [← forall_references_isIdentifier_iff]
  cases h with
  | ivar hv ht =>
    obtain rfl := List.mem_singleton.mp hv
    obtain rfl := Option.some.inj ht
    decide
  | property hp ht =>
    obtain rfl := List.mem_singleton.mp hp
    obtain rfl := Option.some.inj ht
    decide
  | @argument m i _ hm hi ht =>
    obtain rfl := List.mem_singleton.mp (hm.resolve_right List.not_mem_nil)
    have hall : ∀ type ∈ ["id", "SEL", "id<Spinning>"], ∀ r ∈ references .declaration type,
        Text.isIdentifier r.name.toList = true := by
      rw [← List.forall_iff_forall_mem]
      decide
    exact hall type (List.mem_of_getElem? ht)

theorem spun_names :
    (headerOf spun).imports = hangar.ofClass spun ∧ (∀ n ∈ spun.protocols, Text.isIdentifier n.toList = true) ∧
    (∀ style type, spun.Walks style type → NamesWell style type) ∧
    (headerOf spun).advanceLines = ["@class Spin, Wheel;", "@protocol Oiled, Spinning;"] ∧
    ∀ line ∈ (headerOf spun).advanceLines, Header.IsAdvance line := by
  have hadopts : ∀ n ∈ spun.protocols, Text.isIdentifier n.toList = true := List.forall_mem_singleton.mpr (by decide)
  have hwalks : ∀ style type, spun.Walks style type → NamesWell style type := fun _ _ => spun_walksWell
  have hi : (headerOf spun).imports = hangar.ofClass spun := rfl
  obtain ⟨-, -, hlines⟩ := references_identifiers hi
  exact ⟨hi, hadopts, hwalks, spun_advanceLines, hlines hadopts hwalks⟩

/-- A pointer whose class has a qualifier after it. -/
def constantType : String := "NSString const *"

def labelled : ObjcClass where
  name := "A"
  properties := [{ name := "label", type := some constantType }]

theorem labelled_advanceLines : (headerOf labelled).advanceLines = ["@class NSString const;"] := by
  have hi : hangar.ofClass labelled = Imports.normalize {} { classes := ["NSString const"] } := rfl
  have hclasses := Text.ascending_eq_self (List.pairwise_singleton _ "NSString const")
  simp only [Header.advanceLines, headerOf, hi, Imports.normalize, hclasses, Text.ascending_eq_self .nil]
  rfl

/-- The word after the class is taken for a part of its name, and the declaration in advance has both. -/
theorem not_all_names_identifiers :
    (¬ ∀ (style : Style) (type : String), ∀ r ∈ references style type, Text.isIdentifier r.name.toList = true) ∧
    ¬ ∀ (s : Scope) (c : ObjcClass) (h : Header), h.imports = s.ofClass c →
      (∀ n ∈ c.protocols, Text.isIdentifier n.toList = true) → ∀ line ∈ h.advanceLines, Header.IsAdvance line := by
  constructor
  · intro h
    have hread : references .declaration constantType = [.toClass "NSString const"] := by decide
    exact absurd (h .declaration constantType _ (hread ▸ List.mem_singleton.mpr rfl)) (by decide)
  · intro h
    have hline := h hangar labelled (headerOf labelled) rfl nofun "@class NSString const;"
      (labelled_advanceLines ▸ List.mem_singleton.mpr rfl)
    have hlist : Header.NameList "NSString const" := (Header.isAdvance_iff Header.class_mem_keywords).mp hline
    exact absurd ((Header.nameList_of_not_mem (by decide)).mp hlist) (by decide)

end TypeEncoding
end ObjcAtlas
