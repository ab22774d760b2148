import Mathlib.Tactic.MkIffOfInductiveProp
import ObjcAtlas.Proofs.FailingSteps
import ObjcAtlas.Proofs.ModuleEntities

/-! Which metadata can be read: what a record must have, and of which kinds the values may be that are taken over as
they stand. -/
namespace ObjcAtlas

/-- An operation gives a result exactly where `P` holds. -/
def ReadsIff {ε α : Type} (P : Prop) (r : Except ε α) : Prop := (∃ v, r = .ok v) ↔ P

namespace ReadsIff
variable {ε ε' α β : Type} {P Q : Prop} {r : Except ε α} {k : α → Except ε β}

theorem ok (v : α) : ReadsIff True (.ok v : Except ε α) := iff_of_true ⟨v, rfl⟩ trivial

theorem error (e : ε) : ReadsIff False (.error e : Except ε α) := iff_of_false nofun id

theorem of_iff (h : P ↔ Q) (hr : ReadsIff P r) : ReadsIff Q r := Iff.trans hr h

theorem bind (hr : ReadsIff P r) (hk : ∀ v, r = .ok v → ReadsIff Q (k v)) : ReadsIff (P ∧ Q) (r >>= k) := by
  rw [ReadsIff, exists_bind_eq_ok_iff, ← show (∃ v, r = .ok v) ↔ P from hr, ← exists_and_right]
  exact exists_congr fun v => and_congr_right (hk v)

/-- A step need not be told of that the rest asks for anyway. -/
theorem bindOf (hr : ReadsIff P r) (hQ : Q → P) (hk : ∀ v, r = .ok v → ReadsIff Q (k v)) : ReadsIff Q (r >>= k) :=
  (hr.bind hk).of_iff (and_iff_right_of_imp hQ)

theorem bindPure (hr : ReadsIff P r) (f : α → β) : ReadsIff P (r >>= fun v => pure (f v)) :=
  exists_bind_pure_eq_ok_iff.trans hr

theorem map (hr : ReadsIff P r) (f : α → β) : ReadsIff P (r.map f) := by
  refine Iff.trans ?_ hr
  cases r with
  | error e => exact iff_of_false nofun nofun
  | ok v => exact iff_of_true ⟨f v, rfl⟩ ⟨v, rfl⟩

theorem mapError (hr : ReadsIff P r) (tell : ε → ε') : ReadsIff P (r.mapError tell) := by
  refine Iff.trans ?_ hr
  cases r with
  | error e => exact iff_of_false nofun nofun
  | ok v => exact iff_of_true ⟨v, rfl⟩ ⟨v, rfl⟩

theorem mapM {P : α → Prop} {read : α → Except ε β} (h : ∀ x, ReadsIff (P x) (read x)) (xs : List α) :
    ReadsIff (∀ x ∈ xs, P x) (xs.mapM read) :=
  exists_mapM_eq_ok_iff.trans (forall₂_congr fun x _ => h x)

end ReadsIff

namespace Document
variable {α : Type} {P Q : Document → Prop} {key : String} {d : Document}

/-- The record has the field, of a kind told by `P`. -/
def Has (P : Document → Prop) (key : String) (d : Document) : Prop := ∃ v, d.field key = .ok v ∧ P v

/-- The record lacks the field or has it of a kind told by `P`. -/
def MayHave (P : Document → Prop) (key : String) (d : Document) : Prop :=
  d.field? key = .ok none ∨ ∃ v, d.field? key = .ok (some v) ∧ P v

/-- The value runs through items told by `P`. -/
def HasItems (P : Document → Prop) (d : Document) : Prop := ∃ items, d.items = .ok items ∧ ∀ x ∈ items, P x

def IsText (d : Document) : Prop := ∃ s, d = .text s

/-- The value denotes an integer. -/
def IsInteger (d : Document) : Prop := ∃ n, d.integer = .ok n

/-- The kinds of value that records may have where a value is taken over as it stands. -/
structure Kinds where
  /-- For names. -/
  name : Document → Prop
  /-- For types, selectors and names of other classes. -/
  optional : Document → Prop

namespace Kinds

/-- Any value in any place. -/
def all : Kinds := ⟨fun _ => True, fun _ => True⟩

/-- Texts, or blank values where there need be none. -/
def texts : Kinds := ⟨IsText, fun v => v.isBlankValue ∨ v.IsText⟩

end Kinds

/-- Any values that a field runs through. -/
abbrev MayHaveItems (key : String) (d : Document) : Prop := d.MayHave (HasItems fun _ => True) key

abbrev MayHaveInteger (key : String) (d : Document) : Prop := d.MayHave (fun v => v = .null ∨ v.IsInteger) key

@[mk_iff]
structure IsIvar (k : Kinds) (d : Document) : Prop where
  name : d.Has k.name "name"
  type : d.MayHave k.optional "type"
  offset : d.MayHaveInteger "offset"

@[mk_iff]
structure IsProperty (k : Kinds) (d : Document) : Prop where
  name : d.Has k.name "name"
  type : d.MayHave k.optional "type"
  attributes : d.MayHaveItems "attributes"
  getter : d.MayHave k.optional "getter"
  setter : d.MayHave k.optional "setter"

@[mk_iff]
structure IsMethod (k : Kinds) (d : Document) : Prop where
  name : d.Has k.name "name"
  returnType : d.MayHave (fun _ => True) "return_type"
  argumentTypes : d.MayHaveItems "argument_types"

@[mk_iff]
structure IsClass (k : Kinds) (d : Document) : Prop where
  name : d.Has k.name "name"
  superclass : d.MayHave k.optional "superclass"
  protocols : d.MayHaveItems "protocols"
  ivars : d.MayHave (HasItems (IsIvar k)) "ivars"
  properties : d.MayHave (HasItems (IsProperty k)) "properties"
  instanceMethods : d.MayHave (HasItems (IsMethod k)) "instance_methods"
  classMethods : d.MayHave (HasItems (IsMethod k)) "class_methods"
  address : d.MayHaveInteger "address"

@[mk_iff]
structure IsProtocol (k : Kinds) (d : Document) : Prop where
  name : d.Has k.name "name"
  identity : d.Has IsInteger "identity"
  protocols : d.MayHaveItems "protocols"
  properties : d.MayHave (HasItems (IsProperty k)) "properties"
  instanceMethods : d.MayHave (HasItems (IsMethod k)) "instance_methods"
  classMethods : d.MayHave (HasItems (IsMethod k)) "class_methods"
  optionalInstanceMethods : d.MayHave (HasItems (IsMethod k)) "optional_instance_methods"
  optionalClassMethods : d.MayHave (HasItems (IsMethod k)) "optional_class_methods"

@[mk_iff]
structure IsCategory (k : Kinds) (d : Document) : Prop where
  name : d.Has k.name "name"
  className : d.MayHave k.optional "class"
  protocols : d.MayHaveItems "protocols"
  properties : d.MayHave (HasItems (IsProperty k)) "properties"
  instanceMethods : d.MayHave (HasItems (IsMethod k)) "instance_methods"
  classMethods : d.MayHave (HasItems (IsMethod k)) "class_methods"

/-! A record whose values are of some kinds has values. -/
section All
variable {k : Kinds}

theorem Has.mono (h : ∀ v, P v → Q v) : d.Has P key → d.Has Q key :=
  fun ⟨v, hv, hP⟩ => ⟨v, hv, h v hP⟩

theorem MayHave.mono (h : ∀ v, P v → Q v) : d.MayHave P key → d.MayHave Q key :=
  Or.imp_right fun ⟨v, hv, hP⟩ => ⟨v, hv, h v hP⟩

theorem HasItems.mono (h : ∀ v, P v → Q v) : d.HasItems P → d.HasItems Q :=
  fun ⟨items, hitems, hP⟩ => ⟨items, hitems, fun x hx => h x (hP x hx)⟩

theorem Has.all (h : d.Has P key) : d.Has Kinds.all.name key := h.mono fun _ _ => trivial

theorem MayHave.all (h : d.MayHave P key) : d.MayHave Kinds.all.optional key := h.mono fun _ _ => trivial

theorem MayHave.records (h : ∀ v, P v → Q v) : d.MayHave (HasItems P) key → d.MayHave (HasItems Q) key :=
  .mono fun _ => .mono h

theorem IsIvar.all (h : d.IsIvar k) : d.IsIvar .all := ⟨h.name.all, h.type.all, h.offset⟩

theorem IsProperty.all (h : d.IsProperty k) : d.IsProperty .all :=
  ⟨h.name.all, h.type.all, h.attributes, h.getter.all, h.setter.all⟩

theorem IsMethod.all (h : d.IsMethod k) : d.IsMethod .all := ⟨h.name.all, h.returnType, h.argumentTypes⟩

theorem IsClass.all (h : d.IsClass k) : d.IsClass .all where
  name := h.name.all
  superclass := h.superclass.all
  protocols := h.protocols
  ivars := h.ivars.records fun _ => IsIvar.all
  properties := h.properties.records fun _ => IsProperty.all
  instanceMethods := h.instanceMethods.records fun _ => IsMethod.all
  classMethods := h.classMethods.records fun _ => IsMethod.all
  address := h.address

theorem IsProtocol.all (h : d.IsProtocol k) : d.IsProtocol .all where
  name := h.name.all
  identity := h.identity
  protocols := h.protocols
  properties := h.properties.records fun _ => IsProperty.all
  instanceMethods := h.instanceMethods.records fun _ => IsMethod.all
  classMethods := h.classMethods.records fun _ => IsMethod.all
  optionalInstanceMethods := h.optionalInstanceMethods.records fun _ => IsMethod.all
  optionalClassMethods := h.optionalClassMethods.records fun _ => IsMethod.all

theorem IsCategory.all (h : d.IsCategory k) : d.IsCategory .all where
  name := h.name.all
  className := h.className.all
  protocols := h.protocols
  properties := h.properties.records fun _ => IsProperty.all
  instanceMethods := h.instanceMethods.records fun _ => IsMethod.all
  classMethods := h.classMethods.records fun _ => IsMethod.all

end All

section Fields
variable (key : String) (d : Document)

theorem readsIff_field_bind {k : Document → Except Fault α} (h : ∀ v, ReadsIff (P v) (k v)) :
    ReadsIff (d.Has P key) (d.field key >>= k) :=
  exists_bind_eq_ok_iff.trans (exists_congr fun v => and_congr_right fun _ => h v)

theorem readsIff_field?_bind {k : Option Document → Except Fault α} (hnone : ReadsIff True (k none))
    (hsome : ∀ v, ReadsIff (P v) (k (some v))) : ReadsIff (d.MayHave P key) (d.field? key >>= k) := by
  rw [ReadsIff, exists_bind_eq_ok_iff, Option.exists, MayHave, and_iff_left (hnone.mpr trivial)]
  exact or_congr_right (exists_congr fun v => and_congr_right fun _ => hsome v)

theorem readsIff_asText : ReadsIff d.IsText d.asText := by
  cases d
  case text s => exact iff_of_true ⟨s, rfl⟩ ⟨s, rfl⟩
  all_goals exact iff_of_false nofun nofun

theorem readsIff_asNonblankText : ReadsIff (Kinds.texts.optional d) d.asNonblankText := by
  rw [asNonblankText]
  split
  · next h => exact iff_of_true ⟨none, rfl⟩ (Or.inl h)
  · next h => exact ((readsIff_asText d).map some).of_iff (or_iff_right h).symm

theorem readsIff_asOptionalText : ReadsIff (Kinds.texts.optional d) d.asOptionalText := by
  rw [asOptionalText.eq_def]
  split
  · next s => exact iff_of_true ⟨some s, rfl⟩ (Or.inr ⟨s, rfl⟩)
  · next htext =>
    split
    · next h => exact iff_of_true ⟨none, rfl⟩ (Or.inl h)
    · next h => exact iff_of_false nofun (not_or.mpr ⟨h, fun ⟨s, hs⟩ => htext s hs⟩)

theorem readsIff_asEncoding : ReadsIff (Kinds.texts.optional d) d.asEncoding := by
  rw [asEncoding.eq_def]
  split
  · exact iff_of_true ⟨some "", rfl⟩ (Or.inl rfl)
  · exact iff_of_true ⟨some "", rfl⟩ (Or.inl rfl)
  · exact readsIff_asOptionalText _

theorem readsIff_nameField : ReadsIff (d.Has Kinds.texts.name "name") d.nameField :=
  readsIff_field_bind "name" d fun v => readsIff_asText v

theorem readsIff_fieldOr {read : Document → Except Fault α} (h : ∀ v, ReadsIff (P v) (read v)) (default : α) :
    ReadsIff (d.MayHave P key) (d.fieldOr read default key) :=
  readsIff_field?_bind key d (.ok _) h

theorem readsIff_optionalText (default : Option String) :
    ReadsIff (d.MayHave Kinds.texts.optional key) (d.fieldOr asOptionalText default key) :=
  readsIff_fieldOr key d readsIff_asOptionalText default

theorem readsIff_nonblankText (default : Option String) :
    ReadsIff (d.MayHave Kinds.texts.optional key) (d.fieldOr asNonblankText default key) :=
  readsIff_fieldOr key d readsIff_asNonblankText default

theorem readsIff_items_bind {read : Document → Except Fault α} (h : ∀ x, ReadsIff (P x) (read x)) :
    ReadsIff (d.HasItems P) (d.items >>= fun items => items.mapM read) :=
  exists_bind_eq_ok_iff.trans (exists_congr fun items => and_congr_right fun _ => ReadsIff.mapM h items)

theorem readsIff_items : ReadsIff (d.HasItems fun _ => True) d.items :=
  exists_congr fun _ => (and_iff_left fun _ _ => trivial).symm

theorem readsIff_fieldTexts : ReadsIff (d.MayHaveItems key) (d.fieldTexts key) :=
  ReadsIff.bindPure (readsIff_field?_bind key d (.ok []) readsIff_items) _

theorem readsIff_records {read : Document → Except Fault α} (h : ∀ x, ReadsIff (P x) (read x)) :
    ReadsIff (d.MayHave (HasItems P) key) (d.records read key) := by
  rw [records, fieldItems, bind_assoc]
  exact readsIff_field?_bind key d (.ok []) fun v => readsIff_items_bind v h

end Fields

section Integers
variable {v : Document}

theorem readsIff_field (key : String) (d : Document) : ReadsIff (d.Has (fun _ => True) key) (d.field key) := by
  rw [← bind_pure (d.field key)]
  exact readsIff_field_bind key d fun v => .ok v

theorem readsIff_field? (key : String) (d : Document) : ReadsIff (d.MayHave (fun _ => True) key) (d.field? key) := by
  rw [← bind_pure (d.field? key)]
  exact readsIff_field?_bind key d (.ok none) fun v => .ok (some v)

theorem has_iff (h : d.field key = .ok v) : d.Has P key ↔ P v := by
  simp [Has, h]

theorem mayHave_iff (h : d.field? key = .ok (some v)) : d.MayHave P key ↔ P v := by
  simp [MayHave, h]

theorem readsIff_integer_of_field (h : d.field key = .ok v) : ReadsIff (d.Has IsInteger key) v.integer :=
  (has_iff (P := IsInteger) h).symm

theorem readsIff_optionalInteger {v : Option Document} (h : d.field? key = .ok v) :
    ReadsIff (d.MayHaveInteger key) (optionalInteger v) := by
  rw [optionalInteger.eq_def]
  split
  · exact iff_of_true ⟨none, rfl⟩ (Or.inl h)
  · exact iff_of_true ⟨none, rfl⟩ ((mayHave_iff h).mpr (Or.inl rfl))
  · next w hnull =>
    have hw : ReadsIff w.IsInteger w.integer := Iff.rfl
    refine (hw.map some).of_iff ?_
    rw [MayHaveInteger, mayHave_iff h, or_iff_right hnull]

end Integers
end Document

open Document

/-! Each record is told by its fields in the order in which they are read. -/

theorem Ivar.readsIff_ofRecord (d : Document) : ReadsIff (d.IsIvar .texts) (Ivar.ofRecord d) := by
  refine (readsIff_field? "offset" d).bindOf (fun h => h.offset.all) fun _ hoffset => ?_
  rw [isIvar_iff]
  exact (readsIff_nameField d).bind fun _ _ => (readsIff_fieldOr "type" d readsIff_asEncoding _).bind fun _ _ =>
    (readsIff_optionalInteger hoffset).bindPure _

theorem Property.readsIff_ofRecord (d : Document) : ReadsIff (d.IsProperty .texts) (Property.ofRecord d) := by
  rw [isProperty_iff]
  exact (readsIff_nameField d).bind fun _ _ => (readsIff_optionalText "type" d _).bind fun _ _ =>
    (readsIff_fieldTexts "attributes" d).bind fun _ _ => (readsIff_optionalText "getter" d _).bind fun _ _ =>
    (readsIff_optionalText "setter" d _).bindPure _

theorem Method.readsIff_ofRecord (d : Document) : ReadsIff (d.IsMethod .texts) (Method.ofRecord d) := by
  rw [isMethod_iff]
  exact (readsIff_nameField d).bind fun _ _ => (readsIff_fieldOr "return_type" d (fun _ => .ok _) _).bind fun _ _ =>
    (readsIff_fieldTexts "argument_types" d).bindPure _

theorem Property.readsIff_records (key : String) (d : Document) :
    ReadsIff (d.MayHave (HasItems (IsProperty .texts)) key) (d.records Property.ofRecord key) :=
  Document.readsIff_records key d Property.readsIff_ofRecord

theorem Method.readsIff_records (key : String) (d : Document) :
    ReadsIff (d.MayHave (HasItems (IsMethod .texts)) key) (d.records Method.ofRecord key) :=
  Document.readsIff_records key d Method.readsIff_ofRecord

theorem ObjcClass.readsIff_ofRecord (d : Document) : ReadsIff (d.IsClass .texts) (ObjcClass.ofRecord d) := by
  refine (readsIff_field? "address" d).bindOf (fun h => h.address.all) fun _ haddress => ?_
  rw [isClass_iff]
  exact (readsIff_nameField d).bind fun _ _ => (readsIff_nonblankText "superclass" d _).bind fun _ _ =>
    (readsIff_fieldTexts "protocols" d).bind fun _ _ =>
    (Document.readsIff_records "ivars" d Ivar.readsIff_ofRecord).bind fun _ _ =>
    (Property.readsIff_records "properties" d).bind fun _ _ =>
    (Method.readsIff_records "instance_methods" d).bind fun _ _ =>
    (Method.readsIff_records "class_methods" d).bind fun _ _ => (readsIff_optionalInteger haddress).bindPure _

theorem ObjcProtocol.readsIff_ofRecord (d : Document) : ReadsIff (d.IsProtocol .texts) (ObjcProtocol.ofRecord d) := by
  rw [isProtocol_iff]
  refine (readsIff_nameField d).bind fun _ _ => ?_
  refine (readsIff_field "identity" d).bindOf (fun h => h.1.all) fun _ hidentity => ?_
  exact (readsIff_integer_of_field hidentity).bind fun _ _ => (readsIff_fieldTexts "protocols" d).bind fun _ _ =>
    (Property.readsIff_records "properties" d).bind fun _ _ =>
    (Method.readsIff_records "instance_methods" d).bind fun _ _ =>
    (Method.readsIff_records "class_methods" d).bind fun _ _ =>
    (Method.readsIff_records "optional_instance_methods" d).bind fun _ _ =>
    (Method.readsIff_records "optional_class_methods" d).bindPure _

theorem Category.readsIff_ofRecord (d : Document) : ReadsIff (d.IsCategory .texts) (Category.ofRecord d) := by
  rw [isCategory_iff]
  exact (readsIff_nameField d).bind fun _ _ => (readsIff_nonblankText "class" d _).bind fun _ _ =>
    (readsIff_fieldTexts "protocols" d).bind fun _ _ => (Property.readsIff_records "properties" d).bind fun _ _ =>
    (Method.readsIff_records "instance_methods" d).bind fun _ _ =>
    (Method.readsIff_records "class_methods" d).bindPure _

namespace Binary
variable {b : Binary} {k : Kinds}

/-- The binary lacks the section, or it runs through records told by `P`. -/
def SectionFits (P : Document → Prop) (key : String) (b : Binary) : Prop :=
  ∀ v, b.sections?.bind (·.lookup key) = some v → v.HasItems P

/-- Nothing is missing in the metadata of a binary, and where values are taken over they are of the kinds `k`. -/
@[mk_iff]
structure Fits (k : Kinds) (b : Binary) : Prop where
  installName : b.document.MayHave Kinds.texts.optional "dylib_id"
  buildVersions : b.document.MayHaveItems "build_versions"
  classes : b.SectionFits (IsClass k) "classes"
  protocols : b.SectionFits (IsProtocol k) "protocols"
  categories : b.SectionFits (IsCategory k) "categories"

theorem SectionFits.mono {P Q : Document → Prop} {key : String} (h : ∀ v, P v → Q v) (hb : b.SectionFits P key) :
    b.SectionFits Q key :=
  fun v hv => (hb v hv).mono h

theorem Fits.all (h : b.Fits k) : b.Fits .all where
  installName := h.installName
  buildVersions := h.buildVersions
  classes := h.classes.mono fun _ => IsClass.all
  protocols := h.protocols.mono fun _ => IsProtocol.all
  categories := h.categories.mono fun _ => IsCategory.all

end Binary

end ObjcAtlas
