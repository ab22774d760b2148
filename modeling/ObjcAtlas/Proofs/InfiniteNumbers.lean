import ObjcAtlas.SharedCache

/-! Where an infinite number is the fault found in a record. Only an integer cannot be read from it, so that the
fault tells the fields that hold one in the place of an integer; and a record with such a field is never read. -/
namespace ObjcAtlas
open Document (Fault)

namespace Document
variable {α β : Type}

/-- Reading finds an infinite number at fault only where `P` holds, and does not succeed where it holds. -/
structure OverflowsAt (P : Prop) (r : Except Fault α) : Prop where
  of_error : r = .error .infiniteNumeral → P
  not_of_ok : ∀ {v : α}, r = .ok v → ¬ P

namespace OverflowsAt
variable {P Q : Prop} {r : Except Fault α} {k : α → Except Fault β}

theorem ok (v : α) : OverflowsAt False (.ok v : Except Fault α) := ⟨nofun, fun _ h => h⟩

theorem error {fault : Fault} (h : fault ≠ .infiniteNumeral) : OverflowsAt P (.error fault : Except Fault α) :=
  ⟨fun he => absurd (Except.error.inj he) h, nofun⟩

theorem of_iff (h : P ↔ Q) (hr : OverflowsAt P r) : OverflowsAt Q r :=
  ⟨fun he => h.mp (hr.of_error he), fun ho hq => hr.not_of_ok ho (h.mpr hq)⟩

theorem bind (hr : OverflowsAt P r) (hk : ∀ v, r = .ok v → OverflowsAt Q (k v)) : OverflowsAt (P ∨ Q) (r >>= k) := by
  cases r with
  | error fault =>
    exact ⟨fun he => Or.inl (hr.of_error (congrArg Except.error (Except.error.inj he))), nofun⟩
  | ok v =>
    have hv := hk v rfl
    exact ⟨fun he => Or.inr (hv.of_error he), fun ho h => h.elim (hr.not_of_ok rfl) (hv.not_of_ok ho)⟩

/-- A step that never meets an infinite number can be left out. -/
theorem skip (hr : OverflowsAt False r) (hk : ∀ v, r = .ok v → OverflowsAt P (k v)) : OverflowsAt P (r >>= k) :=
  (hr.bind hk).of_iff (iff_of_eq (false_or P))

/-- What comes after can be left out if it never meets an infinite number. -/
theorem skipRest (hr : OverflowsAt P r) (hk : ∀ v, r = .ok v → OverflowsAt False (k v)) : OverflowsAt P (r >>= k) :=
  (hr.bind hk).of_iff (iff_of_eq (or_false P))

theorem map (hr : OverflowsAt P r) (f : α → β) : OverflowsAt P (r.map f) := by
  cases r with
  | error fault => exact ⟨fun he => hr.of_error (congrArg Except.error (Except.error.inj he)), nofun⟩
  | ok v => exact ⟨nofun, fun _ => hr.not_of_ok rfl⟩

theorem mapM {P : α → Prop} {read : α → Except Fault β} (h : ∀ x, OverflowsAt (P x) (read x)) (xs : List α) :
    OverflowsAt (∃ x ∈ xs, P x) (xs.mapM read) := by
  induction xs with
  | nil => exact ⟨nofun, fun _ ⟨_, hx, _⟩ => nomatch hx⟩
  | cons x xs ih =>
    rw [List.mapM_cons]
    simp only [List.mem_cons, exists_eq_or_imp]
    exact (h x).bind fun _ _ => ih.skipRest fun _ _ => ok _

theorem mapM_never {read : α → Except Fault β} (h : ∀ x, OverflowsAt False (read x)) (xs : List α) :
    OverflowsAt False (xs.mapM read) :=
  (mapM h xs).of_iff (by simp)

end OverflowsAt

/-- The value is an infinite number. -/
def IsInfinite (d : Document) : Prop := ∃ negative, d = .real (.infinite negative)

/-- The field holds an infinite number. -/
def InfiniteAt (key : String) (d : Document) : Prop := ∃ v, d.field? key = .ok (some v) ∧ v.IsInfinite

/-- Some item of the field is of the kind told by `P`. -/
def AnyItem (P : Document → Prop) (key : String) (d : Document) : Prop :=
  ∃ items, d.fieldItems key = .ok items ∧ ∃ x ∈ items, P x

theorem field?_of_field {key : String} {d v : Document} (h : d.field key = .ok v) : d.field? key = .ok (some v) := by
  cases d
  case object fields =>
    rw [field] at h
    split at h
    · next hv =>
      cases h
      rw [field?, hv]
    · cases h
  all_goals cases h

section Fields
variable (key : String) (d : Document)

theorem overflowsAt_field : OverflowsAt False (d.field key) := by
  cases d
  case object fields =>
    rw [field]
    split
    · exact .ok _
    · exact .error nofun
  all_goals exact .error nofun

theorem overflowsAt_field? : OverflowsAt False (d.field? key) := by
  cases d
  case object fields => exact .ok _
  all_goals exact .error nofun

theorem overflowsAt_items : OverflowsAt False d.items := by
  cases d
  case list | text | object => exact .ok _
  all_goals exact .error nofun

/-- What is done with a field that may be absent. -/
theorem overflowsAt_field?_bind {k : Option Document → Except Fault α} {P : Prop}
    (hnone : d.field? key = .ok none → OverflowsAt P (k none))
    (hsome : ∀ v, d.field? key = .ok (some v) → OverflowsAt P (k (some v))) : OverflowsAt P (d.field? key >>= k) :=
  (overflowsAt_field? key d).skip fun v hv => match v with
    | none => hnone hv
    | some v => hsome v hv

theorem overflowsAt_fieldItems : OverflowsAt False (d.fieldItems key) :=
  overflowsAt_field?_bind key d (fun _ => .ok _) fun v _ => overflowsAt_items v

theorem overflowsAt_fieldTexts : OverflowsAt False (d.fieldTexts key) :=
  (overflowsAt_fieldItems key d).skip fun _ _ => .ok _

theorem overflowsAt_asText : OverflowsAt False d.asText := by
  cases d
  case text => exact .ok _
  all_goals exact .error nofun

theorem overflowsAt_asOptionalText : OverflowsAt False d.asOptionalText := by
  rw [asOptionalText.eq_def]
  split
  · exact .ok _
  · split
    · exact .ok _
    · exact .error nofun

theorem overflowsAt_asNonblankText : OverflowsAt False d.asNonblankText := by
  unfold asNonblankText
  split
  · exact .ok _
  · exact (overflowsAt_asText d).map some

theorem overflowsAt_asEncoding : OverflowsAt False d.asEncoding := by
  rw [asEncoding.eq_def]
  split
  · exact .ok _
  · exact .ok _
  · exact overflowsAt_asOptionalText _

theorem overflowsAt_nameField : OverflowsAt False d.nameField :=
  (overflowsAt_field "name" d).skip fun v _ => overflowsAt_asText v

theorem overflowsAt_fieldOr {read : Document → Except Fault α} (h : ∀ v, OverflowsAt False (read v)) (default : α) :
    OverflowsAt False (d.fieldOr read default key) :=
  overflowsAt_field?_bind key d (fun _ => .ok _) fun v _ => h v

theorem overflowsAt_optionalText (default : Option String) :
    OverflowsAt False (d.fieldOr asOptionalText default key) :=
  overflowsAt_fieldOr key d overflowsAt_asOptionalText default

theorem overflowsAt_nonblankText (default : Option String) :
    OverflowsAt False (d.fieldOr asNonblankText default key) :=
  overflowsAt_fieldOr key d overflowsAt_asNonblankText default

theorem overflowsAt_integer : OverflowsAt d.IsInfinite d.integer := by
  rw [integer.eq_def]
  split
  · split
    · exact ⟨nofun, nofun⟩
    · exact .error nofun
  · exact ⟨nofun, nofun⟩
  · exact ⟨nofun, nofun⟩
  · exact .error nofun
  · next negative => exact ⟨fun _ => ⟨negative, rfl⟩, nofun⟩
  · exact ⟨nofun, nofun⟩
  · exact .error nofun

end Fields

section Integers
variable {key : String} {d : Document}

theorem infiniteAt_iff {v : Document} (h : d.field? key = .ok (some v)) : d.InfiniteAt key ↔ v.IsInfinite := by
  simp [InfiniteAt, h]

theorem not_infiniteAt (h : d.field? key = .ok none) : ¬ d.InfiniteAt key := by
  simp [InfiniteAt, h]

theorem overflowsAt_integer_of_field? {v : Document} (h : d.field? key = .ok (some v)) :
    OverflowsAt (d.InfiniteAt key) v.integer :=
  (overflowsAt_integer v).of_iff (infiniteAt_iff h).symm

theorem overflowsAt_ok_of_field? (h : d.field? key = .ok none) (a : α) :
    OverflowsAt (d.InfiniteAt key) (.ok a : Except Fault α) :=
  (OverflowsAt.ok a).of_iff (iff_of_false id (not_infiniteAt h))

theorem overflowsAt_optionalInteger {v : Option Document} (h : d.field? key = .ok v) :
    OverflowsAt (d.InfiniteAt key) (optionalInteger v) := by
  rw [optionalInteger.eq_def]
  split
  · exact overflowsAt_ok_of_field? h _
  · exact ⟨nofun, fun _ hi => nomatch (infiniteAt_iff h).mp hi⟩
  · exact (overflowsAt_integer_of_field? h).map some

theorem overflowsAt_addressField (key : String) (d : Document) :
    OverflowsAt (d.InfiniteAt key) (d.addressField key) :=
  overflowsAt_field?_bind key d (fun h => overflowsAt_ok_of_field? h _) fun _ h => overflowsAt_integer_of_field? h

end Integers

section Records
variable {read : Document → Except Fault α} (key : String) (d : Document)

theorem overflowsAt_records {P : Document → Prop} (h : ∀ x, OverflowsAt (P x) (read x)) :
    OverflowsAt (d.AnyItem P key) (d.records read key) :=
  (overflowsAt_fieldItems key d).skip fun items hitems =>
    (OverflowsAt.mapM h items).of_iff (by simp [AnyItem, hitems])

theorem overflowsAt_records_never (h : ∀ x, OverflowsAt False (read x)) : OverflowsAt False (d.records read key) :=
  (overflowsAt_records key d h).of_iff (by simp [AnyItem])

end Records
end Document

open Document

theorem Ivar.overflowsAt_ofRecord (d : Document) : OverflowsAt (d.InfiniteAt "offset") (Ivar.ofRecord d) :=
  (overflowsAt_field? "offset" d).skip fun _ hoffset =>
  (overflowsAt_nameField d).skip fun _ _ =>
  (overflowsAt_fieldOr "type" d overflowsAt_asEncoding (some "")).skip fun _ _ =>
  (overflowsAt_optionalInteger hoffset).skipRest fun _ _ => .ok _

theorem Property.overflowsAt_ofRecord (d : Document) : OverflowsAt False (Property.ofRecord d) :=
  (overflowsAt_nameField d).skip fun _ _ =>
  (overflowsAt_optionalText "type" d (some "")).skip fun _ _ =>
  (overflowsAt_fieldTexts "attributes" d).skip fun _ _ =>
  (overflowsAt_optionalText "getter" d none).skip fun _ _ =>
  (overflowsAt_optionalText "setter" d none).skip fun _ _ => .ok _

theorem Method.overflowsAt_ofRecord (d : Document) : OverflowsAt False (Method.ofRecord d) :=
  (overflowsAt_nameField d).skip fun _ _ =>
  (overflowsAt_fieldOr "return_type" d (fun _ => .ok _) (some "void")).skip fun _ _ =>
  (overflowsAt_fieldTexts "argument_types" d).skip fun _ _ => .ok _

/-- A class with an infinite number as its address or as the offset of an instance variable. -/
def ObjcClass.HasInfinite (d : Document) : Prop :=
  d.AnyItem (InfiniteAt "offset") "ivars" ∨ d.InfiniteAt "address"

theorem ObjcClass.overflowsAt_ofRecord (d : Document) : OverflowsAt (HasInfinite d) (ObjcClass.ofRecord d) :=
  -- the address is looked up before all other fields and read after them
  (overflowsAt_field? "address" d).skip fun _ haddress =>
  (overflowsAt_nameField d).skip fun _ _ =>
  (overflowsAt_nonblankText "superclass" d none).skip fun _ _ =>
  (overflowsAt_fieldTexts "protocols" d).skip fun _ _ =>
  (overflowsAt_records "ivars" d Ivar.overflowsAt_ofRecord).bind fun _ _ =>
  (overflowsAt_records_never "properties" d Property.overflowsAt_ofRecord).skip fun _ _ =>
  (overflowsAt_records_never "instance_methods" d Method.overflowsAt_ofRecord).skip fun _ _ =>
  (overflowsAt_records_never "class_methods" d Method.overflowsAt_ofRecord).skip fun _ _ =>
  (overflowsAt_optionalInteger haddress).skipRest fun _ _ => .ok _

theorem ObjcProtocol.overflowsAt_ofRecord (d : Document) :
    OverflowsAt (d.InfiniteAt "identity") (ObjcProtocol.ofRecord d) :=
  (overflowsAt_nameField d).skip fun _ _ =>
  (overflowsAt_field "identity" d).skip fun _ hidentity =>
  (overflowsAt_integer_of_field? (field?_of_field hidentity)).skipRest fun _ _ =>
  (overflowsAt_fieldTexts "protocols" d).skip fun _ _ =>
  (overflowsAt_records_never "properties" d Property.overflowsAt_ofRecord).skip fun _ _ =>
  (overflowsAt_records_never "instance_methods" d Method.overflowsAt_ofRecord).skip fun _ _ =>
  (overflowsAt_records_never "class_methods" d Method.overflowsAt_ofRecord).skip fun _ _ =>
  (overflowsAt_records_never "optional_instance_methods" d Method.overflowsAt_ofRecord).skip fun _ _ =>
  (overflowsAt_records_never "optional_class_methods" d Method.overflowsAt_ofRecord).skip fun _ _ => .ok _

theorem Category.overflowsAt_ofRecord (d : Document) : OverflowsAt False (Category.ofRecord d) :=
  (overflowsAt_nameField d).skip fun _ _ =>
  (overflowsAt_nonblankText "class" d none).skip fun _ _ =>
  (overflowsAt_fieldTexts "protocols" d).skip fun _ _ =>
  (overflowsAt_records_never "properties" d Property.overflowsAt_ofRecord).skip fun _ _ =>
  (overflowsAt_records_never "instance_methods" d Method.overflowsAt_ofRecord).skip fun _ _ =>
  (overflowsAt_records_never "class_methods" d Method.overflowsAt_ofRecord).skip fun _ _ => .ok _

/-- A function one of whose ends is an infinite number. -/
def FunctionRange.HasInfinite (d : Document) : Prop := d.InfiniteAt "start" ∨ d.InfiniteAt "end"

theorem FunctionRange.overflowsAt_ofRecord (d : Document) :
    OverflowsAt (HasInfinite d) (FunctionRange.ofRecord d) :=
  (overflowsAt_field "start" d).skip fun _ hstart =>
  (overflowsAt_integer_of_field? (field?_of_field hstart)).bind fun _ _ =>
  (overflowsAt_field "end" d).skip fun _ hend =>
  (overflowsAt_integer_of_field? (field?_of_field hend)).skipRest fun _ _ =>
  (overflowsAt_field? "name" d).skip fun _ _ => .ok _

/-- An image where an infinite number is an end of it or of one of its functions. -/
def CacheImage.HasInfinite (d : Document) : Prop :=
  d.AnyItem FunctionRange.HasInfinite "functions" ∨ d.InfiniteAt "start" ∨ d.InfiniteAt "end"

theorem CacheImage.overflowsAt_ofRecord (d : Document) : OverflowsAt (HasInfinite d) (CacheImage.ofRecord d) :=
  (overflowsAt_records "functions" d FunctionRange.overflowsAt_ofRecord).bind fun _ _ =>
  (overflowsAt_field "name" d).skip fun _ _ =>
  (overflowsAt_addressField "start" d).bind fun _ _ =>
  (overflowsAt_addressField "end" d).skipRest fun _ _ => .ok _

/-- The addresses of symbols are texts, and no text is an infinite number. -/
theorem overflowsAt_readSymbols (d : Document) : OverflowsAt False (readSymbols d) :=
  overflowsAt_field?_bind "symbols" d (fun _ => .ok _) fun v _ => by
    cases v with
    | object fields =>
      refine (OverflowsAt.mapM_never (fun pair => ?_) fields).skip fun _ _ => .ok _
      have hkey := (overflowsAt_integer (text pair.1)).of_iff (iff_of_false (fun ⟨_, h⟩ => nomatch h) id)
      exact hkey.skip fun _ _ => .ok _
    | _ => exact .error nofun

end ObjcAtlas
