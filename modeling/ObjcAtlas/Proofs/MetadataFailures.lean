import ObjcAtlas.Proofs.InfiniteNumbers
import ObjcAtlas.Proofs.LongNumerals
import ObjcAtlas.Proofs.NullPaths

/-! How metadata and shared caches fail to be read. Beside the failures that the tool declares there are a few that
no reader accounts for; they are told by what stands in the documents and paths. -/
namespace ObjcAtlas
open Document (Fault)

/-- An operation fails in one of the `Declared` ways or as `Escape` tells; where that is so it gives no result. -/
structure FailsOnlyAs {α : Type} (Declared Escape : Failure → Prop) (r : Except Failure α) : Prop where
  of_error : ∀ {f : Failure}, r = .error f → Declared f ∨ Escape f
  not_ok : ∀ {f : Failure} {a : α}, Escape f → r ≠ .ok a

namespace FailsOnlyAs
variable {α β : Type} {Declared Escape Escape' : Failure → Prop}

theorem ok (a : α) : FailsOnlyAs Declared (fun _ => False) (.ok a) := ⟨nofun, nofun⟩

theorem error {f : Failure} (h : Declared f) : FailsOnlyAs Declared Escape (.error f : Except Failure α) :=
  ⟨fun he => Or.inl (Except.error.inj he ▸ h), nofun⟩

theorem bind {r : Except Failure α} {k : α → Except Failure β} (hr : FailsOnlyAs Declared Escape r)
    (hk : ∀ a, r = .ok a → FailsOnlyAs Declared Escape' (k a)) :
    FailsOnlyAs Declared (fun f => Escape f ∨ Escape' f) (r >>= k) := by
  cases r with
  | error f => exact ⟨fun hf => (hr.of_error (congrArg Except.error (Except.error.inj hf))).imp_right Or.inl, nofun⟩
  | ok a =>
    have ha := hk a rfl
    exact ⟨fun hf => (ha.of_error hf).imp_right Or.inr, fun he => he.elim (absurd rfl <| hr.not_ok ·) ha.not_ok⟩

/-- What comes after can be left out if all its failures are declared. -/
theorem skipRest {r : Except Failure α} {k : α → Except Failure β} (hr : FailsOnlyAs Declared Escape r)
    (hk : ∀ a, r = .ok a → FailsOnlyAs Declared (fun _ => False) (k a)) : FailsOnlyAs Declared Escape (r >>= k) := by
  simpa only [or_false] using hr.bind hk

end FailsOnlyAs

namespace Failure

/-- A document is told to be no metadata or no cache. -/
def IsMetadata (f : Failure) : Prop := ∃ fault, f = .metadata fault

/-- An infinite number is found in the place of an integer, as `P` tells. -/
def IsOverflow (P : Prop) (f : Failure) : Prop := f = .value .infiniteNumeral ∧ P

end Failure

open Failure (IsMetadata IsOverflow)

/-- Every fault but that of an infinite number turns into a declared failure. -/
theorem Document.OverflowsAt.failsOnlyAs {α : Type} {P : Prop} {r : Except Fault α} (h : OverflowsAt P r)
    {tell : Fault → Failure} (hinfinite : tell .infiniteNumeral = .value .infiniteNumeral)
    (htell : ∀ fault, fault ≠ .infiniteNumeral → IsMetadata (tell fault)) :
    FailsOnlyAs IsMetadata (IsOverflow P) (r.mapError tell) := by
  cases r with
  | ok a => exact ⟨nofun, fun ⟨_, hP⟩ => absurd hP (h.not_of_ok rfl)⟩
  | error fault =>
    refine ⟨fun hf => ?_, nofun⟩
    obtain rfl := Except.error.inj hf
    by_cases hfault : fault = .infiniteNumeral
    · subst hfault
      exact Or.inr ⟨hinfinite, h.of_error rfl⟩
    · exact Or.inl (htell fault hfault)

namespace Binary

/-- There is no object of sections, or it lacks this one. -/
def LacksSection (b : Binary) (key : String) : Prop :=
  ∀ sections, b.fields.lookup "objc" = some (.object sections) → sections.lookup key = none

/-- Some record of the section is of the kind told by `P`. -/
def SectionHas (P : Document → Prop) (b : Binary) (key : String) : Prop :=
  ∃ sections, b.fields.lookup "objc" = some (.object sections) ∧ (Document.object sections).AnyItem P key

/-- How a section is read: it is missing exactly if the document lacks it, and a fault in it is told as such
unless it is an infinite number in a place told by `P`. -/
structure ReadsSection {α : Type} (P : Document → Prop) (b : Binary) (key : String) (r : Except Failure (List α)) :
    Prop where
  missing_iff : r = .error (.sectionMissing b.name key) ↔ b.LacksSection key
  failsOnlyAs : FailsOnlyAs (fun f => f = .sectionMissing b.name key ∨ IsMetadata f)
    (IsOverflow (b.SectionHas P key)) r

theorem sections?_eq_some_iff {b : Binary} {sections : List (String × Document)} :
    b.sections? = some sections ↔ b.fields.lookup "objc" = some (.object sections) := by
  rw [sections?]
  split
  · next h => simp [h]
  · next h => simpa using h sections

theorem lacksSection_iff {b : Binary} {key : String} :
    b.LacksSection key ↔ b.sections?.bind (·.lookup key) = none := by
  simp only [LacksSection, Option.bind_eq_none_iff, sections?_eq_some_iff]

theorem sectionHas_iff {P : Document → Prop} {b : Binary} {key : String} {d : Document}
    (h : b.sections?.bind (·.lookup key) = some d) :
    b.SectionHas P key ↔ ∃ items, d.items = .ok items ∧ ∃ x ∈ items, P x := by
  obtain ⟨sections, hsections, hd⟩ := Option.bind_eq_some_iff.mp h
  have hitems : (Document.object sections).fieldItems key = d.items := by
    simp only [Document.fieldItems, Document.field?, hd, bind, Except.bind]
  simp [SectionHas, sections?_eq_some_iff.mp hsections, Document.AnyItem, hitems]

theorem isMetadata_sectionFailure (b : Binary) (key : String) (fault : Fault) (h : fault ≠ .infiniteNumeral) :
    IsMetadata (b.sectionFailure key fault) := by
  cases fault
  case infiniteNumeral => exact absurd rfl h
  all_goals exact ⟨_, rfl⟩

theorem failsOnlyAs_ofDocument (name : String) (d : Document) :
    FailsOnlyAs IsMetadata (fun _ => False) (ofDocument name d) := by
  cases d
  case object fields => exact .ok _
  all_goals exact .error ⟨_, rfl⟩

theorem readsSection {α : Type} {P : Document → Prop} {read : Document → Except Fault α}
    (hread : ∀ d, Document.OverflowsAt (P d) (read d)) (b : Binary) (key : String) :
    b.ReadsSection P key (b.section? key read) := by
  rw [section?]
  split
  · next h =>
    have hlacks := lacksSection_iff.mpr h
    refine ⟨iff_of_true rfl hlacks, ⟨fun hf => Or.inl (Or.inl (Except.error.inj hf).symm), nofun⟩⟩
  · next d h =>
    have hlacks : ¬ b.LacksSection key := by simp [lacksSection_iff, h]
    have hitems : Document.OverflowsAt (b.SectionHas P key) (do (← d.items).mapM read) :=
      (Document.overflowsAt_items d).skip fun items hitems =>
        (Document.OverflowsAt.mapM hread items).of_iff (by simp [sectionHas_iff h, hitems])
    have hfails : FailsOnlyAs IsMetadata _ (Except.mapError (b.sectionFailure key) _) :=
      hitems.failsOnlyAs rfl (b.isMetadata_sectionFailure key)
    refine ⟨iff_of_false (fun hmissing => ?_) hlacks, fun hf => (hfails.of_error hf).imp_left Or.inr, hfails.not_ok⟩
    rcases hfails.of_error hmissing with ⟨_, hm⟩ | ⟨hm, -⟩
    · cases hm
    · cases hm

end Binary

namespace SharedCache

/-- An image of the cache has an infinite number where an address is needed. -/
def HasInfinite (d : Document) : Prop := d.AnyItem CacheImage.HasInfinite "images"

theorem isMetadata_cacheFailure (fault : Fault) (h : fault ≠ .infiniteNumeral) : IsMetadata (cacheFailure fault) := by
  cases fault
  case infiniteNumeral => exact absurd rfl h
  all_goals exact ⟨_, rfl⟩

theorem failsOnlyAs_ofDocument (base : Path) (d : Document) :
    FailsOnlyAs IsMetadata (IsOverflow (HasInfinite d)) (ofDocument base d) := by
  refine Document.OverflowsAt.failsOnlyAs ?_ rfl isMetadata_cacheFailure
  exact (Document.overflowsAt_fieldItems "images" d).skip fun records hrecords =>
    ((Document.OverflowsAt.mapM CacheImage.overflowsAt_ofRecord records).of_iff
      (by simp [HasInfinite, Document.AnyItem, hrecords])).skipRest fun _ _ =>
    (overflowsAt_readSymbols d).skip fun _ _ => .ok _

end SharedCache

namespace Document

/-- The failures of a document file that are not told as such: its path has a null character, its bytes are no
UTF-8 text, or it has an integer of too many digits. -/
inductive LoadEscape (t : FileTree) (p : Path) : Failure → Prop
  | embeddedNull (h : p.HasNull) : LoadEscape t p (.file .embeddedNull)
  | undecodable {content : ByteArray} (hread : t.read p = .ok content)
      (htext : String.fromUTF8? content = none) : LoadEscape t p .undecodable
  | numeralTooLong {content : ByteArray} {source : String} (hread : t.read p = .ok content)
      (htext : String.fromUTF8? content = some source) (h : Document.read source = .error .numeralTooLong) :
      LoadEscape t p .numeralTooLong

theorem load_of_escape {t : FileTree} {p : Path} {f : Failure} (h : LoadEscape t p f) (unreadable : MetadataFault) :
    load t p unreadable = .error f := by
  cases h with
  | embeddedNull h => rw [load, FileTree.read_eq_embeddedNull_iff.mpr h]
  | undecodable hread htext => simp only [load, hread, htext]
  | numeralTooLong hread htext h => simp only [load, hread, htext, h]

/-- An integer that is too long is a long run of digits in the file. -/
theorem LoadEscape.exists_hasLongRun {t : FileTree} {p : Path} (h : LoadEscape t p .numeralTooLong) :
    ∃ content source, t.read p = .ok content ∧ String.fromUTF8? content = some source ∧
      HasLongRun source.toList := by
  cases h with
  | numeralTooLong hread htext h => exact ⟨_, _, hread, htext, hasLongRun_of_read h⟩

theorem failsOnlyAs_load (t : FileTree) (p : Path) (unreadable : MetadataFault) :
    FailsOnlyAs IsMetadata (LoadEscape t p) (load t p unreadable) := by
  refine ⟨fun {f} hf => ?_, fun h => by rw [load_of_escape h]; nofun⟩
  rw [load] at hf
  split at hf
  · next h =>
    cases hf
    exact Or.inr (.embeddedNull (FileTree.read_eq_embeddedNull_iff.mp h))
  · cases hf
    exact Or.inl ⟨_, rfl⟩
  · next hread =>
    split at hf
    · next htext =>
      cases hf
      exact Or.inr (.undecodable hread htext)
    · next htext =>
      split at hf
      · cases hf
      · cases hf
        exact Or.inl ⟨_, rfl⟩
      · next h =>
        cases hf
        exact Or.inr (.numeralTooLong hread htext h)

end Document

theorem Binary.load_of_escape {t : FileTree} {p : Path} {f : Failure} (h : Document.LoadEscape t p f) :
    Binary.load t p = .error f := by
  rw [Binary.load, Document.load_of_escape h]
  rfl

theorem Binary.failsOnlyAs_load (t : FileTree) (p : Path) :
    FailsOnlyAs IsMetadata (Document.LoadEscape t p) (Binary.load t p) := by
  refine (Document.failsOnlyAs_load t p _).skipRest fun d _ => (failsOnlyAs_ofDocument "" d).skipRest fun b _ => ?_
  split
  · exact .ok _
  · exact .ok _

namespace SharedCache

/-- Of the records before one that ends in `base`, some has a name that is no text. -/
inductive MeetsUnnamed (base : String) : List Document → Prop
  | here {d : Document} {ds : List Document} (h : ∀ n, d.field "name" ≠ .ok (.text n)) : MeetsUnnamed base (d :: ds)
  | later {d : Document} {ds : List Document} {n : String} (h : d.field "name" = .ok (.text n))
      (hbase : Path.baseName n ≠ base) (hds : MeetsUnnamed base ds) : MeetsUnnamed base (d :: ds)

theorem exactRecord?_eq_none_iff {name : String} {ds : List Document} :
    exactRecord? name ds = none ↔ ∀ d ∈ ds, d.field "name" ≠ .ok (.text name) := by
  induction ds with
  | nil => simp [exactRecord?]
  | cons d ds ih =>
    rw [exactRecord?]
    split
    · next n hn =>
      split
      · next h => simp [hn, h]
      · next h => simp [ih, hn, h]
    · next hn =>
      have hne : d.field "name" ≠ .ok (.text name) := hn name
      simp [ih, hne]

theorem baseRecord?_eq_error_iff {base : String} {ds : List Document} {f : Failure} :
    baseRecord? base ds = .error f ↔ f = .value .wrongKind ∧ MeetsUnnamed base ds := by
  induction ds with
  | nil => exact ⟨nofun, fun ⟨_, h⟩ => nomatch h⟩
  | cons d ds ih =>
    rw [baseRecord?]
    split
    · next n hn =>
      split
      · next hbase =>
        refine iff_of_false nofun fun ⟨_, h⟩ => ?_
        cases h with
        | here h => exact h n hn
        | later h hne =>
          cases hn.symm.trans h
          exact hne hbase
      · next hbase =>
        rw [ih]
        refine and_congr_right fun _ => ⟨.later hn hbase, fun h => ?_⟩
        cases h with
        | here h => exact absurd hn (h n)
        | later _ _ hds => exact hds
    · next hn =>
      exact ⟨fun hf => ⟨(Except.error.inj hf).symm, .here hn⟩, fun ⟨hf, _⟩ => congrArg Except.error hf.symm⟩

theorem eq_of_findRecord_error {c : SharedCache} {name : String} {f : Failure} (h : c.findRecord name = .error f) :
    f = .imageMissing name ∨ f = .value .wrongKind ∧ (∀ d ∈ c.records, d.field "name" ≠ .ok (.text name)) ∧
      MeetsUnnamed (Path.baseName name) c.records := by
  rw [findRecord] at h
  split at h
  · cases h
  · next hexact =>
    cases hbase : baseRecord? (Path.baseName name) c.records with
    | error g =>
      obtain ⟨rfl, hmeets⟩ := baseRecord?_eq_error_iff.mp hbase
      rw [hbase] at h
      cases h
      exact Or.inr ⟨rfl, exactRecord?_eq_none_iff.mp hexact, hmeets⟩
    | ok r =>
      rw [hbase] at h
      cases r with
      | some r => cases h
      | none => exact Or.inl (Except.error.inj h).symm

/-- The metadata of an image stand in this file. -/
def RefersTo (base : Path) (record : Document) (p : Path) : Prop :=
  ∃ d, record.field? "metadata" = .ok (some d) ∧ d ≠ .null ∧ (∀ fields, d ≠ .object fields) ∧
    p = base ++ Path.ofString d.display

theorem readBinary_of_refersTo {base p : Path} {record : Document} (h : RefersTo base record p) (t : FileTree)
    (imageName : String) : readBinary t base imageName record = Binary.load t p := by
  obtain ⟨d, hd, hnull, hobject, rfl⟩ := h
  rw [readBinary, hd]
  cases d
  case null => exact absurd rfl hnull
  case object fields => exact absurd rfl (hobject fields)
  all_goals rfl

/-- Only a file of metadata fails; those that stand in the record itself do not. -/
theorem exists_of_readBinary_error {t : FileTree} {base : Path} {imageName : String} {record : Document} {f : Failure}
    (h : readBinary t base imageName record = .error f) : ∃ p, RefersTo base record p ∧ Binary.load t p = .error f := by
  rw [readBinary] at h
  split at h
  · cases h
  · cases h
  · cases h
  · cases h
  · next d hobject hnull hd => exact ⟨_, ⟨d, hd, hnull, hobject, rfl⟩, h⟩

/-- The failures of taking an image that are not told as such: on the way to it a name turns out to be no text, or the
file of its metadata fails. -/
inductive ImageEscape (t : FileTree) (c : SharedCache) (name : String) : Failure → Prop
  | unnamed (hexact : ∀ d ∈ c.records, d.field "name" ≠ .ok (.text name))
      (h : MeetsUnnamed (Path.baseName name) c.records) : ImageEscape t c name (.value .wrongKind)
  | file {imageName : String} {record : Document} {p : Path} {f : Failure}
      (hfound : c.findRecord name = .ok (imageName, record)) (hnew : c.loaded.lookup imageName = none)
      (hfile : RefersTo c.base record p) (h : Document.LoadEscape t p f) : ImageEscape t c name f

theorem image_of_escape {t : FileTree} {c : SharedCache} {name : String} {f : Failure} (h : ImageEscape t c name f) :
    (c.image t name).1 = .error f := by
  cases h with
  | unnamed hexact h =>
    have hfound : c.findRecord name = .error (.value .wrongKind) := by
      rw [findRecord, exactRecord?_eq_none_iff.mpr hexact, baseRecord?_eq_error_iff.mpr ⟨rfl, h⟩]
      rfl
    simp only [image, hfound]
  | file hfound hnew hfile h =>
    simp only [image, hfound, hnew, readBinary_of_refersTo hfile, Binary.load_of_escape h]

theorem failsOnlyAs_image (t : FileTree) (c : SharedCache) (name : String) :
    FailsOnlyAs (fun f => f = .imageMissing name ∨ IsMetadata f) (ImageEscape t c name) (c.image t name).1 := by
  refine ⟨fun {f} hf => ?_, fun h => by rw [image_of_escape h]; nofun⟩
  rw [image] at hf
  split at hf
  · next hfound =>
    obtain rfl := Except.error.inj hf
    rcases eq_of_findRecord_error hfound with h | ⟨rfl, hexact, h⟩
    · exact Or.inl (Or.inl h)
    · exact Or.inr (.unnamed hexact h)
  · next hfound =>
    split at hf
    · cases hf
    · next hnew =>
      split at hf
      · next hread =>
        obtain rfl := Except.error.inj hf
        obtain ⟨p, hfile, hload⟩ := exists_of_readBinary_error hread
        exact ((Binary.failsOnlyAs_load t p).of_error hload).imp Or.inr (.file hfound hnew hfile)
      · cases hf

theorem load_of_escape {t : FileTree} {p : Path} {f : Failure} (h : Document.LoadEscape t p f) :
    SharedCache.load t p = .error f := by
  rw [load, Document.load_of_escape h]
  rfl

/-- A cache file fails as a document file does, and for an infinite number in the place of an address. -/
theorem failsOnlyAs_load (t : FileTree) (p : Path) :
    FailsOnlyAs IsMetadata
      (fun f => Document.LoadEscape t p f ∨
        IsOverflow (∃ d, Document.load t p (.unreadableCache p) = .ok d ∧ HasInfinite d) f)
      (SharedCache.load t p) := by
  rw [load]
  refine (Document.failsOnlyAs_load t p _).bind fun d hd => ?_
  have hdocument : (∃ e, Document.load t p (.unreadableCache p) = .ok e ∧ HasInfinite e) ↔ HasInfinite d := by
    simp [hd]
  simp only [hdocument]
  cases d
  case object fields => exact failsOnlyAs_ofDocument p.parent (.object fields)
  all_goals exact .error ⟨_, rfl⟩

end SharedCache

/-- How reading metadata and caches may fail. Documents, their sections and files fail as declared but for infinite
numbers in the place of integers and for files that cannot be decoded; images, whatever was loaded before, but for the
latter and for names that are no text. Categories have no integers. -/
theorem reading_failsOnlyAs (t : FileTree) (b : Binary) (d : Document) (base p : Path)
    (fields : List (String × Document)) (c : SharedCache) (name : String) :
    FailsOnlyAs IsMetadata (fun _ => False) (Binary.ofDocument name d) ∧
      b.ReadsSection ObjcClass.HasInfinite "classes" b.classes? ∧
      b.ReadsSection (Document.InfiniteAt "identity") "protocols" b.protocols? ∧
      b.ReadsSection (fun _ => False) "categories" b.categories? ∧
      FailsOnlyAs IsMetadata (IsOverflow (SharedCache.HasInfinite (.object fields)))
        (SharedCache.ofDocument base (.object fields)) ∧
      FailsOnlyAs (fun f => f = .imageMissing name ∨ IsMetadata f) (SharedCache.ImageEscape t c name)
        (c.image t name).1 ∧
      FailsOnlyAs IsMetadata (Document.LoadEscape t p) (Binary.load t p) ∧
      FailsOnlyAs IsMetadata
        (fun f => Document.LoadEscape t p f ∨
          IsOverflow (∃ d, Document.load t p (.unreadableCache p) = .ok d ∧ SharedCache.HasInfinite d) f)
        (SharedCache.load t p) ∧
      (∀ f, SharedCache.ImageEscape t c name f → (c.image t name).1 = .error f) ∧
      (∀ f, Document.LoadEscape t p f → Binary.load t p = .error f ∧ SharedCache.load t p = .error f) ∧
      (Document.LoadEscape t p .numeralTooLong →
        ∃ content source, t.read p = .ok content ∧ String.fromUTF8? content = some source ∧
          Document.HasLongRun source.toList) :=
  ⟨Binary.failsOnlyAs_ofDocument name d, b.readsSection ObjcClass.overflowsAt_ofRecord "classes",
    b.readsSection ObjcProtocol.overflowsAt_ofRecord "protocols",
    b.readsSection Category.overflowsAt_ofRecord "categories", SharedCache.failsOnlyAs_ofDocument base (.object fields),
    SharedCache.failsOnlyAs_image t c name, Binary.failsOnlyAs_load t p, SharedCache.failsOnlyAs_load t p,
    fun _ h => SharedCache.image_of_escape h, fun _ h => ⟨Binary.load_of_escape h, SharedCache.load_of_escape h⟩,
    fun h => h.exists_hasLongRun⟩

section Undeclared

/-- A class whose address is an infinite number. -/
def infiniteAddress : Binary where
  name := "M"
  fields := [("objc", .object [
    ("classes", .list [.object [("name", .text "A"), ("address", .real (.infinite false))]])])]

/-- A cache document with an image whose end is an infinite number. -/
def infiniteEnd : List (String × Document) :=
  [("images", .list [.object [("name", .text "A"), ("end", .real (.infinite false))]])]

/-- A cache document with an image whose name is a number. -/
def numberedImage : List (String × Document) := [("images", .list [.object [("name", .int 1)]])]

def numberedCache : SharedCache where
  base := ⟨"", []⟩
  records := [.object [("name", .int 1)]]
  images := [{ name := "1", start := 0, stop := 0, functions := FunctionRange.sorted [] }]
  symbols := []

/-- A file of one byte that is no UTF-8 text. -/
def undecodableFile : FileTree := { nodes := [(["m.json"], .file ⟨#[0xff]⟩)] }

theorem ofDocument_numberedImage : SharedCache.ofDocument ⟨"", []⟩ (.object numberedImage) = .ok numberedCache :=
  rfl

theorem read_undecodableFile : undecodableFile.read ⟨"", ["m.json"]⟩ = .ok ⟨#[0xff]⟩ := by
  rw [FileTree.read, FileTree.find, String.contains_char_eq, if_neg (by decide), if_neg (by decide)]
  rfl

theorem loadEscape_undecodableFile : Document.LoadEscape undecodableFile ⟨"", ["m.json"]⟩ .undecodable :=
  .undecodable read_undecodableFile rfl

/-- Each kind of reading has a failure that is not declared. -/
theorem not_all_failures_declared :
    (¬ ∀ (b : Binary) (f : Failure), b.classes? = .error f → f = .sectionMissing b.name "classes" ∨ IsMetadata f) ∧
      (¬ ∀ (base : Path) (fields : List (String × Document)) (f : Failure),
        SharedCache.ofDocument base (.object fields) = .error f → IsMetadata f) ∧
      (¬ ∀ (base : Path) (fields : List (String × Document)) (c : SharedCache) (t : FileTree) (name : String)
        (f : Failure), SharedCache.ofDocument base (.object fields) = .ok c → (c.image t name).1 = .error f →
          f = .imageMissing name ∨ IsMetadata f) ∧
      ¬ ∀ (t : FileTree) (p : Path) (f : Failure), Binary.load t p = .error f → IsMetadata f := by
  refine ⟨fun h => ?_, fun h => ?_, fun h => ?_, fun h => ?_⟩
  · rcases h infiniteAddress (.value .infiniteNumeral) rfl with h | ⟨_, h⟩
    · cases h
    · cases h
  · obtain ⟨_, h⟩ := h ⟨"", []⟩ infiniteEnd (.value .infiniteNumeral) rfl
    cases h
  · rcases h _ _ _ {} "A" (.value .wrongKind) ofDocument_numberedImage rfl with h | ⟨_, h⟩
    · cases h
    · cases h
  · obtain ⟨_, h⟩ := h _ _ .undecodable (Binary.load_of_escape loadEscape_undecodableFile)
    cases h

end Undeclared
end ObjcAtlas
