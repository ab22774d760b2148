import Mathlib.Data.Set.Card
import ObjcAtlas.Proofs.OrderIndependence
import ObjcAtlas.Proofs.RememberedImages

/-! The index of system names over any provider of images: it holds the names that their sections declare, it is
searched by halving, and it is there exactly if all images and their sections can be read. A scan of the session's
cache is the case of the provider that the cache is. -/
namespace ObjcAtlas

/-- The sections of an image that names are taken from. -/
structure ImageSections where
  classes? : Except Failure (List ObjcClass)
  protocols? : Except Failure (List ObjcProtocol)

/-- The sections of images by the names of these. -/
abbrev ImageProvider := String → Except Failure ImageSections

/-- A section that is there and cannot be read. -/
def Undecodable {α : Type} (records : Except Failure (List α)) : Prop :=
  ∃ f, records = .error f ∧ ∀ binary name, f ≠ .sectionMissing binary name

/-- The names of the classes and protocols. -/
def ImageSections.names (sections : ImageSections) : Except Failure (List String × List String) := do
  let classes ← presentSection sections.classes?
  let protocols ← presentSection sections.protocols?
  return (classes.map (·.name), protocols.map (·.name))

/-- The same records in any order and number. -/
def SameRecords {α : Type} (xs ys : List α) : Prop := ∀ a, a ∈ xs ↔ a ∈ ys

/-- The sections have the same records, or they fail alike. -/
structure ImageSections.Same (a b : ImageSections) : Prop where
  classes : Agree SameRecords a.classes? b.classes?
  protocols : Agree SameRecords a.protocols? b.protocols?

def Binary.imageSections (b : Binary) : ImageSections := ⟨b.classes?, b.protocols?⟩

/-- A cache as a provider, while its files stay as they are. -/
def SharedCache.provider (c : SharedCache) (t : FileTree) : ImageProvider := fun image =>
  (c.image t image).1.map Binary.imageSections

namespace ImageProvider
variable (provider : ImageProvider)

def imageNames (image : String) : Except Failure (List String × List String) := do
  let sections ← provider image
  sections.names

/-- The index of the given images. -/
def index (images : List String) : Except Failure FoundationIndex := do
  let names ← images.mapM provider.imageNames
  return .ofNames (names.flatMap (·.1)) (names.flatMap (·.2))

/-- A section of the image has a record of this name. -/
def Declares {α : Type} (section? : ImageSections → Except Failure (List α)) (nameOf : α → String) (image n : String) :
    Prop :=
  ∃ sections records, provider image = .ok sections ∧ section? sections = .ok records ∧ n ∈ records.map nameOf

/-- The image is not found, or one of its sections cannot be read. -/
def Fails (image : String) : Prop :=
  (∃ f, provider image = .error f) ∨
    ∃ sections, provider image = .ok sections ∧ (Undecodable sections.classes? ∨ Undecodable sections.protocols?)

def classNames (images : List String) : Set String :=
  {n | ∃ image ∈ images, provider.Declares ImageSections.classes? ObjcClass.name image n}

def protocolNames (images : List String) : Set String :=
  {n | ∃ image ∈ images, provider.Declares ImageSections.protocols? ObjcProtocol.name image n}

/-- The same images in any order and number, each with the same records in its sections. -/
structure SameImages (provider other : ImageProvider) (images others : List String) : Prop where
  mem_iff : ∀ image, image ∈ others ↔ image ∈ images
  sections : ∀ image ∈ images, Agree ImageSections.Same (provider image) (other image)

end ImageProvider

/-- The index holds these names and no others, each once and in order, and finds them. -/
structure FoundationIndex.HoldsExactly (f : FoundationIndex) (classes protocols : Set String) : Prop where
  hasClass : ∀ n, f.hasClass n = true ↔ n ∈ classes
  hasProtocol : ∀ n, f.hasProtocol n = true ↔ n ∈ protocols
  classes_ascending : f.classes.Pairwise (· < ·)
  protocols_ascending : f.protocols.Pairwise (· < ·)
  size : f.size = classes.ncard + protocols.ncard

section Sections
variable {α : Type} {records records' : Except Failure (List α)} {xs : List α}

theorem undecodable_iff : Undecodable records ↔ ∃ f, presentSection records = .error f := by
  fun_cases presentSection records with
  | case1 binary name => simp [Undecodable]
  | case2 _ hmissing =>
    constructor
    · rintro ⟨f, hf, -⟩
      exact ⟨f, hf⟩
    · rintro ⟨f, rfl⟩
      refine ⟨f, rfl, ?_⟩
      rintro binary name rfl
      exact hmissing binary name rfl

theorem mem_of_presentSection (h : presentSection records = .ok xs) (a : α) :
    a ∈ xs ↔ ∃ ys, records = .ok ys ∧ a ∈ ys := by
  revert h
  fun_cases presentSection records with
  | case1 binary name =>
    rintro h
    obtain rfl := Except.ok.inj h
    simp
  | case2 =>
    rintro rfl
    simp

theorem undecodable_congr (h : Agree SameRecords records records') : Undecodable records ↔ Undecodable records' := by
  cases h with
  | ok => simp [Undecodable]
  | error f => rfl

theorem ImageSections.exists_names_eq_error_iff {sections : ImageSections} :
    (∃ f, sections.names = .error f) ↔ Undecodable sections.classes? ∨ Undecodable sections.protocols? := by
  rw [undecodable_iff, undecodable_iff, names]
  cases presentSection sections.classes? with
  | error f => exact iff_of_true ⟨f, rfl⟩ (Or.inl ⟨f, rfl⟩)
  | ok classes =>
    cases presentSection sections.protocols? with
    | error f => exact iff_of_true ⟨f, rfl⟩ (Or.inr ⟨f, rfl⟩)
    | ok protocols => exact iff_of_false nofun (by simp)

end Sections

section Names
variable {names names' : List String}

/-- How many names an ascending list has. -/
theorem length_eq_ncard (h : names.Pairwise (· < ·)) {s : Set String} (hs : ∀ n, n ∈ names ↔ n ∈ s) :
    names.length = s.ncard := by
  have hnodup : names.Nodup := h.imp fun hab => hab.ne
  have hset : s = (names.toFinset : Set String) := by
    ext n
    simp [hs]
  rw [hset, Set.ncard_coe_finset, List.toFinset_card_of_nodup hnodup]

theorem FoundationIndex.holdsExactly_ofNames {cs ps : List String} {classes protocols : Set String}
    (hc : ∀ n, n ∈ cs ↔ n ∈ classes) (hp : ∀ n, n ∈ ps ↔ n ∈ protocols) :
    (ofNames cs ps).HoldsExactly classes protocols := by
  have hcs := Text.ascending_pairwise cs
  have hps := Text.ascending_pairwise ps
  have hc' : ∀ n, n ∈ Text.ascending cs ↔ n ∈ classes := fun n => (Text.mem_ascending cs).trans (hc n)
  have hp' : ∀ n, n ∈ Text.ascending ps ↔ n ∈ protocols := fun n => (Text.mem_ascending ps).trans (hp n)
  exact {
    hasClass := fun n => (Text.isListed_iff hcs).trans (hc' n)
    hasProtocol := fun n => (Text.isListed_iff hps).trans (hp' n)
    classes_ascending := hcs
    protocols_ascending := hps
    size := congrArg₂ (· + ·) (length_eq_ncard hcs hc') (length_eq_ncard hps hp') }

/-- Names of images read one after another, each of which tells whether it declares a name. -/
theorem mem_flatMap_of_forall₂ {image : Type} {images : List image} {results : List (List String × List String)}
    {declares : image → String → Prop} {part : List String × List String → List String}
    (h : List.Forall₂ (fun i names => ∀ n, n ∈ part names ↔ declares i n) images results) (n : String) :
    n ∈ results.flatMap part ↔ ∃ i ∈ images, declares i n := by
  induction h with
  | nil => simp
  | cons hi _ ih => rw [List.flatMap_cons, List.mem_append, hi n, ih, List.exists_mem_cons_iff]

namespace FoundationIndex.HoldsExactly
variable {f g : FoundationIndex} {classes protocols : Set String} {n : String}

theorem mem_classes (h : f.HoldsExactly classes protocols) : n ∈ f.classes ↔ n ∈ classes :=
  (Text.isListed_iff h.classes_ascending).symm.trans (h.hasClass n)

theorem mem_protocols (h : f.HoldsExactly classes protocols) : n ∈ f.protocols ↔ n ∈ protocols :=
  (Text.isListed_iff h.protocols_ascending).symm.trans (h.hasProtocol n)

theorem eq (hf : f.HoldsExactly classes protocols) (hg : g.HoldsExactly classes protocols) : f = g := by
  have hclasses : f.classes = g.classes := Text.eq_of_mem_iff_of_pairwise hf.classes_ascending hg.classes_ascending
    fun _ => hf.mem_classes.trans hg.mem_classes.symm
  have hprotocols : f.protocols = g.protocols := Text.eq_of_mem_iff_of_pairwise hf.protocols_ascending
    hg.protocols_ascending fun _ => hf.mem_protocols.trans hg.mem_protocols.symm
  cases f
  cases g
  exact congrArg₂ FoundationIndex.mk hclasses hprotocols

end FoundationIndex.HoldsExactly

end Names

namespace ImageProvider
variable {provider other : ImageProvider} {image : String} {images others : List String} {f : FoundationIndex}

section Images
variable {α : Type} {section? : ImageSections → Except Failure (List α)} {nameOf : α → String} {n : String}

theorem mem_map_iff_declares {sections : ImageSections} {records : List α} (hs : provider image = .ok sections)
    (hr : presentSection (section? sections) = .ok records) :
    n ∈ records.map nameOf ↔ provider.Declares section? nameOf image n := by
  have hmem := mem_of_presentSection hr
  rw [Declares, List.mem_map]
  constructor
  · rintro ⟨r, hin, rfl⟩
    obtain ⟨declared, hd, hin⟩ := (hmem r).mp hin
    exact ⟨sections, declared, hs, hd, List.mem_map_of_mem hin⟩
  · rintro ⟨sections', declared, hs', hd, hn⟩
    obtain rfl := Except.ok.inj (hs.symm.trans hs')
    obtain ⟨r, hin, rfl⟩ := List.mem_map.mp hn
    exact ⟨r, (hmem r).mpr ⟨declared, hd, hin⟩, rfl⟩

theorem declares_of_imageNames {names : List String × List String} (h : provider.imageNames image = .ok names) :
    (∀ n, n ∈ names.1 ↔ provider.Declares ImageSections.classes? ObjcClass.name image n) ∧
      ∀ n, n ∈ names.2 ↔ provider.Declares ImageSections.protocols? ObjcProtocol.name image n := by
  obtain ⟨sections, hs, h⟩ := exists_of_bind_eq_ok h
  obtain ⟨classes, hc, h⟩ := exists_of_bind_eq_ok h
  obtain ⟨protocols, hp, h⟩ := exists_of_bind_eq_ok h
  obtain rfl := Except.ok.inj h
  exact ⟨fun n => mem_map_iff_declares hs hc, fun n => mem_map_iff_declares hs hp⟩

theorem declares_congr (hsection : ∀ a b, ImageSections.Same a b → Agree SameRecords (section? a) (section? b))
    (h : Agree ImageSections.Same (provider image) (other image)) :
    provider.Declares section? nameOf image n ↔ other.Declares section? nameOf image n := by
  rw [Declares, Declares]
  generalize provider image = r at h
  generalize other image = r' at h
  cases h with
  | error f => simp
  | @ok a b hab =>
    have hrecords := hsection a b hab
    simp only [Except.ok.injEq, exists_and_left, exists_eq_left']
    generalize section? a = s at hrecords
    generalize section? b = s' at hrecords
    cases hrecords with
    | error f => simp
    | ok hmem => simp [hmem _]

theorem fails_congr (h : Agree ImageSections.Same (provider image) (other image)) :
    provider.Fails image ↔ other.Fails image := by
  rw [Fails, Fails]
  generalize provider image = r at h
  generalize other image = r' at h
  cases h with
  | error f => simp
  | ok h => simp [undecodable_congr h.classes, undecodable_congr h.protocols]

theorem fails_iff : provider.Fails image ↔ ∃ f, provider.imageNames image = .error f := by
  rw [Fails, imageNames]
  cases provider image with
  | error f => exact iff_of_true (Or.inl ⟨f, rfl⟩) ⟨f, rfl⟩
  | ok sections =>
    change _ ↔ ∃ f, sections.names = .error f
    simp only [ImageSections.exists_names_eq_error_iff, reduceCtorEq, exists_false, false_or, Except.ok.injEq,
      exists_eq_left']

end Images

theorem exists_index_eq_error_iff :
    (∃ f, provider.index images = .error f) ↔ ∃ image ∈ images, provider.Fails image := by
  simp only [fails_iff, ← exists_mapM_eq_error_iff]
  constructor
  · rintro ⟨f, h⟩
    rcases eq_error_or_of_bind_eq_error h with h | ⟨names, -, h⟩
    · exact ⟨f, h⟩
    · cases h
  · rintro ⟨f, h⟩
    exact ⟨f, by rw [index, h]; rfl⟩

theorem holdsExactly_of_index (h : provider.index images = .ok f) :
    f.HoldsExactly (provider.classNames images) (provider.protocolNames images) := by
  obtain ⟨results, hresults, h⟩ := exists_of_bind_eq_ok h
  obtain rfl := Except.ok.inj h
  have hnames := forall₂_of_mapM_eq_ok hresults
  exact FoundationIndex.holdsExactly_ofNames
    (mem_flatMap_of_forall₂ (hnames.imp fun _ _ hi => (declares_of_imageNames hi).1))
    (mem_flatMap_of_forall₂ (hnames.imp fun _ _ hi => (declares_of_imageNames hi).2))

namespace SameImages
variable (h : SameImages provider other images others)
include h

theorem exists_declares_iff {α : Type} {section? : ImageSections → Except Failure (List α)} {nameOf : α → String}
    (hsection : ∀ a b, ImageSections.Same a b → Agree SameRecords (section? a) (section? b)) (n : String) :
    (∃ image ∈ others, other.Declares section? nameOf image n) ↔
      ∃ image ∈ images, provider.Declares section? nameOf image n := by
  simp only [h.mem_iff]
  exact exists_congr fun image => and_congr_right fun hin => (declares_congr hsection (h.sections image hin)).symm

theorem classNames_eq : other.classNames others = provider.classNames images :=
  Set.ext (h.exists_declares_iff fun _ _ hab => hab.classes)

theorem protocolNames_eq : other.protocolNames others = provider.protocolNames images :=
  Set.ext (h.exists_declares_iff fun _ _ hab => hab.protocols)

theorem index_eq (hf : provider.index images = .ok f) : other.index others = .ok f := by
  cases hg : other.index others with
  | error e =>
    obtain ⟨image, hin, hfails⟩ := exists_index_eq_error_iff.mp ⟨e, hg⟩
    have hin' := (h.mem_iff image).mp hin
    obtain ⟨e', he'⟩ := exists_index_eq_error_iff.mpr ⟨image, hin', (fails_congr (h.sections image hin')).mpr hfails⟩
    rw [hf] at he'
    cases he'
  | ok g =>
    have hexact := holdsExactly_of_index hg
    rw [h.classNames_eq, h.protocolNames_eq] at hexact
    rw [hexact.eq (holdsExactly_of_index hf)]

end SameImages

section Caches
variable {c : SharedCache} {t : FileTree}

theorem fst_image_of_found {name n : String} {record : Document} (h : c.findRecord name = .ok (n, record)) :
    (c.image t name).1 =
      match c.loaded.lookup n with
      | some b => .ok b
      | none => SharedCache.readBinary t c.base n record := by
  simp only [SharedCache.image, h]
  cases c.loaded.lookup n with
  | some b => rfl
  | none => cases SharedCache.readBinary t c.base n record <;> rfl

/-- An image that is remembered now is the one that would have been read. -/
theorem fst_image_put {n : String} {record : Document} {b : Binary}
    (hexact : SharedCache.exactRecord? n c.records = some (n, record)) (hnew : c.loaded.lookup n = none)
    (hb : SharedCache.readBinary t c.base n record = .ok b) (other : String) :
    (SharedCache.image t other { c with loaded := Keyed.put n b c.loaded }).1 = (c.image t other).1 := by
  have hfind : SharedCache.findRecord { c with loaded := Keyed.put n b c.loaded } other = c.findRecord other := rfl
  cases hother : c.findRecord other with
  | error f => simp only [SharedCache.image, hfind, hother]
  | ok found =>
    obtain ⟨k, record'⟩ := found
    rw [fst_image_of_found (hfind.trans hother), fst_image_of_found hother]
    by_cases hk : k = n
    · subst hk
      obtain rfl : record = record' := by simpa [hexact] using SharedCache.exactRecord?_of_findRecord hother
      simp only [Keyed.lookup_put_self, hnew, hb]
    · simp only [Keyed.lookup_put_other hk]

/-- Taking an image does not change what is answered later. -/
theorem provider_snd_image (c : SharedCache) (t : FileTree) (image : String) :
    (c.image t image).2.provider t = c.provider t := by
  rw [SharedCache.image]
  split
  · rfl
  · next n record hfound =>
    split
    · rfl
    · next hnew =>
      split
      · rfl
      · next b hb =>
        funext other
        have hexact := SharedCache.exactRecord?_of_findRecord hfound
        rw [SharedCache.provider, fst_image_put hexact hnew hb, SharedCache.provider]

theorem runOn_imageNames {s : Session} (hc : s.cache = some c) (image : String) :
    (FoundationIndex.imageNames image).runOn s =
      ((c.provider s.tree).imageNames image, { s with cache := some (c.image s.tree image).2 }) := by
  simp only [FoundationIndex.imageNames, Job.runOn_bind, Job.runOn_image, hc, imageNames, SharedCache.provider]
  cases (c.image s.tree image).1 with
  | error f => rfl
  | ok b =>
    change _ = (b.imageSections.names, _)
    have hclasses : presentSection b.imageSections.classes? = b.classes := rfl
    have hprotocols : presentSection b.imageSections.protocols? = b.protocols := rfl
    simp only [Job.continueWith_ok, Job.runOn_bind, Job.runOn_ofExcept, ImageSections.names, hclasses, hprotocols]
    cases b.classes with
    | error f => rfl
    | ok classes => cases b.protocols <;> rfl

theorem runOn_mapM_imageNames {s : Session} (hc : s.cache = some c) (images : List String) :
    ((images.mapM FoundationIndex.imageNames).runOn s).1 = images.mapM (c.provider s.tree).imageNames := by
  induction images generalizing s c with
  | nil => rfl
  | cons image images ih =>
    rw [List.mapM_cons, List.mapM_cons, Job.runOn_bind, runOn_imageNames hc]
    cases (c.provider s.tree).imageNames image with
    | error f => rfl
    | ok names =>
      have hrest := ih (s := { s with cache := some (c.image s.tree image).2 }) rfl
      rw [provider_snd_image] at hrest
      rw [Job.continueWith_ok, Job.runOn_bind, ← hrest]
      generalize (images.mapM FoundationIndex.imageNames).runOn _ = r
      obtain ⟨f | results, u⟩ := r <;> rfl

theorem runOn_scan {s : Session} (hc : s.cache = some c) (images : List String) :
    ((FoundationIndex.scan images).runOn s).1 = (c.provider s.tree).index images := by
  rw [FoundationIndex.scan, Job.runOn_reportingFailure, index, ← runOn_mapM_imageNames hc]
  simp only [Job.runOn_bind, Job.runOn_get, Job.continueWith_ok, hc, Option.isNone_some, Bool.false_eq_true, if_false]
  generalize (images.mapM FoundationIndex.imageNames).runOn s = r
  obtain ⟨f | results, u⟩ := r <;> rfl

end Caches

/-- An index that is built holds exactly the names that the sections of its images declare, and no other order or
repetition of images or records changes it. It is built unless an image is not found or has a section that cannot be
read. The scan of a session's cache builds the index of that cache. -/
theorem index_exact (provider : ImageProvider) (images : List String) :
    (∀ f, provider.index images = .ok f →
      f.HoldsExactly (provider.classNames images) (provider.protocolNames images) ∧
      ∀ other others, SameImages provider other images others → other.index others = .ok f) ∧
    ((∃ f, provider.index images = .error f) ↔ ∃ image ∈ images, provider.Fails image) ∧
    ∀ s c, s.cache = some c → c.provider s.tree = provider →
      ((FoundationIndex.scan images).runOn s).1 = provider.index images := by
  refine ⟨fun f hf => ⟨holdsExactly_of_index hf, fun _ _ h => h.index_eq hf⟩, exists_index_eq_error_iff, ?_⟩
  rintro s c hc rfl
  exact runOn_scan hc images

/-! An image whose classes are given and that has no protocol section, and one with both sections. -/
section Frames

def frames (classes : List ObjcClass) : ImageProvider
  | "Base" => .ok ⟨.ok classes, .error (.sectionMissing "Base" "protocols")⟩
  | "Core" => .ok ⟨.ok [{ name := "NSArray" }], .ok [{ name := "NSCopying", identity := 0 }]⟩
  | image => .error (.imageMissing image)

def stringAndArray : List ObjcClass := [{ name := "NSString" }, { name := "NSArray" }]

theorem index_frames :
    (frames stringAndArray).index ["Base", "Core"] = .ok ⟨["NSArray", "NSString"], ["NSCopying"]⟩ := by
  have hclasses : Text.ascending ["NSString", "NSArray", "NSArray"] = ["NSArray", "NSString"] :=
    Text.ascending_eq_of_mem_iff (by decide) (by simp [or_comm])
  have hprotocols : Text.ascending ["NSCopying"] = ["NSCopying"] := Text.ascending_eq_self (List.pairwise_singleton ..)
  change Except.ok (FoundationIndex.mk (Text.ascending ["NSString", "NSArray", "NSArray"])
    (Text.ascending ["NSCopying"])) = _
  rw [hclasses, hprotocols]

theorem agree_frames {xs ys : List ObjcClass} (h : SameRecords xs ys) (image : String) :
    Agree ImageSections.Same (frames xs image) (frames ys image) := by
  rw [frames.eq_def, frames.eq_def]
  split
  · exact .ok ⟨.ok h, .error _⟩
  · exact .ok ⟨.ok fun _ => Iff.rfl, .ok fun _ => Iff.rfl⟩
  · exact .error _

theorem sameImages_frames : SameImages (frames stringAndArray) (frames stringAndArray.reverse) ["Base", "Core"]
    ["Core", "Base", "Core"] where
  mem_iff := by simp [or_comm]
  sections := fun image _ => agree_frames (fun _ => List.mem_reverse.symm) image

theorem index_exact_frames :
    (⟨["NSArray", "NSString"], ["NSCopying"]⟩ : FoundationIndex).HoldsExactly
      ((frames stringAndArray).classNames ["Base", "Core"]) ((frames stringAndArray).protocolNames ["Base", "Core"]) ∧
    (frames stringAndArray.reverse).index ["Core", "Base", "Core"] = .ok ⟨["NSArray", "NSString"], ["NSCopying"]⟩ ∧
    (∃ f, (frames []).index ["Core", "Lost"] = .error f) ∧
    ((FoundationIndex.scan ["Gears"]).runOn
        { tree := SharedCache.gearsFiles false, cache := some SharedCache.gears }).1 =
      (SharedCache.gears.provider (SharedCache.gearsFiles false)).index ["Gears"] := by
  have hexact := (index_exact (frames stringAndArray) ["Base", "Core"]).1 _ index_frames
  refine ⟨hexact.1, hexact.2 _ _ sameImages_frames, ?_, ?_⟩
  · exact (index_exact (frames []) ["Core", "Lost"]).2.1.mpr ⟨"Lost", by simp, Or.inl ⟨.imageMissing "Lost", rfl⟩⟩
  · exact (index_exact _ ["Gears"]).2.2 _ SharedCache.gears rfl rfl

end Frames

end ImageProvider

end ObjcAtlas
