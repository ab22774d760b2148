import ObjcAtlas.Proofs.MetadataFailures
import ObjcAtlas.Proofs.ModuleEntities

/-! Images are remembered without being noticed: whatever was called for before, a call gives what a new cache would
give, as long as the files with metadata stay as they are. Providers are told apart by when they were made. -/
namespace ObjcAtlas

theorem Document.load_congr {t u : FileTree} {p : Path} (h : t.read p = u.read p) (unreadable : MetadataFault) :
    load t p unreadable = load u p unreadable := by
  simp only [load, h]

theorem Binary.load_congr {t u : FileTree} {p : Path} (h : t.read p = u.read p) : load t p = load u p := by
  simp only [load, Document.load_congr h]

namespace SharedCache

section Records
variable {name n : String} {d : Document} {ds : List Document}

theorem exactRecord?_eq_some (h : exactRecord? name ds = some (n, d)) : n = name ∧ d ∈ ds := by
  induction ds with
  | nil => cases h
  | cons e ds ih =>
    rw [exactRecord?] at h
    split at h
    · split at h
      · next hname =>
        cases h
        exact ⟨hname, List.mem_cons_self⟩
      · exact (ih h).imp_right (List.mem_cons_of_mem e)
    · exact (ih h).imp_right (List.mem_cons_of_mem e)

/-- No record before the first one with a last component has the name of that one. -/
theorem exactRecord?_of_baseRecord? {base : String} (h : baseRecord? base ds = .ok (some (n, d))) :
    Path.baseName n = base ∧ exactRecord? n ds = some (n, d) := by
  induction ds with
  | nil => cases h
  | cons e ds ih =>
    rw [baseRecord?] at h
    split at h
    · next m hm =>
      split at h
      · next hbase =>
        cases h
        exact ⟨hbase, by rw [exactRecord?, hm]; exact if_pos rfl⟩
      · next hbase =>
        obtain ⟨hn, hexact⟩ := ih h
        have hne : m ≠ n := by
          rintro rfl
          exact hbase hn
        exact ⟨hn, by rw [exactRecord?, hm, ← hexact]; exact if_neg hne⟩
    · cases h

/-- Whichever way a name leads to it, the record is the first one of its image. -/
theorem exactRecord?_of_findRecord {c : SharedCache} (h : c.findRecord name = .ok (n, d)) :
    exactRecord? n c.records = some (n, d) := by
  rw [findRecord] at h
  split at h
  · next r hexact =>
    cases h
    obtain ⟨rfl, -⟩ := exactRecord?_eq_some hexact
    exact hexact
  · cases hbase : baseRecord? (Path.baseName name) c.records with
    | error f =>
      rw [hbase] at h
      cases h
    | ok r =>
      rw [hbase] at h
      cases r with
      | none => cases h
      | some r =>
        cases h
        exact (exactRecord?_of_baseRecord? hbase).2

theorem mem_records_of_findRecord {c : SharedCache} (h : c.findRecord name = .ok (n, d)) : d ∈ c.records :=
  (exactRecord?_eq_some (exactRecord?_of_findRecord h)).2

end Records

/-- The name of the image that a name stands for. -/
def imageName (c : SharedCache) (name : String) : Except Failure String := (c.findRecord name).map Prod.fst

/-- The files that hold the metadata of images are the same, whatever became of the others. -/
def SameMetadata (c : SharedCache) (t u : FileTree) : Prop :=
  ∀ record ∈ c.records, ∀ p, RefersTo c.base record p → t.read p = u.read p

theorem SameMetadata.readBinary_eq {c : SharedCache} {t u : FileTree} (h : c.SameMetadata t u) {record : Document}
    (hr : record ∈ c.records) (n : String) : readBinary t c.base n record = readBinary u c.base n record := by
  rw [readBinary, readBinary]
  split
  · rfl
  · rfl
  · rfl
  · rfl
  · next e hobject hnull he => exact Binary.load_congr (h record hr _ ⟨e, he, hnull, hobject, rfl⟩)

/-! Providers as objects -/

/-- A provider that was handed out: how many were made before it, and its contents. Two of them are the same object
exactly if as many were made before. -/
structure Provider where
  serial : Nat
  binary : Binary

/-- The providers that a cache remembers, by image name, and how many were made. -/
structure Memory where
  made : Nat := 0
  kept : List (String × Provider) := []

/-- The provider of an image: `image`, with its result as an object. -/
def provide (t : FileTree) (name : String) (c : SharedCache) (m : Memory) : Except Failure Provider × Memory :=
  match c.findRecord name with
  | .error f => (.error f, m)
  | .ok (n, record) =>
    match m.kept.lookup n with
    | some p => (.ok p, m)
    | none =>
      match readBinary t c.base n record with
      | .error f => (.error f, m)
      | .ok b => (.ok ⟨m.made, b⟩, ⟨m.made + 1, Keyed.put n ⟨m.made, b⟩ m.kept⟩)

/-- The cache that remembers the contents of these providers. -/
def remembering (c : SharedCache) (m : Memory) : SharedCache :=
  { c with loaded := m.kept.map fun e => (e.1, e.2.binary) }

/-- What a call can come to. -/
inductive Provides (t : FileTree) (c : SharedCache) (name : String) (m : Memory) :
    Except Failure Provider → Memory → Prop
  | unresolved {f : Failure} (hr : c.findRecord name = .error f) : Provides t c name m (.error f) m
  | remembered {n : String} {record : Document} {p : Provider} (hr : c.findRecord name = .ok (n, record))
      (hp : m.kept.lookup n = some p) : Provides t c name m (.ok p) m
  | unreadable {n : String} {record : Document} {f : Failure} (hr : c.findRecord name = .ok (n, record))
      (hp : m.kept.lookup n = none) (hb : readBinary t c.base n record = .error f) : Provides t c name m (.error f) m
  | made {n : String} {record : Document} {b : Binary} (hr : c.findRecord name = .ok (n, record))
      (hp : m.kept.lookup n = none) (hb : readBinary t c.base n record = .ok b) :
      Provides t c name m (.ok ⟨m.made, b⟩) ⟨m.made + 1, Keyed.put n ⟨m.made, b⟩ m.kept⟩

theorem provides_provide (t : FileTree) (c : SharedCache) (name : String) (m : Memory) :
    Provides t c name m (c.provide t name m).1 (c.provide t name m).2 := by
  rw [provide]
  split
  · next hr => exact .unresolved hr
  · next hr =>
    split
    · next hp => exact .remembered hr hp
    · next hp =>
      split
      · next hb => exact .unreadable hr hp hb
      · next hb => exact .made hr hp hb

section Steps
variable {t u : FileTree} {c : SharedCache} {name : String} {m m' : Memory} {r : Except Failure Provider}

/-- A call made of the cache does the same but for the objects. -/
theorem Provides.image_eq (h : Provides t c name m r m') :
    (c.remembering m).image t name = (r.map Provider.binary, c.remembering m') := by
  have hl : ∀ n, (c.remembering m).loaded.lookup n = (m.kept.lookup n).map Provider.binary :=
    fun n => Keyed.lookup_map_values _ n m.kept
  have hf : (c.remembering m).findRecord name = c.findRecord name := rfl
  have hbase : (c.remembering m).base = c.base := rfl
  cases h with
  | unresolved hr => simp only [image, hf, hr, Except.map]
  | remembered hr hp => simp only [image, hf, hr, hl, hp, Option.map_some, Except.map]
  | unreadable hr hp hb => simp only [image, hf, hr, hl, hp, Option.map_none, hbase, hb, Except.map]
  | made hr hp hb =>
    simp only [image, hf, hr, hl, hp, Option.map_none, hbase, hb, Except.map]
    simp only [remembering, ← Keyed.put_map_values]

/-- A call that fails leaves what is remembered as it is. -/
theorem Provides.eq_of_error {f : Failure} (h : Provides t c name m (.error f) m') : m' = m := by
  cases h <;> rfl

/-- What is remembered of each image is what would be read of it now, as an object of its own. -/
structure Memory.Sound (t : FileTree) (c : SharedCache) (m : Memory) : Prop where
  binary : ∀ {n p}, m.kept.lookup n = some p →
    ∃ record, exactRecord? n c.records = some (n, record) ∧ readBinary t c.base n record = .ok p.binary
  serial_lt : ∀ {n p}, m.kept.lookup n = some p → p.serial < m.made
  serial_inj : ∀ {n n' p p'}, m.kept.lookup n = some p → m.kept.lookup n' = some p' → p.serial = p'.serial → n = n'

theorem Memory.sound_empty (t : FileTree) (c : SharedCache) : Sound t c {} := ⟨nofun, nofun, nofun⟩

theorem Provides.sound (h : Provides u c name m r m') (hm : m.Sound t c) (hu : c.SameMetadata t u) : m'.Sound t c := by
  cases h with
  | unresolved hr => exact hm
  | remembered hr hp => exact hm
  | unreadable hr hp hb => exact hm
  | @made n record b hr hp hb =>
    have hexact := exactRecord?_of_findRecord hr
    refine ⟨fun {k q} hq => ?_, fun {k q} hq => ?_, fun {k k' q q'} hq hq' hs => ?_⟩
    · rcases Keyed.lookup_put_eq_some_iff.mp hq with ⟨rfl, rfl⟩ | ⟨-, hq⟩
      · exact ⟨record, hexact, by rw [hu.readBinary_eq (mem_records_of_findRecord hr), hb]⟩
      · exact hm.binary hq
    · rcases Keyed.lookup_put_eq_some_iff.mp hq with ⟨rfl, rfl⟩ | ⟨-, hq⟩
      · exact Nat.lt_succ_self m.made
      · exact Nat.lt_succ_of_lt (hm.serial_lt hq)
    · -- the new object has a number that none of the old ones has
      rcases Keyed.lookup_put_eq_some_iff.mp hq with ⟨hk, rfl⟩ | ⟨-, hold⟩
      · rcases Keyed.lookup_put_eq_some_iff.mp hq' with ⟨hk', -⟩ | ⟨-, hold'⟩
        · exact hk.trans hk'.symm
        · exact absurd hs.symm (Nat.ne_of_lt (hm.serial_lt hold'))
      · rcases Keyed.lookup_put_eq_some_iff.mp hq' with ⟨-, rfl⟩ | ⟨-, hold'⟩
        · exact absurd hs (Nat.ne_of_lt (hm.serial_lt hold))
        · exact hm.serial_inj hold hold' hs

/-- A cache that remembers nothing reads what it is asked for. -/
theorem fst_image_of_new (hc : c.loaded = []) {n : String} {record : Document}
    (hr : c.findRecord name = .ok (n, record)) : (c.image t name).1 = readBinary t c.base n record := by
  have hnew : c.loaded.lookup n = none := by
    rw [hc]
    rfl
  simp only [image, hr, hnew]
  split
  · next hb => exact hb.symm
  · next hb => exact hb.symm

/-- A call answers as the cache does before anything is remembered. -/
theorem Provides.answer (h : Provides u c name m r m') (hm : m.Sound t c) (hu : c.SameMetadata t u)
    (hc : c.loaded = []) : r.map Provider.binary = (c.image t name).1 := by
  cases h with
  | unresolved hr => simp only [image, hr, Except.map]
  | @remembered n record p hr hp =>
    obtain ⟨record', hexact, hb⟩ := hm.binary hp
    obtain rfl : record' = record := by simpa [exactRecord?_of_findRecord hr] using hexact.symm
    rw [fst_image_of_new hc hr, hb]
    rfl
  | unreadable hr hp hb =>
    rw [fst_image_of_new hc hr, hu.readBinary_eq (mem_records_of_findRecord hr), hb]
    rfl
  | made hr hp hb =>
    rw [fst_image_of_new hc hr, hu.readBinary_eq (mem_records_of_findRecord hr), hb]
    rfl

theorem Provides.exists_imageName (h : Provides t c name m r m') {p : Provider} (hp : r = .ok p) :
    ∃ n, c.imageName name = .ok n := by
  cases h with
  | unresolved hr => cases hp
  | unreadable hr _ hb => cases hp
  | @remembered n _ _ hr _ => exact ⟨n, by rw [imageName, hr]; rfl⟩
  | @made n _ _ hr _ _ => exact ⟨n, by rw [imageName, hr]; rfl⟩

/-- The images that are remembered after a call: those before it and, if it succeeds, the one that it stands for. -/
theorem Provides.lookup_iff (h : Provides t c name m r m') {n : String} {p : Provider} :
    m'.kept.lookup n = some p ↔
      m.kept.lookup n = some p ∨ (r = .ok p ∧ c.imageName name = .ok n) := by
  have hname : ∀ {k record}, c.findRecord name = .ok (k, record) → (c.imageName name = .ok n ↔ k = n) := by
    intro k record hr
    simp [imageName, hr, Except.map]
  cases h with
  | unresolved hr => simp
  | unreadable hr hp hb => simp
  | remembered hr hp =>
    rw [hname hr]
    refine ⟨Or.inl, ?_⟩
    rintro (h | ⟨h, rfl⟩)
    · exact h
    · cases h
      exact hp
  | @made k record b hr hp hb =>
    rw [hname hr]
    constructor
    · intro h
      rcases Keyed.lookup_put_eq_some_iff.mp h with ⟨rfl, rfl⟩ | ⟨-, h⟩
      · exact Or.inr ⟨rfl, rfl⟩
      · exact Or.inl h
    · rintro (h | ⟨h, rfl⟩)
      · have hne : n ≠ k := by
          rintro rfl
          rw [hp] at h
          cases h
        rw [Keyed.lookup_put_other hne]
        exact h
      · cases h
        exact Keyed.lookup_put_self _ _ _

end Steps

/-- The answers to a list of calls, each made when the files are as given with it, and the cache after them. -/
def imageAll (c : SharedCache) : List (FileTree × String) → List (Except Failure Binary) × SharedCache
  | [] => ([], c)
  | (t, name) :: calls =>
    let step := c.image t name
    let rest := step.2.imageAll calls
    (step.1 :: rest.1, rest.2)

/-- The same calls with their results as objects. -/
def provideAll (c : SharedCache) (m : Memory) : List (FileTree × String) → List (Except Failure Provider) × Memory
  | [] => ([], m)
  | (t, name) :: calls =>
    let step := c.provide t name m
    let rest := c.provideAll step.2 calls
    (step.1 :: rest.1, rest.2)

section Runs
variable {t : FileTree} {c : SharedCache} {calls : List (FileTree × String)}

theorem imageAll_remembering (c : SharedCache) (m : Memory) (calls : List (FileTree × String)) :
    (c.remembering m).imageAll calls =
      ((c.provideAll m calls).1.map (Except.map Provider.binary), c.remembering (c.provideAll m calls).2) := by
  induction calls generalizing m with
  | nil => rfl
  | cons q calls ih =>
    simp only [imageAll, provideAll, (provides_provide q.1 c q.2 m).image_eq, ih, List.map_cons]

theorem sound_provideAll (hfiles : ∀ q ∈ calls, c.SameMetadata t q.1) {m : Memory} (hm : m.Sound t c) :
    (c.provideAll m calls).2.Sound t c := by
  induction calls generalizing m with
  | nil => exact hm
  | cons q calls ih =>
    obtain ⟨hq, hcalls⟩ := List.forall_mem_cons.mp hfiles
    exact ih hcalls ((provides_provide q.1 c q.2 m).sound hm hq)

theorem answers_provideAll (hc : c.loaded = []) (hfiles : ∀ q ∈ calls, c.SameMetadata t q.1) {m : Memory}
    (hm : m.Sound t c) :
    (c.provideAll m calls).1.map (Except.map Provider.binary) = calls.map fun q => (c.image t q.2).1 := by
  induction calls generalizing m with
  | nil => rfl
  | cons q calls ih =>
    obtain ⟨hq, hcalls⟩ := List.forall_mem_cons.mp hfiles
    have h := provides_provide q.1 c q.2 m
    simp only [provideAll, List.map_cons, h.answer hm hq hc, ih hcalls (h.sound hm hq)]

/-- What is remembered in the end: what was before, and what the successful calls were given. -/
theorem lookup_provideAll_iff {m : Memory} {n : String} {p : Provider} :
    (c.provideAll m calls).2.kept.lookup n = some p ↔
      m.kept.lookup n = some p ∨
        ∃ x ∈ calls.zip (c.provideAll m calls).1, x.2 = .ok p ∧ c.imageName x.1.2 = .ok n := by
  induction calls generalizing m with
  | nil => simp [provideAll]
  | cons q calls ih =>
    simp only [provideAll, ih, (provides_provide q.1 c q.2 m).lookup_iff, List.zip_cons_cons, List.mem_cons,
      exists_eq_or_imp, or_assoc]

theorem exists_imageName {x : (FileTree × String) × Except Failure Provider} {m : Memory}
    (hx : x ∈ calls.zip (c.provideAll m calls).1) {p : Provider} (hp : x.2 = .ok p) :
    ∃ n, c.imageName x.1.2 = .ok n := by
  induction calls generalizing m with
  | nil => cases hx
  | cons q calls ih =>
    rcases List.mem_cons.mp hx with rfl | hx
    · exact (provides_provide q.1 c q.2 m).exists_imageName hp
    · exact ih hx

/-- A cache starts out with nothing remembered. -/
theorem loaded_of_ofDocument {base : Path} {d : Document} (h : ofDocument base d = .ok c) : c.loaded = [] := by
  obtain ⟨records, -, h⟩ := exists_of_bind_eq_ok (eq_ok_of_mapError_eq_ok h)
  obtain ⟨images, -, h⟩ := exists_of_bind_eq_ok h
  obtain ⟨symbols, -, h⟩ := exists_of_bind_eq_ok h
  cases h
  rfl

/-- Over any calls made of one cache while its metadata files stay as they are: each is answered as by a new cache; its
results are objects of one contents, and two of them are the same object exactly if their images have one name; the
images remembered are those of the calls that succeeded; and a call that fails changes nothing. -/
theorem sessions_unnoticed {base : Path} {d : Document} (hc : ofDocument base d = .ok c)
    (hfiles : ∀ q ∈ calls, c.SameMetadata t q.1) :
    (c.imageAll calls).1 = calls.map (fun q => (c.image t q.2).1) ∧
    c.imageAll calls =
      ((c.provideAll {} calls).1.map (Except.map Provider.binary), c.remembering (c.provideAll {} calls).2) ∧
    (∀ x ∈ calls.zip (c.provideAll {} calls).1, ∀ y ∈ calls.zip (c.provideAll {} calls).1, ∀ p q,
      x.2 = .ok p → y.2 = .ok q → (p.serial = q.serial ↔ c.imageName x.1.2 = c.imageName y.1.2)) ∧
    (∀ n p, (c.provideAll {} calls).2.kept.lookup n = some p ↔
      ∃ x ∈ calls.zip (c.provideAll {} calls).1, x.2 = .ok p ∧ c.imageName x.1.2 = .ok n) ∧
    ∀ (u : FileTree) (name : String) (m : Memory) (f : Failure), (c.provide u name m).1 = .error f →
      (c.provide u name m).2 = m ∧ (c.remembering m).image u name = (.error f, c.remembering m) := by
  have hloaded := loaded_of_ofDocument hc
  have hempty := Memory.sound_empty t c
  have hnew : c.remembering {} = c := by
    cases c
    cases hloaded
    rfl
  have hobjects := imageAll_remembering c {} calls
  rw [hnew] at hobjects
  have hkept : ∀ n p, (c.provideAll {} calls).2.kept.lookup n = some p ↔
      ∃ x ∈ calls.zip (c.provideAll {} calls).1, x.2 = .ok p ∧ c.imageName x.1.2 = .ok n := by
    intro n p
    simp [lookup_provideAll_iff]
  refine ⟨?_, hobjects, ?_, hkept, ?_⟩
  · rw [hobjects]
    exact answers_provideAll hloaded hfiles hempty
  · intro x hx y hy p q hp hq
    have hsound := sound_provideAll hfiles hempty
    obtain ⟨n, hn⟩ := exists_imageName hx hp
    obtain ⟨k, hk⟩ := exists_imageName hy hq
    have hpn := (hkept n p).mpr ⟨x, hx, hp, hn⟩
    have hqk := (hkept k q).mpr ⟨y, hy, hq, hk⟩
    rw [hn, hk, Except.ok.injEq]
    constructor
    · exact hsound.serial_inj hpn hqk
    · rintro rfl
      rw [Option.some.inj (hpn.symm.trans hqk)]
  · intro u name m f hf
    have h := provides_provide u c name m
    rw [hf] at h
    have hm := h.eq_of_error
    refine ⟨hm, ?_⟩
    rw [h.image_eq, hm]
    rfl

end Runs

/-! A cache with an image whose metadata is a file and one whose file is missing, called while a directory is made. -/
section Gears

def gearsRecords : List Document :=
  [.object [("name", .text "/x/Gears"), ("metadata", .text "g.json")],
    .object [("name", .text "/y/Cogs"), ("metadata", .text "lost.json")]]

def gears : SharedCache where
  base := ⟨"", []⟩
  records := gearsRecords
  images := [{ name := "/x/Gears", start := 0, stop := 0, functions := FunctionRange.sorted [] },
    { name := "/y/Cogs", start := 0, stop := 0, functions := FunctionRange.sorted [] }]
  symbols := []

/-- The one file of metadata holds an empty record. -/
def gearsFiles (made : Bool) : FileTree where
  nodes := (["g.json"], .file ⟨#[0x7b, 0x7d]⟩) :: if made then [(["out"], .directory)] else []

def gearsCalls : List (FileTree × String) :=
  [(gearsFiles false, "Gears"), (gearsFiles true, "Cogs"), (gearsFiles true, "/x/Gears")]

theorem ofDocument_gears : ofDocument ⟨"", []⟩ (.object [("images", .list gearsRecords)]) = .ok gears := rfl

theorem read_gears (made : Bool) : (gearsFiles made).read ⟨"", ["g.json"]⟩ = .ok ⟨#[0x7b, 0x7d]⟩ := by
  rw [FileTree.read, FileTree.find, String.contains_char_eq, if_neg (by decide), if_neg (by decide)]
  rfl

theorem read_cogs (made : Bool) : (gearsFiles made).read ⟨"", ["lost.json"]⟩ = .error .notFound := by
  rw [FileTree.read, FileTree.find, String.contains_char_eq, if_neg (by decide), if_neg (by decide)]
  cases made <;> rfl

theorem sameMetadata_gears (made : Bool) : gears.SameMetadata (gearsFiles false) (gearsFiles made) := by
  intro record hrecord p hp
  obtain ⟨d, hd, -, -, rfl⟩ := hp
  have hrecords : record ∈ gearsRecords := hrecord
  simp only [gearsRecords, List.mem_cons, List.not_mem_nil, or_false] at hrecords
  rcases hrecords with rfl | rfl
  · cases hd
    exact (read_gears false).trans (read_gears made).symm
  · cases hd
    exact (read_cogs false).trans (read_cogs made).symm

theorem load_gears : Binary.load (gearsFiles false) ⟨"", ["g.json"]⟩ = .ok ⟨"g", []⟩ := by
  have hdecode : String.fromUTF8? ⟨#[0x7b, 0x7d]⟩ = some "\x7b\x7d" := rfl
  have hread : Document.read "\x7b\x7d" = .ok (.object []) := rfl
  simp only [Binary.load, Document.load, read_gears, hdecode, hread]
  rfl

theorem load_cogs :
    Binary.load (gearsFiles false) ⟨"", ["lost.json"]⟩ = .error (.metadata (.unreadable ⟨"", ["lost.json"]⟩)) := by
  simp only [Binary.load, Document.load, read_cogs]
  rfl

theorem gears_unnoticed :
    ofDocument ⟨"", []⟩ (.object [("images", .list gearsRecords)]) = .ok gears ∧
    (∀ q ∈ gearsCalls, gears.SameMetadata (gearsFiles false) q.1) ∧
    (gears.imageAll gearsCalls).1 =
      [.ok ⟨"g", []⟩, .error (.metadata (.unreadable ⟨"", ["lost.json"]⟩)), .ok ⟨"g", []⟩] := by
  have hfiles : ∀ q ∈ gearsCalls, gears.SameMetadata (gearsFiles false) q.1 := by
    simp [gearsCalls, sameMetadata_gears]
  have hfile : gears.findRecord "Gears" = .ok ("/x/Gears", gearsRecords[0]) := rfl
  have hpath : gears.findRecord "/x/Gears" = .ok ("/x/Gears", gearsRecords[0]) := rfl
  have hlost : gears.findRecord "Cogs" = .ok ("/y/Cogs", gearsRecords[1]) := rfl
  refine ⟨ofDocument_gears, hfiles, ?_⟩
  rw [(sessions_unnoticed ofDocument_gears hfiles).1]
  simp only [gearsCalls, List.map_cons, List.map_nil, fst_image_of_new rfl hfile, fst_image_of_new rfl hpath,
    fst_image_of_new rfl hlost]
  rw [← load_gears, ← load_cogs]
  rfl

end Gears

end SharedCache
end ObjcAtlas
