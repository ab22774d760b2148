import Mathlib.Data.List.Induction
import ObjcAtlas.AddressLookup
import ObjcAtlas.Proofs.FailingSteps
import ObjcAtlas.Proofs.InfiniteNumbers
import ObjcAtlas.Proofs.StableOrder

/-! The function at an address, told from the records of a cache document alone: the first image that spans the address,
in it the function of the least start among those that span it, and for its name the last of the symbols at that start. -/
namespace ObjcAtlas

section Earliest
variable {α : Type} {start : α → Int} {p : α → Prop} {xs : List α} {x : α}

/-- Among the entries with `p` this one has the least start, and of those that start there it comes first. -/
def IsEarliest (start : α → Int) (p : α → Prop) (xs : List α) (x : α) : Prop :=
  ∃ before after, xs = before ++ x :: after ∧ p x ∧
    (∀ y ∈ before, p y → start x < start y) ∧ ∀ y ∈ after, p y → start x ≤ start y

theorem IsEarliest.holds (h : IsEarliest start p xs x) : p x := by
  obtain ⟨-, -, -, hx, -, -⟩ := h
  exact hx

variable [DecidablePred p]

/-- Whether an entry is the earliest can be told from the entries of its own start and the starts of the others. -/
theorem isEarliest_iff : IsEarliest start p xs x ↔
    (∀ y ∈ xs, p y → start x ≤ start y) ∧ (xs.filter (start · = start x)).find? (p ·) = some x := by
  rw [List.find?_filter, List.find?_eq_some_iff_append]
  simp only [decide_eq_true_eq, Bool.not_eq_true', decide_eq_false_iff_not, true_and]
  constructor
  · rintro ⟨before, after, rfl, hx, hbefore, hafter⟩
    refine ⟨fun y hy hp => ?_, hx, before, after, rfl, fun y hy ⟨hstart, hp⟩ => ?_⟩
    · rcases List.mem_append.mp hy with hy | hy
      · exact (hbefore y hy hp).le
      · rcases List.mem_cons.mp hy with rfl | hy
        · exact le_refl _
        · exact hafter y hy hp
    · exact absurd hstart (hbefore y hy hp).ne'
  · rintro ⟨hleast, hx, before, after, rfl, hbefore⟩
    refine ⟨before, after, rfl, hx, fun y hy hp => ?_, fun y hy hp => ?_⟩
    · have hle := hleast y (List.mem_append_left _ hy) hp
      exact lt_of_le_of_ne hle fun hstart => hbefore y hy ⟨hstart.symm, hp⟩
    · exact hleast y (List.mem_append_right _ (List.mem_cons_of_mem x hy)) hp

/-- Sorting by the start changes the earliest entry for none. -/
theorem isEarliest_mergeSort_iff :
    IsEarliest start p (xs.mergeSort fun y z => decide (start y ≤ start z)) x ↔ IsEarliest start p xs x := by
  rw [isEarliest_iff, isEarliest_iff, (ordersBy_le start).filter_mergeSort]
  simp only [List.mem_mergeSort]

/-- In order of the starts the first entry is the earliest. -/
theorem find?_eq_some_iff_of_pairwise (h : xs.Pairwise fun y z => start y ≤ start z) :
    xs.find? (p ·) = some x ↔ IsEarliest start p xs x := by
  rw [List.find?_eq_some_iff_append]
  simp only [decide_eq_true_eq, Bool.not_eq_true', decide_eq_false_iff_not]
  constructor
  · rintro ⟨hx, before, after, rfl, hbefore⟩
    obtain ⟨-, hafter, -⟩ := List.pairwise_append.mp h
    exact ⟨before, after, rfl, hx, fun y hy hp => absurd hp (hbefore y hy),
      fun y hy _ => (List.pairwise_cons.mp hafter).1 y hy⟩
  · rintro ⟨before, after, rfl, hx, hbefore, -⟩
    obtain ⟨-, -, hacross⟩ := List.pairwise_append.mp h
    refine ⟨hx, before, after, rfl, fun y hy hp => ?_⟩
    exact absurd (hbefore y hy hp) (hacross y hy x List.mem_cons_self).not_gt

theorem find?_mergeSort_eq_some_iff :
    (xs.mergeSort fun y z => decide (start y ≤ start z)).find? (p ·) = some x ↔ IsEarliest start p xs x := by
  have hsorted := ((ordersBy_le start).pairwise_mergeSort xs).imp of_decide_eq_true
  rw [find?_eq_some_iff_of_pairwise hsorted, isEarliest_mergeSort_iff]

end Earliest

/-- Of the pairs of one key the last counts. -/
theorem Keyed.lookup_ofPairs {κ α : Type} [BEq κ] [LawfulBEq κ] (pairs : List (κ × α)) (key : κ) :
    (ofPairs pairs).lookup key = ((pairs.filter (·.1 == key)).getLast?).map (·.2) := by
  induction pairs using List.reverseRecOn with
  | nil => rfl
  | append_singleton pairs p ih =>
    have hput : ofPairs (pairs ++ [p]) = put p.1 p.2 (ofPairs pairs) := by simp [ofPairs]
    rw [hput, List.filter_append]
    by_cases h : p.1 = key
    · subst h
      simp [lookup_put_self]
    · have hp : [p].filter (·.1 == key) = [] := by simp [h]
      rw [lookup_put_other (Ne.symm h), ih, hp, List.append_nil]

/-! What a document says, read without making a cache of it. Of records that cannot be read nothing is asked. -/
namespace Document

/-- The address in a field; one that is left out is zero. -/
def addressAt (key : String) (d : Document) : Int :=
  match d.addressField key with
  | .ok a => a
  | .error _ => 0

/-- The record of an image or a function has the address in its half-open range. -/
def Spans (a : Int) (d : Document) : Prop := d.addressAt "start" ≤ a ∧ a < d.addressAt "end"

instance (a : Int) : DecidablePred (Spans a) := fun d =>
  inferInstanceAs (Decidable (d.addressAt "start" ≤ a ∧ a < d.addressAt "end"))

/-- The records in a field. -/
def recordsAt (key : String) (d : Document) : List Document :=
  match d.fieldItems key with
  | .ok records => records
  | .error _ => []

/-- The name that a record shows. -/
def shownName (d : Document) : String :=
  match d.field? "name" with
  | .ok (some name) => name.display
  | _ => ""

def symbolEntries (d : Document) : List (String × Document) :=
  match d.field? "symbols" with
  | .ok (some (.object entries)) => entries
  | _ => []

/-- The last symbol whose key, read as an integer, is the address. -/
def symbolAt? (d : Document) (a : Int) : Option String :=
  ((d.symbolEntries.filter fun e => Numeral.read? .marked e.1 = some a).getLast?).map (·.2.display)

/-- A function goes by the symbol at its start, if that is not empty, and else by the name in its record. -/
def functionName (d function : Document) : String :=
  match d.symbolAt? (function.addressAt "start") with
  | some symbol => if symbol = "" then function.shownName else symbol
  | none => function.shownName

/-- What is told of an address that lies in a function of an image. -/
def matchOf (d image function : Document) (a : Int) : FunctionMatch where
  address := a
  start := function.addressAt "start"
  stop := function.addressAt "end"
  name := d.functionName function
  image := Path.baseName image.shownName

variable {key : String} {d : Document} {a : Int}

theorem addressAt_eq (h : d.addressField key = .ok a) : d.addressAt key = a := by
  rw [addressAt, h]

theorem addressAt_of_field {v : Document} (hv : d.field key = .ok v) (ha : v.integer = .ok a) :
    d.addressAt key = a := by
  apply addressAt_eq
  rw [addressField, field?_of_field hv]
  exact ha

theorem shownName_of_field {v : Document} (hv : d.field "name" = .ok v) : d.shownName = v.display := by
  rw [shownName, field?_of_field hv]

theorem read?_of_integer {s : String} (h : (text s).integer = .ok a) : Numeral.read? .marked s = some a := by
  rw [integer] at h
  split at h
  · next n hn =>
    rw [hn, Except.ok.inj h]
  · cases h

theorem recordsAt_eq {records : List Document} (h : d.fieldItems key = .ok records) : d.recordsAt key = records := by
  rw [recordsAt, h]

end Document

open Document

/-! What becomes of a record that is read. -/

def FunctionRange.told (d : Document) : FunctionRange where
  start := d.addressAt "start"
  stop := d.addressAt "end"
  name := d.shownName

def CacheImage.told (d : Document) : CacheImage where
  name := d.shownName
  start := d.addressAt "start"
  stop := d.addressAt "end"
  functions := FunctionRange.sorted ((d.recordsAt "functions").map FunctionRange.told)

theorem FunctionRange.eq_told {d : Document} {f : FunctionRange} (h : ofRecord d = .ok f) : f = told d := by
  obtain ⟨start, hstart, h⟩ := exists_of_bind_eq_ok h
  obtain ⟨a, ha, h⟩ := exists_of_bind_eq_ok h
  obtain ⟨stop, hstop, h⟩ := exists_of_bind_eq_ok h
  obtain ⟨b, hb, h⟩ := exists_of_bind_eq_ok h
  obtain ⟨name, hname, h⟩ := exists_of_bind_eq_ok h
  obtain rfl := Except.ok.inj h
  rw [told, addressAt_of_field hstart ha, addressAt_of_field hstop hb, shownName, hname]
  cases name <;> rfl

theorem CacheImage.eq_told {d : Document} {i : CacheImage} (h : ofRecord d = .ok i) : i = told d := by
  obtain ⟨functions, hfunctions, h⟩ := exists_of_bind_eq_ok h
  obtain ⟨name, hname, h⟩ := exists_of_bind_eq_ok h
  obtain ⟨start, hstart, h⟩ := exists_of_bind_eq_ok h
  obtain ⟨stop, hstop, h⟩ := exists_of_bind_eq_ok h
  obtain rfl := Except.ok.inj h
  obtain ⟨records, hrecords, hfunctions⟩ := exists_of_bind_eq_ok hfunctions
  have hmap := eq_map_of_mapM_eq_ok (fun _ _ => FunctionRange.eq_told) hfunctions
  rw [told, shownName_of_field hname, addressAt_eq hstart, addressAt_eq hstop, recordsAt_eq hrecords, hmap]

theorem map_filter_of_readPairs {entries : List (String × Document)} {pairs : List (Int × String)} {a : Int}
    (h : List.Forall₂ (fun e p => Numeral.read? .marked e.1 = some p.1 ∧ e.2.display = p.2) entries pairs) :
    (entries.filter fun e => Numeral.read? .marked e.1 = some a).map (·.2.display) =
      (pairs.filter (·.1 == a)).map (·.2) := by
  induction h with
  | nil => rfl
  | @cons e p _ _ he _ ih =>
    obtain ⟨hkey, hname⟩ := he
    rw [List.filter_cons, List.filter_cons, hkey]
    by_cases ha : p.1 = a
    · simp [ha, hname, ih]
    · simp [ha, ih]

/-- The symbols are the entries of the document in their order, each with its key read as an integer. -/
theorem lookup_of_readSymbols {d : Document} {symbols : List (Int × String)} (h : readSymbols d = .ok symbols)
    (a : Int) : symbols.lookup a = d.symbolAt? a := by
  obtain ⟨v, hv, h⟩ := exists_of_bind_eq_ok h
  rw [symbolAt?, symbolEntries, hv]
  split at h
  · obtain rfl := Except.ok.inj h
    rfl
  · next entries =>
    obtain ⟨pairs, hpairs, h⟩ := exists_of_bind_eq_ok h
    obtain rfl := Except.ok.inj h
    have hread : List.Forall₂ (fun e p => Numeral.read? .marked e.1 = some p.1 ∧ e.2.display = p.2) entries pairs := by
      refine (forall₂_of_mapM_eq_ok hpairs).imp ?_
      rintro ⟨key, name⟩ p he
      obtain ⟨n, hn, he⟩ := exists_of_bind_eq_ok he
      obtain rfl := Except.ok.inj he
      exact ⟨read?_of_integer hn, rfl⟩
    rw [Keyed.lookup_ofPairs, ← List.getLast?_map, ← map_filter_of_readPairs hread, List.getLast?_map]
  · cases h

theorem FunctionRange.contains_told (a : Int) : (·.contains a) ∘ told = fun d => decide (d.Spans a) := by
  funext d
  exact (Bool.decide_and ..).symm

theorem CacheImage.contains_told (a : Int) : (·.contains a) ∘ told = fun d => decide (d.Spans a) := by
  funext d
  exact (Bool.decide_and ..).symm

/-- The functions are sorted by their starts and then searched, and so are their records. -/
theorem CacheImage.functionAt?_told (d : Document) (a : Int) : (told d).functionAt? a =
    (((d.recordsAt "functions").mergeSort fun q r => decide (q.addressAt "start" ≤ r.addressAt "start")).find?
      (·.Spans a)).map FunctionRange.told := by
  have hsort : FunctionRange.sorted ((d.recordsAt "functions").map FunctionRange.told) =
      ((d.recordsAt "functions").mergeSort fun q r => decide (q.addressAt "start" ≤ r.addressAt "start")).map
        FunctionRange.told := by
    rw [List.map_mergeSort fun _ _ _ _ => ?_, FunctionRange.sorted]
    rfl
  rw [functionAt?, told, hsort, List.find?_map, FunctionRange.contains_told]

theorem CacheImage.functionAt?_told_eq_some_iff {d : Document} {a : Int} {f : FunctionRange} :
    (told d).functionAt? a = some f ↔
      ∃ q, IsEarliest (addressAt "start") (Spans a) (d.recordsAt "functions") q ∧ FunctionRange.told q = f := by
  simp only [functionAt?_told, Option.map_eq_some_iff, find?_mergeSort_eq_some_iff]

theorem CacheImage.functionAt?_told_eq_none_iff {d : Document} {a : Int} :
    (told d).functionAt? a = none ↔ ∀ q ∈ d.recordsAt "functions", ¬ q.Spans a := by
  simp only [functionAt?_told, Option.map_eq_none_iff, List.find?_eq_none, List.mem_mergeSort, decide_eq_true_eq]

namespace SharedCache
variable {base : Path} {d : Document} {c : SharedCache}

theorem images_of_ofDocument (h : ofDocument base d = .ok c) : c.images = (d.recordsAt "images").map CacheImage.told := by
  obtain ⟨records, hrecords, h⟩ := exists_of_bind_eq_ok (eq_ok_of_mapError_eq_ok h)
  obtain ⟨images, himages, h⟩ := exists_of_bind_eq_ok h
  obtain ⟨symbols, -, h⟩ := exists_of_bind_eq_ok h
  obtain rfl := Except.ok.inj h
  rw [recordsAt_eq hrecords]
  exact eq_map_of_mapM_eq_ok (fun _ _ => CacheImage.eq_told) himages

theorem symbolAt?_of_ofDocument (h : ofDocument base d = .ok c) (a : Int) : c.symbolAt? a = d.symbolAt? a := by
  obtain ⟨records, -, h⟩ := exists_of_bind_eq_ok (eq_ok_of_mapError_eq_ok h)
  obtain ⟨images, -, h⟩ := exists_of_bind_eq_ok h
  obtain ⟨symbols, hsymbols, h⟩ := exists_of_bind_eq_ok h
  obtain rfl := Except.ok.inj h
  exact lookup_of_readSymbols hsymbols a

theorem functionName_of_ofDocument (h : ofDocument base d = .ok c) (q : Document) :
    c.functionName (FunctionRange.told q) = d.functionName q := by
  rw [functionName, symbolAt?_of_ofDocument h, Document.functionName]
  show (nonemptyText? (d.symbolAt? (q.addressAt "start"))).getD q.shownName = _
  cases d.symbolAt? (q.addressAt "start") with
  | none => rfl
  | some symbol =>
    by_cases hs : symbol = ""
    · simp [nonemptyText?, hs]
    · simp [nonemptyText?, hs]

theorem imageAt_of_ofDocument (h : ofDocument base d = .ok c) (a : Int) : c.imageAt a =
    match (d.recordsAt "images").find? (·.Spans a) with
    | some r => .ok (CacheImage.told r)
    | none => .error (.addressUnmapped a) := by
  rw [imageAt, images_of_ofDocument h, List.find?_map, CacheImage.contains_told]
  cases (d.recordsAt "images").find? (·.Spans a) <;> rfl

section Lookups
variable {slide a : Int}

theorem lookup_of_imageAt {i : CacheImage} (hi : c.imageAt (unslide slide a) = .ok i) :
    c.lookup slide a = .ok ((i.functionAt? (unslide slide a)).map fun f =>
      { address := unslide slide a, start := f.start, stop := f.stop, name := c.functionName f
        image := Path.baseName i.name }) := by
  rw [lookup, hi]
  rfl

theorem lookup_of_imageAt_error {e : Failure} (he : c.imageAt (unslide slide a) = .error e) :
    c.lookup slide a = .error e := by
  rw [lookup, he]
  rfl

/-- The first image that spans the address decides. -/
theorem lookup_eq_of_ofDocument (h : ofDocument base d = .ok c) : c.lookup slide a =
    match (d.recordsAt "images").find? (·.Spans (unslide slide a)) with
    | some r => .ok (((CacheImage.told r).functionAt? (unslide slide a)).map fun f =>
        { address := unslide slide a, start := f.start, stop := f.stop, name := c.functionName f
          image := Path.baseName r.shownName })
    | none => .error (.addressUnmapped (unslide slide a)) := by
  cases hr : (d.recordsAt "images").find? (·.Spans (unslide slide a)) with
  | some r =>
    have hi : c.imageAt (unslide slide a) = .ok (CacheImage.told r) := by rw [imageAt_of_ofDocument h, hr]
    rw [lookup_of_imageAt hi]
    rfl
  | none =>
    have he : c.imageAt (unslide slide a) = .error (.addressUnmapped (unslide slide a)) := by
      rw [imageAt_of_ofDocument h, hr]
    rw [lookup_of_imageAt_error he]

theorem lookup_eq_error_iff (h : ofDocument base d = .ok c) {e : Failure} : c.lookup slide a = .error e ↔
    e = .addressUnmapped (unslide slide a) ∧ ∀ r ∈ d.recordsAt "images", ¬ r.Spans (unslide slide a) := by
  rw [lookup_eq_of_ofDocument h]
  cases hr : (d.recordsAt "images").find? (·.Spans (unslide slide a)) with
  | some r =>
    have hspans : r.Spans (unslide slide a) := by simpa using List.find?_some hr
    exact iff_of_false nofun fun hnone => hnone.2 r (List.mem_of_find?_eq_some hr) hspans
  | none =>
    have hnone : ∀ r ∈ d.recordsAt "images", ¬ r.Spans (unslide slide a) := by simpa using List.find?_eq_none.mp hr
    simp only [Except.error.injEq, eq_comm (a := e)]
    exact (and_iff_left hnone).symm

theorem lookup_eq_none_iff (h : ofDocument base d = .ok c) : c.lookup slide a = .ok none ↔
    ∃ r, (d.recordsAt "images").find? (·.Spans (unslide slide a)) = some r ∧
      ∀ q ∈ r.recordsAt "functions", ¬ q.Spans (unslide slide a) := by
  rw [lookup_eq_of_ofDocument h]
  cases (d.recordsAt "images").find? (·.Spans (unslide slide a)) with
  | some r =>
    simp only [Except.ok.injEq, Option.map_eq_none_iff, CacheImage.functionAt?_told_eq_none_iff, Option.some.injEq,
      exists_eq_left']
  | none => simp

theorem lookup_eq_some_iff (h : ofDocument base d = .ok c) {m : FunctionMatch} : c.lookup slide a = .ok (some m) ↔
    ∃ r, (d.recordsAt "images").find? (·.Spans (unslide slide a)) = some r ∧
      ∃ q, IsEarliest (addressAt "start") (Spans (unslide slide a)) (r.recordsAt "functions") q ∧
        m = d.matchOf r q (unslide slide a) := by
  rw [lookup_eq_of_ofDocument h]
  cases (d.recordsAt "images").find? (·.Spans (unslide slide a)) with
  | some r =>
    simp only [Except.ok.injEq, Option.map_eq_some_iff, CacheImage.functionAt?_told_eq_some_iff, Option.some.injEq,
      exists_eq_left']
    constructor
    · rintro ⟨_, ⟨q, hq, rfl⟩, rfl⟩
      refine ⟨q, hq, ?_⟩
      rw [functionName_of_ofDocument h]
      rfl
    · rintro ⟨q, hq, rfl⟩
      refine ⟨FunctionRange.told q, ⟨q, hq, rfl⟩, ?_⟩
      rw [functionName_of_ofDocument h]
      rfl
  | none => simp

end Lookups

/-- A lookup goes by the document alone. It fails exactly if no image spans the address without its slide. In the first
image that spans it, it finds nothing exactly if no function spans it, and else the function of the least start, which is
told with its bounds and its name; so that the address lies within the bounds told. -/
theorem lookup_ofDocument (h : ofDocument base d = .ok c) (slide a : Int) :
    (∀ e, c.lookup slide a = .error e ↔
      e = .addressUnmapped (unslide slide a) ∧ ∀ r ∈ d.recordsAt "images", ¬ r.Spans (unslide slide a)) ∧
    (c.lookup slide a = .ok none ↔ ∃ r, (d.recordsAt "images").find? (·.Spans (unslide slide a)) = some r ∧
      ∀ q ∈ r.recordsAt "functions", ¬ q.Spans (unslide slide a)) ∧
    (∀ m, c.lookup slide a = .ok (some m) ↔
      ∃ r, (d.recordsAt "images").find? (·.Spans (unslide slide a)) = some r ∧
        ∃ q, IsEarliest (addressAt "start") (Spans (unslide slide a)) (r.recordsAt "functions") q ∧
          m = d.matchOf r q (unslide slide a)) ∧
    ∀ m, c.lookup slide a = .ok (some m) →
      m.start ≤ m.address ∧ m.address < m.stop ∧ 0 ≤ m.offset ∧ m.offset < m.size := by
  refine ⟨fun _ => lookup_eq_error_iff h, lookup_eq_none_iff h, fun _ => lookup_eq_some_iff h, ?_⟩
  intro m hm
  obtain ⟨r, -, q, hq, rfl⟩ := (lookup_eq_some_iff h).mp hm
  obtain ⟨hstart, hstop⟩ := hq.holds
  refine ⟨hstart, hstop, ?_, ?_⟩
  · exact Int.sub_nonneg_of_le hstart
  · exact Int.sub_lt_sub_right hstop _

/-! A document with images that overlap, functions of one start, and two spellings of one address. -/
section Mill

def lateRecord : Document := .object [("start", .int 40), ("end", .text "0x30"), ("name", .text "late")]
def spinRecord : Document := .object [("start", .text "0x10"), ("end", .int 48), ("name", .text "spin")]
def twinRecord : Document := .object [("start", .int 16), ("end", .text "0x28")]

def millRecord : Document :=
  .object [("name", .text "/x/Mill"), ("start", .text "0x10"), ("end", .int 64),
    ("functions", .list [lateRecord, spinRecord, twinRecord])]

def yardRecord : Document := .object [("name", .text "/y/Yard"), ("end", .int 100)]

def millDocument : Document :=
  .object [("images", .list [.object [("name", .text "/x/Ghost")], millRecord, yardRecord]),
    ("symbols", .object [("0x10", .text "_turn"), ("16", .text "_spin"), ("0x28", .text "_late")])]

def mill : SharedCache where
  base := ⟨"", []⟩
  records := [.object [("name", .text "/x/Ghost")], millRecord, yardRecord]
  images := [{ name := "/x/Ghost", start := 0, stop := 0, functions := FunctionRange.sorted [] },
    { name := "/x/Mill", start := 16, stop := 64
      functions := FunctionRange.sorted [⟨40, 48, "late"⟩, ⟨16, 48, "spin"⟩, ⟨16, 40, ""⟩] },
    { name := "/y/Yard", start := 0, stop := 100, functions := FunctionRange.sorted [] }]
  symbols := [(16, "_spin"), (40, "_late")]

theorem ofDocument_mill : ofDocument ⟨"", []⟩ millDocument = .ok mill := rfl

/-- The address is taken for the one four below, which both functions from sixteen on contain. -/
theorem lookup_mill : ofDocument ⟨"", []⟩ millDocument = .ok mill ∧
    mill.lookup 4 24 = .ok (some { address := 20, start := 16, stop := 48, name := "_spin", image := "Mill" }) := by
  refine ⟨ofDocument_mill, ?_⟩
  obtain ⟨-, -, hfound, -⟩ := lookup_ofDocument ofDocument_mill 4 24
  have hunslid : unslide 4 24 = 20 := rfl
  have hfirst : (millDocument.recordsAt "images").find? (·.Spans 20) = some millRecord := rfl
  have hfunctions : millRecord.recordsAt "functions" = [lateRecord, spinRecord, twinRecord] := rfl
  have hmatch : millDocument.matchOf millRecord spinRecord 20 = ⟨20, 16, 48, "_spin", "Mill"⟩ := rfl
  rw [hfound, hunslid]
  refine ⟨millRecord, hfirst, spinRecord, ?_, hmatch.symm⟩
  rw [hfunctions]
  exact ⟨[lateRecord], [twinRecord], rfl, by decide, by decide, by decide⟩

end Mill

end SharedCache

end ObjcAtlas
