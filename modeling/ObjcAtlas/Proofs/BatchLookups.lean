import Mathlib.Data.List.Induction
import Mathlib.Data.List.Nodup
import ObjcAtlas.CommandLine.Outcome
import ObjcAtlas.Proofs.JobRuns
import ObjcAtlas.Proofs.LocatedFunctions

/-! Looking up many addresses against looking up each of them alone: a single failure is one of all, and else what is
found for each is gathered image by image. A batch that fails has written nothing. -/
namespace ObjcAtlas

namespace Keyed
section Groups
variable {κ α β : Type} [BEq κ] [LawfulBEq κ]

/-- The entries under their keys, each key once and in the order of first mention. -/
def groupBy (keyOf : β → κ) (xs : List β) : List (κ × List β) :=
  xs.foldl (fun groups x => put (keyOf x) ((groups.lookup (keyOf x)).getD [] ++ [x]) groups) []

theorem nodup_eraseDups : ∀ keys : List κ, keys.eraseDups.Nodup
  | [] => List.nodup_nil
  | key :: rest => by
    rw [List.eraseDups_cons, List.nodup_cons]
    exact ⟨by simp [List.mem_eraseDups], nodup_eraseDups _⟩
termination_by keys => keys.length
decreasing_by exact Nat.lt_succ_of_le (List.length_filter_le _ rest)

theorem put_graph {key : κ} {f g : κ → α} (hfg : ∀ k, k ≠ key → f k = g k) {keys : List κ} (hkeys : keys.Nodup)
    (hmem : key ∈ keys) : put key (g key) (keys.map fun k => (k, f k)) = keys.map fun k => (k, g k) := by
  induction hkeys with
  | nil => cases hmem
  | @cons k rest hk _ ih =>
    by_cases he : k = key
    · subst he
      have hrest : rest.map (fun j => (j, f j)) = rest.map fun j => (j, g j) :=
        List.map_congr_left fun j hj => by rw [hfg j (hk j hj).symm]
      simp only [List.map_cons, put, beq_self_eq_true, if_true, hrest]
    · have hb : (k == key) = false := by simpa using he
      have hrest := ih ((List.mem_cons.mp hmem).resolve_left (Ne.symm he))
      simp only [List.map_cons, put, hb, Bool.false_eq_true, if_false, hrest, hfg k he]

theorem lookup_graph_eq_none {key : κ} (f : κ → α) {keys : List κ} (h : key ∉ keys) :
    (keys.map fun k => (k, f k)).lookup key = none := by
  rw [List.lookup_eq_none_iff]
  intro p hp
  obtain ⟨k, hk, rfl⟩ := List.mem_map.mp hp
  exact bne_iff_ne.mpr fun he => h (he ▸ hk)

/-- Setting one key of a function's graph changes the function there. -/
theorem put_graph_eraseDups {key : κ} {f g : κ → α} (hfg : ∀ k, k ≠ key → f k = g k) (keys : List κ) :
    put key (g key) (keys.eraseDups.map fun k => (k, f k)) = (keys ++ [key]).eraseDups.map fun k => (k, g k) := by
  rw [List.eraseDups_append]
  by_cases h : key ∈ keys
  · have hnew : [key].removeAll keys = [] := by simpa [List.removeAll] using h
    rw [hnew, List.eraseDups_nil, List.append_nil]
    exact put_graph hfg (nodup_eraseDups keys) (List.mem_eraseDups.mpr h)
  · have hkey : key ∉ keys.eraseDups := fun hmem => h (List.mem_eraseDups.mp hmem)
    have hnew : [key].removeAll keys = [key] := by simpa [List.removeAll] using h
    have hsame : keys.eraseDups.map (fun k => (k, f k)) = keys.eraseDups.map fun k => (k, g k) :=
      List.map_congr_left fun k hk => by rw [hfg k fun he => hkey (he ▸ hk)]
    rw [put_of_lookup_eq_none (lookup_graph_eq_none f hkey), hsame, hnew, List.map_append]
    rfl

/-- Grouping one by one leaves every key with its entries in their order. -/
theorem groupBy_eq (keyOf : β → κ) (xs : List β) :
    groupBy keyOf xs = (xs.map keyOf).eraseDups.map fun k => (k, xs.filter (keyOf · == k)) := by
  induction xs using List.reverseRecOn with
  | nil => rfl
  | append_singleton xs x ih =>
    let groups := (xs.map keyOf).eraseDups.map fun k => (k, xs.filter (keyOf · == k))
    have hstep : groupBy keyOf (xs ++ [x]) =
        put (keyOf x) (((groupBy keyOf xs).lookup (keyOf x)).getD [] ++ [x]) (groupBy keyOf xs) := by
      simp only [groupBy, List.foldl_append, List.foldl_cons, List.foldl_nil]
    have hknown : (groups.lookup (keyOf x)).getD [] = xs.filter (keyOf · == keyOf x) := by
      by_cases hx : keyOf x ∈ (xs.map keyOf).eraseDups
      · rw [List.lookup_graph (fun k => xs.filter (keyOf · == k)) hx, Option.getD_some]
      · have hempty : xs.filter (keyOf · == keyOf x) = [] := by
          rw [List.filter_eq_nil_iff]
          exact fun y hy he => hx (List.mem_eraseDups.mpr (List.mem_map.mpr ⟨y, hy, eq_of_beq he⟩))
        rw [lookup_graph_eq_none _ hx, hempty, Option.getD_none]
    have hself : xs.filter (keyOf · == keyOf x) ++ [x] = (xs ++ [x]).filter (keyOf · == keyOf x) := by
      simp [List.filter_append]
    have hother : ∀ k, k ≠ keyOf x → xs.filter (keyOf · == k) = (xs ++ [x]).filter (keyOf · == k) := by
      intro k hk
      simp [List.filter_append, Ne.symm hk]
    rw [hstep, ih, hknown, hself, List.map_append]
    exact put_graph_eraseDups hother (xs.map keyOf)

/-- Gathering by keys loses none and doubles none. -/
theorem perm_flatMap_filter (keyOf : β → κ) {keys : List κ} (hkeys : keys.Nodup) {xs : List β}
    (h : ∀ x ∈ xs, keyOf x ∈ keys) : (keys.flatMap fun k => xs.filter (keyOf · == k)).Perm xs := by
  induction hkeys generalizing xs with
  | nil =>
    have hxs : xs = [] := List.eq_nil_iff_forall_not_mem.mpr fun x hx => List.not_mem_nil (h x hx)
    rw [hxs]
    rfl
  | @cons key rest hkey _ ih =>
    have hrest : (rest.flatMap fun k => xs.filter (keyOf · == k)) =
        rest.flatMap fun k => (xs.filter (!keyOf · == key)).filter (keyOf · == k) := by
      refine List.flatMap_congr fun k hk => ?_
      rw [List.filter_filter]
      refine List.filter_congr fun x _ => ?_
      by_cases hx : keyOf x = k
      · simp [hx, (hkey k hk).symm]
      · simp [hx]
    rw [List.flatMap_cons, hrest]
    refine ((ih ?_).append_left _).trans (List.filter_append_perm (keyOf · == key) xs)
    intro x hx
    obtain ⟨hx, hne⟩ := List.mem_filter.mp hx
    exact (List.mem_cons.mp (h x hx)).resolve_left (by simpa using hne)

end Groups
end Keyed

namespace SharedCache

/-- Some image contains the address without its slide. -/
def isMapped (c : SharedCache) (slide a : Int) : Bool := c.images.any (·.contains (unslide slide a))

/-- The name of the image that a look-up goes to. Of an address in no image nothing is asked. -/
def homeName (c : SharedCache) (slide a : Int) : String :=
  match c.imageAt (unslide slide a) with
  | .ok i => i.name
  | .error _ => ""

/-- The function that a look-up finds, if it does. -/
def found? (c : SharedCache) (slide a : Int) : Option FunctionMatch :=
  match c.lookup slide a with
  | .ok m => m
  | .error _ => none

/-- What look-ups find, under the names of the images in the order in which they are first met; under one name in the
order of the addresses. -/
def foundByImage (c : SharedCache) (slide : Int) (addresses : List Int) : List FunctionMatch :=
  (addresses.map (c.homeName slide)).eraseDups.flatMap fun name =>
    (addresses.filter (c.homeName slide · == name)).filterMap (c.found? slide)

variable {c : SharedCache} {slide a : Int} {addresses : List Int}

theorem imageAt_of_isMapped (h : c.isMapped slide a = true) : ∃ i, c.imageAt (unslide slide a) = .ok i := by
  obtain ⟨i, hi⟩ := Option.isSome_iff_exists.mp (List.find?_isSome.mpr (List.any_eq_true.mp h))
  exact ⟨i, by rw [imageAt, hi]⟩

theorem imageAt_of_not_isMapped (h : c.isMapped slide a = false) :
    c.imageAt (unslide slide a) = .error (.addressUnmapped (unslide slide a)) := by
  have hnone : c.images.find? (·.contains (unslide slide a)) = none :=
    List.find?_eq_none.mpr fun i hi => by simpa using List.any_eq_false.mp h i hi
  rw [imageAt, hnone]

theorem lookup_of_isMapped (h : c.isMapped slide a = true) : c.lookup slide a = .ok (c.found? slide a) := by
  obtain ⟨i, hi⟩ := imageAt_of_isMapped h
  rw [found?, lookup_of_imageAt hi]

theorem lookup_of_not_isMapped (h : c.isMapped slide a = false) :
    c.lookup slide a = .error (.addressUnmapped (unslide slide a)) :=
  lookup_of_imageAt_error (imageAt_of_not_isMapped h)

/-- A look-up fails for want of an image only. -/
theorem isMapped_of_lookup_eq_error {f : Failure} (h : c.lookup slide a = .error f) : c.isMapped slide a = false := by
  cases hm : c.isMapped slide a with
  | false => rfl
  | true =>
    rw [lookup_of_isMapped hm] at h
    cases h

theorem isMapped_eq_false_iff : c.isMapped slide a = false ↔ ∃ u, c.lookup slide a = .error (.addressUnmapped u) :=
  ⟨fun h => ⟨_, lookup_of_not_isMapped h⟩, fun ⟨_, h⟩ => isMapped_of_lookup_eq_error h⟩

theorem groupByImage_of_isMapped (h : ∀ a ∈ addresses, c.isMapped slide a = true) (groups : List (String × List Int)) :
    c.groupByImage slide addresses groups = .ok (addresses.foldl (fun groups a =>
      Keyed.put (c.homeName slide a) ((groups.lookup (c.homeName slide a)).getD [] ++ [a]) groups) groups) := by
  induction addresses generalizing groups with
  | nil => rfl
  | cons a rest ih =>
    obtain ⟨ha, hrest⟩ := List.forall_mem_cons.mp h
    obtain ⟨i, hi⟩ := imageAt_of_isMapped ha
    have hname : c.homeName slide a = i.name := by rw [homeName, hi]
    rw [groupByImage, hi, List.foldl_cons, hname]
    exact ih hrest _

/-- The first address that lies in no image ends the grouping. -/
theorem groupByImage_of_not_isMapped (h : addresses.find? (!c.isMapped slide ·) = some a)
    (groups : List (String × List Int)) :
    c.groupByImage slide addresses groups = .error (.addressUnmapped (unslide slide a)) := by
  induction addresses generalizing groups with
  | nil => cases h
  | cons b rest ih =>
    cases hb : c.isMapped slide b with
    | false =>
      obtain rfl : b = a := by simpa [List.find?_cons, hb] using h
      rw [groupByImage, imageAt_of_not_isMapped hb]
      rfl
    | true =>
      obtain ⟨i, hi⟩ := imageAt_of_isMapped hb
      rw [groupByImage, hi]
      exact ih (by simpa [List.find?_cons, hb] using h) _

/-- What becomes of a batch, told by its addresses one by one. -/
theorem lookupAll_eq (c : SharedCache) (slide : Int) (addresses : List Int) : c.lookupAll slide addresses =
    match addresses.find? (!c.isMapped slide ·) with
    | some a => .error (.addressUnmapped (unslide slide a))
    | none => .ok (c.foundByImage slide addresses) := by
  cases h : addresses.find? (!c.isMapped slide ·) with
  | some a =>
    rw [lookupAll, groupByImage_of_not_isMapped h]
    rfl
  | none =>
    have hmapped : ∀ a ∈ addresses, c.isMapped slide a = true := by simpa using List.find?_eq_none.mp h
    let grouped := (addresses.map (c.homeName slide)).eraseDups.flatMap fun name =>
      addresses.filter (c.homeName slide · == name)
    have hgroups : (Keyed.groupBy (c.homeName slide) addresses).flatMap (·.2) = grouped := by
      rw [Keyed.groupBy_eq, List.flatMap_map]
    have hlookups : grouped.mapM (c.lookup slide) = .ok (grouped.map (c.found? slide)) := by
      apply mapM_eq_ok_of_forall₂
      rw [List.forall₂_same]
      intro a ha
      obtain ⟨name, -, ha⟩ := List.mem_flatMap.mp ha
      exact lookup_of_isMapped (hmapped a (List.mem_filter.mp ha).1)
    have hfound : (grouped.map (c.found? slide)).filterMap id = c.foundByImage slide addresses := by
      rw [List.filterMap_map, Function.id_comp, List.filterMap_flatMap, foundByImage]
    rw [lookupAll, groupByImage_of_isMapped hmapped]
    show ((Keyed.groupBy (c.homeName slide) addresses).flatMap (·.2)).mapM (c.lookup slide) >>= _ = _
    rw [hgroups, hlookups, ← hfound]
    rfl

theorem lookupAll_of_isMapped (h : ∀ a ∈ addresses, c.isMapped slide a = true) :
    c.lookupAll slide addresses = .ok (c.foundByImage slide addresses) := by
  have hnone : addresses.find? (!c.isMapped slide ·) = none := List.find?_eq_none.mpr (by simpa using h)
  rw [lookupAll_eq, hnone]

/-- One address without an image fails the batch. -/
theorem exists_lookupAll_eq_error (ha : a ∈ addresses) (h : c.isMapped slide a = false) :
    ∃ u, c.lookupAll slide addresses = .error (.addressUnmapped u) := by
  have hsome : (addresses.find? (!c.isMapped slide ·)).isSome := List.find?_isSome.mpr ⟨a, ha, by simp [h]⟩
  obtain ⟨b, hb⟩ := Option.isSome_iff_exists.mp hsome
  exact ⟨unslide slide b, by rw [lookupAll_eq, hb]⟩

/-- Under the names of the images stands what is found for the addresses, each as often as its address occurs. -/
theorem perm_foundByImage (c : SharedCache) (slide : Int) (addresses : List Int) :
    (c.foundByImage slide addresses).Perm (addresses.filterMap (c.found? slide)) := by
  have hkeys := Keyed.nodup_eraseDups (addresses.map (c.homeName slide))
  have hall : ∀ a ∈ addresses, c.homeName slide a ∈ (addresses.map (c.homeName slide)).eraseDups :=
    fun a ha => List.mem_eraseDups.mpr (List.mem_map_of_mem ha)
  have hperm := (Keyed.perm_flatMap_filter (c.homeName slide) hkeys hall).filterMap (c.found? slide)
  rwa [List.filterMap_flatMap] at hperm

end SharedCache

theorem Job.runOn_openCache (p : Path) (s : Session) : (openCache p).runOn s =
    match SharedCache.load s.tree p with
    | .ok c => (.ok c, { s with journal := s.journal ++ [.cacheLoaded p c.images.length], cache := some c })
    | .error f => (.error f, s) := by
  simp only [openCache, runOn_bind, runOn_get, continueWith_ok, runOn_ofExcept]
  cases SharedCache.load s.tree p <;> rfl

namespace LookupRequest

/-- The functions of the addresses in a file, before anything is printed or written. -/
def findAll (r : LookupRequest) (input : Path) (t : FileTree) : Except Failure (List FunctionMatch) := do
  let c ← SharedCache.load t r.cache
  let slide ← Address.parse r.slide
  let content ← (t.read input).mapError (readFailure input)
  let addresses ← Address.readBytes content
  c.lookupAll slide addresses

/-- Why a batch of addresses is not resolved. -/
inductive BatchFails (r : LookupRequest) (input : Path) (t : FileTree) : Prop
  | noCache {f : Failure} (h : SharedCache.load t r.cache = .error f)
  | badSlide {f : Failure} (h : Address.parse r.slide = .error f)
  | unreadable {fault : FileFault} (h : t.read input = .error fault)
  | badAddress {f : Failure} {content : ByteArray} (hread : t.read input = .ok content)
    (h : Address.readBytes content = .error f)
  | unresolved {f : Failure} {c : SharedCache} {slide a : Int} {content : ByteArray} {addresses : List Int}
    (hcache : SharedCache.load t r.cache = .ok c) (hslide : Address.parse r.slide = .ok slide)
    (hread : t.read input = .ok content) (haddresses : Address.readBytes content = .ok addresses)
    (ha : a ∈ addresses) (h : c.lookup slide a = .error f)

variable {r : LookupRequest} {input : Path} {t : FileTree} {s : Session} {f : Failure}

/-- Until all addresses are resolved, a batch only reports. -/
theorem runOn_run_of_findAll (hinput : r.input = some input) (h : r.findAll input s.tree = .error f) :
    ∃ u, r.run.runOn s = (.error f, u) ∧ u.tree = s.tree ∧ u.output = s.output := by
  have hrun : r.run = Job.openCache r.cache >>= fun c => Job.ofExcept (Address.parse r.slide) >>= fun slide =>
      runBatch c slide input r.output := by
    rw [run, hinput]
    rfl
  simp only [hrun, Job.runOn_bind, Job.runOn_openCache]
  rcases eq_error_or_of_bind_eq_error h with hc | ⟨c, hc, h⟩
  · rw [hc]
    exact ⟨_, rfl, rfl, rfl⟩
  simp only [hc, Job.continueWith_ok, Job.runOn_bind, Job.runOn_ofExcept]
  rcases eq_error_or_of_bind_eq_error h with hslide | ⟨slide, hslide, h⟩
  · rw [hslide]
    exact ⟨_, rfl, rfl, rfl⟩
  simp only [hslide, Job.continueWith_ok, runBatch, Job.runOn_bind, Job.runOn_get, Job.runOn_ofExcept]
  rcases eq_error_or_of_bind_eq_error h with hread | ⟨content, hread, h⟩
  · rw [hread]
    exact ⟨_, rfl, rfl, rfl⟩
  simp only [hread, Job.continueWith_ok, Job.runOn_bind, Job.runOn_ofExcept]
  rcases eq_error_or_of_bind_eq_error h with haddresses | ⟨addresses, haddresses, h⟩
  · rw [haddresses]
    exact ⟨_, rfl, rfl, rfl⟩
  simp only [haddresses, Job.continueWith_ok, Job.runOn_bind, Job.runOn_ofExcept, h, Job.continueWith_error]
  exact ⟨_, rfl, rfl, rfl⟩

theorem BatchFails.findAll_eq_error (h : r.BatchFails input t) : ∃ f, r.findAll input t = .error f := by
  cases hfound : r.findAll input t with
  | error f => exact ⟨f, rfl⟩
  | ok found =>
    exfalso
    obtain ⟨c, hc, hfound⟩ := exists_of_bind_eq_ok hfound
    obtain ⟨slide, hslide, hfound⟩ := exists_of_bind_eq_ok hfound
    obtain ⟨content, hcontent, hfound⟩ := exists_of_bind_eq_ok hfound
    obtain ⟨addresses, haddresses, hfound⟩ := exists_of_bind_eq_ok hfound
    have hread := eq_ok_of_mapError_eq_ok hcontent
    cases h with
    | noCache h => rw [hc] at h; cases h
    | badSlide h => rw [hslide] at h; cases h
    | unreadable h => rw [hread] at h; cases h
    | badAddress hread' h =>
      obtain rfl := Except.ok.inj (hread.symm.trans hread')
      rw [haddresses] at h
      cases h
    | unresolved hc' hslide' hread' haddresses' ha h =>
      obtain rfl := Except.ok.inj (hc.symm.trans hc')
      obtain rfl := Except.ok.inj (hslide.symm.trans hslide')
      obtain rfl := Except.ok.inj (hread.symm.trans hread')
      obtain rfl := Except.ok.inj (haddresses.symm.trans haddresses')
      obtain ⟨u, hu⟩ := SharedCache.exists_lookupAll_eq_error ha (SharedCache.isMapped_of_lookup_eq_error h)
      rw [hu] at hfound
      cases hfound

end LookupRequest

namespace SharedCache

/-- A batch of look-ups fails exactly if one of them does, and else gives what each of them finds, neither more nor less
often, under the names of the images. A command that cannot resolve all addresses of a file leaves all files as they
are, that for its results too. -/
theorem lookupAll_gathers_lookups (c : SharedCache) (slide : Int) (addresses : List Int) :
    ((∃ u, c.lookupAll slide addresses = .error (.addressUnmapped u)) ↔
      ∃ a ∈ addresses, ∃ u, c.lookup slide a = .error (.addressUnmapped u)) ∧
    ((¬ ∃ a ∈ addresses, ∃ u, c.lookup slide a = .error (.addressUnmapped u)) →
      c.lookupAll slide addresses = .ok (c.foundByImage slide addresses) ∧
      (c.foundByImage slide addresses).Perm (addresses.filterMap (c.found? slide))) ∧
    ∀ (r : LookupRequest) (input : Path) (s : Session), r.input = some input → r.BatchFails input s.tree →
      ∃ f u, r.run.runOn s = (.error f, u) ∧ u.tree = s.tree ∧ u.output = s.output := by
  have hmapped : (¬ ∃ a ∈ addresses, ∃ u, c.lookup slide a = .error (.addressUnmapped u)) →
      ∀ a ∈ addresses, c.isMapped slide a = true := by
    intro hnone a ha
    by_contra h
    exact hnone ⟨a, ha, isMapped_eq_false_iff.mp (by simpa using h)⟩
  refine ⟨⟨?fails, ?fails_of⟩, fun hnone => ⟨lookupAll_of_isMapped (hmapped hnone), perm_foundByImage c slide addresses⟩,
    ?writes_nothing⟩
  case fails =>
    rintro ⟨u, hu⟩
    by_contra hnone
    rw [lookupAll_of_isMapped (hmapped hnone)] at hu
    cases hu
  case fails_of =>
    rintro ⟨a, ha, u, hu⟩
    exact exists_lookupAll_eq_error ha (isMapped_of_lookup_eq_error hu)
  case writes_nothing =>
    intro r input s hinput h
    obtain ⟨f, hf⟩ := h.findAll_eq_error
    exact ⟨f, LookupRequest.runOn_run_of_findAll hinput hf⟩

/-- Two images of one name with another between them. -/
def scattered : SharedCache where
  base := ⟨"", []⟩
  records := []
  images := [{ name := "/x/Mill", start := 16, stop := 64, functions := [⟨16, 48, "spin"⟩] },
    { name := "/y/Yard", start := 64, stop := 100, functions := [⟨64, 80, "haul"⟩] },
    { name := "/x/Mill", start := 100, stop := 120, functions := [⟨100, 110, "grind"⟩] }]
  symbols := []

def lostBatch : LookupRequest where
  cache := ⟨"", ["cache"]⟩
  input := some ⟨"", ["in"]⟩
  output := some ⟨"", ["out"]⟩

/-- A cache without images, the address zero, and the results of an earlier batch. -/
def lostFiles : FileTree where
  nodes := [(["cache"], .file ⟨#[0x7b, 0x7d]⟩), (["in"], .file ⟨#[0x30]⟩), (["out"], .file ⟨#[0x5b, 0x5d]⟩)]

theorem read_lostFiles : lostFiles.read ⟨"", ["cache"]⟩ = .ok ⟨#[0x7b, 0x7d]⟩ ∧
    lostFiles.read ⟨"", ["in"]⟩ = .ok ⟨#[0x30]⟩ := by
  constructor
  · rw [FileTree.read, FileTree.find, String.contains_char_eq, if_neg (by decide), if_neg (by decide)]
    rfl
  · rw [FileTree.read, FileTree.find, String.contains_char_eq, if_neg (by decide), if_neg (by decide)]
    rfl

def emptyCache : SharedCache := ⟨⟨"", []⟩, [], [], [], []⟩

theorem load_lostFiles : load lostFiles ⟨"", ["cache"]⟩ = .ok emptyCache := by
  have hdecode : String.fromUTF8? ⟨#[0x7b, 0x7d]⟩ = some "\x7b\x7d" := rfl
  have hread : Document.read "\x7b\x7d" = .ok (.object []) := rfl
  simp only [load, Document.load, read_lostFiles.1, hdecode, hread]
  rfl

theorem lostBatch_fails : lostBatch.BatchFails ⟨"", ["in"]⟩ lostFiles := by
  have hslide : Address.parse lostBatch.slide = .ok 0 := rfl
  have haddresses : Address.readBytes ⟨#[0x30]⟩ = .ok [0] := rfl
  have hlost : emptyCache.lookup 0 0 = .error (.addressUnmapped 0) := rfl
  exact .unresolved load_lostFiles hslide read_lostFiles.2 haddresses List.mem_cons_self hlost

/-- The images of one name make one group, and the address beyond its functions is skipped. The results of an earlier
batch outlive one whose address is in no image. -/
theorem lookupAll_scattered :
    (¬ ∃ a ∈ [70, 20, 105, 50, 70], ∃ u, scattered.lookup 0 a = .error (.addressUnmapped u)) ∧
    scattered.lookupAll 0 [70, 20, 105, 50, 70] = .ok [⟨70, 64, 80, "haul", "Yard"⟩, ⟨70, 64, 80, "haul", "Yard"⟩,
      ⟨20, 16, 48, "spin", "Mill"⟩, ⟨105, 100, 110, "grind", "Mill"⟩] ∧
    lostBatch.BatchFails ⟨"", ["in"]⟩ lostFiles ∧
    ∃ f u, lostBatch.run.runOn { tree := lostFiles } = (.error f, u) ∧ u.tree = lostFiles := by
  obtain ⟨-, hfound, hbatch⟩ := lookupAll_gathers_lookups scattered 0 [70, 20, 105, 50, 70]
  have hnone : ¬ ∃ a ∈ [70, 20, 105, 50, 70], ∃ u, scattered.lookup 0 a = .error (.addressUnmapped u) := by
    rintro ⟨a, ha, u, hu⟩
    have hmapped : ∀ a ∈ [70, 20, 105, 50, 70], scattered.isMapped 0 a = true := by decide
    exact absurd (isMapped_of_lookup_eq_error hu) (by simp [hmapped a ha])
  obtain ⟨f, u, hrun, htree, -⟩ := hbatch lostBatch ⟨"", ["in"]⟩ { tree := lostFiles } rfl lostBatch_fails
  exact ⟨hnone, (hfound hnone).1, lostBatch_fails, f, u, hrun, htree⟩

end SharedCache

end ObjcAtlas
