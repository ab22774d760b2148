import ObjcAtlas.Proofs.RepeatedWrites
import ObjcAtlas.Proofs.SharedPaths

/-! A run that has succeeded can be done again: images come from the cache's memory, directories are there, and each
header replaces a file with what the first run left, so that in the end nothing has changed. -/
namespace ObjcAtlas

/-- `d` is a cache like `c` that remembers at least the images that `c` remembers. -/
structure SharedCache.Retains (c d : SharedCache) : Prop where
  records : d.records = c.records
  loaded : ∀ name b, c.loaded.lookup name = some b → d.loaded.lookup name = some b

namespace SharedCache.Retains
variable {c d e : SharedCache}

theorem refl (c : SharedCache) : Retains c c := ⟨rfl, fun _ _ h => h⟩

theorem trans (h : Retains c d) (h' : Retains d e) : Retains c e :=
  ⟨h'.records.trans h.records, fun name b hb => h'.loaded name b (h.loaded name b hb)⟩

/-- A name that has no place yet takes none away. -/
theorem put {imageName : String} {b : Binary} (h : c.loaded.lookup imageName = none) :
    Retains c { c with loaded := Keyed.put imageName b c.loaded } := by
  refine ⟨rfl, fun name b' hb => ?_⟩
  have hne : name ≠ imageName := by
    rintro rfl
    rw [h] at hb
    cases hb
  simp only [Keyed.lookup_put_other hne, hb]

/-- A cache that remembers an image needs no file for it. -/
theorem image (h : Retains c d) {t : FileTree} {imageName name : String} {record : Document} {b : Binary}
    (hr : c.findRecord name = .ok (imageName, record)) (hb : c.loaded.lookup imageName = some b) :
    d.image t name = (.ok b, d) := by
  have hd : d.findRecord name = .ok (imageName, record) := by rw [← hr, findRecord, findRecord, h.records]
  simp only [SharedCache.image, hd, h.loaded imageName b hb]

end SharedCache.Retains

/-- An image is remembered once it has been loaded. -/
theorem SharedCache.retains_image {c c' : SharedCache} {t : FileTree} {name : String} {b : Binary}
    (h : c.image t name = (.ok b, c')) : Retains c c' ∧ ∀ d u, Retains c' d → d.image u name = (.ok b, d) := by
  rw [SharedCache.image] at h
  split at h
  · cases h
  · next imageName record hr =>
    split at h
    · next b' hb =>
      obtain ⟨he, rfl⟩ := Prod.mk.inj h
      obtain rfl := Except.ok.inj he
      exact ⟨.refl c, fun d u hd => hd.image hr hb⟩
    · next hb =>
      split at h
      · cases h
      · obtain ⟨he, rfl⟩ := Prod.mk.inj h
        obtain rfl := Except.ok.inj he
        refine ⟨.put hb, fun d u hd => ?_⟩
        exact hd.image (c := { c with loaded := Keyed.put imageName _ c.loaded }) hr (Keyed.lookup_put_self _ _ _)

namespace Session

/-- What was found in `s`, in its files and in its cache, is found in `t`. -/
structure Retains (s t : Session) : Prop where
  tree : s.tree.Retains t.tree
  cache : Option.Rel SharedCache.Retains s.cache t.cache

/-- `v` is `u` with contents put in their places and operations as before. -/
structure Redone (ws : List (Location × ByteArray)) (u v : Session) : Prop where
  tree : v.tree = u.tree.place ws
  cache : v.cache = u.cache
  operations : v.progress.operations = u.progress.operations

variable {s t u v : Session} {ws ws' : List (Location × ByteArray)}

theorem retains_of_eq (ht : t.tree = s.tree) (hc : t.cache = s.cache) : Retains s t := by
  refine ⟨ht ▸ .refl _, ?_⟩
  rw [hc]
  cases s.cache with
  | none => exact .none
  | some c => exact .some (.refl c)

theorem Retains.trans (h : Retains s t) (h' : Retains t u) : Retains s u := by
  refine ⟨h.tree.trans h'.tree, ?_⟩
  have hc := h.cache
  have hc' := h'.cache
  generalize s.cache = c at hc ⊢
  generalize t.cache = d at hc hc'
  generalize u.cache = e at hc' ⊢
  cases hc with
  | none => exact hc'
  | some hcd =>
    cases hc' with
    | some hde => exact .some (hcd.trans hde)

theorem Retains.isNone_cache (h : Retains s t) : s.cache.isNone = t.cache.isNone := by
  have hc := h.cache
  generalize s.cache = c at hc ⊢
  generalize t.cache = d at hc ⊢
  cases hc <;> rfl

theorem Redone.trans (h : Redone ws s t) (h' : Redone ws' t u) : Redone (ws ++ ws') s u :=
  ⟨by rw [h'.tree, h.tree, FileTree.place_append], h'.cache.trans h.cache, h'.operations.trans h.operations⟩

theorem Redone.retains (h : Redone ws u v) (hw : u.tree.Holding ws) : Retains u v := by
  have hr : Retains { u with tree := v.tree } v := retains_of_eq rfl h.cache
  exact ⟨h.tree ▸ hw.retains_place, hr.cache⟩

end Session
open ObjcAtlas.Session (Redone)

namespace Job
variable {α β : Type} {job : Job α}

/-- The job, which has led from `s` to `t` with the value `a`, leads to it again from every session that retains what
was found in `t`. All it does then to the files is to put `ws` in place, which is what it has left in `t`. -/
structure Redoes (job : Job α) (a : α) (ws : List (Location × ByteArray)) (s t : Session) : Prop where
  retains : s.Retains t
  settled : ∀ ws', s.tree.Settled ws' → t.tree.Settled (ws' ++ ws)
  again : ∀ u, t.Retains u → ∃ v, job.runOn u = (.ok a, v) ∧ Redone ws u v

/-- Where the job succeeds it can be done again. -/
def Repeatable (job : Job α) : Prop := ∀ s a t, job.runOn s = (.ok a, t) → ∃ ws, job.Redoes a ws s t

theorem Redoes.holding {a : α} {ws : List (Location × ByteArray)} {s t : Session} (h : job.Redoes a ws s t) :
    t.tree.Holding ws := (h.settled [] (FileTree.settled_nil _)).holding

theorem repeatable_silent (r : Except Failure α) (h : ∀ s, (job.runOn s).1 = r ∧ Redone [] s (job.runOn s).2) :
    Repeatable job := by
  intro s a t ht
  have hs := h s
  rw [ht] at hs
  obtain ⟨rfl, hst⟩ := hs
  refine ⟨[], Session.retains_of_eq hst.tree hst.cache, fun ws hw => ?_, fun u _ => ?_⟩
  · rw [List.append_nil, hst.tree]
    exact hw
  · exact ⟨(job.runOn u).2, Prod.ext (h u).1 rfl, (h u).2⟩

theorem repeatable_pure (a : α) : Repeatable (pure a) := repeatable_silent _ fun _ => ⟨rfl, rfl, rfl, rfl⟩

theorem repeatable_log (e : Event) : Repeatable (log e) := repeatable_silent _ fun _ => ⟨rfl, rfl, rfl, rfl⟩

theorem repeatable_ofExcept (r : Except Failure α) : Repeatable (ofExcept r) :=
  repeatable_silent r fun s => by
    rw [runOn_ofExcept]
    exact ⟨rfl, rfl, rfl, rfl⟩

theorem repeatable_countHeader : Repeatable countHeader := repeatable_silent _ fun _ => ⟨rfl, rfl, rfl, rfl⟩

theorem repeatable_reportSummary : Repeatable reportSummary := repeatable_silent _ fun _ => ⟨rfl, rfl, rfl, rfl⟩

theorem Repeatable.bind {k : α → Job β} (h : Repeatable job) (hk : ∀ a, Repeatable (k a)) :
    Repeatable (job >>= k) := by
  intro s b t' ht'
  rw [runOn_bind] at ht'
  generalize hr : job.runOn s = r at ht'
  obtain ⟨f | a, t⟩ := r
  · cases ht'
  · obtain ⟨ws, hj⟩ := h s a t hr
    obtain ⟨ws', hk'⟩ := hk a t b t' ht'
    refine ⟨ws ++ ws', hj.retains.trans hk'.retains, fun ws₀ hw => ?_, fun u hu => ?_⟩
    · rw [← List.append_assoc]
      exact hk'.settled _ (hj.settled _ hw)
    · obtain ⟨v, hv, huv⟩ := hj.again u (hk'.retains.trans hu)
      -- the first job writes where files are by now
      have hold : u.tree.Holding ws := hj.holding.mono (hk'.retains.trans hu).tree
      obtain ⟨v', hv', hvv⟩ := hk'.again v (hu.trans (huv.retains hold))
      exact ⟨v', by rw [runOn_bind, hv, continueWith_ok, hv'], huv.trans hvv⟩

theorem repeatable_mapM {job : α → Job β} (h : ∀ x, Repeatable (job x)) (xs : List α) :
    Repeatable (xs.mapM job) := by
  induction xs with
  | nil => exact repeatable_pure []
  | cons x xs ih =>
    rw [List.mapM_cons]
    exact (h x).bind fun y => ih.bind fun ys => repeatable_pure _

/-- A job around another one that adds nothing to files or cache and puts back what it does to the operations. -/
theorem Repeatable.around {body : Job α} (start : Session → Session) (h : Repeatable body)
    (hstart : ∀ s, (start s).tree = s.tree ∧ (start s).cache = s.cache)
    (hdone : ∀ s a t, job.runOn s = (.ok a, t) →
      ∃ t', body.runOn (start s) = (.ok a, t') ∧ t.tree = t'.tree ∧ t.cache = t'.cache)
    (hagain : ∀ u a v', body.runOn (start u) = (.ok a, v') →
      v'.progress.operations = (start u).progress.operations →
      ∃ v, job.runOn u = (.ok a, v) ∧ v.tree = v'.tree ∧ v.cache = v'.cache ∧
        v.progress.operations = u.progress.operations) : Repeatable job := by
  intro s a t ht
  obtain ⟨t', ht', htree, hcache⟩ := hdone s a t ht
  obtain ⟨ws, hb⟩ := h _ a t' ht'
  have hs : s.Retains (start s) := Session.retains_of_eq (hstart s).1 (hstart s).2
  have hend : t'.Retains t := Session.retains_of_eq htree hcache
  refine ⟨ws, (hs.trans hb.retains).trans hend, fun ws₀ hw => ?_, fun u hu => ?_⟩
  · rw [htree]
    exact hb.settled ws₀ ((hstart s).1.symm ▸ hw)
  · have hu' : u.Retains (start u) := Session.retains_of_eq (hstart u).1 (hstart u).2
    obtain ⟨v', hv', huv'⟩ := hb.again (start u) ((hend.trans hu).trans hu')
    obtain ⟨v, hv, hvtree, hvcache, hops⟩ := hagain u a v' hv' huv'.operations
    refine ⟨v, hv, ?_, ?_, hops⟩
    · rw [hvtree, huv'.tree, (hstart u).1]
    · rw [hvcache, huv'.cache, (hstart u).2]

theorem Repeatable.module (name : String) (h : Repeatable job) : Repeatable (Job.module name job) := by
  refine h.around (beginModule name) (fun s => ⟨rfl, rfl⟩) (fun s a t ht => ?_) fun u a v hv hops => ?_
  · rw [runOn_module] at ht
    obtain ⟨ha, rfl⟩ := Prod.mk.inj ht
    exact ⟨_, Prod.ext ha rfl, rfl, rfl⟩
  · rw [runOn_module, hv]
    exact ⟨_, rfl, rfl, rfl, hops⟩

theorem Repeatable.reportingFailure (function : String) (h : Repeatable job) :
    Repeatable (Job.reportingFailure function job) := by
  refine h.around id (fun s => ⟨rfl, rfl⟩) (fun s a t ht => ?_) fun u a v hv hops => ?_
  · rw [runOn_reportingFailure] at ht
    split at ht
    · next b t' hr =>
      obtain ⟨hb, rfl⟩ := Prod.mk.inj ht
      exact ⟨t', hr.trans (Prod.ext hb rfl), rfl, rfl⟩
    · cases ht
  · rw [id] at hv
    refine ⟨v, ?_, rfl, rfl, hops⟩
    rw [runOn_reportingFailure, hv]

/-- The operation that is taken off the stack at the end is the one that was put there at the start. -/
theorem Repeatable.operation (name : String) (h : Repeatable job) : Repeatable (Job.operation name job) := by
  refine h.around (beginOperation name) (fun s => ⟨rfl, rfl⟩) (fun s a t ht => ?_) fun u a v hv hops => ?_
  · rw [runOn_operation, runOn_popOperation] at ht
    generalize job.runOn (beginOperation name s) = r at ht
    split at ht
    · cases ht
    · rw [continueWith_ok, runOn_ofExcept] at ht
      obtain ⟨ha, rfl⟩ := Prod.mk.inj ht
      exact ⟨r.2, Prod.ext ha rfl, rfl, rfl⟩
  · have hne : ¬ v.progress.operations.isEmpty := by simp [hops, beginOperation]
    have hrun : (Job.operation name job).runOn u = (.ok a, { v with
        journal := v.journal ++ [operationEnd name (.ok a : Except Failure α)]
        progress := { v.progress with operations := v.progress.operations.dropLast } }) := by
      rw [runOn_operation, runOn_popOperation, hv, if_neg hne, continueWith_ok, runOn_ofExcept]
    refine ⟨_, hrun, rfl, rfl, ?_⟩
    show v.progress.operations.dropLast = u.progress.operations
    rw [hops]
    exact List.dropLast_concat

/-- Whether there is a cache does not change. -/
theorem Repeatable.ite_cache {k : Job α} (h : Repeatable job) (hk : Repeatable k) :
    Repeatable (do if (← get).cache.isNone then job else k) := by
  have hrun : ∀ u : Session, (do if (← get).cache.isNone then job else k : Job α).runOn u =
      (if u.cache.isNone then job else k).runOn u := fun u => by rw [runOn_bind, runOn_get, continueWith_ok]
  intro s a t ht
  rw [hrun] at ht
  obtain ⟨ws, hj⟩ : ∃ ws, (if s.cache.isNone then job else k).Redoes a ws s t := by
    by_cases hc : s.cache.isNone
    · rw [if_pos hc] at ht ⊢
      exact h s a t ht
    · rw [if_neg hc] at ht ⊢
      exact hk s a t ht
  refine ⟨ws, hj.retains, hj.settled, fun u hu => ?_⟩
  rw [hrun, ← (hj.retains.trans hu).isNone_cache]
  exact hj.again u hu

/-- An image that the cache remembers by now needs no file. -/
theorem repeatable_image (name : String) : Repeatable (image name) := by
  intro s b t ht
  rw [runOn_image] at ht
  cases hs : s.cache with
  | none =>
    rw [hs] at ht
    cases ht
  | some c =>
    rw [hs] at ht
    obtain ⟨hb, rfl⟩ := Prod.mk.inj ht
    obtain ⟨hc, hagain⟩ := SharedCache.retains_image (Prod.ext hb rfl : c.image s.tree name = (.ok b, _))
    refine ⟨[], ⟨.refl _, by rw [hs]; exact .some hc⟩, fun ws hw => ?_, fun u hu => ⟨u, ?_, rfl, rfl, rfl⟩⟩
    · rwa [List.append_nil]
    · have hd := hu.cache
      rw [runOn_image]
      generalize hcu : u.cache = d at hd ⊢
      cases hd with
      | some hd =>
        simp only [hagain _ u.tree hd]
        rw [← hcu]

/-- The directories are there by now. -/
theorem repeatable_prepareDirectory (mode : Int) (p : Path) : Repeatable (prepareDirectory mode p) := by
  intro s a t ht
  rw [runOn_prepareDirectory] at ht
  split at ht
  · cases ht
  · next hnull =>
    split at ht
    · cases ht
    · next hm =>
      have hg := (FileTree.gains_makeDirectories s.tree p.parent).retains
      have hsettled : ∀ ws, s.tree.Settled ws → (s.tree.makeDirectories p.parent).2.Settled ws :=
        fun ws hw => hw.makeDirectories p.parent
      generalize hr : s.tree.makeDirectories p.parent = r at ht hg hsettled
      obtain ⟨f | _, tree⟩ := r
      · cases ht
      · obtain ⟨-, rfl⟩ := Prod.mk.inj ht
        obtain ⟨loc, hd⟩ := FileTree.find_of_makeDirectories hr
        refine ⟨[], ⟨hg, (Session.retains_of_eq rfl rfl : s.Retains s).cache⟩, fun ws hw => ?_, fun u hu =>
          ⟨u, ?_, rfl, rfl, rfl⟩⟩
        · rw [List.append_nil]
          exact hsettled ws hw
        · have hu' : u.tree.find p.parent = .ok (loc, some .directory) := by
            rw [hu.tree.find hd, hu.tree.directory loc (FileTree.find_ok hd).2.symm]
          rw [runOn_prepareDirectory, if_neg hnull, if_neg hm, FileTree.makeDirectories_of_find hu']
          rfl

/-- A file is in the place by now, which is replaced. -/
theorem repeatable_writeText (p : Path) (text : String) : Repeatable (writeText p text) := by
  intro s a t ht
  rw [runOn_writeText] at ht
  split at ht
  · next tree hw =>
    obtain ⟨-, rfl⟩ := Prod.mk.inj ht
    have hset := FileTree.write_ok hw
    refine ⟨[(p.location s.tree.workingDirectory, text.toUTF8)],
      ⟨?_, (Session.retains_of_eq rfl rfl : s.Retains s).cache⟩,
      fun ws hws => hws.write hw, fun u hu => ?_⟩
    · rw [hset.1]
      exact FileTree.retains_set hset.2 _
    · have hfound : tree.find p = .ok (p.location s.tree.workingDirectory, some (.file text.toUTF8)) :=
        FileTree.find_of_write hw
      obtain ⟨c, hc⟩ := hu.tree.file _ _ (FileTree.find_ok hfound).2.symm
      have hu' : u.tree.find p = .ok (p.location s.tree.workingDirectory, some (.file c)) := by
        rw [hu.tree.find hfound, hc]
      refine ⟨{ u with tree := u.tree.set (p.location s.tree.workingDirectory) (.file text.toUTF8) }, ?_, rfl, rfl, rfl⟩
      rw [runOn_writeText, FileTree.write_of_find _ hu' (by simp)]
  · cases ht

end Job

namespace FoundationIndex

theorem repeatable_imageNames (image : String) : (imageNames image).Repeatable :=
  (Job.repeatable_image image).bind fun b => (Job.repeatable_ofExcept b.classes).bind fun _ =>
    (Job.repeatable_ofExcept b.protocols).bind fun _ => Job.repeatable_pure _

theorem repeatable_scan (images : List String) : (scan images).Repeatable := by
  refine Job.Repeatable.reportingFailure _ (Job.Repeatable.ite_cache (Job.repeatable_pure _) ?_)
  exact (Job.repeatable_mapM repeatable_imageNames images).bind fun _ =>
    (Job.repeatable_log _).bind fun _ => Job.repeatable_pure _

end FoundationIndex

namespace Generator
variable (g : Generator) (f : FoundationIndex)

theorem repeatable_writeHeader (h : Header) : (g.writeHeader h).Repeatable :=
  (Job.repeatable_prepareDirectory _ _).bind fun _ => (Job.repeatable_log _).bind fun _ =>
    (Job.repeatable_writeText _ _).bind fun _ => Job.repeatable_pure _

theorem repeatable_emit (m : Module) (d : Draft) : (g.emit m d).Repeatable :=
  (Job.repeatable_ofExcept _).bind fun _ => (g.repeatable_writeHeader _).bind fun _ =>
    Job.repeatable_countHeader.bind fun _ => Job.repeatable_pure _

theorem repeatable_emitAll (m : Module) (ds : List Draft) : (g.emitAll m ds).Repeatable := by
  refine (Job.repeatable_mapM (g.repeatable_emit m) ds).bind fun headers => ?_
  split
  · exact Job.repeatable_pure _
  · exact (g.repeatable_writeHeader _).bind fun _ => Job.repeatable_pure _

theorem repeatable_writeModule (b : Binary) : (g.writeModule f b).Repeatable := by
  rw [writeModule]
  split
  · exact (Job.repeatable_log _).bind fun _ => Job.repeatable_pure none
  · exact (Job.repeatable_ofExcept _).bind fun m =>
      ((g.repeatable_emitAll m _).module m.name).bind fun _ => Job.repeatable_pure _

theorem repeatable_run : g.run.Repeatable := by
  refine Job.Repeatable.reportingFailure _ (((FoundationIndex.repeatable_scan _).operation _).bind fun f => ?_)
  exact (Job.repeatable_mapM (g.repeatable_writeModule f) _).bind fun _ =>
    Job.repeatable_reportSummary.bind fun _ => Job.repeatable_pure _

variable {g} in
/-- A run that has succeeded succeeds again with the same result, and every file, every directory and every image
stays as the first run has left it. -/
theorem run_again {s t : Session} {r : FoundationIndex × List ModuleResult} (h : g.run.runOn s = (.ok r, t)) :
    ∃ u, g.run.runOn t = (.ok r, u) ∧ u.tree = t.tree ∧ u.cache = t.cache := by
  obtain ⟨ws, hr⟩ := g.repeatable_run s r t h
  obtain ⟨u, hu, hdone⟩ := hr.again t (Session.retains_of_eq rfl rfl)
  have hset : t.tree.Settled ws := hr.settled [] (FileTree.settled_nil _)
  exact ⟨u, hu, hdone.tree.trans hset.place, hdone.cache⟩

/-- Also where two headers of the run take turns in one place. -/
theorem spins_again :
    (plain spins).run.runOn filesOnly = (.ok ((plain spins).results {}), ((plain spins).run.runOn filesOnly).2) ∧
      ∃ u, (plain spins).run.runOn ((plain spins).run.runOn filesOnly).2 = (.ok ((plain spins).results {}), u) ∧
        u.tree = ((plain spins).run.runOn filesOnly).2.tree ∧ u.cache = ((plain spins).run.runOn filesOnly).2.cache :=
  have h : (plain spins).run.runOn filesOnly =
      (.ok ((plain spins).results {}), ((plain spins).run.runOn filesOnly).2) := Prod.ext runOn_spins rfl
  ⟨h, run_again h⟩

end Generator
end ObjcAtlas
