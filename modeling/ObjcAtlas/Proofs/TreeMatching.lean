import ObjcAtlas.Proofs.FileLocations
import ObjcAtlas.Proofs.HeaderWriting
import ObjcAtlas.Proofs.PairedRuns

/-! File trees of one shape whose contents may differ: paths lead to the same places in both, and the same steps
succeed or fail on both. -/
namespace ObjcAtlas

/-- Nothing, two directories, or two files with related contents. -/
inductive Node.Matches (C : ByteArray → ByteArray → Prop) : Option Node → Option Node → Prop
  | absent : Matches C none none
  | directory : Matches C (some .directory) (some .directory)
  | file {c d : ByteArray} (h : C c d) : Matches C (some (.file c)) (some (.file d))

theorem Node.Matches.refl {C : ByteArray → ByteArray → Prop} (hC : ∀ c, C c c) (n : Option Node) :
    Node.Matches C n n := by
  rcases n with _ | _ | c
  · exact .absent
  · exact .directory
  · exact .file (hC c)

namespace FileTree

/-- Trees of one shape; `C` relates the contents of the files at each place. -/
structure Matches (C : Location → ByteArray → ByteArray → Prop) (t u : FileTree) : Prop where
  top : t.workingDirectory = u.workingDirectory
  node : ∀ loc, Node.Matches (C loc) (t.node? loc) (u.node? loc)

/-- Where two paths lead: to one place with matching nodes. -/
def Reaches (C : Location → ByteArray → ByteArray → Prop) (a b : Location × Option Node) : Prop :=
  a.1 = b.1 ∧ Node.Matches (C a.1) a.2 b.2

namespace Matches
variable {C : Location → ByteArray → ByteArray → Prop} {t u : FileTree}

theorem walk (h : Matches C t u) (loc : Location) (cs : List String) :
    Agree (Reaches C) (t.walk loc cs) (u.walk loc cs) := by
  induction cs generalizing loc with
  | nil => exact .ok ⟨rfl, h.node loc⟩
  | cons c cs ih =>
    have hn := h.node loc
    rw [FileTree.walk, FileTree.walk]
    generalize t.node? loc = n at hn ⊢
    generalize u.node? loc = n' at hn ⊢
    cases hn with
    | absent => exact .error FileFault.notFound
    | file _ => exact .error FileFault.notDirectory
    | directory =>
      dsimp only
      split
      · exact ih loc.dropLast
      · split
        · exact .error FileFault.nameTooLong
        · exact ih (loc ++ [c])

theorem find (h : Matches C t u) (p : Path) : Agree (Reaches C) (t.find p) (u.find p) := by
  rw [FileTree.find, FileTree.find, h.top]
  split
  · exact .error FileFault.embeddedNull
  · split
    · exact .error FileFault.nameTooLong
    · exact h.walk _ p.parts

/-- What a path leads to, said for case analysis. -/
theorem find_cases (h : Matches C t u) (p : Path) :
    (∃ f, t.find p = .error f ∧ u.find p = .error f) ∨
      ∃ loc n n', t.find p = .ok (loc, n) ∧ u.find p = .ok (loc, n') ∧ Node.Matches (C loc) n n' := by
  have hf := h.find p
  generalize t.find p = a at hf ⊢
  generalize u.find p = b at hf ⊢
  cases hf with
  | error f => exact Or.inl ⟨f, rfl, rfl⟩
  | @ok a b hr =>
    obtain ⟨loc, n⟩ := a
    obtain ⟨loc', n'⟩ := b
    obtain ⟨rfl, hn⟩ := hr
    exact Or.inr ⟨loc, n, n', rfl, rfl, hn⟩

theorem isDirectory (h : Matches C t u) (p : Path) : t.isDirectory p = u.isDirectory p := by
  rw [FileTree.isDirectory, FileTree.isDirectory, nodeAt, nodeAt]
  rcases h.find_cases p with ⟨f, ht, hu⟩ | ⟨loc, n, n', ht, hu, hn⟩
  · rw [ht, hu]
  · rw [ht, hu]
    cases hn <;> rfl

theorem set (h : Matches C t u) {loc : Location} {n n' : Node} (hn : Node.Matches (C loc) (some n) (some n')) :
    Matches C (t.set loc n) (u.set loc n') := by
  refine ⟨h.top, fun other => ?_⟩
  by_cases he : other = loc
  · subst he
    by_cases hr : other = []
    · subst hr
      exact .directory
    · rwa [node?_set_self hr, node?_set_self hr]
  · rw [node?_set_other he, node?_set_other he]
    exact h.node other

theorem makeDirectory (h : Matches C t u) (p : Path) :
    Agree (Matches C) (t.makeDirectory p) (u.makeDirectory p) := by
  rw [FileTree.makeDirectory, FileTree.makeDirectory]
  rcases h.find_cases p with ⟨f, ht, hu⟩ | ⟨loc, n, n', ht, hu, hn⟩
  · rw [ht, hu]
    exact .error f
  · rw [ht, hu]
    cases hn with
    | absent => exact .ok (h.set .directory)
    | directory => exact .error FileFault.alreadyExists
    | file _ => exact .error FileFault.alreadyExists

/-- Outcomes of steps that leave a tree either way. -/
def Leaves {α : Type} (C : Location → ByteArray → ByteArray → Prop) (a b : α × FileTree) : Prop :=
  a.1 = b.1 ∧ Matches C a.2 b.2

theorem settle (h : Matches C t u) (p : Path) {r r' : Except FileFault FileTree} (hr : Agree (Matches C) r r') :
    Leaves C (t.settle p r) (u.settle p r') := by
  cases hr with
  | ok h' => exact ⟨rfl, h'⟩
  | error f =>
    simp only [FileTree.settle, h.isDirectory p]
    split
    · next he => cases he
    · exact ⟨rfl, h⟩
    · exact ⟨rfl, h⟩
    · split
      · exact ⟨rfl, h⟩
      · exact ⟨rfl, h⟩

theorem makeDirectories (h : Matches C t u) (p : Path) :
    Leaves C (t.makeDirectories p) (u.makeDirectories p) := by
  have hm := h.makeDirectory p
  rw [FileTree.makeDirectories.eq_def t p, FileTree.makeDirectories.eq_def u p]
  generalize t.makeDirectory p = r at hm ⊢
  generalize u.makeDirectory p = r' at hm ⊢
  cases hm with
  | ok h' => exact ⟨rfl, h'⟩
  | error f =>
    by_cases hf : f = .notFound
    · subst hf
      by_cases hp : p.parts = []
      · simp only [hp, dite_true]
        exact ⟨rfl, h⟩
      · have := Path.length_parts_parent_lt hp
        simp only [hp, dite_false]
        obtain ⟨hr, hl⟩ := makeDirectories h p.parent
        generalize t.makeDirectories p.parent = q at hr hl ⊢
        generalize u.makeDirectories p.parent = q' at hr hl ⊢
        obtain ⟨r, t'⟩ := q
        obtain ⟨r', u'⟩ := q'
        obtain rfl : r = r' := hr
        cases r with
        | error f => exact ⟨rfl, hl⟩
        | ok _ => exact hl.settle p (hl.makeDirectory p)
    · have hs := h.settle p (.error f)
      cases f <;> first | exact hs | exact absurd rfl hf
termination_by p.parts.length

theorem write (h : Matches C t u) (p : Path) {c d : ByteArray} (hc : C (p.location t.workingDirectory) c d) :
    Agree (Matches C) (t.write p c) (u.write p d) := by
  rw [FileTree.write, FileTree.write]
  rcases h.find_cases p with ⟨f, ht, hu⟩ | ⟨loc, n, n', ht, hu, hn⟩
  · rw [ht, hu]
    exact .error f
  · obtain ⟨rfl, -⟩ := find_ok ht
    rw [ht, hu]
    cases hn with
    | absent => exact .ok (h.set (.file hc))
    | directory => exact .error FileFault.isDirectory
    | file _ => exact .ok (h.set (.file hc))

end Matches
end FileTree

/-- Matching trees with the working directory `top`, from which it can be told what is written where. -/
structure FileTree.MatchesAt (C : Location → ByteArray → ByteArray → Prop) (top : Location) (t u : FileTree) :
    Prop where
  matching : Matches C t u
  top : t.workingDirectory = top

section Writing
variable {C : Location → ByteArray → ByteArray → Prop} {K : SharedCache → SharedCache → Prop} {top : Location}

namespace Job

theorem paired_prepareDirectory (mode : Int) (p : Path) :
    Paired (Session.Alike (FileTree.MatchesAt C top) K) Eq (prepareDirectory mode p) (prepareDirectory mode p) := by
  intro s t h
  rw [runOn_prepareDirectory, runOn_prepareDirectory]
  split
  · exact ⟨.error _, h⟩
  · split
    · exact ⟨.error _, h⟩
    · obtain ⟨hr, ht⟩ := h.tree.matching.makeDirectories p.parent
      have htop := (FileTree.gains_makeDirectories s.tree p.parent).top.trans h.tree.top
      dsimp only
      rw [hr]
      exact ⟨.refl (fun _ => rfl) _, { h with tree := ⟨ht, htop⟩ }⟩

theorem paired_writeText (p : Path) {text text' : String} (hc : C (p.location top) text.toUTF8 text'.toUTF8) :
    Paired (Session.Alike (FileTree.MatchesAt C top) K) Eq (writeText p text) (writeText p text') := by
  intro s t h
  have hw := h.tree.matching.write p (h.tree.top ▸ hc)
  rw [runOn_writeText, runOn_writeText]
  generalize t.tree.write p text'.toUTF8 = r at hw ⊢
  cases hs : s.tree.write p text.toUTF8 with
  | error f =>
    rw [hs] at hw
    cases hw
    exact ⟨.error _, h⟩
  | ok v =>
    have htop : v.workingDirectory = top := by rw [(FileTree.write_ok hs).1, FileTree.workingDirectory_set, h.tree.top]
    rw [hs] at hw
    cases hw with
    | ok hv => exact ⟨.ok rfl, { h with tree := ⟨hv, htop⟩ }⟩

theorem paired_writeHeader {style : Header.Style} (mode : Int) {h k : Header} (hp : h.path = k.path)
    (hc : C (k.path.location top) (h.text style).toUTF8 (k.text style).toUTF8) :
    Paired (Session.Alike (FileTree.MatchesAt C top) K) Eq (writeHeader style mode h) (writeHeader style mode k) := by
  rw [writeHeader, writeHeader, hp]
  refine (paired_prepareDirectory mode k.path).bind fun _ _ _ => ?_
  refine (paired_log _).bind fun _ _ _ => ?_
  exact (paired_writeText k.path hc).bind fun _ _ _ => paired_pure rfl

/-- What holds from every working directory holds. -/
theorem paired_of_matchesAt {α β : Type} {R : α → β → Prop} {j : Job α} {k : Job β}
    (h : ∀ top, Paired (Session.Alike (FileTree.MatchesAt C top) K) R j k) :
    Paired (Session.Alike (FileTree.Matches C) K) R j k := by
  intro s t hi
  obtain ⟨hr, hi'⟩ := h s.tree.workingDirectory s t { hi with tree := ⟨hi.tree, rfl⟩ }
  exact ⟨hr, { hi' with tree := hi'.tree.matching }⟩

end Job

namespace Generator
variable {g : Generator} {m m' : Module}

/-- Two drafts come out alike if their bodies do and the contents of their headers are related. -/
theorem paired_emit {d d' : Draft} (hd : Agree (fun body body' =>
      (g.header m d body).path = (g.header m' d' body').path ∧
        C ((g.header m' d' body').path.location top) ((g.header m d body).text g.style).toUTF8
          ((g.header m' d' body').text g.style).toUTF8) d.body d'.body) :
    Job.Paired (Session.Alike (FileTree.MatchesAt C top) K) Eq (g.emit m d) (g.emit m' d') := by
  rw [emit, emit]
  generalize d.body = r at hd ⊢
  generalize d'.body = r' at hd ⊢
  cases hd with
  | error missing => exact Job.paired_throw_bind _ _ _
  | @ok body body' h =>
    refine (Job.paired_ofExcept (R := fun b b' => b = body ∧ b' = body') (.ok ⟨rfl, rfl⟩)).bind ?_
    rintro _ _ ⟨rfl, rfl⟩
    refine (Job.paired_writeHeader _ h.1 h.2).bind fun path _ hp => ?_
    subst hp
    exact (Job.paired_modifyProgress _).bind fun _ _ _ => Job.paired_pure rfl

/-- Modules of one name come out alike if their drafts do. -/
theorem paired_emitAll_of_forall₂ (hC : ∀ loc c, C loc c c) (hm : m.name = m'.name)
    (hu : ∀ names, g.umbrella m names = g.umbrella m' names) {ds ds' : List Draft}
    (hds : List.Forall₂ (fun d d' =>
      Job.Paired (Session.Alike (FileTree.MatchesAt C top) K) Eq (g.emit m d) (g.emit m' d')) ds ds') :
    Job.Paired (Session.Alike (FileTree.MatchesAt C top) K) Eq (g.emitAll m ds) (g.emitAll m' ds') := by
  refine (Job.paired_mapM hds fun _ _ h => h).bind fun paths paths' hp => ?_
  rw [List.forall₂_eq_eq_eq] at hp
  subst hp
  rw [hm, hu]
  split
  · exact Job.paired_pure rfl
  · refine (Job.paired_writeHeader _ rfl (hC _ _)).bind fun path _ hp => ?_
    subst hp
    exact Job.paired_pure rfl

/-- The same headers come out the same on matching trees. -/
theorem paired_emitAll (hC : ∀ loc c, C loc c c) (g : Generator) (m : Module) (ds : List Draft) :
    Job.Paired (Session.Alike (FileTree.Matches C) K) Eq (g.emitAll m ds) (g.emitAll m ds) := by
  refine Job.paired_of_matchesAt fun top => paired_emitAll_of_forall₂ hC rfl (fun _ => rfl) ?_
  exact List.forall₂_same.mpr fun d _ => paired_emit (.refl (fun _ => ⟨rfl, hC _ _⟩) _)

end Generator
end Writing
end ObjcAtlas
