import ObjcAtlas.Proofs.FileLocations
import ObjcAtlas.Proofs.HeaderWriting

/-! Writes that are done once more. Directories stay directories and files stay files, so that every way found once
is found again; and the texts that have been put in place, put there again in order, change nothing. -/
namespace ObjcAtlas.FileTree
variable {t u v : FileTree}

/-- `u` has a directory where `t` has one, and some file where `t` has a file. -/
structure Retains (t u : FileTree) : Prop where
  top : u.workingDirectory = t.workingDirectory
  directory : ∀ loc, t.node? loc = some .directory → u.node? loc = some .directory
  file : ∀ loc c, t.node? loc = some (.file c) → ∃ d, u.node? loc = some (.file d)

namespace Retains

theorem refl (t : FileTree) : Retains t t := ⟨rfl, fun _ h => h, fun _ c h => ⟨c, h⟩⟩

theorem trans (h : Retains t u) (h' : Retains u v) : Retains t v := by
  refine ⟨h'.top.trans h.top, fun loc hd => h'.directory loc (h.directory loc hd), fun loc c hc => ?_⟩
  obtain ⟨d, hd⟩ := h.file loc c hc
  exact h'.file loc d hd

theorem walk (h : Retains t u) {cs : List String} {start loc : Location} {n : Option Node}
    (hw : t.walk start cs = .ok (loc, n)) : u.walk start cs = .ok (loc, u.node? loc) := by
  induction cs generalizing start with
  | nil =>
    obtain ⟨rfl, -⟩ := Prod.mk.inj (Except.ok.inj hw)
    rfl
  | cons c cs ih =>
    rw [FileTree.walk] at hw ⊢
    cases hs : t.node? start with
    | none => simp [hs] at hw
    | some node =>
      cases node with
      | file _ => simp [hs] at hw
      | directory =>
        simp only [hs] at hw
        simp only [h.directory start hs]
        split at hw
        · next hc => simpa only [hc, if_true] using ih hw
        · next hc =>
          split at hw
          · cases hw
          · next hl => simpa only [hc, hl, if_false] using ih hw

theorem find (h : Retains t u) {p : Path} {loc : Location} {n : Option Node} (hf : t.find p = .ok (loc, n)) :
    u.find p = .ok (loc, u.node? loc) := by
  rw [FileTree.find] at hf ⊢
  split at hf
  · cases hf
  · next hnull =>
    split at hf
    · cases hf
    · next hl =>
      rw [if_neg hnull, if_neg hl, h.top]
      exact h.walk hf

end Retains

theorem Gains.retains (h : Gains t u) : Retains t u := by
  refine ⟨h.top, fun loc hd => ?_, fun loc c hc => ?_⟩
  · rcases h.node loc with he | ⟨hn, -⟩
    · rw [he, hd]
    · rw [hd] at hn
      cases hn
  · rcases h.node loc with he | ⟨hn, -⟩
    · exact ⟨c, by rw [he, hc]⟩
    · rw [hc] at hn
      cases hn

theorem retains_set {loc : Location} (h : t.node? loc ≠ some .directory) (content : ByteArray) :
    Retains t (t.set loc (.file content)) := by
  have hr : loc ≠ [] := fun he => h (by rw [he]; rfl)
  refine ⟨rfl, fun other hd => ?_, fun other c hc => ?_⟩
  · have hne : other ≠ loc := fun he => h (he ▸ hd)
    rw [node?_set_other hne, hd]
  · by_cases he : other = loc
    · exact ⟨content, by rw [he, node?_set_self hr]⟩
    · exact ⟨c, by rw [node?_set_other he, hc]⟩

/-- A file that has been written is found. -/
theorem find_of_write {p : Path} {content : ByteArray} (h : t.write p content = .ok u) :
    u.find p = .ok (p.location t.workingDirectory, some (.file content)) := by
  obtain ⟨rfl, hd⟩ := write_ok h
  have hself := node?_write_self h
  rw [write] at h
  split at h
  · cases h
  · cases h
  · next loc n hne hf =>
    obtain ⟨rfl, -⟩ := find_ok hf
    rw [(retains_set hd content).find hf, hself]

theorem find_of_makeDirectory {p : Path} (h : t.makeDirectory p = .ok u) :
    u.find p = .ok (p.location t.workingDirectory, some .directory) := by
  have hr := (gains_makeDirectory h).retains
  obtain ⟨hf, -, hne, rfl⟩ := makeDirectory_ok h
  rw [hr.find hf, node?_set_self hne]

theorem find_of_isDirectory {p : Path} (h : t.isDirectory p = true) : ∃ loc, t.find p = .ok (loc, some .directory) := by
  rw [isDirectory, nodeAt] at h
  cases hf : t.find p with
  | error f => cases f <;> simp [hf] at h
  | ok r =>
    obtain ⟨loc, n⟩ := r
    rw [hf] at h
    rcases n with _ | _ | _
    · cases h
    · exact ⟨loc, rfl⟩
    · cases h

/-- A directory that could be made, or was there, is found. -/
theorem find_of_settle {p : Path} (h : t.settle p (t.makeDirectory p) = (.ok (), u)) :
    ∃ loc, u.find p = .ok (loc, some .directory) := by
  cases hm : t.makeDirectory p with
  | ok v =>
    rw [hm] at h
    obtain ⟨-, rfl⟩ := Prod.mk.inj h
    exact ⟨_, find_of_makeDirectory hm⟩
  | error f =>
    have hd : t.isDirectory p = true ∧ t = u := by
      rw [hm] at h
      cases f
      case embeddedNull | notFound => cases h
      all_goals
        simp only [settle] at h
        split at h
        · next hd => exact ⟨hd, (Prod.mk.inj h).2⟩
        · cases h
    obtain ⟨hd, rfl⟩ := hd
    exact find_of_isDirectory hd

/-- A directory that has been made is found. -/
theorem find_of_makeDirectories {p : Path} (h : t.makeDirectories p = (.ok (), u)) :
    ∃ loc, u.find p = .ok (loc, some .directory) := by
  rw [makeDirectories] at h
  split at h
  · split at h
    · cases h
    · split at h
      · cases h
      · exact find_of_settle h
  · exact find_of_settle h

theorem set_set (loc : Location) (n n' : Node) (t : FileTree) : (t.set loc n).set loc n' = t.set loc n' := by
  simp only [set, Keyed.put_put]

theorem set_comm {loc other : Location} (hne : loc ≠ other) (n n' : Node) {c : ByteArray}
    (h : t.node? other = some (.file c)) : (t.set loc n).set other n' = (t.set other n').set loc n := by
  have hl : t.nodes.lookup other ≠ none := by
    rw [node?] at h
    split at h
    · cases h
    · simp [h]
  simp only [set, Keyed.put_comm hne n n' hl]

/-- Puts contents in their places one after another. -/
def place (ws : List (Location × ByteArray)) (t : FileTree) : FileTree :=
  ws.foldl (fun t w => t.set w.1 (.file w.2)) t

theorem place_append (ws ws' : List (Location × ByteArray)) (t : FileTree) :
    t.place (ws ++ ws') = (t.place ws).place ws' := List.foldl_append ..

/-- All places hold files. -/
def Holding (ws : List (Location × ByteArray)) (t : FileTree) : Prop :=
  ∀ w ∈ ws, ∃ c, t.node? w.1 = some (.file c)

theorem Holding.mono {ws : List (Location × ByteArray)} (h : t.Holding ws) (hu : Retains t u) : u.Holding ws := by
  intro w hw
  obtain ⟨c, hc⟩ := h w hw
  exact hu.file w.1 c hc

theorem Holding.retains_place {ws : List (Location × ByteArray)} (h : t.Holding ws) : Retains t (t.place ws) := by
  induction ws generalizing t with
  | nil => exact .refl t
  | cons w ws ih =>
    obtain ⟨⟨c, hc⟩, hws⟩ := List.forall_mem_cons.mp h
    have hs : Retains t (t.set w.1 (.file w.2)) := retains_set (by rw [hc]; simp) w.2
    exact hs.trans (ih (Holding.mono hws hs))

/-- What is set in another place may be set before or after. -/
theorem Holding.place_set {ws : List (Location × ByteArray)} (h : t.Holding ws) {loc : Location} (n : Node)
    (hl : ∀ w ∈ ws, w.1 ≠ loc) : (t.set loc n).place ws = (t.place ws).set loc n := by
  induction ws generalizing t with
  | nil => rfl
  | cons w ws ih =>
    obtain ⟨⟨c, hc⟩, hws⟩ := List.forall_mem_cons.mp h
    obtain ⟨hw, hl⟩ := List.forall_mem_cons.mp hl
    have hs : Retains t (t.set w.1 (.file w.2)) := retains_set (by rw [hc]; simp) w.2
    calc (t.set loc n).place (w :: ws) = ((t.set loc n).set w.1 (.file w.2)).place ws := rfl
      _ = ((t.set w.1 (.file w.2)).set loc n).place ws := by rw [set_comm hw.symm n _ hc]
      _ = (t.place (w :: ws)).set loc n := ih (Holding.mono hws hs) hl

/-- What is set last hides what was in its place before. -/
theorem Holding.set_place_set {ws : List (Location × ByteArray)} (h : t.Holding ws) (loc : Location) (n n' : Node) :
    ((t.set loc n).place ws).set loc n' = (t.place ws).set loc n' := by
  induction ws generalizing t with
  | nil => exact set_set loc n n' t
  | cons w ws ih =>
    obtain ⟨⟨c, hc⟩, hws⟩ := List.forall_mem_cons.mp h
    have hs : Retains t (t.set w.1 (.file w.2)) := retains_set (by rw [hc]; simp) w.2
    by_cases he : loc = w.1
    · have hp : (t.set loc n).place (w :: ws) = t.place (w :: ws) := by
        rw [he]
        exact congrArg (place ws) (set_set w.1 n (.file w.2) t)
      rw [hp]
    · calc ((t.set loc n).place (w :: ws)).set loc n'
          = (((t.set loc n).set w.1 (.file w.2)).place ws).set loc n' := rfl
        _ = (((t.set w.1 (.file w.2)).set loc n).place ws).set loc n' := by rw [set_comm he n _ hc]
        _ = (t.place (w :: ws)).set loc n' := ih (Holding.mono hws hs)

/-- The contents are in place: putting them there again changes nothing. -/
structure Settled (ws : List (Location × ByteArray)) (t : FileTree) : Prop where
  holding : t.Holding ws
  place : t.place ws = t

theorem settled_nil (t : FileTree) : Settled [] t := ⟨fun _ h => absurd h List.not_mem_nil, rfl⟩

namespace Settled
variable {ws : List (Location × ByteArray)} (h : t.Settled ws)
include h

theorem makeDirectory {p : Path} (hm : t.makeDirectory p = .ok u) : u.Settled ws := by
  have hg := (gains_makeDirectory hm).retains
  obtain ⟨-, hn, -, rfl⟩ := makeDirectory_ok hm
  have hl : ∀ w ∈ ws, w.1 ≠ p.location t.workingDirectory := by
    intro w hw he
    obtain ⟨c, hc⟩ := h.holding w hw
    rw [he, hn] at hc
    cases hc
  exact ⟨h.holding.mono hg, by rw [h.holding.place_set _ hl, h.place]⟩

theorem makeDirectories (p : Path) : (t.makeDirectories p).2.Settled ws :=
  makeDirectories_induction p h fun _ _ _ hu _ _ hv => hu.makeDirectory hv

/-- A write is one more content to be put in its place. -/
theorem write {p : Path} {content : ByteArray} (hw : t.write p content = .ok u) :
    u.Settled (ws ++ [(p.location t.workingDirectory, content)]) := by
  obtain ⟨rfl, hd⟩ := write_ok hw
  have hr := retains_set hd content
  have hself := node?_write_self hw
  refine ⟨List.forall_mem_append.mpr ⟨h.holding.mono hr, List.forall_mem_singleton.mpr ⟨content, hself⟩⟩, ?_⟩
  rw [place_append]
  show ((t.set _ _).place ws).set _ _ = _
  rw [h.holding.set_place_set, h.place]

end Settled
end ObjcAtlas.FileTree
