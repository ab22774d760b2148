import Mathlib.Data.List.Forall2
import ObjcAtlas.Proofs.SuccessfulRuns

/-! When two headers of one binary have one guard. A guard is made of the bare name of what the header is for,
while the file is named after its kind as well, so headers of different files can share a guard. -/
namespace ObjcAtlas
open ObjcAtlas.Module (Item)

namespace HeaderName

/-- A guard does not tell a hyphen from an underscore. -/
def SameLetter (c d : Char) : Prop := c = d ∨ (c = '-' ∨ c = '_') ∧ (d = '-' ∨ d = '_')

/-- Names that differ in hyphens and underscores only. -/
def Alike (a b : String) : Prop := List.Forall₂ SameLetter a.toList b.toList

theorem sameLetter_iff {c d : Char} :
    SameLetter c d ↔ (if c = '-' then '_' else c) = if d = '-' then '_' else d := by
  unfold SameLetter
  grind

theorem guard_eq_iff {a b : String} : guard a = guard b ↔ Alike a b := by
  simp only [guard, Text.replaceChar, String.ofList_inj, Alike]
  generalize a.toList = cs
  generalize b.toList = ds
  induction cs generalizing ds with
  | nil =>
    rw [List.map_nil, List.forall₂_nil_left_iff, eq_comm, List.map_eq_nil_iff]
  | cons c cs ih =>
    cases ds with
    | nil => simp
    | cons d ds => rw [List.forall₂_cons, ← ih, sameLetter_iff, List.map_cons, List.map_cons, List.cons.injEq]

theorem Alike.length_eq {a b : String} (h : Alike a b) : a.length = b.length := by
  simpa only [String.length_toList] using List.Forall₂.length_eq h

theorem Alike.count_plus_eq {a b : String} (h : Alike a b) : a.toList.count '+' = b.toList.count '+' := by
  unfold Alike at h
  generalize a.toList = cs at h
  generalize b.toList = ds at h
  induction h with
  | nil => rfl
  | @cons c d cs ds hc _ ih =>
    have hcd : (c == '+') = (d == '+') := by
      unfold SameLetter at hc
      grind
    simp only [List.count_cons, ih, hcd]

namespace Form

theorem plain_fileName_ne_ofProtocol {m n : String} (h : Alike m n) :
    (plain m).fileName ≠ (ofProtocol n).fileName := by
  intro hf
  have hl := congrArg String.length hf
  have := h.length_eq
  simp only [fileName, HeaderName.ofProtocol, String.length_append] at hl
  have : ".h".length = 2 := rfl
  have : "-Protocol.h".length = 11 := rfl
  omega

theorem plain_fileName_ne_extension {m base n : String} (h : Alike m n) :
    (plain m).fileName ≠ (extension base n).fileName := by
  intro hf
  have hl := congrArg String.length hf
  have := h.length_eq
  simp only [fileName, String.length_append] at hl
  have : "+".length = 1 := rfl
  omega

/-- The plus sign of a category's file cannot stand in a protocol's whose name is alike. -/
theorem ofProtocol_fileName_ne_extension {m base n : String} (h : Alike m n) :
    (ofProtocol m).fileName ≠ (extension base n).fileName := by
  intro hf
  have hc := congrArg (fun s => s.toList.count '+') hf
  have := h.count_plus_eq
  simp only [fileName, HeaderName.ofProtocol, String.toList_append, List.count_append] at hc
  have : "+".toList.count '+' = 1 := rfl
  have : ".h".toList.count '+' = 0 := rfl
  have : "-Protocol.h".toList.count '+' = 0 := rfl
  omega

/-- Names that are alike have one length, so that the file names can be cut at the same place. -/
theorem extension_fileName_eq_iff {base n base' n' : String} (h : Alike n n') :
    (extension base n).fileName = (extension base' n').fileName ↔ base = base' ∧ n = n' := by
  constructor
  · intro hf
    have hs : base ++ "+" ++ n = base' ++ "+" ++ n' := (String.append_left_inj _).mp hf
    rw [← String.toList_inj] at hs
    simp only [String.toList_append] at hs
    have hl : n.toList.length = n'.toList.length := by
      simpa only [String.length_toList] using h.length_eq
    obtain ⟨hb, hn⟩ := List.append_inj' hs hl
    exact ⟨String.toList_inj.mp (List.append_cancel_right hb), String.toList_inj.mp hn⟩
  · rintro ⟨rfl, rfl⟩
    rfl

theorem fileName_eq_iff_of_alike {x y : Form} (h : Alike x.name y.name) : x.fileName = y.fileName ↔ x = y := by
  have h' : Alike y.name x.name := guard_eq_iff.mp (guard_eq_iff.mpr h).symm
  cases x with
  | plain m =>
    cases y with
    | plain n => simp only [fileName, String.append_left_inj, plain.injEq]
    | ofProtocol n => exact iff_of_false (plain_fileName_ne_ofProtocol h) (by simp)
    | extension base n => exact iff_of_false (plain_fileName_ne_extension h) (by simp)
  | ofProtocol m =>
    cases y with
    | plain n => exact iff_of_false (plain_fileName_ne_ofProtocol h').symm (by simp)
    | ofProtocol n => simp only [fileName, HeaderName.ofProtocol, String.append_left_inj, ofProtocol.injEq]
    | extension base n => exact iff_of_false (ofProtocol_fileName_ne_extension h) (by simp)
  | extension base m =>
    cases y with
    | plain n => exact iff_of_false (plain_fileName_ne_extension h').symm (by simp)
    | ofProtocol n => exact iff_of_false (ofProtocol_fileName_ne_extension h').symm (by simp)
    | extension base' n => exact (extension_fileName_eq_iff h).trans (extension.injEq ..).to_iff.symm

end Form
end HeaderName

theorem Header.guardLines_eq_iff {h k : Header} :
    h.guardLines = k.guardLines ↔ HeaderName.Alike h.name k.name := by
  rw [← HeaderName.guard_eq_iff]
  simp only [guardLines, List.cons.injEq, String.append_left_inj, String.append_right_inj, and_true, and_self]

namespace Generator
variable (g : Generator) (f : FoundationIndex)

/-- Two headers of a run have different files and one guard exactly when their names agree up to hyphens and underscores
and their forms differ, be it in kind, in base class or in name. -/
theorem exists_writes_guardLines_eq_iff (b : Binary) (s : Session) :
    ∃ ws, g.Writes f b s ws ∧ ∀ m, b.module? = some m → ∀ v ∈ ws, ∀ w ∈ ws,
      (v.2.path = g.directory m ++ Path.ofString (g.form f m v.1).fileName ∧ v.2.name = (g.form f m v.1).name) ∧
      ((g.form f m v.1).fileName ≠ (g.form f m w.1).fileName ∧ v.2.guardLines = w.2.guardLines ↔
        g.form f m v.1 ≠ g.form f m w.1 ∧ HeaderName.Alike v.2.name w.2.name) := by
  obtain ⟨ws, hws⟩ := g.exists_writes f b s
  refine ⟨ws, hws, fun m hm v hv w hw => ?_⟩
  refine ⟨hws.form g f hm hv, ?_⟩
  rw [Header.guardLines_eq_iff, (hws.form g f hm hv).2, (hws.form g f hm hw).2]
  constructor
  · rintro ⟨hf, ha⟩
    exact ⟨fun he => hf (congrArg _ he), ha⟩
  · rintro ⟨hne, ha⟩
    exact ⟨fun hf => hne ((HeaderName.Form.fileName_eq_iff_of_alike ha).mp hf), ha⟩

/-! A module with a class and a protocol of one name, written into a directory that holds files only. -/
section Namesakes

def namesakes : Binary where
  name := "M"
  fields := [("objc", .object [
    ("classes", .list [.object [("name", .text "X")]]),
    ("protocols", .list [.object [("name", .text "X"), ("identity", .int 1)]])])]

def namesakeModule : Module where
  name := "M"
  classes := [{ name := "X" }]
  protocols := [{ name := "X", identity := 1 }]

def namesakeGenerator : Generator where
  settings := {}
  output := {}
  toolVersion := ""
  binary := namesakes

theorem ofBinary_namesakes : Module.ofBinary namesakes = .ok namesakeModule := by
  have hi : namesakes.installName? = .ok none := rfl
  have hb : namesakes.buildVersions = .ok [] := rfl
  have hc : namesakes.classes = .ok [{ name := "X" }] := rfl
  have hp : namesakes.protocols = .ok [{ name := "X", identity := 1 }] := rfl
  have hk : namesakes.categories = .ok [] := rfl
  rw [Module.ofBinary, hi, hb, hc, hp, hk]
  simp only [bind, Except.bind, pure, Except.pure, ObjcClass.sorted, ObjcProtocol.sorted, Category.sorted,
    List.mergeSort_singleton, List.mergeSort_nil]
  rfl

theorem Ready.runOn_writeModule {s : Session} (hs : Ready s.tree) :
    ∃ r, ((namesakeGenerator.writeModule {} namesakes).runOn s).1 = .ok r := by
  have hm : namesakes.module? = some namesakeModule := by
    rw [Binary.module?, ofBinary_namesakes]
    rfl
  have hw : (plain namesakes).CanWrite {} namesakeModule s.tree :=
    hs.canWrite rfl (by decide) (List.forall_mem_cons.mpr ⟨⟨_, rfl⟩, List.forall_mem_singleton.mpr ⟨_, rfl⟩⟩)
  obtain ⟨t, ht, -⟩ := (plain namesakes).succeeds_writeModule {} hm hw
  exact ⟨_, congrArg Prod.fst ht⟩

/-- Headers of different files can share a guard. -/
theorem not_all_guards_differ :
    ¬ ∀ (g : Generator) (f : FoundationIndex) (b : Binary) (s : Session) (ws : List (Item × Header)),
      g.Writes f b s ws → ∀ m, b.module? = some m → ∀ v ∈ ws, ∀ w ∈ ws,
        (g.form f m v.1).fileName ≠ (g.form f m w.1).fileName → v.2.guardLines ≠ w.2.guardLines := by
  intro h
  obtain ⟨ws, hws⟩ := namesakeGenerator.exists_writes {} namesakes filesOnly
  obtain ⟨r, hr⟩ := ready_filesOnly.runOn_writeModule
  have hm : namesakes.module? = some namesakeModule := by
    rw [Binary.module?, ofBinary_namesakes]
    rfl
  have hx : ws.map (·.1) = [.entity (.ofClass { name := "X" }), .entity (.ofProtocol { name := "X", identity := 1 }),
      .umbrella] := by
    rw [hws.all r hr, Binary.items, hm]
    rfl
  obtain ⟨v, hv, hvc⟩ := List.mem_map.mp (hx ▸ List.mem_cons_self)
  obtain ⟨w, hw, hwp⟩ := List.mem_map.mp (hx ▸ List.mem_cons_of_mem _ List.mem_cons_self)
  have hv' := (hws.form _ _ hm hv).2
  have hw' := (hws.form _ _ hm hw).2
  rw [hvc] at hv'
  rw [hwp] at hw'
  have hne := h _ _ _ _ ws hws _ hm v hv w hw
  rw [hvc, hwp] at hne
  refine hne (by decide) ?_
  rw [Header.guardLines, Header.guardLines, hv', hw']
  rfl

end Namesakes
end Generator
end ObjcAtlas
