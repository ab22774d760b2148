import ObjcAtlas.Proofs.HeaderWriting

/-! How headers are named: the file of a header and the name that guards it come from one form. -/
namespace ObjcAtlas
open ObjcAtlas.Module (Item)

namespace HeaderName

/-- How a header is named: after a name alone, after a protocol, or after a class and its category. -/
inductive Form where
  | plain (name : String)
  | ofProtocol (name : String)
  | extension (base name : String)
  deriving DecidableEq

namespace Form

def fileName : Form → String
  | plain n => n ++ ".h"
  | ofProtocol n => HeaderName.ofProtocol n
  | extension base n => base ++ "+" ++ n ++ ".h"

def name : Form → String
  | plain n => n
  | ofProtocol n => n
  | extension _ n => n

/-- The file name without its extension. -/
def stem : Form → String
  | plain n => n
  | ofProtocol n => n ++ "-Protocol"
  | extension base n => base ++ "+" ++ n

theorem fileName_eq (x : Form) : x.fileName = x.stem ++ ".h" := by
  cases x with
  | plain n => rfl
  | ofProtocol n =>
    rw [fileName, HeaderName.ofProtocol, stem, String.append_assoc]
    rfl
  | extension base n => rfl

/-- The name of a header leads back from no directory. -/
theorem fileName_ne_parent (x : Form) : x.fileName ≠ ".." := by
  intro h
  have hl : (x.stem ++ ".h").toList.getLast? = "..".toList.getLast? := by rw [← fileName_eq, h]
  simp at hl

end Form
end HeaderName

namespace Entity

/-- A category whose class is unresolved is named like a class. -/
def form : Entity → HeaderName.Form
  | .ofClass c => .plain c.name
  | .ofProtocol p => .ofProtocol p.name
  | .ofCategory k =>
    match nonemptyText? k.className with
    | some base => .extension base k.name
    | none => .plain k.name

theorem form_fileName (e : Entity) : e.form.fileName = e.fileName := by
  cases e with
  | ofClass c => rfl
  | ofProtocol p => rfl
  | ofCategory k =>
    simp only [form, fileName, HeaderName.ofCategory, Category.headerStem]
    cases nonemptyText? k.className <;> rfl

theorem form_name (e : Entity) : e.form.name = e.name := by
  cases e with
  | ofClass c => rfl
  | ofProtocol p => rfl
  | ofCategory k =>
    simp only [form, name]
    cases nonemptyText? k.className <;> rfl

end Entity

namespace Generator
variable (g : Generator) (f : FoundationIndex)

/-- How the header of an item is named. -/
def form (m : Module) : Item → HeaderName.Form
  | .entity e => e.form
  | .umbrella => .plain (HeaderName.umbrella m.name (g.emitted f m) g.settings.umbrellaSuffix)

/-- The header has the file and the name of its item. -/
theorem Renders.form {m : Module} {x : Item} {h : Header} (hx : g.Renders f m x h) :
    h.path = g.directory m ++ Path.ofString (g.form f m x).fileName ∧ h.name = (g.form f m x).name := by
  cases hx with
  | @entity e body hb =>
    exact ⟨by rw [Generator.form, e.form_fileName, header_path, entityPath],
      by rw [Generator.form, e.form_name]; exact Entity.draft_name _ e⟩
  | umbrella => exact ⟨rfl, rfl⟩

theorem Writes.form {b : Binary} {s : Session} {ws : List (Item × Header)} {m : Module} (h : g.Writes f b s ws)
    (hm : b.module? = some m) {w : Item × Header} (hw : w ∈ ws) :
    w.2.path = g.directory m ++ Path.ofString (g.form f m w.1).fileName ∧ w.2.name = (g.form f m w.1).name :=
  (h.renders hm hw).form

end Generator
end ObjcAtlas
