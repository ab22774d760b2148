import ObjcAtlas.Entity.Basic
import ObjcAtlas.FoundationIndex

/-! The order in which the entities of a binary are taken, and which of several definitions of one protocol
counts. All sorting leaves entities with the same key as they stand. -/
namespace ObjcAtlas

/-- Classes by name. -/
def ObjcClass.sorted (cs : List ObjcClass) : List ObjcClass :=
  cs.mergeSort fun c d => decide (c.name ≤ d.name)

namespace ObjcProtocol

/-- By name, and by identity where names agree. -/
def notAfter (p q : ObjcProtocol) : Bool :=
  p.name < q.name || (p.name == q.name && p.identity ≤ q.identity)

def sorted (ps : List ObjcProtocol) : List ObjcProtocol := ps.mergeSort notAfter

/-- The first definition of each identity that is not among those seen. -/
def firstOfEach : List Int → List ObjcProtocol → List ObjcProtocol
  | _, [] => []
  | seen, p :: ps =>
    if seen.contains p.identity then firstOfEach seen ps
    else p :: firstOfEach (p.identity :: seen) ps

/-- The definitions that count: none of a system protocol, and the first of each identity. -/
def distinct (f : FoundationIndex) (ps : List ObjcProtocol) : List ObjcProtocol :=
  firstOfEach [] (ps.filter fun p => !f.hasProtocol p.name)

theorem mem_of_mem_firstOfEach {p : ObjcProtocol} {seen : List Int} {ps : List ObjcProtocol}
    (h : p ∈ firstOfEach seen ps) : p ∈ ps ∧ p.identity ∉ seen := by
  induction ps generalizing seen with
  | nil => simp [firstOfEach] at h
  | cons q ps ih =>
    rw [firstOfEach] at h
    split at h
    · exact ⟨List.mem_cons_of_mem _ (ih h).1, (ih h).2⟩
    · next hq =>
      rcases List.mem_cons.1 h with rfl | h
      · exact ⟨List.mem_cons_self, by simpa using hq⟩
      · exact ⟨List.mem_cons_of_mem _ (ih h).1, fun hs => (ih h).2 (List.mem_cons_of_mem _ hs)⟩

end ObjcProtocol

namespace Category

/-- By category name, and by class name where those agree; an unresolved class comes first. -/
def notAfter (c d : Category) : Bool :=
  c.name < d.name || (c.name == d.name && decide (c.className.getD "" ≤ d.className.getD ""))

def sorted (cs : List Category) : List Category := cs.mergeSort notAfter

end Category
end ObjcAtlas
