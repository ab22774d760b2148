import ObjcAtlas.Proofs.FileLocations
import ObjcAtlas.Proofs.PlainNames

/-! Paths that lead below the place where they start, whatever that is. -/
namespace ObjcAtlas.Path

/-- Whether components, which have led `depth` steps down so far, never lead above the place where they start. -/
def stays : Nat → List String → Bool
  | _, [] => true
  | depth, c :: cs =>
    if c = ".." then
      match depth with
      | 0 => false
      | depth + 1 => stays depth cs
    else stays (depth + 1) cs

theorem stays_mono {cs : List String} {d e : Nat} (h : stays d cs) (hde : d ≤ e) : stays e cs := by
  fun_induction stays d cs generalizing e with
  | case1 => rfl
  | case2 => cases h
  | case3 cs d ih =>
    obtain _ | e := e
    · omega
    · simp only [stays, if_true]
      exact ih h (by omega)
  | case4 d c cs hc ih =>
    simp only [stays, hc, if_false]
    exact ih h (by omega)

theorem stays_append {cs cs' : List String} {d : Nat} (h : stays d cs) (h' : stays 0 cs') : stays d (cs ++ cs') := by
  fun_induction stays d cs with
  | case1 d => exact stays_mono h' (Nat.zero_le d)
  | case2 => cases h
  | case3 cs d ih => simpa only [List.cons_append, stays, if_true] using ih h
  | case4 d c cs hc ih => simpa only [List.cons_append, stays, hc, if_false] using ih h

theorem stays_of_append {cs cs' : List String} {d : Nat} (h : stays d (cs ++ cs')) : stays d cs := by
  fun_induction stays d cs with
  | case1 => rfl
  | case2 cs => simp [stays] at h
  | case3 cs d ih => exact ih (by simpa only [List.cons_append, stays, if_true] using h)
  | case4 d c cs hc ih => exact ih (by simpa only [List.cons_append, stays, hc, if_false] using h)

/-- The place where they start stays above the place that they lead to. -/
theorem prefix_foldl_enter {cs : List String} {d : Nat} (h : stays d cs) (start : Location) {down : Location}
    (hd : down.length = d) : start <+: cs.foldl Location.enter (start ++ down) := by
  fun_induction stays d cs generalizing down with
  | case1 => exact List.prefix_append start down
  | case2 => cases h
  | case3 cs d ih =>
    have hne : down ≠ [] := List.ne_nil_of_length_eq_add_one hd
    rw [List.foldl_cons, Location.enter, if_pos rfl, List.dropLast_append_of_ne_nil hne]
    exact ih h (by rw [List.length_dropLast, hd, Nat.succ_sub_one])
  | case4 d c cs hc ih =>
    rw [List.foldl_cons, Location.enter, if_neg hc, List.append_assoc]
    exact ih h (by rw [List.length_append, hd, List.length_singleton])

/-- A relative path that never leads above the place where it starts. -/
def Inward (p : Path) : Prop := p.root = "" ∧ stays 0 p.parts

instance : DecidablePred Inward := fun p => inferInstanceAs (Decidable (p.root = "" ∧ stays 0 p.parts))

theorem root_append {q : Path} (h : q.root = "") (p : Path) : (p ++ q).root = p.root := by
  have hp : p ++ q = ⟨p.root, p.parts ++ q.parts⟩ := if_pos h
  rw [hp]

theorem append_assoc {r : Path} (h : r.root = "") (p q : Path) : p ++ q ++ r = p ++ (q ++ r) := by
  have happ : ∀ p : Path, p ++ r = ⟨p.root, p.parts ++ r.parts⟩ := fun _ => if_pos h
  rw [happ, happ]
  by_cases hq : q.root = ""
  · have hqr : p ++ (⟨q.root, q.parts ++ r.parts⟩ : Path) = ⟨p.root, p.parts ++ (q.parts ++ r.parts)⟩ := if_pos hq
    have hpq : p ++ q = ⟨p.root, p.parts ++ q.parts⟩ := if_pos hq
    rw [hqr, hpq, List.append_assoc]
  · have hqr : p ++ (⟨q.root, q.parts ++ r.parts⟩ : Path) = ⟨q.root, q.parts ++ r.parts⟩ := if_neg hq
    have hpq : p ++ q = q := if_neg hq
    rw [hqr, hpq]

theorem location_append {q : Path} (h : q.root = "") (top : Location) (p : Path) :
    (p ++ q).location top = q.parts.foldl Location.enter (p.location top) := by
  have hp : p ++ q = ⟨p.root, p.parts ++ q.parts⟩ := if_pos h
  rw [hp, location, List.foldl_append, location]

theorem Inward.prefix_location {q : Path} (h : q.Inward) (top : Location) (p : Path) :
    p.location top <+: (p ++ q).location top := by
  rw [location_append h.1]
  have hq := prefix_foldl_enter h.2 (p.location top) List.length_nil
  rwa [List.append_nil] at hq

theorem Inward.append {p q : Path} (hp : p.Inward) (hq : q.Inward) : (p ++ q).Inward := by
  have hpq : p ++ q = ⟨p.root, p.parts ++ q.parts⟩ := if_pos hq.1
  rw [hpq]
  exact ⟨hp.1, stays_append hp.2 hq.2⟩

/-- On an inward path from `p` each beginning is one of `p` or leads below it. -/
theorem Inward.prefix_or {p q r : Path} (h : q.Inward) (top : Location) (hr : r.root = p.root)
    (hp : r.parts <+: (p ++ q).parts) : r.parts <+: p.parts ∨ p.location top <+: r.location top := by
  have hpq : p ++ q = ⟨p.root, p.parts ++ q.parts⟩ := if_pos h.1
  rw [hpq] at hp
  rcases List.prefix_or_prefix_of_prefix hp (List.prefix_append p.parts q.parts) with hrp | ⟨down, hdown⟩
  · exact Or.inl hrp
  · rw [← hdown, List.prefix_append_right_inj] at hp
    obtain ⟨rest, hrest⟩ := hp
    have hstays : Inward ⟨"", down⟩ := ⟨rfl, stays_of_append (hrest ▸ h.2)⟩
    have hr' : r = p ++ ⟨"", down⟩ := by
      obtain ⟨root, parts⟩ := r
      obtain rfl : root = p.root := hr
      exact congrArg (Path.mk p.root) hdown.symm
    rw [hr']
    exact Or.inr (hstays.prefix_location top p)

theorem inward_of_isComponent {name : String} (h : IsComponent name) (hn : name ≠ "..") : (ofString name).Inward := by
  rw [ofString_of_isComponent h]
  refine ⟨rfl, ?_⟩
  split
  · rfl
  · simp [stays, hn]

end ObjcAtlas.Path
