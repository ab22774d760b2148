import ObjcAtlas.Proofs.TextPieces
import ObjcAtlas.Proofs.WrappedPointers

/-! Which texts are read as a pointer to an object of a class, and as what class: all that stands in the place of the
name, be it a name or not. -/
namespace ObjcAtlas.TypeEncoding

def isBlankOrStar (c : Char) : Bool := c == ' ' || c == '*'

/-- A text with a class in it: in quotes, of which the last may be missing, or before stars. Only a declaration has
stars, and an ASCII capital in front. -/
inductive PointsAt : Style → List Char → List Char → Prop
  | quoted {style : Style} {n : List Char} (hn : n ≠ []) : PointsAt style (objectEncoding n) n
  | unclosed {style : Style} {n : List Char} (hn : n ≠ []) (hlast : n.getLast? ≠ some '"') :
      PointsAt style ('@' :: '"' :: n) n
  | declared {before n after : List Char} {c : Char} (hbefore : ∀ c ∈ before, c = ' ') (hhead : n.head? = some c)
      (hupper : c.isUpper = true) (hlast : ∀ c, n.getLast? = some c → isBlankOrStar c = false)
      (hafter : ∀ c ∈ after, isBlankOrStar c = true) (hstar : '*' ∈ after) :
      PointsAt .declaration (before ++ n ++ after) n

theorem nonempty?_eq_some_iff {cs n : List Char} : nonempty? cs = some n ↔ cs = n ∧ n ≠ [] := by
  unfold nonempty?
  cases cs with
  | nil => simp [eq_comm]
  | cons c cs =>
    simp only [List.isEmpty_cons, Bool.false_eq_true, if_false, Option.some.injEq]
    constructor
    · rintro rfl
      exact ⟨rfl, List.cons_ne_nil c cs⟩
    · exact And.left

theorem not_isBlankOrStar_of_isUpper {c : Char} (h : c.isUpper = true) : isBlankOrStar c = false := by
  rw [isBlankOrStar, Bool.or_eq_false_iff, beq_eq_false_iff_ne, beq_eq_false_iff_ne]
  constructor
  · rintro rfl
    exact absurd h (by decide)
  · rintro rfl
    exact absurd h (by decide)

section Readers
variable {style : Style} {cs n : List Char}

theorem pointsAt_of_objectPointer? (h : objectPointer? cs = some n) : PointsAt style cs n := by
  unfold objectPointer? at h
  split at h
  · next name =>
    obtain ⟨he, hn⟩ := nonempty?_eq_some_iff.mp h
    split at he
    · next hlast =>
      have hname : name = n ++ ['"'] := by rw [← he, List.dropLast_append_getLast? _ hlast]
      rw [hname]
      exact .quoted hn
    · next hlast =>
      subst he
      exact .unclosed hn hlast
  · cases h

theorem pointsAt_of_declaredPointer? (h : declaredPointer? cs = some n) : PointsAt .declaration cs n := by
  unfold declaredPointer? at h
  obtain ⟨before, after, he, hbefore, hafter⟩ := Text.exists_trim (· == ' ') cs
  generalize htext : Text.trim (· == ' ') cs = text at h he
  cases text with
  | nil => cases h
  | cons c text =>
    simp only [Bool.and_eq_true, beq_iff_eq] at h
    split at h
    · next hends =>
      obtain ⟨hn, hne⟩ := nonempty?_eq_some_iff.mp h
      obtain ⟨hupper, hlast⟩ := hends
      have hname : Text.trim isBlankOrStar (c :: text) = n := hn
      obtain ⟨l, r, hparts, hl, hr⟩ := Text.exists_trim isBlankOrStar (c :: text)
      rw [hname] at hparts
      obtain rfl : l = [] := by
        cases l with
        | nil => rfl
        | cons d l =>
          obtain rfl : c = d := (List.cons.inj hparts).1
          exact absurd (hl c List.mem_cons_self) (by simp [not_isBlankOrStar_of_isUpper hupper])
      rw [List.nil_append] at hparts
      have hstar : '*' ∈ r := by
        cases r with
        | nil =>
          rw [List.append_nil] at hparts
          rw [hparts, ← hname] at hlast
          exact absurd (Text.of_getLast?_trim hlast) (by decide)
        | cons d r =>
          rw [hparts, List.getLast?_append_cons] at hlast
          exact List.mem_of_getLast? hlast
      have hhead : n.head? = some c := by
        cases n with
        | nil => exact absurd rfl hne
        | cons d n => rw [List.head?_cons, (List.cons.inj hparts).1]
      have hcs : cs = before ++ n ++ (r ++ after) := by rw [he, hparts]; simp
      rw [hcs]
      refine .declared (fun c hc => by simpa using hbefore c hc) hhead hupper ?_ ?_ (List.mem_append_left _ hstar)
      · intro c hc
        exact Text.of_getLast?_trim (hname ▸ hc)
      · intro c hc
        rcases List.mem_append.mp hc with hc | hc
        · exact hr c hc
        · simp [isBlankOrStar, show c = ' ' by simpa using hafter c hc]
    · cases h

theorem objectPointer?_of_head {c : Char} (h : cs.head? = some c) (hc : c ≠ '@') : objectPointer? cs = none := by
  unfold objectPointer?
  split
  · exact absurd (Option.some.inj h).symm hc
  · rfl

theorem objectPointer?_of_declared {before after : List Char} {c : Char} (hbefore : ∀ c ∈ before, c = ' ')
    (hhead : n.head? = some c) (hupper : c.isUpper = true) : objectPointer? (before ++ n ++ after) = none := by
  cases before with
  | nil =>
    apply objectPointer?_of_head (c := c)
    · rw [List.nil_append, List.head?_append, hhead]
      rfl
    · rintro rfl
      exact absurd hupper (by decide)
  | cons d before =>
    apply objectPointer?_of_head (c := d) rfl
    rw [hbefore d List.mem_cons_self]
    decide

theorem exists_last_star {after : List Char} (hafter : ∀ c ∈ after, isBlankOrStar c = true) (hstar : '*' ∈ after) :
    ∃ stars blanks, after = stars ++ '*' :: blanks ∧ ∀ c ∈ blanks, c = ' ' := by
  obtain ⟨l, r, hreverse, hl⟩ := List.eq_append_cons_of_mem (List.mem_reverse.mpr hstar)
  have he : after = r.reverse ++ '*' :: l.reverse := by
    rw [← List.reverse_reverse after, hreverse]
    simp
  refine ⟨r.reverse, l.reverse, he, ?_⟩
  intro c hc
  have hblank := hafter c (by rw [he]; simp [List.mem_reverse.mp hc])
  have hne : c ≠ '*' := by
    rintro rfl
    exact hl (List.mem_reverse.mp hc)
  simpa [isBlankOrStar, hne] using hblank

theorem declaredPointer?_of_declared {before after : List Char} {c : Char} (hbefore : ∀ c ∈ before, c = ' ')
    (hhead : n.head? = some c) (hupper : c.isUpper = true) (hlast : ∀ c, n.getLast? = some c → isBlankOrStar c = false)
    (hafter : ∀ c ∈ after, isBlankOrStar c = true) (hstar : '*' ∈ after) :
    declaredPointer? (before ++ n ++ after) = some n := by
  have hall : ∀ c ∈ before, isBlankOrStar c = true := by
    intro c hc
    rw [hbefore c hc]
    rfl
  have hends : Text.trim isBlankOrStar n = n := by
    apply Text.trim_of_ends _ hlast
    intro d hd
    obtain rfl : c = d := Option.some.inj (hhead.symm.trans hd)
    exact not_isBlankOrStar_of_isUpper hupper
  have hname : Text.trim isBlankOrStar (Text.trim (· == ' ') (before ++ n ++ after)) = n := by
    rw [Text.trim_trim (by simp +contextual [isBlankOrStar]), Text.trim_append hall hafter, hends]
  -- the text ends in its last star once blanks are taken off
  obtain ⟨stars, blanks, rfl, hblanks⟩ := exists_last_star hafter hstar
  have htext : Text.trim (· == ' ') (before ++ n ++ (stars ++ '*' :: blanks)) = n ++ (stars ++ ['*']) := by
    have hcons : before ++ n ++ (stars ++ '*' :: blanks) = before ++ (n ++ stars) ++ '*' :: blanks := by simp
    have hdrop : (before ++ (n ++ stars)).dropWhile (· == ' ') = n ++ stars := by
      apply Text.dropWhile_append_of_head (by simpa using hbefore)
      intro d hd
      rw [List.head?_append, hhead] at hd
      obtain rfl : c = d := Option.some.inj hd
      rw [beq_eq_false_iff_ne]
      rintro rfl
      exact absurd hupper (by decide)
    rw [hcons, Text.trim_append_cons (by decide), hdrop, Text.trimEnd_of_all (by simpa using hblanks)]
    simp
  have hne : n ≠ [] := by
    rintro rfl
    cases hhead
  rw [htext] at hname
  cases n with
  | nil => cases hhead
  | cons d n =>
    obtain rfl : d = c := Option.some.inj hhead
    have hends : (d.isUpper && (d :: n ++ (stars ++ ['*'])).getLast? == some '*') = true := by
      rw [hupper, ← List.append_assoc, List.getLast?_concat]
      rfl
    unfold declaredPointer?
    simp only [htext, List.cons_append] at hends ⊢
    rw [if_pos hends]
    exact nonempty?_eq_some_iff.mpr ⟨hname, hne⟩

theorem PointsAt.classReference?_eq (h : PointsAt style cs n) : classReference? style cs = some n := by
  cases h with
  | quoted hn => simp [classReference?, objectPointer?, objectEncoding, nonempty?, hn]
  | unclosed hn hlast => simp [classReference?, objectPointer?, nonempty?, hn, hlast]
  | declared hbefore hhead hupper hlast hafter hstar =>
    rw [classReference?, objectPointer?_of_declared hbefore hhead hupper]
    exact declaredPointer?_of_declared hbefore hhead hupper hlast hafter hstar

/-- A class is read exactly from these texts. -/
theorem classReference?_eq_some_iff : classReference? style cs = some n ↔ PointsAt style cs n := by
  constructor
  · intro h
    unfold classReference? at h
    split at h
    · next hpointer => exact pointsAt_of_objectPointer? (h ▸ hpointer)
    · split at h
      · exact pointsAt_of_declaredPointer? h
      · cases h
  · exact PointsAt.classReference?_eq

end Readers

end ObjcAtlas.TypeEncoding
