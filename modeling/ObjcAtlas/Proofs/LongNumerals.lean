import ObjcAtlas.Document.Reader

/-! A document is refused for the length of a numeral only if its text has that many digits in a row: each reader
leaves an end of the text that it was given, and sees nothing but that text. -/
namespace ObjcAtlas.Document

/-- More digits in a row than an integer numeral may have. -/
def HasLongRun (cs : List Char) : Prop :=
  ∃ digits, digits <:+: cs ∧ Numeral.decimalLimit < digits.length ∧ ∀ c ∈ digits, c.isDigit = true

theorem HasLongRun.of_suffix {cs ds : List Char} (h : HasLongRun ds) (hs : ds <:+ cs) : HasLongRun cs := by
  obtain ⟨digits, hin, hlong⟩ := h
  exact ⟨digits, hin.trans hs.isInfix, hlong⟩

theorem skipSpace_suffix (cs : List Char) : skipSpace cs <:+ cs := List.dropWhile_suffix isSpace

theorem suffix_of_skipSpace {cs rest : List Char} {c : Char} (h : skipSpace cs = c :: rest) : rest <:+ cs := by
  have hskip := skipSpace_suffix cs
  rw [h] at hskip
  exact (List.suffix_cons c rest).trans hskip

/-- What is read from `cs` leaves an end of it; a numeral that is too long is one of `cs`. -/
structure ReadsFrom {α : Type} (cs : List Char) (r : Except ReadFault (α × List Char)) : Prop where
  suffix_of_ok : ∀ {v : α} {rest : List Char}, r = .ok (v, rest) → rest <:+ cs
  long_of_error : r = .error .numeralTooLong → HasLongRun cs

namespace ReadsFrom
variable {α β : Type} {cs rest : List Char}

theorem ok (h : rest <:+ cs) (v : α) : ReadsFrom cs (.ok (v, rest)) where
  suffix_of_ok := by rintro _ _ ⟨⟩; exact h
  long_of_error := nofun

theorem malformed : ReadsFrom (α := α) cs (.error .malformed) := ⟨nofun, nofun⟩

theorem of_suffix {r : Except ReadFault (α × List Char)} (h : ReadsFrom rest r) (hs : rest <:+ cs) :
    ReadsFrom cs r where
  suffix_of_ok hr := (h.suffix_of_ok hr).trans hs
  long_of_error hr := (h.long_of_error hr).of_suffix hs

theorem bind {r : Except ReadFault (α × List Char)} {k : α × List Char → Except ReadFault (β × List Char)}
    (hr : ReadsFrom cs r) (hk : ∀ v rest, rest <:+ cs → ReadsFrom cs (k (v, rest))) : ReadsFrom cs (r >>= k) := by
  match r, hr with
  | .ok (v, rest), hr => exact hk v rest (hr.suffix_of_ok rfl)
  | .error .malformed, _ => exact malformed
  | .error .numeralTooLong, hr => exact ⟨nofun, fun _ => hr.long_of_error rfl⟩

end ReadsFrom

section Texts

theorem suffix_of_codeUnit {cs rest : List Char} {n : Nat} (h : codeUnit cs = some (n, rest)) : rest <:+ cs := by
  rw [codeUnit.eq_def] at h
  split at h
  · next a b c d tail =>
    simp only [Option.bind_eq_bind, Option.bind_eq_some_iff] at h
    obtain ⟨_, -, _, -, _, -, _, -, h⟩ := h
    cases h
    exact List.suffix_append [a, b, c, d] rest
  · cases h

theorem suffix_of_unicodeEscape {cs rest : List Char} {c : Char} (h : unicodeEscape cs = some (c, rest)) :
    rest <:+ cs := by
  rw [unicodeEscape] at h
  split at h
  · cases h
  · next hunit =>
    have hfirst := suffix_of_codeUnit hunit
    split at h
    · split at h
      · next second =>
        split at h
        · next hpair =>
          split at h
          · obtain ⟨-, rfl⟩ := Prod.mk.inj (Option.some.inj h)
            exact ((suffix_of_codeUnit hpair).trans (List.suffix_append ['\\', 'u'] second)).trans hfirst
          · cases h
            exact hfirst
        · cases h
          exact hfirst
      · cases h
        exact hfirst
    · cases h
      exact hfirst

theorem suffix_of_textChar {cs rest : List Char} {c : Char} (h : textChar cs = some (c, rest)) : rest <:+ cs := by
  rw [textChar.eq_def] at h
  split at h
  · cases h
  · next tail => exact (suffix_of_unicodeEscape h).trans (List.suffix_append ['\\', 'u'] tail)
  · next mark tail _ =>
    obtain ⟨_, -, hd⟩ := Option.map_eq_some_iff.mp h
    cases hd
    exact List.suffix_append ['\\', mark] rest
  · cases h
  · next first tail _ _ _ =>
    split at h
    · cases h
    · cases h
      exact List.suffix_cons c rest

theorem suffix_of_textBody {fuel : Nat} {cs body rest : List Char} (h : textBody fuel cs = some (body, rest)) :
    rest <:+ cs := by
  induction fuel generalizing cs body rest with
  | zero => cases h
  | succ fuel ih =>
    rw [textBody.eq_def] at h
    split at h
    · cases h
    · cases h
      exact List.suffix_cons '"' rest
    · next hfuel _ =>
      obtain rfl := Nat.succ.inj hfuel
      simp only [Option.bind_eq_bind, Option.bind_eq_some_iff] at h
      obtain ⟨⟨c, mid⟩, hc, ⟨chars, tail⟩, hbody, h⟩ := h
      cases h
      exact (ih hbody).trans (suffix_of_textChar hc)

theorem readsFrom_readText (cs : List Char) : ReadsFrom cs (readText cs) := by
  rw [readText]
  split
  · next h => exact .ok (suffix_of_textBody h) _
  · exact .malformed

end Texts

section Numbers

theorem fraction_suffix (cs : List Char) : (fraction cs).2 <:+ cs := by
  rw [fraction.eq_def]
  split
  · next tail =>
    split
    · exact List.suffix_rfl
    · exact (List.dropWhile_suffix _).trans (List.suffix_cons '.' tail)
  · exact List.suffix_rfl

theorem suffix_of_exponent {cs rest : List Char} {n : Int} (h : exponent? cs = some (n, rest)) : rest <:+ cs := by
  rw [exponent?.eq_def] at h
  split at h
  · next mark tail =>
    split at h
    · split at h
      next negative digits hsign =>
      have hdigits : digits <:+ tail := by
        split at hsign
        · cases hsign
          exact List.suffix_cons '+' digits
        · cases hsign
          exact List.suffix_cons '-' digits
        · cases hsign
          exact List.suffix_rfl
      split at h
      · cases h
      · cases h
        exact ((List.dropWhile_suffix _).trans hdigits).trans (List.suffix_cons mark tail)
    · cases h
  · cases h

theorem suffix_of_wholePart {cs whole rest : List Char} (h : wholePart cs = some (whole, rest)) : rest <:+ cs := by
  rw [wholePart.eq_def] at h
  split at h
  · cases h
    exact List.suffix_cons '0' rest
  · split at h
    · cases h
    · cases h
      exact List.dropWhile_suffix _

theorem hasLongRun_of_wholePart {cs whole rest : List Char} (h : wholePart cs = some (whole, rest))
    (hlong : Numeral.decimalLimit < whole.length) : HasLongRun cs := by
  rw [wholePart.eq_def] at h
  split at h
  · cases h
    exact absurd hlong (by decide)
  · split at h
    · cases h
    · cases h
      exact ⟨_, (List.takeWhile_prefix _).isInfix, hlong, List.all_eq_true.mp List.all_takeWhile⟩

theorem readsFrom_readNumber (negative : Bool) (cs : List Char) : ReadsFrom cs (readNumber negative cs) := by
  rw [readNumber]
  split
  · exact .malformed
  · next whole rest hwhole =>
    have hrest := suffix_of_wholePart hwhole
    have hfraction := (fraction_suffix rest).trans hrest
    split
    next frac rest' hfrac =>
    rw [hfrac] at hfraction
    split
    · split
      · exact .ok hfraction _
      · next hlong => exact ⟨nofun, fun _ => hasLongRun_of_wholePart hwhole (Nat.lt_of_not_le hlong)⟩
    · cases hex : exponent? rest' with
      | none => exact .ok hfraction _
      | some r => exact .ok ((suffix_of_exponent hex).trans hfraction) _

end Numbers

theorem suffix_of_readWord {cs rest : List Char} {d : Document} (h : readWord cs = some (d, rest)) : rest <:+ cs := by
  obtain ⟨w, -, hw⟩ := List.exists_of_findSome?_eq_some h
  obtain ⟨tail, htail, he⟩ := Option.map_eq_some_iff.mp hw
  cases he
  rw [afterWord?] at htail
  split at htail
  · cases htail
    exact List.drop_suffix _ cs
  · cases htail

section Values
variable {fuel : Nat}

theorem readsFrom_readValue_succ (hitems : ∀ cs, ReadsFrom cs (readItems fuel cs))
    (hfields : ∀ fields cs, ReadsFrom cs (readFields fuel fields cs)) (cs : List Char) :
    ReadsFrom cs (readValue (fuel + 1) cs) := by
  rw [readValue.eq_def]
  dsimp only
  split
  · next rest =>
    refine ReadsFrom.of_suffix ?_ (List.suffix_cons '"' rest)
    exact (readsFrom_readText rest).bind fun s tail htail => .ok htail (text s)
  · next rest =>
    refine ReadsFrom.of_suffix ?_ (List.suffix_cons '[' rest)
    split
    · next hclose => exact .ok (suffix_of_skipSpace hclose) _
    · exact ((hitems _).bind fun xs tail htail => .ok htail (list xs)).of_suffix (skipSpace_suffix rest)
  · next rest =>
    refine ReadsFrom.of_suffix ?_ (List.suffix_cons '{' rest)
    split
    · next hclose => exact .ok (suffix_of_skipSpace hclose) _
    · exact ((hfields [] _).bind fun fields tail htail => .ok htail (object fields)).of_suffix
        (skipSpace_suffix rest)
  · split
    · next hword => exact .ok (suffix_of_readWord hword) _
    · split
      · next rest _ _ _ _ => exact (readsFrom_readNumber true rest).of_suffix (List.suffix_cons '-' rest)
      · exact readsFrom_readNumber false _

theorem readsFrom_readItems_succ (hvalue : ∀ cs, ReadsFrom cs (readValue fuel cs))
    (hitems : ∀ cs, ReadsFrom cs (readItems fuel cs)) (cs : List Char) :
    ReadsFrom cs (readItems (fuel + 1) cs) := by
  rw [readItems.eq_def]
  refine (hvalue cs).bind fun x rest hrest => ?_
  refine ReadsFrom.of_suffix ?_ hrest
  dsimp only
  split
  · next hclose => exact .ok (suffix_of_skipSpace hclose) _
  · next tail hcomma =>
    refine ReadsFrom.of_suffix ?_ ((skipSpace_suffix tail).trans (suffix_of_skipSpace hcomma))
    exact (hitems _).bind fun xs left hleft => .ok hleft (x :: xs)
  · exact .malformed

theorem readsFrom_readFields_succ (hvalue : ∀ cs, ReadsFrom cs (readValue fuel cs))
    (hfields : ∀ fields cs, ReadsFrom cs (readFields fuel fields cs)) (fields : List (String × Document))
    (cs : List Char) : ReadsFrom cs (readFields (fuel + 1) fields cs) := by
  rw [readFields.eq_def]
  dsimp only
  split
  · next rest =>
    refine ReadsFrom.of_suffix ?_ (List.suffix_cons '"' rest)
    refine (readsFrom_readText rest).bind fun key mid hmid => ReadsFrom.of_suffix ?_ hmid
    dsimp only
    split
    · next tail hcolon =>
      refine ReadsFrom.of_suffix ?_ ((skipSpace_suffix tail).trans (suffix_of_skipSpace hcolon))
      refine (hvalue _).bind fun value left hleft => ReadsFrom.of_suffix ?_ hleft
      dsimp only
      split
      · next hclose => exact .ok (suffix_of_skipSpace hclose) _
      · next more hcomma =>
        exact (hfields _ _).of_suffix ((skipSpace_suffix more).trans (suffix_of_skipSpace hcomma))
      · exact .malformed
    · exact .malformed
  · exact .malformed

/-- By induction on the fuel, which the three readers spend on one another. -/
theorem readsFrom_values (fuel : Nat) :
    (∀ cs, ReadsFrom cs (readValue fuel cs)) ∧ (∀ cs, ReadsFrom cs (readItems fuel cs)) ∧
      ∀ fields cs, ReadsFrom cs (readFields fuel fields cs) := by
  induction fuel with
  | zero => exact ⟨fun _ => .malformed, fun _ => .malformed, fun _ _ => .malformed⟩
  | succ fuel ih =>
    obtain ⟨hvalue, hitems, hfields⟩ := ih
    exact ⟨readsFrom_readValue_succ hitems hfields, readsFrom_readItems_succ hvalue hitems,
      readsFrom_readFields_succ hvalue hfields⟩

end Values

/-- Only digits in a row make a numeral too long. -/
theorem hasLongRun_of_read {s : String} (h : read s = .error .numeralTooLong) : HasLongRun s.toList := by
  have hvalue := (readsFrom_values (2 * s.toList.length + 2)).1 (skipSpace s.toList)
  rw [read] at h
  generalize readValue _ _ = r at h hvalue
  match r, hvalue, h with
  | .ok (d, rest), _, h =>
    dsimp only [bind, Except.bind] at h
    split at h
    · cases h
    · cases h
  | .error .malformed, _, h => cases h
  | .error .numeralTooLong, hvalue, _ => exact (hvalue.long_of_error rfl).of_suffix (skipSpace_suffix _)

end ObjcAtlas.Document
